import Telemt.IpTracker.Generations
import Telemt.IpTracker.Limits
import Telemt.Reservation.Accounting
import Telemt.Reservation.Cancellation
import Telemt.Handshake.ReplayWindow
import Telemt.Replay.Window
import Telemt.Handshake.Concurrent
import Telemt.Relay.RoundTrip
import Telemt.Relay.Notifications
import Telemt.MiddleProxy.SharedConnection
import Telemt.DirectRelay.CutOff
import Telemt.QuotaState.Retention
import Telemt.TrafficLimiter.EpochBound
import Telemt.Stream.FakeTlsReading
import Telemt.Stream.FakeTlsWriter
import Telemt.Stream.CryptoWriting
import Telemt.Config.SaveAccess
import Telemt.Handshake.Mtproto
import Telemt.Handshake.TelegramNonce
import Telemt.UserSessions.Disable
import Telemt.Masking.SelfTarget
import Telemt.Masking.ShapePadding
import Telemt.MePool.Coverage
import Telemt.Handshake.HelloExactness
import Telemt.TlsFront.CertBudget
import Telemt.TlsFront.ServerFlight
import Telemt.UserApi.OnDisk
import Telemt.MePool.Routability
import Telemt.MePool.PickOrder
import Telemt.MePool.FloorPriority
import Telemt.MePool.Reaping
import Telemt.MePool.CapRecovery
import Telemt.Fairness.Hysteresis
import Telemt.Fairness.Refusal
import Telemt.Fairness.Retry
import Telemt.Fairness.Starvation
import Telemt.Fairness.ByteShare
import Telemt.MiddleProxy.ReadBoundaries
import Telemt.MiddleProxy.RequestFrame
import Telemt.Relay.IdleEviction
import Telemt.Relay.TinyFrames
import Telemt.DirectRelay.RateLedger
import Telemt.DirectRelay.QuotaSide
import Telemt.TrafficLimiter.ActiveUsers
import Telemt.Network.Stun
import Telemt.MePool.ConfigUpdater
