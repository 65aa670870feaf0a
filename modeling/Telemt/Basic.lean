import Mathlib.Data.Int.Basic

namespace Telemt

-- Nanoseconds. The platforms the proxy runs on keep a signed `timespec`, so `checked_sub` is total.
abbrev Instant := Int

abbrev Duration := Nat

def Duration.fromSecs (secs : Nat) : Duration := secs * 1000000000

def Instant.durationSince (now earlier : Instant) : Duration := (now - earlier).toNat

theorem Instant.durationSince_mono {now later : Instant} (order : now ≤ later) (earlier : Instant) :
    now.durationSince earlier ≤ later.durationSince earlier :=
  Int.toNat_le_toNat (Int.sub_le_sub_right order earlier)

inductive IpAddr
  | v4 (octets : Vector UInt8 4)
  | v6 (octets : Vector UInt8 16)
  deriving DecidableEq, Repr

def IpAddr.ofOctets (a b c d : UInt8) : IpAddr := .v4 #v[a, b, c, d]

structure SocketAddr where
  ip : IpAddr
  port : UInt16
  deriving DecidableEq, Repr

structure Clock where
  now : Instant
  epochSecs : Nat

end Telemt
