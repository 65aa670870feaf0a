import Telemt.Basic
import Telemt.Foundation.Bytes

namespace Telemt.MiddleProxy
open Foundation

/-!
# Proxy requests

The payload of an `RPC_PROXY_REQ` and the length the writer announces for it.
-/

def rpcProxyReq : UInt32 := 0x36cef1ee

def tlProxyTag : UInt32 := 0xdb1e26ae

def rpcFlagHasAdTag : UInt32 := 0x8

def ipv4ToMappedV6CCompat (ip : Vector UInt8 4) : Bytes :=
  List.replicate 8 0 ++ [0x00, 0x00, 0xff, 0xff] ++ ip.toList

def mappedAddrAndPort (addr : SocketAddr) : Bytes :=
  (match addr.ip with
    | .v4 octets => ipv4ToMappedV6CCompat octets
    | .v6 octets => octets.toList) ++
  leBytes 4 addr.port.toNat

variable (tag : Bytes)

def proxyTagWireLen : Nat :=
  if tag.length < 254 then 4 + 1 + tag.length + (4 - (1 + tag.length) % 4) % 4
  else 4 + 4 + tag.length + (4 - tag.length % 4) % 4

def hasAdTag (protoFlags : UInt32) : Bool := protoFlags &&& rpcFlagHasAdTag != 0

def proxyReqPayloadLen (dataLen : Nat) (proxyTag : Option Bytes) (protoFlags : UInt32) : Nat :=
  let baseLen := 4 + 4 + 8 + 20 + 20
  let extraLen :=
    if hasAdTag protoFlags then 4 + (proxyTag.map proxyTagWireLen).getD 0 else 0
  baseLen + extraLen + dataLen

def proxyTagBytes : Bytes :=
  leBytes 4 tlProxyTag.toNat ++
    if tag.length < 254 then
      UInt8.ofNat tag.length :: tag ++ List.replicate ((4 - (1 + tag.length) % 4) % 4) 0
    else
      0xfe :: leBytes 3 tag.length ++ tag ++ List.replicate ((4 - tag.length % 4) % 4) 0

-- The length word of the extra section is written first as zero and patched once the tag is there.
def extraBytes (proxyTag : Option Bytes) (protoFlags : UInt32) : Bytes :=
  if hasAdTag protoFlags then
    let body := (proxyTag.map proxyTagBytes).getD []
    leBytes 4 body.length ++ body
  else []

def proxyReqPayload (connId : UInt64) (clientAddr ourAddr : SocketAddr) (data : Bytes)
    (proxyTag : Option Bytes) (protoFlags : UInt32) : Bytes :=
  leBytes 4 rpcProxyReq.toNat ++ leBytes 4 protoFlags.toNat ++ leBytes 8 connId.toNat ++
    mappedAddrAndPort clientAddr ++ mappedAddrAndPort ourAddr ++ extraBytes proxyTag protoFlags ++
    data

@[simp] theorem mappedAddrAndPort_length (addr : SocketAddr) :
    (mappedAddrAndPort addr).length = 20 := by
  obtain ⟨ip, _⟩ := addr
  cases ip with
  | v4 octets => simp [mappedAddrAndPort, ipv4ToMappedV6CCompat]
  | v6 => simp [mappedAddrAndPort]

theorem proxyTagBytes_length : (proxyTagBytes tag).length = proxyTagWireLen tag := by
  unfold proxyTagBytes proxyTagWireLen
  rw [List.length_append, leBytes_length]
  split_ifs with short
  · rw [List.cons_append, List.length_cons, List.length_append, List.length_replicate]
    omega
  · simp only [List.cons_append, List.length_cons, List.length_append, leBytes_length,
      List.length_replicate]
    omega

theorem proxyTagWireLen_aligned : proxyTagWireLen tag % 4 = 0 := by
  unfold proxyTagWireLen
  split_ifs with short <;> omega

theorem extraBytes_length (proxyTag : Option Bytes) (protoFlags : UInt32) :
    (extraBytes proxyTag protoFlags).length =
      if hasAdTag protoFlags then 4 + (proxyTag.map proxyTagWireLen).getD 0 else 0 := by
  unfold extraBytes
  split_ifs with tagged
  · rw [List.length_append, leBytes_length]
    cases proxyTag with
    | none => rfl
    | some tag => exact congrArg (4 + ·) (proxyTagBytes_length tag)
  · rfl

theorem proxyReqPayload_length (connId : UInt64) (clientAddr ourAddr : SocketAddr) (data : Bytes)
    (proxyTag : Option Bytes) (protoFlags : UInt32) :
    (proxyReqPayload connId clientAddr ourAddr data proxyTag protoFlags).length =
      proxyReqPayloadLen data.length proxyTag protoFlags := by
  simp only [proxyReqPayload, List.length_append, leBytes_length, mappedAddrAndPort_length,
    extraBytes_length, proxyReqPayloadLen]

theorem proxyReqPayloadLen_mod_four (dataLen : Nat) (proxyTag : Option Bytes)
    (protoFlags : UInt32) : proxyReqPayloadLen dataLen proxyTag protoFlags % 4 = dataLen % 4 := by
  have tagAligned : (proxyTag.map proxyTagWireLen).getD 0 % 4 = 0 := by
    cases proxyTag with
    | none => rfl
    | some tag => exact proxyTagWireLen_aligned tag
  unfold proxyReqPayloadLen
  dsimp only
  split_ifs with tagged <;> omega

end Telemt.MiddleProxy
