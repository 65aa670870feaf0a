import Telemt.Foundation.Cbc
import Telemt.MiddleProxy.Wire

namespace Telemt.MiddleProxy
open Foundation

/-!
# The writer of a middle proxy connection

The block cipher and the checksum are arbitrary.
-/

structure ProxyReqCommand where
  connId : UInt64
  clientAddr : SocketAddr
  ourAddr : SocketAddr
  protoFlags : UInt32
  proxyTag : Option (Vector UInt8 16)
  payload : Bytes

variable (command : ProxyReqCommand)

def ProxyReqCommand.tag : Option Bytes :=
  command.proxyTag.map (·.toList)

def ProxyReqCommand.rpcPayload : Bytes :=
  proxyReqPayload command.connId command.clientAddr command.ourAddr command.payload command.tag
    command.protoFlags

def ProxyReqCommand.totalLen : Nat :=
  4 + 4 + proxyReqPayloadLen command.payload.length command.tag command.protoFlags + 4

structure RpcWriter where
  iv : Block
  seqNo : UInt32

def padPattern : Bytes := [0x04, 0x00, 0x00, 0x00]

def padBytes (pad : Nat) : Bytes := (List.range pad).map fun i => padPattern.getD (i % 4) 0

section
variable (cipher : Equiv.Perm Block) (crc : Bytes → UInt32)

def appendCrc (frame : Bytes) : Bytes := frame ++ leBytes 4 (crc frame).toNat

def buildRpcFrame (seqNo : UInt32) (payload : Bytes) : Bytes :=
  let totalLen := 4 + 4 + payload.length + 4
  appendCrc crc (leBytes 4 totalLen ++ leBytes 4 seqNo.toNat ++ payload)

def padFrame (frame : Bytes) : Bytes := frame ++ padBytes ((16 - frame.length % 16) % 16)

variable (w : RpcWriter)

def RpcWriter.encryptAndWriteFrame (frame : Bytes) : Bytes × RpcWriter :=
  let padded := padFrame frame
  let encrypted := cbcEncrypt Block.xor cipher w.iv (blocksOf (padded.length / 16) padded)
  (bytesOf encrypted, { w with iv := encrypted.getLastD w.iv })

def RpcWriter.send (payload : Bytes) : Bytes × RpcWriter :=
  RpcWriter.encryptAndWriteFrame cipher { w with seqNo := w.seqNo + 1 }
    (buildRpcFrame crc w.seqNo payload)

def RpcWriter.sendProxyReq (command : ProxyReqCommand) : Bytes × RpcWriter :=
  RpcWriter.encryptAndWriteFrame cipher { w with seqNo := w.seqNo + 1 }
    (appendCrc crc (leBytes 4 command.totalLen ++ leBytes 4 w.seqNo.toNat ++ command.rpcPayload))

def RpcWriter.sendAll : RpcWriter → List ProxyReqCommand → Bytes
  | _, [] => []
  | w, command :: commands =>
    let sent := w.sendProxyReq cipher crc command
    sent.1 ++ RpcWriter.sendAll sent.2 commands

def plainStream : UInt32 → List Bytes → Bytes
  | _, [] => []
  | seqNo, payload :: payloads =>
    padFrame (buildRpcFrame crc seqNo payload) ++ plainStream (seqNo + 1) payloads

end

section
variable {cipher : Equiv.Perm Block} {crc : Bytes → UInt32}

theorem ProxyReqCommand.totalLen_eq (command : ProxyReqCommand) :
    command.totalLen = 4 + 4 + command.rpcPayload.length + 4 := by
  rw [totalLen, rpcPayload, proxyReqPayload_length]

theorem sendProxyReq_eq_send (w : RpcWriter) (command : ProxyReqCommand) :
    w.sendProxyReq cipher crc command = w.send cipher crc command.rpcPayload := by
  rw [RpcWriter.sendProxyReq, RpcWriter.send, buildRpcFrame, command.totalLen_eq]

@[simp] theorem padBytes_length (pad : Nat) : (padBytes pad).length = pad := by
  rw [padBytes, List.length_map, List.length_range]

theorem padBytes_add_four (pad : Nat) : padBytes (pad + 4) = 4 :: 0 :: 0 :: 0 :: padBytes pad := by
  simp only [padBytes, List.range_succ_eq_map, List.map_cons, List.map_map]
  refine congrArg (4 :: 0 :: 0 :: 0 :: ·) (List.map_congr_left fun i _ => ?_)
  exact congrArg (padPattern.getD · 0) (Nat.add_mod_right i 4)

@[simp] theorem buildRpcFrame_length (seqNo : UInt32) (payload : Bytes) :
    (buildRpcFrame crc seqNo payload).length = payload.length + 12 := by
  simp only [buildRpcFrame, appendCrc, List.length_append, leBytes_length]
  omega

theorem padFrame_whole (frame : Bytes) : (padFrame frame).length % 16 = 0 := by
  rw [padFrame, List.length_append, padBytes_length]
  omega

theorem sendAll_eq_encrypt (w : RpcWriter) (commands : List ProxyReqCommand) :
    ∃ blocks, bytesOf blocks = plainStream crc w.seqNo (commands.map (·.rpcPayload)) ∧
      w.sendAll cipher crc commands = bytesOf (cbcEncrypt Block.xor cipher w.iv blocks) := by
  induction commands generalizing w with
  | nil => exact ⟨[], rfl, rfl⟩
  | cons command _ ih =>
    have sent : w.sendProxyReq cipher crc command = _ := sendProxyReq_eq_send w command
    obtain ⟨later, plain, encrypted⟩ := ih (w.sendProxyReq cipher crc command).2
    generalize padEq : padFrame (buildRpcFrame crc w.seqNo command.rpcPayload) = padded
    have whole : 16 * (padded.length / 16) = padded.length :=
      padEq ▸ Nat.mul_div_cancel' (Nat.dvd_of_mod_eq_zero (padFrame_whole _))
    refine ⟨blocksOf (padded.length / 16) padded ++ later, ?_, ?_⟩
    · rw [bytesOf_append, plain, bytesOf_blocksOf (Nat.le_of_eq whole), whole, List.take_length,
        List.map_cons, plainStream, padEq, sent]
      rfl
    · rw [RpcWriter.sendAll, encrypted, cbcEncrypt_append, bytesOf_append, sent, ← padEq]
      rfl

end

end Telemt.MiddleProxy
