import Telemt.MiddleProxy.Desync
import Telemt.Relay.Accepted

namespace Telemt.MiddleProxy
open Foundation

/-! # Many clients on one connection -/

structure InSync (seqNo : UInt32) (commands : List ProxyReqCommand) (st : ReaderLoop) : Prop where
  emitted : st.frames.emitted = numbered seqNo (commands.map (·.rpcPayload))
  running : st.frames.failure = none
  valid : st.frames.invalidLens = 0

section
variable {cipher : Equiv.Perm Block} {crc : Bytes → UInt32} {iv : Block} {seqNo : UInt32}
  {commands : List ProxyReqCommand}

section
variable (command : ProxyReqCommand)

theorem ProxyReqCommand.rpcPayload_mod_four :
    command.rpcPayload.length % 4 = command.payload.length % 4 := by
  rw [rpcPayload, proxyReqPayload_length, proxyReqPayloadLen_mod_four]

theorem rpcPayloads_fit (fits : ∀ command ∈ commands, command.totalLen ≤ 2 ^ 24) :
    ∀ payload ∈ commands.map (·.rpcPayload), payload.length + 12 ≤ 2 ^ 24 := by
  intro payload mapped
  obtain ⟨command, member, rfl⟩ := List.mem_map.mp mapped
  have total := fits command member
  rw [command.totalLen_eq] at total
  omega

theorem rpcPayloads_aligned_iff :
    (∀ payload ∈ (commands.map (·.rpcPayload)).dropLast, payload.length % 4 = 0) ↔
      ∀ command ∈ commands.dropLast, command.payload.length % 4 = 0 := by
  rw [← List.map_dropLast]
  simp only [List.forall_mem_map, ProxyReqCommand.rpcPayload_mod_four]

theorem ProxyReqCommand.rpcPayload_starts :
    ∃ tail : Bytes, command.rpcPayload = 0xee :: 0xf1 :: 0xce :: tail ∧ 3 ≤ tail.length := by
  refine ⟨command.rpcPayload.drop 3, rfl, ?_⟩
  rw [List.length_drop, rpcPayload, proxyReqPayload_length, proxyReqPayloadLen]
  omega

theorem inSync_of_aligned (fits : ∀ command ∈ commands, command.totalLen ≤ 2 ^ 24)
    (aligned : ∀ command ∈ commands.dropLast, command.payload.length % 4 = 0)
    {chunks : List Bytes} (arrived : chunks.flatten = RpcWriter.sendAll cipher crc ⟨iv, seqNo⟩ commands) :
    InSync seqNo commands ((ReaderLoop.new iv seqNo).readAll cipher crc chunks) := by
  obtain ⟨blocks, plain, encrypted⟩ := @sendAll_eq_encrypt cipher crc ⟨iv, seqNo⟩ commands
  obtain ⟨pieces, flat, fed⟩ := @readAll_eq_feeds cipher crc (.new iv seqNo) chunks _
    (Nat.zero_lt_succ 15) (arrived.trans encrypted)
  have start := @InStep.start crc seqNo _ (rpcPayloads_fit fits) (rpcPayloads_aligned_iff.mpr aligned)
  have decrypted : pieces.flatten = plainStream crc seqNo (commands.map (·.rpcPayload)) := by
    rw [flat, ← plain]
    exact congrArg bytesOf (cbcDecrypt_cbcEncrypt Block.xor_cancel iv blocks)
  rw [← decrypted] at start
  have finish := start.feeds
  change _ = pieces.foldl (FrameReader.feed crc) (FrameReader.new seqNo) at fed
  rw [← fed] at finish
  exact ⟨finish.finish, finish.running, finish.valid⟩

theorem readAll_single (blocks : List Block) :
    ((ReaderLoop.new iv seqNo).readAll cipher crc [bytesOf blocks]).frames =
      (FrameReader.new seqNo).feed crc (bytesOf (cbcDecrypt Block.xor cipher iv blocks)) := by
  have count : (bytesOf blocks).length / 16 = blocks.length := by
    rw [bytesOf_length, Nat.mul_div_cancel_left _ (by decide)]
  have cut : blocksOf ((bytesOf blocks).length / 16) (bytesOf blocks) = blocks := by
    have := blocksOf_append_bytesOf blocks []
    rw [List.append_nil] at this
    rw [count, this]
  rw [ReaderLoop.readAll, List.foldl_cons, List.foldl_nil, ReaderLoop.onRead, ReaderLoop.new]
  rw [List.nil_append, cut]

theorem feed_new_emitted (plain : Bytes) :
    ((FrameReader.new seqNo).feed crc plain).emitted = (drainAll crc seqNo plain).1 := by
  rw [FrameReader.feed, FrameReader.new]
  dsimp only
  rw [List.nil_append]
  cases (drainAll crc seqNo plain).2 with
  | waiting expectedSeq dec | cleared expectedSeq | failed reason => exact List.nil_append _

theorem aligned_of_inSync (fits : ∀ command ∈ commands, command.totalLen ≤ 2 ^ 24)
    (inSync : InSync seqNo commands ((ReaderLoop.new iv seqNo).readAll cipher crc
      [RpcWriter.sendAll cipher crc ⟨iv, seqNo⟩ commands])) :
    ∀ command ∈ commands.dropLast, command.payload.length % 4 = 0 := by
  obtain ⟨_, plain, encrypted⟩ := @sendAll_eq_encrypt cipher crc ⟨iv, seqNo⟩ commands
  have emitted := inSync.emitted
  rw [encrypted, readAll_single, feed_new_emitted, cbcDecrypt_cbcEncrypt Block.xor_cancel,
    plain] at emitted
  apply rpcPayloads_aligned_iff.mp
  refine @aligned_of_drainAll crc seqNo 0 _ rfl (rpcPayloads_fit fits) ?_ emitted
  intro payload mapped
  obtain ⟨command, _, rfl⟩ := List.mem_map.mp mapped
  exact command.rpcPayload_starts

theorem sendAll_ne_nil (more : List ProxyReqCommand) (w : RpcWriter) :
    w.sendAll cipher crc (command :: more) ≠ [] := by
  obtain ⟨_, plain, encrypted⟩ := @sendAll_eq_encrypt cipher crc w (command :: more)
  have size := congrArg List.length plain
  rw [List.map_cons, plainStream_cons, bytesOf_length, List.length_append,
    buildRpcFrame_length] at size
  apply List.ne_nil_of_length_pos
  rw [encrypted, bytesOf_length, cbcEncrypt_length]
  omega

end

theorem shared_connection_in_sync_iff
    (fits : ∀ command ∈ commands, command.totalLen ≤ 2 ^ 24) :
    (∀ chunks : List Bytes, (∀ chunk ∈ chunks, chunk ≠ []) →
      chunks.flatten = RpcWriter.sendAll cipher crc ⟨iv, seqNo⟩ commands →
      InSync seqNo commands ((ReaderLoop.new iv seqNo).readAll cipher crc chunks)) ↔
    ∀ command ∈ commands.dropLast, command.payload.length % 4 = 0 := by
  constructor
  · intro inSync
    cases commands with
    | nil => exact nofun
    | cons command more =>
      apply aligned_of_inSync fits
      apply inSync
      · intro chunk member
        rw [List.mem_singleton.mp member]
        exact sendAll_ne_nil command more _
      · exact List.flatten_singleton
  · intro aligned chunks _ arrived
    exact inSync_of_aligned fits aligned arrived

theorem aligned_clients_stay_in_sync (fits : ∀ command ∈ commands, command.totalLen ≤ 2 ^ 24)
    (accepted : ∀ command ∈ commands, ∃ cfg bytes quickack, cfg.tag ≠ .intermediate ∧
      ⟨command.payload, quickack⟩ ∈ (Relay.decodeBytes cfg (Relay.freshReader cfg.tag) bytes).1)
    {chunks : List Bytes} (arrived : chunks.flatten = RpcWriter.sendAll cipher crc ⟨iv, seqNo⟩ commands) :
    InSync seqNo commands ((ReaderLoop.new iv seqNo).readAll cipher crc chunks) := by
  refine inSync_of_aligned fits ?_ arrived
  intro command member
  obtain ⟨_, _, _, tag, read⟩ := accepted command (List.dropLast_subset _ member)
  exact (Relay.decodeBytes_accepted Relay.startPhase_checked _ read).aligned tag

end

def requestOf (payload : Bytes) : ProxyReqCommand :=
  ⟨1, ⟨.ofOctets 10 0 0 1, 443⟩, ⟨.ofOctets 10 0 0 2, 443⟩, 0, none, payload⟩

def plainWriter (commands : List ProxyReqCommand) : Bytes :=
  RpcWriter.sendAll (Equiv.refl Block) (fun _ => 0) ⟨Block.zero, 0⟩ commands

def plainReader (chunks : List Bytes) : ReaderLoop :=
  (ReaderLoop.new Block.zero 0).readAll (Equiv.refl Block) (fun _ => 0) chunks

theorem aligned_request_then_unaligned_in_sync :
    InSync 0 [requestOf [1, 2, 3, 4], requestOf [1, 2, 3, 4, 5]]
      (plainReader [(plainWriter [requestOf [1, 2, 3, 4], requestOf [1, 2, 3, 4, 5]]).take 21,
        (plainWriter [requestOf [1, 2, 3, 4], requestOf [1, 2, 3, 4, 5]]).drop 21]) := by
  refine (shared_connection_in_sync_iff ?_).mpr ?_ _ ?_ ?_
  · decide +kernel
  · decide +kernel
  · decide +kernel
  · rw [List.flatten_cons, List.flatten_singleton, List.take_append_drop, plainWriter]

def abridgedRequests : List ProxyReqCommand := [requestOf [1, 2, 3, 4], requestOf [5, 6, 7, 8]]

-- The second read starts inside the second frame.
theorem abridged_client_in_sync :
    InSync 0 abridgedRequests (plainReader
      [(plainWriter abridgedRequests).take 100, (plainWriter abridgedRequests).drop 100]) := by
  refine aligned_clients_stay_in_sync (by decide +kernel) ?_ ?_
  · intro command member
    refine ⟨⟨.abridged, 4096, true⟩, [1, 1, 2, 3, 4, 1, 5, 6, 7, 8], false, by decide, ?_⟩
    revert command
    decide +kernel
  · rw [List.flatten_cons, List.flatten_singleton, List.take_append_drop, plainWriter]

-- Both payloads come from an intermediate client; the second never gets through.
theorem unaligned_request_desynchronises :
    (Relay.decodeBytes ⟨.intermediate, 4096, true⟩ (Relay.freshReader .intermediate)
      [5, 0, 0, 0, 1, 2, 3, 4, 5, 4, 0, 0, 0, 6, 7, 8, 9]).1.map (·.payload) =
        [[1, 2, 3, 4, 5], [6, 7, 8, 9]] ∧
    (∀ command ∈ [requestOf [1, 2, 3, 4, 5], requestOf [6, 7, 8, 9]], command.totalLen ≤ 2 ^ 24) ∧
    (plainReader [plainWriter [requestOf [1, 2, 3, 4, 5], requestOf [6, 7, 8, 9]]]).frames.emitted =
      [⟨0, (requestOf [1, 2, 3, 4, 5]).rpcPayload⟩] := by
  decide +kernel

end Telemt.MiddleProxy
