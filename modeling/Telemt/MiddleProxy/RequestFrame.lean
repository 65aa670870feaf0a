import Telemt.MiddleProxy.Codec

namespace Telemt.MiddleProxy
open Foundation

/-!
# The frame of a proxy request, written into one buffer

The writer announces the length before the bytes exist, and the extra section is measured after them.
-/

def appendProxyReqPayloadInto (b : Bytes) (connId : UInt64) (clientAddr ourAddr : SocketAddr)
    (data : Bytes) (proxyTag : Option Bytes) (protoFlags : UInt32) : Bytes :=
  let b := b ++ leBytes 4 rpcProxyReq.toNat ++ leBytes 4 protoFlags.toNat ++ leBytes 8 connId.toNat ++
    mappedAddrAndPort clientAddr ++ mappedAddrAndPort ourAddr
  let b :=
    if hasAdTag protoFlags then
      let extraStart := b.length
      let b := b ++ leBytes 4 0 ++ (proxyTag.map proxyTagBytes).getD []
      let extraBytes := b.length - extraStart - 4
      b.take extraStart ++ leBytes 4 extraBytes ++ b.drop (extraStart + 4)
    else b
  b ++ data

section
variable (crc : Bytes → UInt32) (seqNo : UInt32) (b : Bytes) (connId : UInt64)
  (clientAddr ourAddr : SocketAddr) (data : Bytes) (proxyTag : Option Bytes) (protoFlags : UInt32)

def buildProxyReqPayload : Bytes :=
  appendProxyReqPayloadInto [] connId clientAddr ourAddr data proxyTag protoFlags

/-- The buffer of `send_proxy_req` when it is handed to the cipher. -/
def proxyReqFrame : Bytes :=
  let totalLen := 4 + 4 + proxyReqPayloadLen data.length proxyTag protoFlags + 4
  appendCrc crc (appendProxyReqPayloadInto (leBytes 4 totalLen ++ leBytes 4 seqNo.toNat) connId
    clientAddr ourAddr data proxyTag protoFlags)

theorem patch_length (head body : Bytes) :
    let written := head ++ leBytes 4 0 ++ body
    written.take head.length ++ leBytes 4 (written.length - head.length - 4) ++
      written.drop (head.length + 4) = head ++ (leBytes 4 body.length ++ body) := by
  intro written
  have length : written.length - head.length - 4 = body.length := by
    simp only [written, List.length_append, leBytes_length]
    omega
  have before : written.take head.length = head := by simp [written]
  have behind : written.drop (head.length + 4) = body :=
    List.drop_left' (by simp)
  rw [length, before, behind, List.append_assoc]

theorem appendProxyReqPayloadInto_eq :
    appendProxyReqPayloadInto b connId clientAddr ourAddr data proxyTag protoFlags =
      b ++ proxyReqPayload connId clientAddr ourAddr data proxyTag protoFlags := by
  unfold appendProxyReqPayloadInto proxyReqPayload extraBytes
  dsimp only
  split_ifs
  · rw [patch_length]
    simp only [List.append_assoc]
  · simp only [List.append_assoc, List.nil_append]

theorem buildProxyReqPayload_eq :
    buildProxyReqPayload connId clientAddr ourAddr data proxyTag protoFlags =
      proxyReqPayload connId clientAddr ourAddr data proxyTag protoFlags :=
  appendProxyReqPayloadInto_eq [] connId clientAddr ourAddr data proxyTag protoFlags

theorem extraBytes_word (tagged : hasAdTag protoFlags = true)
    (fits : proxyReqPayloadLen data.length proxyTag protoFlags < 2 ^ 32) :
    ∃ word body, extraBytes proxyTag protoFlags = word ++ body ∧ word.length = 4 ∧
      leNat word = body.length ∧ body.length % 4 = 0 := by
  have aligned := proxyReqPayloadLen_mod_four 0 proxyTag protoFlags
  have length := extraBytes_length proxyTag protoFlags
  unfold proxyReqPayloadLen at fits aligned
  simp only [extraBytes, if_pos tagged, List.length_append, leBytes_length] at length fits aligned ⊢
  refine ⟨_, _, rfl, leBytes_length 4 _, leNat_leBytes ?_, ?_⟩
  · omega
  · omega

theorem presized_request_frame_exact
    (fits : 4 + 4 + proxyReqPayloadLen data.length proxyTag protoFlags + 4 < 2 ^ 32) :
    let appended := appendProxyReqPayloadInto b connId clientAddr ourAddr data proxyTag protoFlags
    let payload := buildProxyReqPayload connId clientAddr ourAddr data proxyTag protoFlags
    appended = b ++ payload ∧
      appended.length - b.length = proxyReqPayloadLen data.length proxyTag protoFlags ∧
      proxyReqFrame crc seqNo connId clientAddr ourAddr data proxyTag protoFlags =
        buildRpcFrame crc seqNo payload ∧
      (hasAdTag protoFlags = true → ∃ fields word extra, payload = fields ++ word ++ extra ++ data ∧
        fields.length = 56 ∧ word.length = 4 ∧ leNat word = extra.length ∧ extra.length % 4 = 0) := by
  intro appended payload
  have length := proxyReqPayload_length connId clientAddr ourAddr data proxyTag protoFlags
  have same : payload = proxyReqPayload connId clientAddr ourAddr data proxyTag protoFlags :=
    buildProxyReqPayload_eq connId clientAddr ourAddr data proxyTag protoFlags
  have grown : appended = b ++ payload := by
    rw [same]
    exact appendProxyReqPayloadInto_eq b connId clientAddr ourAddr data proxyTag protoFlags
  refine ⟨grown, ?_, ?_, fun tagged => ?_⟩
  · rw [grown, List.length_append, Nat.add_sub_cancel_left, same, length]
  · rw [proxyReqFrame, appendProxyReqPayloadInto_eq, buildRpcFrame, same, length]
  · obtain ⟨word, extra, section_, sized, counted, aligned⟩ :=
      extraBytes_word data proxyTag protoFlags tagged (by omega)
    have laid := same.trans (congrArg (_ ++ · ++ data) section_)
    rw [← List.append_assoc] at laid
    exact ⟨_, word, extra, laid, by simp, sized, counted, aligned⟩

end

theorem long_tag_request_exact :
    let addr : SocketAddr := ⟨.v4 #v[127, 0, 0, 1], 443⟩
    proxyReqFrame (fun _ => 0) 7 1 addr addr [1, 2, 3] (some (List.replicate 254 0)) 8 =
      buildRpcFrame (fun _ => 0) 7
        (buildProxyReqPayload 1 addr addr [1, 2, 3] (some (List.replicate 254 0)) 8) :=
  (presized_request_frame_exact _ 7 [] 1 _ _ _ _ 8 (by decide +kernel)).2.2.1

end Telemt.MiddleProxy
