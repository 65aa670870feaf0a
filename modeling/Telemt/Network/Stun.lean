import Telemt.Basic
import Telemt.Handshake.ClientHello

namespace Telemt.Network
open Foundation ClientHello

/-!
# The STUN probe

`stun_probe_family_with_bind` up to its answer. What binding, resolving and connecting come to is
given by `setup`, what each round of the loop receives by `rounds`; the texts of errors are left out.
-/

inductive IpFamily
  | v4
  | v6
  deriving DecidableEq, Repr

def familyOf : IpAddr → IpFamily
  | .v4 _ => .v4
  | .v6 _ => .v6

def magic : Bytes := [0x21, 0x12, 0xA4, 0x42]

-- Only XOR-MAPPED-ADDRESS has a key; beyond its key `byteAt` is zero.
def attributeAddress (txid buf : Bytes) (idx : Nat) : Option SocketAddr :=
  let key := if be16 buf idx = 0x0020 then magic ++ txid else []
  let octet (i : Nat) : UInt8 := byteAt buf (idx + 8 + i) ^^^ byteAt key i
  let port := UInt16.ofNat (be16 buf (idx + 6)) ^^^ UInt16.ofNat (be16 key 0)
  if be16 buf (idx + 2) < 8 then none
  else if byteAt buf (idx + 5) = 1 then some ⟨.v4 (Vector.ofFn fun i => octet i), port⟩
  else if byteAt buf (idx + 5) = 2 ∧ 20 ≤ be16 buf (idx + 2) then
    some ⟨.v6 (Vector.ofFn fun i => octet i), port⟩
  else none

-- The position of the attribute and its address. Every attribute takes at least four bytes, so the
-- length of the buffer is enough turns.
def scanAttributes (txid buf : Bytes) : Nat → Nat → Option (Nat × SocketAddr)
  | 0, _ => none
  | turns + 1, idx =>
    let alen := be16 buf (idx + 2)
    if buf.length < idx + 4 ∨ buf.length < idx + 4 + alen then none
    else if be16 buf idx = 0x0020 ∨ be16 buf idx = 0x0001 then
      (attributeAddress txid buf idx).map (idx, ·)
    else scanAttributes txid buf turns (idx + 4 + (alen + 3) / 4 * 4)

def received (datagram : Bytes) : Bytes := datagram.take 256

def answerIn (txid datagram : Bytes) : Option (Nat × SocketAddr) :=
  scanAttributes txid (received datagram) (received datagram).length 20

inductive Round
  | sendFailed
  | recvFailed
  | timeout
  | datagram (bytes : Bytes)
  deriving DecidableEq, Repr

structure StunProbeResult where
  localAddr : SocketAddr
  reflectedAddr : SocketAddr
  family : IpFamily
  deriving DecidableEq, Repr

inductive ProbeEnd
  | waiting
  | failed
  | nothing
  | found (result : StunProbeResult)
  deriving DecidableEq, Repr

inductive Setup
  | ready
  | failed
  | nothing
  deriving DecidableEq, Repr

section
variable (txid : Bytes) (family : IpFamily) (localAddr : Option SocketAddr)

def turn (attempt : Nat) : Round → Nat ⊕ ProbeEnd
  | .sendFailed => .inr .failed
  | .recvFailed => .inr .failed
  | .timeout => if 3 ≤ attempt + 1 then .inr .nothing else .inl (attempt + 1)
  | .datagram bytes =>
    if (received bytes).length < 20 then .inr .nothing
    else
      match answerIn txid bytes with
      | none => .inl attempt
      | some answer =>
        .inr (localAddr.elim .failed fun addr => .found ⟨addr, answer.2, family⟩)

/-- The requests sent and how the probe ends; `waiting` where the rounds are used up. -/
def probe : Nat → List Round → Nat × ProbeEnd
  | _, [] => (1, .waiting)
  | attempt, round :: rounds =>
    match turn txid family localAddr attempt round with
    | .inl attempt => ((probe attempt rounds).1 + 1, (probe attempt rounds).2)
    | .inr ended => (1, ended)

def stunProbeFamilyWithBind (bindIp : Option IpAddr) (setup : Setup)
    (rounds : List Round) : Nat × ProbeEnd :=
  if bindIp.any (familyOf · != family) then (0, .nothing)
  else
    match setup with
    | .failed => (0, .failed)
    | .nothing => (0, .nothing)
    | .ready => probe txid family localAddr 0 rounds

end

variable {txid : Bytes} {family : IpFamily} {localAddr : Option SocketAddr}

def Ends (txid : Bytes) : Round → Prop
  | .sendFailed => True
  | .recvFailed => True
  | .timeout => False
  | .datagram bytes => (received bytes).length < 20 ∨ (answerIn txid bytes).isSome

theorem turn_inl_iff {attempt next : Nat} {round : Round} :
    turn txid family localAddr attempt round = .inl next ↔
      ¬ Ends txid round ∧ next = attempt + [round].count .timeout ∧
        (round = .timeout → attempt < 2) := by
  cases round with
  | sendFailed | recvFailed => simp [turn, Ends]
  | timeout =>
    simp only [turn, Ends, not_false_eq_true, true_and, List.count_singleton_self, forall_const]
    split_ifs with last
    · simp only [false_iff, not_and]
      omega
    · simp only [Sum.inl.injEq]
      omega
  | datagram bytes =>
    cases answered : answerIn txid bytes with
    | none =>
      by_cases short : (received bytes).length < 20
      · simp [turn, Ends, short]
      · simp [turn, Ends, short, answered, eq_comm]
    | some =>
      by_cases short : (received bytes).length < 20
      · simp [turn, Ends, short]
      · simp [turn, Ends, short, answered]

theorem lt_probe_iff {bound attempt : Nat} {rounds : List Round} :
    bound + 1 < (probe txid family localAddr attempt rounds).1 ↔
      ∃ round rest, rounds = round :: rest ∧ ¬ Ends txid round ∧ (round = .timeout → attempt < 2) ∧
        bound < (probe txid family localAddr (attempt + [round].count .timeout) rest).1 := by
  cases rounds with
  | nil => simp [probe]
  | cons round =>
    rw [probe]
    cases turned : turn txid family localAddr attempt round with
    | inl =>
      obtain ⟨goesOn, rfl, fewer⟩ := turn_inl_iff.mp turned
      simpa [goesOn] using fun _ => fewer
    | inr =>
      have stops (goesOn : ¬ Ends txid round) (fewer : round = .timeout → attempt < 2) : False := by
        have again : turn txid family localAddr attempt round = .inl _ :=
          turn_inl_iff.mpr ⟨goesOn, rfl, fewer⟩
        rw [turned] at again
        cases again
      constructor
      · intro more
        exact absurd more (Nat.not_lt.mpr (Nat.le_add_left 1 bound))
      · rintro ⟨_, _, same, goesOn, fewer, _⟩
        cases same
        exact (stops goesOn fewer).elim

theorem probe_pos (attempt : Nat) (rounds : List Round) :
    0 < (probe txid family localAddr attempt rounds).1 := by
  cases rounds with
  | nil => exact Nat.one_pos
  | cons =>
    rw [probe]
    split
    · exact Nat.succ_pos _
    · exact Nat.one_pos

theorem three_lt_probe_iff {rounds : List Round} :
    3 < (probe txid family localAddr 0 rounds).1 ↔
      ∃ a b c rest, rounds = a :: b :: c :: rest ∧ (∀ round ∈ [a, b, c], ¬ Ends txid round) ∧
        ∃ round ∈ [a, b, c], round ≠ .timeout := by
  have counted (a b : Round) : 0 + [a].count .timeout + [b].count .timeout < 2 ↔
      a ≠ .timeout ∨ b ≠ .timeout := by
    by_cases first : a = .timeout <;> by_cases second : b = .timeout <;> simp [first, second]
  simp only [lt_probe_iff, probe_pos, and_true]
  constructor
  · rintro ⟨a, _, rfl, ends, _, b, _, rfl, ends', _, c, rest, rfl, ends'', fewer⟩
    refine ⟨a, b, c, rest, rfl, by simp [ends, ends', ends''], ?_⟩
    by_cases last : c = .timeout
    · rcases (counted a b).mp (fewer last) with other | other
      · exact ⟨a, by simp, other⟩
      · exact ⟨b, by simp, other⟩
    · exact ⟨c, by simp, last⟩
  · rintro ⟨a, b, c, rest, rfl, ends, other⟩
    simp only [List.mem_cons, List.not_mem_nil, or_false, forall_eq_or_imp, forall_eq] at ends
    refine ⟨a, _, rfl, ends.1, fun _ => Nat.zero_lt_two, b, _, rfl, ends.2.1, fun _ => ?_, c, rest,
      rfl, ends.2.2, fun last => (counted a b).mpr ?_⟩
    · exact (Nat.zero_add _).trans_lt (List.count_le_length.trans_lt Nat.one_lt_two)
    · simpa [last] using other

theorem three_requests_iff (txid : Bytes) (family : IpFamily) (localAddr : Option SocketAddr)
    (bindIp : Option IpAddr) (setup : Setup) (rounds : List Round) :
    (stunProbeFamilyWithBind txid family localAddr bindIp setup rounds).1 ≤ 3 ↔
      bindIp.any (familyOf · != family) = true ∨ setup ≠ .ready ∨ rounds.length < 3 ∨
        (∃ round ∈ rounds.take 3, Ends txid round) ∨ rounds.take 3 = List.replicate 3 .timeout := by
  unfold stunProbeFamilyWithBind
  split_ifs with mismatch
  · simp [mismatch]
  cases setup with
  | failed | nothing => simp
  | ready =>
    rw [← not_lt, three_lt_probe_iff]
    simp only [mismatch, ne_eq, not_true_eq_false, false_or, Bool.false_eq_true]
    rcases rounds with _ | ⟨a, _ | ⟨b, _ | ⟨c, rest⟩⟩⟩
    · simp
    · simp
    · simp
    · simp only [List.take_succ_cons, List.take_zero]
      constructor
      · intro stops
        by_cases ended : ∃ round ∈ [a, b, c], Ends txid round
        · exact .inr (.inl ended)
        · refine .inr (.inr (List.eq_replicate_iff.mpr ⟨rfl, fun round member => ?_⟩))
          by_contra other
          exact stops ⟨a, b, c, rest, rfl, fun round member ends => ended ⟨round, member, ends⟩, round,
            member, other⟩
      · rintro (short | ⟨round, member, ends⟩ | timeouts) ⟨_, _, _, _, ⟨⟩, goesOn, round', member', other⟩
        · simp only [List.length_cons] at short
          omega
        · exact goesOn round member ends
        · rw [timeouts] at member'
          exact other (List.eq_of_mem_replicate member')

def junk : Bytes := List.replicate 20 0

/-- Three datagrams without any attribute, and the fourth request is out. -/
theorem junk_draws_fourth_request :
    stunProbeFamilyWithBind (List.replicate 12 7) .v4 none none .ready
      (List.replicate 3 (.datagram junk)) = (4, .waiting) := by
  decide +kernel

/-- The attributes before `idx` hold no address; they are skipped with their padding. -/
inductive AttributeAt (buf : Bytes) : Nat → Prop
  | first : AttributeAt buf 20
  | next {idx : Nat} (before : AttributeAt buf idx)
      (inside : idx + 4 + be16 buf (idx + 2) ≤ buf.length)
      (other : ¬ (be16 buf idx = 0x0020 ∨ be16 buf idx = 0x0001)) :
      AttributeAt buf (idx + 4 + (be16 buf (idx + 2) + 3) / 4 * 4)

structure AddressAt (buf : Bytes) (idx : Nat) : Prop where
  reached : AttributeAt buf idx
  inside : idx + 4 + be16 buf (idx + 2) ≤ buf.length
  kind : be16 buf idx = 0x0020 ∨ be16 buf idx = 0x0001
  long : 8 ≤ be16 buf (idx + 2)
  family : byteAt buf (idx + 5) = 1 ∨ byteAt buf (idx + 5) = 2 ∧ 20 ≤ be16 buf (idx + 2)

structure Response (txid datagram : Bytes) : Prop where
  success : be16 datagram 0 = 0x0101
  cookie : slice datagram 4 4 = magic
  request : slice datagram 8 12 = txid

/-- The attribute ends inside the length that the header announces. -/
def Announced (datagram : Bytes) (idx : Nat) : Prop :=
  idx + 4 + be16 (received datagram) (idx + 2) ≤ 20 + be16 datagram 2

def familyByte : IpFamily → UInt8
  | .v4 => 1
  | .v6 => 2

theorem familyByte_injective : Function.Injective familyByte := by
  intro a b same
  cases a <;> cases b <;> first | rfl | cases same

section Scan
variable {buf : Bytes} {idx : Nat} {addr : SocketAddr}

theorem attributeAddress_family (decoded : attributeAddress txid buf idx = some addr) :
    byteAt buf (idx + 5) = familyByte (familyOf addr.ip) := by
  unfold attributeAddress at decoded
  dsimp only at decoded
  generalize (if be16 buf idx = 0x0020 then magic ++ txid else []) = key at decoded
  split_ifs at decoded with _ v4 v6
  · cases decoded
    exact v4
  · cases decoded
    exact v6.1

theorem exists_attributeAddress_iff : (∃ addr, attributeAddress txid buf idx = some addr) ↔
    8 ≤ be16 buf (idx + 2) ∧
      (byteAt buf (idx + 5) = 1 ∨ byteAt buf (idx + 5) = 2 ∧ 20 ≤ be16 buf (idx + 2)) := by
  unfold attributeAddress
  dsimp only
  generalize (if be16 buf idx = 0x0020 then magic ++ txid else []) = key
  split_ifs with short v4 v6
  · simp [short]
  · simp [Nat.le_of_not_lt short, v4]
  · simp [Nat.le_of_not_lt short, v6]
  · simp [v4, v6]

theorem scanAttributes_sound {turns start : Nat} (reached : AttributeAt buf start)
    (answered : scanAttributes txid buf turns start = some (idx, addr)) :
    AddressAt buf idx ∧ attributeAddress txid buf idx = some addr := by
  induction turns generalizing start with
  | zero => cases answered
  | succ _ ih =>
    rw [scanAttributes] at answered
    split_ifs at answered with outside kind
    · obtain ⟨_, decoded, same⟩ := Option.map_eq_some_iff.mp answered
      cases same
      obtain ⟨long, family⟩ := exists_attributeAddress_iff.mp ⟨_, decoded⟩
      exact ⟨⟨reached, Nat.le_of_not_lt (not_or.mp outside).2, kind, long, family⟩, decoded⟩
    · exact ih (reached.next (Nat.le_of_not_lt (not_or.mp outside).2) kind) answered

theorem AttributeAt.le (reached : AttributeAt buf idx) : 20 ≤ idx := by
  induction reached with
  | first => exact le_rfl
  | next => omega

theorem AttributeAt.scanned (reached : AttributeAt buf idx) :
    ∃ turns, buf.length ≤ turns + idx ∧
      scanAttributes txid buf buf.length 20 = scanAttributes txid buf turns idx := by
  induction reached with
  | first => exact ⟨buf.length, Nat.le_add_right _ _, rfl⟩
  | @next idx before inside other ih =>
    obtain ⟨turns, _, same⟩ := ih
    cases turns with
    | zero => omega
    | succ turns =>
      rw [same, scanAttributes, if_neg (by omega), if_neg other]
      exact ⟨turns, by omega, rfl⟩

theorem AddressAt.scanned (address : AddressAt buf idx) : ∃ addr,
    attributeAddress txid buf idx = some addr ∧
      scanAttributes txid buf buf.length 20 = some (idx, addr) := by
  obtain ⟨addr, decoded⟩ := exists_attributeAddress_iff.mpr ⟨address.long, address.family⟩
  obtain ⟨turns, _, same⟩ := @AttributeAt.scanned txid _ _ address.reached
  have inside := address.inside
  refine ⟨addr, decoded, same.trans ?_⟩
  cases turns with
  | zero => omega
  | succ =>
    rw [scanAttributes, if_neg (by omega), if_pos address.kind, decoded]
    rfl

theorem answerIn_eq_some_iff {datagram : Bytes} : answerIn txid datagram = some (idx, addr) ↔
    AddressAt (received datagram) idx ∧ attributeAddress txid (received datagram) idx = some addr := by
  refine ⟨scanAttributes_sound .first, ?_⟩
  rintro ⟨address, decoded⟩
  obtain ⟨_, decoded', scanned⟩ := @AddressAt.scanned txid _ _ address
  cases decoded.symm.trans decoded'
  exact scanned

end Scan

theorem probe_found {attempt : Nat} {rounds : List Round} {result : StunProbeResult}
    (found : (probe txid family localAddr attempt rounds).2 = .found result) :
    ∃ bytes idx, Round.datagram bytes ∈ rounds ∧
      answerIn txid bytes = some (idx, result.reflectedAddr) := by
  induction rounds generalizing attempt with
  | nil => cases found
  | cons round _ ih =>
    rw [probe] at found
    cases turned : turn txid family localAddr attempt round with
    | inl =>
      rw [turned] at found
      obtain ⟨bytes, idx, member, answered⟩ := ih found
      exact ⟨bytes, idx, List.mem_cons_of_mem _ member, answered⟩
    | inr ended =>
      rw [turned] at found
      obtain rfl : ended = .found result := found
      cases round with
      | sendFailed | recvFailed => cases turned
      | timeout =>
        rw [turn] at turned
        split_ifs at turned
        cases turned
      | datagram bytes =>
        rw [turn] at turned
        by_cases short : (received bytes).length < 20
        · rw [if_pos short] at turned
          cases turned
        rw [if_neg short] at turned
        cases answered : answerIn txid bytes with
        | none =>
          rw [answered] at turned
          cases turned
        | some answer =>
          rw [answered] at turned
          cases localAddr with
          | none => cases turned
          | some =>
            cases turned
            exact ⟨bytes, answer.1, List.mem_cons_self, answered⟩

theorem answers_trusted_iff (txid : Bytes) (family : IpFamily) (delivered : Set Bytes) :
    (∀ localAddr bindIp setup rounds result, (∀ bytes, .datagram bytes ∈ rounds → bytes ∈ delivered) →
      (stunProbeFamilyWithBind txid family localAddr bindIp setup rounds).2 = .found result →
      ∃ bytes idx, .datagram bytes ∈ rounds ∧ AddressAt (received bytes) idx ∧
        attributeAddress txid (received bytes) idx = some result.reflectedAddr ∧
        Response txid bytes ∧ Announced bytes idx ∧ familyOf result.reflectedAddr.ip = family) ↔
    ∀ bytes ∈ delivered, ∀ idx, AddressAt (received bytes) idx →
      Response txid bytes ∧ Announced bytes idx ∧
        byteAt (received bytes) (idx + 5) = familyByte family := by
  constructor
  · intro trusted bytes member idx address
    obtain ⟨addr, decoded, answered⟩ := @AddressAt.scanned txid _ _ address
    have long : ¬ (received bytes).length < 20 := by
      have inside := address.inside
      have later := address.reached.le
      omega
    obtain ⟨bytes', _, only, address', decoded', response, announced, probed⟩ :=
      trusted (some addr) none .ready [.datagram bytes] ⟨addr, addr, family⟩ (by simpa using member)
        (by simp [stunProbeFamilyWithBind, probe, turn, long, answerIn, answered])
    obtain rfl : bytes' = bytes := by simpa using only
    cases answered.symm.trans (answerIn_eq_some_iff.mpr ⟨address', decoded'⟩)
    exact ⟨response, announced, probed ▸ attributeAddress_family decoded⟩
  · intro matching localAddr bindIp setup rounds result from_ found
    unfold stunProbeFamilyWithBind at found
    split_ifs at found
    cases setup with
    | failed | nothing => cases found
    | ready =>
      obtain ⟨bytes, idx, member, answered⟩ := probe_found found
      obtain ⟨address, decoded⟩ := answerIn_eq_some_iff.mp answered
      obtain ⟨response, announced, byte⟩ := matching bytes (from_ bytes member) idx address
      refine ⟨bytes, idx, member, address, decoded, response, announced, ?_⟩
      exact familyByte_injective ((attributeAddress_family decoded).symm.trans byte)

def forged : Bytes := List.replicate 20 0 ++ [0, 1, 0, 8, 0, 1, 31, 144, 10, 0, 0, 1]

/-- The header is all zeros, and its address is believed. -/
theorem forged_answer_is_believed :
    (stunProbeFamilyWithBind (List.replicate 12 7) .v6 (some ⟨.ofOctets 10 0 0 2, 5⟩) none .ready
        [.datagram forged]).2 =
      .found ⟨⟨.ofOctets 10 0 0 2, 5⟩, ⟨.ofOctets 10 0 0 1, 8080⟩, .v6⟩ ∧
    ¬ Response (List.replicate 12 7) forged :=
  ⟨by decide +kernel, fun response => absurd response.success (by decide)⟩

end Telemt.Network
