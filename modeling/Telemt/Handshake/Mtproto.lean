import Telemt.Handshake.Completeness
import Telemt.Relay.ClientRead
import Mathlib.Data.List.TakeWhile

namespace Telemt.Handshake
open Foundation ClientHello
open Relay (ProtoTag)

/-!
# The user search of `handle_mtproto_handshake_impl`

The digest and the cipher are parameters; a request carries the verdict of the probe throttle.
-/

def skipLen : Nat := 8

def prekeyLen : Nat := 32

def ivLen : Nat := 16

def protoTagPos : Nat := 56

def dcIdxPos : Nat := 60

structure MtprotoCrypto where
  sha256 : Bytes → Vector UInt8 32
  aesCtr : Vector UInt8 32 → Nat → Vector UInt8 64 → Vector UInt8 64

structure ProxyModes where
  classic : Bool := false
  secure : Bool := false
  tls : Bool := true

def modeEnabledForProto (modes : ProxyModes) (tag : ProtoTag) (isTls : Bool) : Bool :=
  match tag with
  | .secure => if isTls then modes.tls else modes.secure
  | .intermediate => modes.classic
  | .abridged => modes.classic

def protoTagFromBytes (bytes : Bytes) : Option ProtoTag :=
  let tag := leNat bytes
  if tag = 0xefefefef then some .abridged
  else if tag = 0xeeeeeeee then some .intermediate
  else if tag = 0xdddddddd then some .secure
  else none

-- The two ciphers of the connection are given by their keys and counters.
structure MtprotoCandidateValidation where
  protoTag : ProtoTag
  dcIdx : Int
  decKey : Vector UInt8 32
  decIv : Nat
  encKey : Vector UInt8 32
  encIv : Nat

structure MtprotoRequest where
  handshake : Vector UInt8 64
  peer : SocketAddr
  modes : ProxyModes
  isTls : Bool
  preferredUser : Option Text
  overload : Bool

namespace MtprotoRequest

def decPrekeyIv (request : MtprotoRequest) : Bytes :=
  slice request.handshake.toList skipLen (prekeyLen + ivLen)

def encPrekeyIv (request : MtprotoRequest) : Bytes := request.decPrekeyIv.reverse

end MtprotoRequest

def validateMtprotoSecretCandidate (crypto : MtprotoCrypto) (request : MtprotoRequest)
    (secret : Bytes) : Option MtprotoCandidateValidation :=
  let decIv := beNat (request.decPrekeyIv.drop prekeyLen)
  let encIv := beNat (request.encPrekeyIv.drop prekeyLen)
  let decKey := crypto.sha256 (request.decPrekeyIv.take prekeyLen ++ secret)
  let decrypted := (crypto.aesCtr decKey decIv request.handshake).toList
  match protoTagFromBytes (slice decrypted protoTagPos 4) with
  | none => none
  | some protoTag =>
    if !modeEnabledForProto request.modes protoTag request.isTls then none
    else
      some {
        protoTag := protoTag
        dcIdx := (BitVec.ofNat 16 (leNat (slice decrypted dcIdxPos 2))).toInt
        decKey := decKey
        decIv := decIv
        encKey := crypto.sha256 (request.encPrekeyIv.take prekeyLen ++ secret)
        encIv := encIv }

structure MtprotoHints where
  stickyIp : Option Nat
  preferred : Option Nat
  stickyPrefix : Option Nat
  recentUserRing : List Nat
  recentUserRingSeq : Nat

namespace MtprotoHints
variable (hints : MtprotoHints)

def hasHint : Bool :=
  hints.stickyIp.isSome || hints.stickyPrefix.isSome || hints.preferred.isSome

-- The hints of a TLS connection that named no server.
def toHints : Hints where
  stickyIp := hints.stickyIp
  preferred := hints.preferred
  stickySni := none
  stickyPrefix := hints.stickyPrefix
  sniCandidates := none
  sniInitialCandidates := none
  recentUserRing := hints.recentUserRing
  recentUserRingSeq := hints.recentUserRingSeq

def recentUsers : List Nat := hints.toHints.recentUsers

end MtprotoHints

-- Ids fit 32 bits and so does the number of entries: the conversion in the last loop never fails.
def searchMtprotoUser {β : Type} (snapshot : UserAuthSnapshot) (validate : UserAuthEntry → Option β)
    (overload : Bool) (hints : MtprotoHints) : Search × Option (Match β) :=
  let budget := budgetForValidation snapshot.entries.length overload hints.hasHint
  let tryHint := tryHint snapshot validate budget
  let tryStage := tryStage snapshot validate budget
  let progress := tryHint ({}, none) hints.stickyIp
  let progress := tryHint progress hints.preferred
  let progress := tryHint progress hints.stickyPrefix
  let progress := tryStage progress hints.recentUsers
  tryStage progress (List.range snapshot.entries.length)

def mtprotoHintsFor (shared : SharedState) (snapshot : UserAuthSnapshot)
    (request : MtprotoRequest) : MtprotoHints where
  stickyIp := shared.stickyUserByIp.lookup request.peer.ip
  preferred := request.preferredUser.bind snapshot.userIdByName
  stickyPrefix := shared.stickyUserByIpPrefix.lookup (ipPrefixHintKey request.peer.ip)
  recentUserRing := shared.recentUserRing
  recentUserRingSeq := shared.recentUserRingSeq

def mtprotoValidator (crypto : MtprotoCrypto) (request : MtprotoRequest) (entry : UserAuthEntry) :
    Option MtprotoCandidateValidation :=
  validateMtprotoSecretCandidate crypto request entry.secret

def searchMtprotoSnapshot (crypto : MtprotoCrypto) (shared : SharedState)
    (snapshot : UserAuthSnapshot) (request : MtprotoRequest) :
    Search × Option (Match MtprotoCandidateValidation) :=
  searchMtprotoUser snapshot (mtprotoValidator crypto request) request.overload
    (mtprotoHintsFor shared snapshot request)

section
variable {β : Type} {snapshot : UserAuthSnapshot} {validate : UserAuthEntry → Option β}
  {budget : Nat}

def validatedUsers (snapshot : UserAuthSnapshot) (validate : UserAuthEntry → Option β)
    (budget : Nat) : Search → List Nat → List Nat
  | _, [] => []
  | s, userId :: rest =>
    let (after, outcome) := tryUserId snapshot validate budget s userId
    (if s.checks < after.checks then [userId] else []) ++
      if outcome.isSome || after.exhausted then []
      else validatedUsers snapshot validate budget after rest

theorem tryAll_checks (s : Search) (userIds : List Nat) :
    (tryAll snapshot validate budget s userIds).1.checks =
      s.checks + (validatedUsers snapshot validate budget s userIds).length := by
  induction userIds generalizing s with
  | nil => rfl
  | cons userId _ ih =>
    unfold tryAll validatedUsers
    have counted : (tryUserId snapshot validate budget s userId).1.checks = s.checks ∨
        (tryUserId snapshot validate budget s userId).1.checks = s.checks + 1 := by
      obtain ⟨_, result⟩ | ⟨_, _, result⟩ | ⟨_, _, _, result⟩ | ⟨_, _, _, _, result⟩ :=
        @tryUserId_cases β snapshot validate budget s userId
      · exact .inl (by rw [result])
      · exact .inl (by rw [result])
      · exact .inl (by rw [result])
      · exact .inr (by rw [result])
    cases attempt : tryUserId snapshot validate budget s userId with
    | mk after outcome =>
      rw [attempt] at counted
      have spent : after.checks =
          s.checks + (if s.checks < after.checks then [userId] else []).length := by
        dsimp only at counted
        rcases counted with same | more
        · simp [same]
        · simp [more]
      cases outcome with
      | some => simpa using spent
      | none =>
        cases stopped : after.exhausted with
        | true => simpa [stopped] using spent
        | false =>
          simp only [stopped, Option.isSome_none, Bool.or_self, Bool.false_eq_true, if_false,
            List.length_append, ih after]
          omega

def Remembered (before userIds : List Nat) : Prop :=
  ∀ passed userId rest, userIds = passed ++ userId :: rest → userId ∈ before ++ passed →
    userId ∈ tracked (before ++ passed)

section
variable {before rest : List Nat} {userId : Nat} (remembered : Remembered before (userId :: rest))
include remembered

theorem Remembered.head (seen : userId ∈ before) : userId ∈ tracked before := by
  have first := remembered [] userId rest rfl
  rw [List.append_nil] at first
  exact first seen

theorem Remembered.tail : Remembered (before ++ [userId]) rest := by
  intro passed later remaining split
  have next := remembered (userId :: passed) later remaining (by rw [split]; rfl)
  rw [List.append_assoc]
  exact next

end

theorem Remembered.of_append {before first second : List Nat}
    (remembered : Remembered before (first ++ second)) : Remembered before first := by
  intro passed userId rest split
  exact remembered passed userId (rest ++ second) (by rw [split, List.append_assoc]; rfl)

theorem validatedUsers_distinct {before userIds : List Nat} {s : Search}
    (remembered : Remembered before userIds) (tried : s.tried = tracked before) :
    (validatedUsers snapshot validate budget s userIds).Nodup ∧
      ∀ userId ∈ validatedUsers snapshot validate budget s userIds, userId ∉ before := by
  induction userIds generalizing before s with
  | nil => exact ⟨List.nodup_nil, nofun⟩
  | cons userId rest ih =>
    have later (after : Search) (tried' : after.tried = tracked (before ++ [userId])) :
        (validatedUsers snapshot validate budget after rest).Nodup ∧
          ∀ other ∈ validatedUsers snapshot validate budget after rest,
            other ∉ before ∧ other ≠ userId := by
      obtain ⟨distinct, fresh⟩ := ih remembered.tail tried'
      refine ⟨distinct, fun other member => ?_⟩
      have absent := fresh other member
      rw [List.mem_append, List.mem_singleton, not_or] at absent
      exact absent
    unfold validatedUsers
    obtain ⟨_, result⟩ | ⟨_, seen, result⟩ | ⟨_, _, _, result⟩ | ⟨_, _, new, _, result⟩ :=
      @tryUserId_cases β snapshot validate budget s userId
    · simp [result]
    · have same : s.tried = tracked (before ++ [userId]) := by
        rw [tracked_append_singleton, ← tried, markCandidateIfNew, if_pos seen]
      obtain ⟨distinct, fresh⟩ := later s same
      simp only [result, Option.isSome_none, Bool.false_or, Nat.lt_irrefl, if_false,
        List.nil_append]
      split_ifs
      · simp
      · exact ⟨distinct, fun other member => (fresh other member).1⟩
    · obtain ⟨distinct, fresh⟩ :=
        later { s with tried := (markCandidateIfNew s.tried userId).2 }
          (by rw [tracked_append_singleton, ← tried])
      simp only [result, Option.isSome_none, Bool.false_or, Nat.lt_irrefl, if_false,
        List.nil_append]
      split_ifs
      · simp
      · exact ⟨distinct, fun other member => (fresh other member).1⟩
    · have unseen : userId ∉ before := by
        intro seen
        rw [tried] at new
        exact new (remembered.head seen)
      obtain ⟨distinct, fresh⟩ :=
        later { s with tried := (markCandidateIfNew s.tried userId).2, checks := s.checks + 1 }
          (by rw [tracked_append_singleton, ← tried])
      simp only [result, Nat.lt_succ_self, if_true]
      split_ifs
      · exact ⟨List.nodup_singleton userId, fun other member =>
          (List.mem_singleton.mp member) ▸ unseen⟩
      · refine ⟨List.nodup_cons.mpr ⟨fun member => (fresh userId member).2 rfl, distinct⟩, ?_⟩
        intro other member
        rcases List.mem_cons.mp member with rfl | later
        · exact unseen
        · exact (fresh other later).1

theorem checksSpent_distinct {before userIds : List Nat} (remembered : Remembered before userIds) :
    ∃ spent : List Nat, spent.Nodup ∧ spent.length = checksSpent snapshot before userIds ∧
      ∀ userId ∈ spent, userId ∈ userIds ∧ userId < snapshot.entries.length ∧ userId ∉ before := by
  induction userIds generalizing before with
  | nil => exact ⟨[], List.nodup_nil, rfl, nofun⟩
  | cons userId rest ih =>
    obtain ⟨spent, distinct, count, within⟩ := ih remembered.tail
    have outside : ∀ other ∈ spent,
        other ∈ rest ∧ other < snapshot.entries.length ∧ other ∉ before ∧ other ≠ userId := by
      intro other member
      obtain ⟨listed, known, absent⟩ := within other member
      rw [List.mem_append, List.mem_singleton, not_or] at absent
      exact ⟨listed, known, absent⟩
    rw [checksSpent]
    cases charged : spends snapshot before userId with
    | false =>
      refine ⟨spent, distinct, by rw [count]; simp, fun other member => ?_⟩
      obtain ⟨listed, known, absent, _⟩ := outside other member
      exact ⟨List.mem_cons_of_mem userId listed, known, absent⟩
    | true =>
      simp only [spends, Bool.and_eq_true, decide_eq_true_eq, Bool.not_eq_true',
        List.contains_eq_mem, decide_eq_false_iff_not] at charged
      refine ⟨userId :: spent, ?_, by rw [List.length_cons, count]; simp [Nat.add_comm], ?_⟩
      · exact List.nodup_cons.mpr ⟨fun member => (outside userId member).2.2.2 rfl, distinct⟩
      · intro other member
        rcases List.mem_cons.mp member with rfl | later
        · exact ⟨List.mem_cons_self, charged.1, fun seen => charged.2 (remembered.head seen)⟩
        · obtain ⟨listed, known, absent, _⟩ := outside other later
          exact ⟨List.mem_cons_of_mem userId listed, known, absent⟩

end

theorem length_eraseDups_le (userIds : List Nat) : userIds.eraseDups.length ≤ userIds.length := by
  induction userIds using List.reverseRecOn with
  | nil => exact le_rfl
  | append_singleton _ _ ih =>
    rw [eraseDups_append_singleton, List.length_append]
    split_ifs
    · exact ih.trans (Nat.le_add_right _ _)
    · rw [List.length_append]
      exact Nat.add_le_add_right ih _

theorem mem_tracked_of_few {early : List Nat} (few : early.length ≤ candidateHintTrackCap)
    (later : List Nat) {userId : Nat} (listed : userId ∈ early) :
    userId ∈ tracked (early ++ later) := by
  have short : early.eraseDups.length ≤ candidateHintTrackCap :=
    (length_eraseDups_le early).trans few
  unfold tracked
  rw [List.eraseDups_append, List.take_append, List.take_of_length_le short]
  exact List.mem_append_left _ (List.mem_eraseDups.mpr listed)

theorem remembered_of_few {early : List Nat} (few : early.length ≤ candidateHintTrackCap) (n : Nat) :
    Remembered [] (early ++ List.range n) := by
  intro passed userId rest split seen
  rw [List.nil_append] at seen ⊢
  rcases List.append_eq_append_iff.mp split with ⟨scanned, rfl, listing⟩ | ⟨left, rfl, _⟩
  · rcases List.mem_append.mp seen with hinted | repeated
    · exact mem_tracked_of_few few scanned hinted
    · -- The last scan lists every id once.
      have distinct := @List.nodup_range n
      rw [listing] at distinct
      exact absurd List.mem_cons_self ((List.nodup_append'.mp distinct).2.2 repeated)
  · have fewer : passed.length ≤ candidateHintTrackCap := by
      rw [List.length_append] at few
      omega
    have kept := mem_tracked_of_few fewer [] seen
    rw [List.append_nil] at kept
    exact kept

namespace MtprotoHints
variable (hints : MtprotoHints)

def early : List Nat :=
  hints.stickyIp.toList ++ hints.preferred.toList ++ hints.stickyPrefix.toList ++ hints.recentUsers

theorem early_few : hints.early.length ≤ candidateHintTrackCap := by
  have single (hint : Option Nat) : hint.toList.length ≤ 1 := by cases hint <;> simp
  have ring : hints.recentUsers.length ≤ recentUserRingScanLimit := by
    refine (List.length_filterMap_le _ _).trans ?_
    rw [List.length_range]
    exact Nat.min_le_right _ _
  have first := single hints.stickyIp
  have second := single hints.preferred
  have third := single hints.stickyPrefix
  simp only [early, List.length_append, candidateHintTrackCap]
  simp only [recentUserRingScanLimit] at ring
  omega

theorem candidateOrder_toHints (snapshot : UserAuthSnapshot) :
    candidateOrder snapshot hints.toHints = hints.early ++ List.range snapshot.entries.length := by
  simp [candidateOrder, toHints, early, recentUsers]

theorem hasHint_toHints : hints.toHints.hasHint = hints.hasHint := by
  simp [Hints.hasHint, hasHint, toHints, Bool.or_right_comm]

end MtprotoHints

section
variable {β : Type} {snapshot : UserAuthSnapshot} {validate : UserAuthEntry → Option β}

theorem tryHint_none {budget : Nat} (progress : Search × Option (Match β)) :
    tryHint snapshot validate budget progress none = progress := by
  unfold tryHint
  split
  · rename_i noHint
    cases noHint
  · rfl

theorem tryStage_nil {budget : Nat} (progress : Search × Option (Match β)) :
    tryStage snapshot validate budget progress [] = progress := by
  obtain ⟨s, outcome⟩ := progress
  cases outcome with
  | some => rfl
  | none =>
    unfold tryStage
    split_ifs
    · rfl
    · rfl

theorem searchMtprotoUser_eq_searchUser (overload : Bool) (hints : MtprotoHints) :
    searchMtprotoUser snapshot validate overload hints =
      searchUser snapshot validate overload hints.toHints := by
  unfold searchMtprotoUser searchUser
  rw [hints.hasHint_toHints]
  simp only [MtprotoHints.toHints, tryHint_none, Option.getD_none, tryStage_nil]
  rfl

theorem reachedWithinBudget_of_valid (hints : MtprotoHints) {entry : UserAuthEntry}
    (member : entry ∈ snapshot.entries) (valid : (validate entry).isSome) :
    ReachedWithinBudget snapshot validate hints.toHints := by
  obtain ⟨owner, present⟩ := List.getElem?_of_mem member
  have found : snapshot.entryById owner = some entry := present
  have accepted : authenticates snapshot validate owner = true := by
    simpa [authenticates, found] using valid
  unfold ReachedWithinBudget
  rw [hints.candidateOrder_toHints]
  generalize whole : hints.early ++ List.range snapshot.entries.length = order
  have remembered : Remembered [] order := whole ▸ remembered_of_few hints.early_few _
  rw [← List.takeWhile_append_dropWhile (p := fun userId => !authenticates snapshot validate userId)
    (l := order)] at remembered
  obtain ⟨spent, distinct, count, within⟩ := @checksSpent_distinct snapshot _ _ remembered.of_append
  -- The ids charged for are known, distinct, and none of them is the owner of the secret.
  have others : spent ⊆ (List.range snapshot.entries.length).erase owner := by
    intro userId charged
    obtain ⟨listed, known, _⟩ := within userId charged
    have missed := List.mem_takeWhile_imp listed
    rw [List.nodup_range.mem_erase_iff]
    refine ⟨?_, List.mem_range.mpr known⟩
    rintro rfl
    rw [accepted] at missed
    cases missed
  have fewer := (distinct.subperm others).length_le
  rw [count, List.length_erase_of_mem (List.mem_range.mpr (UserAuthSnapshot.lt_of_entryById found)),
    List.length_range] at fewer
  have known := UserAuthSnapshot.lt_of_entryById found
  omega

end

theorem searchMtprotoUser_eq_tryAll {β : Type} {snapshot : UserAuthSnapshot}
    {validate : UserAuthEntry → Option β} (overload : Bool) (hints : MtprotoHints) :
    searchMtprotoUser snapshot validate overload hints =
      tryAll snapshot validate
        (budgetForValidation snapshot.entries.length overload hints.hasHint) {}
        (hints.early ++ List.range snapshot.entries.length) := by
  rw [searchMtprotoUser_eq_searchUser, searchUser_eq_tryAll, hints.hasHint_toHints,
    hints.candidateOrder_toHints]

variable (crypto : MtprotoCrypto) (shared : SharedState) (snapshot : UserAuthSnapshot)
  (request : MtprotoRequest)

def mtprotoValidations : List Nat :=
  let hints := mtprotoHintsFor shared snapshot request
  validatedUsers snapshot (mtprotoValidator crypto request)
    (budgetForValidation snapshot.entries.length request.overload hints.hasHint) {}
    (hints.early ++ List.range snapshot.entries.length)

theorem mtprotoValidations_nodup : (mtprotoValidations crypto shared snapshot request).Nodup :=
  (validatedUsers_distinct (remembered_of_few (MtprotoHints.early_few _) _) rfl).1

theorem searchMtprotoSnapshot_checks :
    (searchMtprotoSnapshot crypto shared snapshot request).1.checks =
      (mtprotoValidations crypto shared snapshot request).length := by
  rw [searchMtprotoSnapshot, searchMtprotoUser_eq_tryAll, tryAll_checks]
  exact Nat.zero_add _

theorem mtproto_search_agrees_with_scan (crypto : MtprotoCrypto) (shared : SharedState)
    (snapshot : UserAuthSnapshot) (request : MtprotoRequest) (calm : request.overload = false) :
    (mtprotoValidations crypto shared snapshot request).Nodup ∧
    (searchMtprotoSnapshot crypto shared snapshot request).1.checks =
      (mtprotoValidations crypto shared snapshot request).length ∧
    ((searchMtprotoSnapshot crypto shared snapshot request).2.isSome ↔
      ∃ entry ∈ snapshot.entries, (validateMtprotoSecretCandidate crypto request entry.secret).isSome) ∧
    ∀ found, (searchMtprotoSnapshot crypto shared snapshot request).2 = some found →
      snapshot.entryById found.userId = some found.entry ∧
        validateMtprotoSecretCandidate crypto request found.entry.secret = some found.candidate := by
  refine ⟨mtprotoValidations_nodup crypto shared snapshot request,
    searchMtprotoSnapshot_checks crypto shared snapshot request, ?_, ?_⟩
  · rw [searchMtprotoSnapshot, calm, searchMtprotoUser_eq_searchUser, searchUser_isSome_iff]
    constructor
    · exact And.left
    · rintro ⟨entry, member, valid⟩
      exact ⟨⟨entry, member, valid⟩, reachedWithinBudget_of_valid _ member valid⟩
  · intro found matched
    rw [searchMtprotoSnapshot, searchMtprotoUser_eq_tryAll] at matched
    exact tryAll_match matched

def threeUsers : UserAuthSnapshot where
  entries := [⟨[97], List.replicate 16 1⟩, ⟨[98], List.replicate 16 2⟩, ⟨[99], List.replicate 16 3⟩]

def thirdSecretCrypto : MtprotoCrypto where
  sha256 input := Vector.replicate 32 (input.getLastD 0)
  aesCtr key _ block := if key = Vector.replicate 32 3 then block else Vector.replicate 64 0

def abridgedRequest : MtprotoRequest where
  handshake := ⟨⟨List.replicate 56 0 ++ List.replicate 4 0xef ++ List.replicate 4 0⟩, rfl⟩
  peer := ⟨.ofOctets 10 0 0 1, 443⟩
  modes := { classic := true }
  isTls := false
  preferredUser := none
  overload := false

def misleadingHints : SharedState where
  stickyUserByIp := (∅ : Dict IpAddr Nat).insert (.ofOctets 10 0 0 1) 1
  recentUserRing := [6, 2]

theorem third_user_found_behind_hints :
    mtprotoValidations thirdSecretCrypto misleadingHints threeUsers abridgedRequest = [1, 0, 2] ∧
      ∃ found, (searchMtprotoSnapshot thirdSecretCrypto misleadingHints threeUsers
        abridgedRequest).2 = some found ∧ threeUsers.entryById found.userId = some found.entry ∧
        validateMtprotoSecretCandidate thirdSecretCrypto abridgedRequest found.entry.secret =
          some found.candidate := by
  obtain ⟨_, _, agrees, returned⟩ := mtproto_search_agrees_with_scan thirdSecretCrypto
    misleadingHints threeUsers abridgedRequest rfl
  have valid : ∃ entry ∈ threeUsers.entries,
      (validateMtprotoSecretCandidate thirdSecretCrypto abridgedRequest entry.secret).isSome := by
    decide +kernel
  obtain ⟨found, matched⟩ := Option.isSome_iff_exists.mp (agrees.mpr valid)
  exact ⟨by decide +kernel, found, matched, returned found matched⟩

end Telemt.Handshake
