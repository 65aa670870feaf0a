import Telemt.Handshake.UserAuth

namespace Telemt.Handshake
open Foundation ClientHello

/-!
# The search for the user of a connection

Hints, index rows, the ring of recent users and at last every user are tried in turn, under a budget
of validations.
-/

def candidateHintTrackCap : Nat := 64

def overloadCandidateBudgetHinted : Nat := 16

def overloadCandidateBudgetUnhinted : Nat := 8

def recentUserRingScanLimit : Nat := 32

def markCandidateIfNew (tried : List Nat) (userId : Nat) : Bool × List Nat :=
  if userId ∈ tried then (false, tried)
  else (true, if tried.length < candidateHintTrackCap then tried ++ [userId] else tried)

def budgetForValidation (totalUsers : Nat) (overload hasHint : Bool) : Nat :=
  if totalUsers = 0 then 0
  else if !overload then totalUsers
  else
    let cap := if hasHint then overloadCandidateBudgetHinted else overloadCandidateBudgetUnhinted
    min totalUsers (max cap 1)

structure Search where
  tried : List Nat := []
  checks : Nat := 0
  exhausted : Bool := false

structure Match (β : Type) where
  userId : Nat
  entry : UserAuthEntry
  candidate : β

section
variable {β : Type} (snapshot : UserAuthSnapshot) (validate : UserAuthEntry → Option β)
  (budget : Nat)

def tryUserId (s : Search) (userId : Nat) : Search × Option (Match β) :=
  if budget ≤ s.checks then ({ s with exhausted := true }, none)
  else
    match markCandidateIfNew s.tried userId with
    | (false, tried) => ({ s with tried := tried }, none)
    | (true, tried) =>
      match snapshot.entryById userId with
      | none => ({ s with tried := tried }, none)
      | some entry =>
        ({ s with tried := tried, checks := s.checks + 1 },
          (validate entry).map fun candidate => ⟨userId, entry, candidate⟩)

def tryHint (progress : Search × Option (Match β)) (hint : Option Nat) :
    Search × Option (Match β) :=
  match progress.2, hint with
  | none, some userId => tryUserId snapshot validate budget progress.1 userId
  | _, _ => progress

def tryAll : Search → List Nat → Search × Option (Match β)
  | s, [] => (s, none)
  | s, userId :: rest =>
    match tryUserId snapshot validate budget s userId with
    | (s, some found) => (s, some found)
    | (s, none) => if s.exhausted then (s, none) else tryAll s rest

def tryStage (progress : Search × Option (Match β)) (userIds : List Nat) :
    Search × Option (Match β) :=
  if progress.2.isSome || progress.1.exhausted then progress
  else tryAll snapshot validate budget progress.1 userIds

end

structure Hints where
  stickyIp : Option Nat
  preferred : Option Nat
  stickySni : Option Nat
  stickyPrefix : Option Nat
  sniCandidates : Option (List Nat)
  sniInitialCandidates : Option (List Nat)
  recentUserRing : List Nat
  recentUserRingSeq : Nat

namespace Hints

def hasHint (hints : Hints) : Bool :=
  hints.stickyIp.isSome || hints.preferred.isSome || hints.stickySni.isSome ||
    hints.stickyPrefix.isSome || hints.sniCandidates.any (!·.isEmpty) ||
    hints.sniInitialCandidates.any (!·.isEmpty)

-- A ring slot holds the id plus one; zero is a slot never written.
def recentUsers (hints : Hints) : List Nat :=
  let ring := hints.recentUserRing
  (List.range (min ring.length recentUserRingScanLimit)).filterMap fun offset =>
    match ring.getD ((hints.recentUserRingSeq + ring.length - 1 - offset) % ring.length) 0 with
    | 0 => none
    | userId + 1 => some userId

end Hints

def searchUser {β : Type} (snapshot : UserAuthSnapshot) (validate : UserAuthEntry → Option β)
    (overload : Bool) (hints : Hints) : Search × Option (Match β) :=
  let budget := budgetForValidation snapshot.entries.length overload hints.hasHint
  let tryHint := tryHint snapshot validate budget
  let tryStage := tryStage snapshot validate budget
  let progress := tryHint ({}, none) hints.stickyIp
  let progress := tryHint progress hints.preferred
  let progress := tryHint progress hints.stickySni
  let progress := tryHint progress hints.stickyPrefix
  let progress := tryStage progress (hints.sniCandidates.getD [])
  let progress := tryStage progress (hints.sniInitialCandidates.getD [])
  let progress := tryStage progress hints.recentUsers
  tryStage progress (List.range snapshot.entries.length)

def candidateOrder (snapshot : UserAuthSnapshot) (hints : Hints) : List Nat :=
  hints.stickyIp.toList ++ hints.preferred.toList ++ hints.stickySni.toList ++
    hints.stickyPrefix.toList ++ hints.sniCandidates.getD [] ++
    hints.sniInitialCandidates.getD [] ++ hints.recentUsers ++
    List.range snapshot.entries.length

section
variable {β : Type} {snapshot : UserAuthSnapshot} {validate : UserAuthEntry → Option β}
  {budget : Nat}

theorem tryUserId_cases (s : Search) (userId : Nat) :
    (budget ≤ s.checks ∧
      tryUserId snapshot validate budget s userId = ({ s with exhausted := true }, none)) ∨
    (s.checks < budget ∧ userId ∈ s.tried ∧
      tryUserId snapshot validate budget s userId = (s, none)) ∨
    (s.checks < budget ∧ userId ∉ s.tried ∧ snapshot.entryById userId = none ∧
      tryUserId snapshot validate budget s userId =
        ({ s with tried := (markCandidateIfNew s.tried userId).2 }, none)) ∨
    ∃ entry, s.checks < budget ∧ userId ∉ s.tried ∧ snapshot.entryById userId = some entry ∧
      tryUserId snapshot validate budget s userId =
        ({ s with tried := (markCandidateIfNew s.tried userId).2, checks := s.checks + 1 },
          (validate entry).map fun candidate => ⟨userId, entry, candidate⟩) := by
  by_cases spent : budget ≤ s.checks
  · exact .inl ⟨spent, by rw [tryUserId, if_pos spent]⟩
  · have afford := Nat.lt_of_not_le spent
    refine .inr ?_
    by_cases seen : userId ∈ s.tried
    · refine .inl ⟨afford, seen, ?_⟩
      rw [tryUserId, if_neg spent, markCandidateIfNew, if_pos seen]
    · refine .inr ?_
      cases found : snapshot.entryById userId with
      | none =>
        refine .inl ⟨afford, seen, rfl, ?_⟩
        simp only [tryUserId, if_neg spent, markCandidateIfNew, if_neg seen, found]
      | some entry =>
        refine .inr ⟨entry, afford, seen, rfl, ?_⟩
        simp only [tryUserId, if_neg spent, markCandidateIfNew, if_neg seen, found]

theorem tryAll_exhausted {s : Search} (fresh : s.exhausted = false) (userIds : List Nat)
    (exhausted : (tryAll snapshot validate budget s userIds).1.exhausted = true) :
    budget ≤ (tryAll snapshot validate budget s userIds).1.checks ∧
      (tryAll snapshot validate budget s userIds).2 = none := by
  induction userIds generalizing s with
  | nil =>
    rw [tryAll, fresh] at exhausted
    cases exhausted
  | cons userId _ ih =>
    unfold tryAll at exhausted ⊢
    obtain ⟨spent, result⟩ | ⟨_, _, result⟩ | ⟨_, _, _, result⟩ | ⟨entry, _, _, _, result⟩ :=
      @tryUserId_cases β snapshot validate budget s userId
    · rw [result]
      exact ⟨spent, rfl⟩
    · simp only [result, fresh] at exhausted ⊢
      exact ih fresh exhausted
    · simp only [result, fresh] at exhausted ⊢
      exact ih rfl exhausted
    · cases found : validate entry with
      | some =>
        simp only [result, found, Option.map_some, fresh] at exhausted
        cases exhausted
      | none =>
        simp only [result, found, Option.map_none, fresh] at exhausted ⊢
        exact ih rfl exhausted

variable {s : Search}

theorem tryAll_append (fresh : s.exhausted = false) (first second : List Nat) :
    tryAll snapshot validate budget s (first ++ second) =
      tryStage snapshot validate budget (tryAll snapshot validate budget s first) second := by
  induction first generalizing s with
  | nil =>
    rw [List.nil_append, tryAll, tryStage, fresh]
    rfl
  | cons userId _ ih =>
    rw [List.cons_append, tryAll, tryAll]
    cases attempt : tryUserId snapshot validate budget s userId with
    | mk s' outcome =>
      cases outcome with
      | some => simp [tryStage]
      | none =>
        cases stopped : s'.exhausted with
        | true => simp [tryStage, stopped]
        | false => simpa [stopped] using ih stopped

theorem tryHint_tryAll (fresh : s.exhausted = false) (userIds : List Nat) (hint : Option Nat) :
    tryHint snapshot validate budget (tryAll snapshot validate budget s userIds) hint =
      tryAll snapshot validate budget s (userIds ++ hint.toList) := by
  rw [tryAll_append fresh]
  have spent := @tryAll_exhausted β snapshot validate budget s fresh userIds
  generalize tryAll snapshot validate budget s userIds = progress at spent ⊢
  obtain ⟨s', outcome⟩ := progress
  cases hint with
  | none =>
    cases outcome <;> cases stopped : s'.exhausted <;> simp [tryHint, tryStage, tryAll, stopped]
  | some userId =>
    cases outcome with
    | some => simp [tryHint, tryStage]
    | none =>
      cases stopped : s'.exhausted with
      | true =>
        -- Trying a hint once the budget is gone only sets the flag again.
        have gone : budget ≤ s'.checks := (spent stopped).1
        have same : { s' with exhausted := true } = s' := by rw [← stopped]
        simp [tryHint, tryStage, stopped, tryUserId, gone, same]
      | false =>
        simp only [tryHint, tryStage, Option.isSome_none, stopped, Bool.or_self,
          Bool.false_eq_true, if_false, Option.toList_some, tryAll]
        cases attempt : tryUserId snapshot validate budget s' userId with
        | mk _ outcome => cases outcome <;> simp

theorem searchUser_eq_tryAll (overload : Bool) (hints : Hints) :
    searchUser snapshot validate overload hints =
      tryAll snapshot validate
        (budgetForValidation snapshot.entries.length overload hints.hasHint) {}
        (candidateOrder snapshot hints) := by
  have start : (({}, none) : Search × Option (Match β)) =
      tryAll snapshot validate
        (budgetForValidation snapshot.entries.length overload hints.hasHint) {} [] := rfl
  unfold searchUser candidateOrder
  rw [start]
  simp only [tryHint_tryAll, ← tryAll_append, List.nil_append]

variable (before : List Nat)

def tracked : List Nat := before.eraseDups.take candidateHintTrackCap

def spends (snapshot : UserAuthSnapshot) (before : List Nat) (userId : Nat) : Bool :=
  decide (userId < snapshot.entries.length) && !(tracked before).contains userId

-- Validations spent on a list of candidates none of which authenticates, listed after `before`.
def checksSpent (snapshot : UserAuthSnapshot) : List Nat → List Nat → Nat
  | _, [] => 0
  | before, userId :: rest =>
    (if spends snapshot before userId then 1 else 0) +
      checksSpent snapshot (before ++ [userId]) rest

def authenticates (snapshot : UserAuthSnapshot) (validate : UserAuthEntry → Option β)
    (userId : Nat) : Bool :=
  ((snapshot.entryById userId).bind validate).isSome

theorem checksSpent_eq_zero {before userIds : List Nat}
    (unknown : ∀ userId ∈ userIds, snapshot.entries.length ≤ userId) :
    checksSpent snapshot before userIds = 0 := by
  induction userIds generalizing before with
  | nil => rfl
  | cons userId _ ih =>
    have beyond : spends snapshot before userId = false := by
      simp [spends, Nat.not_lt.mpr (unknown userId List.mem_cons_self)]
    rw [checksSpent, beyond, ih fun later member => unknown later (List.mem_cons_of_mem _ member)]
    rfl

theorem eraseDups_append_singleton (userId : Nat) : (before ++ [userId]).eraseDups =
      if userId ∈ before then before.eraseDups else before.eraseDups ++ [userId] := by
  rw [List.eraseDups_append]
  split_ifs with member
  · simp [List.removeAll, member]
  · have single : [userId].eraseDups = [userId] := by
      rfl
    simp [List.removeAll, member, single]

theorem tracked_append_singleton (userId : Nat) :
    tracked (before ++ [userId]) = (markCandidateIfNew (tracked before) userId).2 := by
  have member : userId ∈ before ↔ userId ∈ before.eraseDups := List.mem_eraseDups.symm
  unfold tracked markCandidateIfNew
  rw [eraseDups_append_singleton]
  by_cases short : before.eraseDups.length < candidateHintTrackCap
  · rw [List.take_of_length_le short.le]
    by_cases seen : userId ∈ before
    · rw [if_pos seen, if_pos (member.mp seen), List.take_of_length_le short.le]
    · rw [if_neg seen, if_neg (fun h => seen (member.mpr h)), if_pos short]
      apply List.take_of_length_le
      rw [List.length_append]
      exact short
  · -- The list of tried ids is full: nothing is added, whether or not the id was listed before.
    have full : candidateHintTrackCap ≤ before.eraseDups.length := Nat.le_of_not_lt short
    have kept : ¬(before.eraseDups.take candidateHintTrackCap).length < candidateHintTrackCap := by
      rw [List.length_take, Nat.min_eq_left full]
      exact Nat.lt_irrefl _
    split_ifs
    · rfl
    · rfl
    · exact List.take_append_of_le_length full
    · exact List.take_append_of_le_length full

theorem tryAll_isSome_iff (userIds : List Nat)
    (remembered : s.tried = tracked before) (fresh : s.exhausted = false)
    (failed : ∀ userId ∈ before, authenticates snapshot validate userId = false) :
    (tryAll snapshot validate budget s userIds).2.isSome ↔
      (∃ userId ∈ userIds, authenticates snapshot validate userId) ∧
        s.checks + checksSpent snapshot before
          (userIds.takeWhile fun userId => !authenticates snapshot validate userId) < budget := by
  induction userIds generalizing before s with
  | nil => simp [tryAll]
  | cons userId rest ih =>
    have next (s' : Search) (missed : authenticates snapshot validate userId = false)
        (attempt : tryUserId snapshot validate budget s userId = (s', none))
        (remembered' : s'.tried = tracked (before ++ [userId])) (fresh' : s'.exhausted = false)
        (cost : s'.checks = s.checks + if spends snapshot before userId then 1 else 0) :
        (tryAll snapshot validate budget s (userId :: rest)).2.isSome ↔
          (∃ candidate ∈ userId :: rest, authenticates snapshot validate candidate) ∧
            s.checks + checksSpent snapshot before ((userId :: rest).takeWhile fun userId =>
              !authenticates snapshot validate userId) < budget := by
      have failed' : ∀ candidate ∈ before ++ [userId],
          authenticates snapshot validate candidate = false := by
        intro candidate member
        rcases List.mem_append.mp member with old | last
        · exact failed candidate old
        · exact (List.mem_singleton.mp last) ▸ missed
      have later := ih (before ++ [userId]) remembered' fresh' failed'
      rw [tryAll, attempt]
      simp only [fresh', Bool.false_eq_true, if_false, later, List.takeWhile_cons, missed,
        Bool.not_false, if_true, checksSpent, cost, List.exists_mem_cons_iff, false_or,
        Nat.add_assoc]
    obtain ⟨_, result⟩ | ⟨_, seen, result⟩ | ⟨_, _, missing, result⟩ |
        ⟨entry, afford, new, present, result⟩ :=
      @tryUserId_cases β snapshot validate budget s userId
    · rw [tryAll, result]
      simp only [if_true, Option.isSome_none, Bool.false_eq_true, false_iff, not_and]
      intro _
      omega
    · have listed : userId ∈ before :=
        List.mem_eraseDups.mp (List.mem_of_mem_take (remembered ▸ seen))
      refine next s (failed userId listed) result ?_ fresh ?_
      · rw [tracked_append_singleton, ← remembered, markCandidateIfNew, if_pos seen]
      · simp [spends, ← remembered, seen]
    · refine next _ ?_ result ?_ fresh ?_
      · simp [authenticates, missing]
      · rw [tracked_append_singleton, ← remembered]
      · have beyond := UserAuthSnapshot.entryById_eq_none.mp missing
        simp [spends, Nat.not_lt.mpr beyond]
    · have within := UserAuthSnapshot.lt_of_entryById present
      cases found : validate entry with
      | some =>
        have accepted : authenticates snapshot validate userId = true := by
          simp [authenticates, present, found]
        rw [tryAll, result]
        simp [found, accepted, checksSpent, afford]
      | none =>
        rw [found, Option.map_none] at result
        refine next _ ?_ result ?_ fresh ?_
        · simp [authenticates, present, found]
        · rw [tracked_append_singleton, ← remembered]
        · simp [spends, ← remembered, within, new]

theorem tryAll_match {userIds : List Nat} {found : Match β}
    (matched : (tryAll snapshot validate budget s userIds).2 = some found) :
    snapshot.entryById found.userId = some found.entry ∧
      validate found.entry = some found.candidate := by
  induction userIds generalizing s with
  | nil => cases matched
  | cons userId _ ih =>
    rw [tryAll] at matched
    obtain ⟨_, result⟩ | ⟨_, _, result⟩ | ⟨_, _, _, result⟩ | ⟨entry, _, _, present, result⟩ :=
      @tryUserId_cases β snapshot validate budget s userId
    · rw [result] at matched
      cases matched
    · simp only [result] at matched
      split_ifs at matched
      exact ih matched
    · simp only [result] at matched
      split_ifs at matched
      exact ih matched
    · cases checked : validate entry with
      | some =>
        simp only [result, checked, Option.map_some, Option.some.injEq] at matched
        subst matched
        exact ⟨present, checked⟩
      | none =>
        simp only [result, checked, Option.map_none] at matched
        split_ifs at matched
        exact ih matched

end

end Telemt.Handshake
