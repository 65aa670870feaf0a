import Telemt.Handshake.Handle

namespace Telemt.Handshake
open Foundation ClientHello

/-! # Completeness of the user search -/

theorem authenticateBySnapshot_snd {env : Env} {request : Request} {parsed : ParsedTlsAuthMaterial}
    (material : parsedMaterial env request = some parsed) (shared : SharedState)
    (snapshot : UserAuthSnapshot) :
    (authenticateBySnapshot env shared snapshot request).2 =
      (searchUser snapshot (validator env request parsed) request.overload
        (hintsFor env shared snapshot request)).2.map fun found =>
          ⟨found.entry.user, some found.userId, found.candidate.digest⟩ := by
  rw [authenticateBySnapshot, material]

theorem candidateOrder_all {snapshot : UserAuthSnapshot} {hints : Hints} {userId : Nat}
    (within : userId < snapshot.entries.length) : userId ∈ candidateOrder snapshot hints :=
  List.mem_append_right _ (List.mem_range.mpr within)

variable {β : Type}

theorem exists_authenticates_iff {snapshot : UserAuthSnapshot} {hints : Hints}
    {validate : UserAuthEntry → Option β} :
    (∃ userId ∈ candidateOrder snapshot hints, authenticates snapshot validate userId) ↔
      ∃ entry ∈ snapshot.entries, (validate entry).isSome := by
  constructor
  · rintro ⟨userId, _, accepted⟩
    cases present : snapshot.entryById userId with
    | none => simp [authenticates, present] at accepted
    | some entry =>
      refine ⟨entry, List.mem_of_getElem? present, ?_⟩
      simpa [authenticates, present] using accepted
  · rintro ⟨entry, member, accepted⟩
    obtain ⟨userId, present⟩ := List.getElem?_of_mem member
    have found : snapshot.entryById userId = some entry := present
    refine ⟨userId, candidateOrder_all (UserAuthSnapshot.lt_of_entryById found), ?_⟩
    simpa [authenticates, found] using accepted

variable (snapshot : UserAuthSnapshot)

def ReachedWithinBudget (validate : UserAuthEntry → Option β) (hints : Hints) : Prop :=
  checksSpent snapshot [] ((candidateOrder snapshot hints).takeWhile fun userId =>
    !authenticates snapshot validate userId) < snapshot.entries.length

instance (validate : UserAuthEntry → Option β)
    (hints : Hints) : Decidable (ReachedWithinBudget snapshot validate hints) :=
  inferInstanceAs (Decidable (_ < _))

theorem searchUser_isSome_iff (validate : UserAuthEntry → Option β) (hints : Hints) :
    (searchUser snapshot validate false hints).2.isSome ↔
      (∃ entry ∈ snapshot.entries, (validate entry).isSome) ∧
        ReachedWithinBudget snapshot validate hints := by
  have budget : budgetForValidation snapshot.entries.length false hints.hasHint =
      snapshot.entries.length := by
    by_cases empty : snapshot.entries.length = 0
    · rw [budgetForValidation, if_pos empty, empty]
    · rw [budgetForValidation, if_neg empty]
      rfl
  rw [searchUser_eq_tryAll, budget, tryAll_isSome_iff [] _ rfl rfl (by simp),
    exists_authenticates_iff, Nat.zero_add]
  rfl

theorem snapshot_search_agrees_with_scan_iff (env : Env) (shared : SharedState)
    (snapshot : UserAuthSnapshot) (request : Request) (parsed : ParsedTlsAuthMaterial)
    (material : parsedMaterial env request = some parsed) (calm : request.overload = false) :
    (((authenticateBySnapshot env shared snapshot request).2.isSome ↔
        ∃ entry ∈ snapshot.entries, (validator env request parsed entry).isSome) ∧
      ∀ who, (authenticateBySnapshot env shared snapshot request).2 = some who →
        ∃ userId entry, who.userId = some userId ∧ snapshot.entryById userId = some entry ∧
          who.user = entry.user ∧ (validator env request parsed entry).isSome) ↔
    ((∃ entry ∈ snapshot.entries, (validator env request parsed entry).isSome) →
      ReachedWithinBudget snapshot (validator env request parsed)
        (hintsFor env shared snapshot request)) := by
  have result := authenticateBySnapshot_snd material shared snapshot
  rw [calm] at result
  have returned : ∀ who, (authenticateBySnapshot env shared snapshot request).2 = some who →
      ∃ userId entry, who.userId = some userId ∧ snapshot.entryById userId = some entry ∧
        who.user = entry.user ∧ (validator env request parsed entry).isSome := by
    intro who authenticated
    rw [result, searchUser_eq_tryAll] at authenticated
    obtain ⟨found, matched, rfl⟩ := Option.map_eq_some_iff.mp authenticated
    obtain ⟨present, accepted⟩ := tryAll_match matched
    exact ⟨found.userId, found.entry, rfl, present, rfl, Option.isSome_of_eq_some accepted⟩
  have found : (authenticateBySnapshot env shared snapshot request).2.isSome ↔ _ :=
    (by rw [result, Option.isSome_map] :
      (authenticateBySnapshot env shared snapshot request).2.isSome ↔ _).trans
      (searchUser_isSome_iff snapshot (validator env request parsed)
        (hintsFor env shared snapshot request))
  rw [found]
  constructor
  · intro agrees valid
    exact (agrees.1.mpr valid).2
  · intro reached
    exact ⟨⟨And.left, fun valid => ⟨valid, reached valid⟩⟩, returned⟩

def crowdedUser (i : Nat) : Text := [97, UInt8.ofNat (48 + i)]

def crowdedSecret (i : Nat) : Text :=
  List.replicate 30 48 ++ [UInt8.ofNat (48 + i / 10), UInt8.ofNat (48 + i % 10)]

def lateUser : Text := [98]

def lateSecret : Text := List.replicate 32 102

def crowdedUsers : Dict Text Text where
  entries := (List.range 65).map (fun i => ⟨crowdedUser i, crowdedSecret i⟩) ++
    [⟨lateUser, lateSecret⟩]
  nodupKeys := by
    unfold List.NodupKeys
    decide +kernel

def domain : Text := [97, 46, 99, 111, 109]

def hello : Bytes :=
  [22, 3, 1, 0, 61, 1, 0, 0, 57, 3, 3, 1, 1, 1, 1, 1, 1, 1, 1, 1, 1, 1, 1, 1, 1, 1, 1, 1, 1, 1,
    1, 1, 1, 1, 1, 1, 1, 1, 1, 1, 1, 1, 1, 0, 0, 2, 19, 1, 1, 0, 0, 14, 0, 0, 0, 10, 0, 8, 0, 0,
    5, 97, 46, 99, 111, 109]

-- Agrees with the digest of `hello`, and hides the timestamp 1000, under the last secret only.
def lateHmac (secret _message : Bytes) : Vector UInt8 32 :=
  if secret = List.replicate 16 255 then ⟨⟨List.replicate 28 1 ++ [0xe9, 2, 1, 1]⟩, rfl⟩
  else ⟨⟨List.replicate 32 0⟩, rfl⟩

def lateEnv : Env where
  hmac := lateHmac
  sniHash := leNat
  shardHash := leNat
  epoch := 0

def helloRequest (users : Dict Text Text) : Request where
  handshake := hello
  peer := ⟨.v4 ⟨⟨[10, 0, 0, 1]⟩, rfl⟩, 443⟩
  config := {
    access := { users := users, replayWindowSecs := 1800 }
    censorship := { tlsDomain := domain }
    runtimeUserAuth := (UserAuthSnapshot.fromUsers lateEnv.sniHash users).toOption }
  now := 1000 * 1000000000
  addNow := 1000 * 1000000000
  throttled := false
  overload := false
  written := true

def fewUsers : Dict Text Text where
  entries := [⟨crowdedUser 0, crowdedSecret 0⟩, ⟨lateUser, lateSecret⟩]
  nodupKeys := by
    unfold List.NodupKeys
    decide

def fewSnapshot : UserAuthSnapshot :=
  (UserAuthSnapshot.fromUsers lateEnv.sniHash fewUsers).toOption.getD {}

theorem late_user_found_among_few :
    (authenticateBySnapshot lateEnv {} fewSnapshot (helloRequest fewUsers)).2.isSome ∧
      ∃ parsed, parsedMaterial lateEnv (helloRequest fewUsers) = some parsed ∧
        (((authenticateBySnapshot lateEnv {} fewSnapshot (helloRequest fewUsers)).2.isSome ↔
          ∃ entry ∈ fewSnapshot.entries,
            (validator lateEnv (helloRequest fewUsers) parsed entry).isSome) ∧
        ∀ who,
          (authenticateBySnapshot lateEnv {} fewSnapshot (helloRequest fewUsers)).2 =
            some who →
          ∃ userId entry, who.userId = some userId ∧ fewSnapshot.entryById userId = some entry ∧
            who.user = entry.user ∧
              (validator lateEnv (helloRequest fewUsers) parsed entry).isSome) := by
  have material : (parsedMaterial lateEnv (helloRequest fewUsers)).isSome := by
    decide +kernel
  have reached : ∀ parsed ∈ parsedMaterial lateEnv (helloRequest fewUsers),
      ReachedWithinBudget fewSnapshot (validator lateEnv (helloRequest fewUsers) parsed)
        (hintsFor lateEnv {} fewSnapshot (helloRequest fewUsers)) := by
    decide +kernel
  obtain ⟨parsed, material⟩ := Option.isSome_iff_exists.mp material
  refine ⟨by decide +kernel, parsed, material, ?_⟩
  exact (snapshot_search_agrees_with_scan_iff lateEnv {} fewSnapshot (helloRequest fewUsers)
    parsed material rfl).mpr fun _ => reached parsed material

def freshProxy : Proxy := ⟨{}, .new 65536 (Duration.fromSecs 1800)⟩

def crowdedSnapshot : UserAuthSnapshot :=
  (UserAuthSnapshot.fromUsers lateEnv.sniHash crowdedUsers).toOption.getD {}

-- The first letter brings in ids 0 to 64; id 64 no longer fits the list of tried ids, is validated
-- a second time by the last scan, and uses up the validation that id 65 needed.
theorem crowd_locks_out_late_user :
    (UserAuthSnapshot.fromUsers lateEnv.sniHash crowdedUsers).isOk ∧
      (∃ parsed ∈ parsedMaterial lateEnv (helloRequest crowdedUsers),
        ∃ entry ∈ crowdedSnapshot.entries,
          (validator lateEnv (helloRequest crowdedUsers) parsed entry).isSome) ∧
      (handleTlsHandshake lateEnv freshProxy (helloRequest crowdedUsers)).2 = .badClient := by
  refine ⟨by decide +kernel, ?_, by decide +kernel⟩
  have scanned : (parsedMaterial lateEnv (helloRequest crowdedUsers)).any (fun parsed =>
      crowdedSnapshot.entries.any fun entry =>
        (validator lateEnv (helloRequest crowdedUsers) parsed entry).isSome) = true := by
    decide +kernel
  cases material : parsedMaterial lateEnv (helloRequest crowdedUsers) with
  | none =>
    rw [material] at scanned
    cases scanned
  | some parsed =>
    rw [material] at scanned
    exact ⟨parsed, rfl, List.any_eq_true.mp scanned⟩

end Telemt.Handshake
