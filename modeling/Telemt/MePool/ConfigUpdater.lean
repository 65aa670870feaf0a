import Mathlib.Data.Finmap
import Telemt.Foundation.Run
import Telemt.MePool.Reinit

namespace Telemt.MePool
open Foundation

/-!
# Updating the endpoint maps

`update_proxy_maps` and the part of `run_update_cycle` that leads to it. Maps are equal when they have
the same entries. The two families are independent of each other, so each one is replaced and mirrored
in one go. The index of endpoints, the secret and the reinit trigger are left out.
-/

inductive SnapshotApplyOutcome
  | appliedChanged
  | appliedNoDelta
  | rejectedEmpty
  deriving DecidableEq, Repr

def mirrorKey (acc : ProxyMap × Bool) (k : Int) : ProxyMap × Bool :=
  if 0 < k ∧ -k ∉ acc.1 then
    (acc.1.lookup k).elim acc fun addrs => (acc.1.insert (-k) addrs, true)
  else acc

/-- Also says whether an entry was added. -/
def mirrorPositives (map : ProxyMap) : ProxyMap × Bool := map.keys.foldl mirrorKey (map, false)

def isEmpty (map : ProxyMap) : Bool := map.entries.isEmpty

def replaceMap (map new : ProxyMap) : ProxyMap × Bool :=
  if !isEmpty new ∧ map.toFinmap ≠ new.toFinmap then (new, true) else (map, false)

def applyFamily (map : ProxyMap) (new : Option ProxyMap) : ProxyMap × Bool :=
  let replaced := new.elim (map, false) (replaceMap map)
  let mirrored := mirrorPositives replaced.1
  (mirrored.1, replaced.2 || mirrored.2)

def Pool.updateProxyMaps (p : Pool) (newV4 : ProxyMap) (newV6 : Option ProxyMap) :
    SnapshotApplyOutcome × Pool :=
  if isEmpty newV4 ∧ newV6.all isEmpty then (.rejectedEmpty, p)
  else
    let v4 := applyFamily p.proxyMapV4 (some newV4)
    let v6 := applyFamily p.proxyMapV6 newV6
    (if v4.2 || v6.2 then .appliedChanged else .appliedNoDelta,
      { p with proxyMapV4 := v4.1, proxyMapV6 := v6.1 })

def Twinned (map : ProxyMap) : Prop := ∀ k, 0 < k → k ∈ map → -k ∈ map

variable {map new : ProxyMap}

theorem mirrorKey_lookup (acc : ProxyMap × Bool) (k x : Int) :
    (mirrorKey acc k).1.lookup x =
      if 0 < k ∧ x = -k ∧ acc.1.lookup x = none then acc.1.lookup k else acc.1.lookup x := by
  unfold mirrorKey
  by_cases lacks : 0 < k ∧ -k ∉ acc.1
  · have absent : acc.1.lookup (-k) = none := AList.lookup_eq_none.mpr lacks.2
    rw [if_pos lacks]
    cases found : acc.1.lookup k with
    | none => grind
    | some =>
      rw [Option.elim_some, Dict.lookup_insert_ite]
      grind
  · rw [if_neg lacks, if_neg]
    rintro ⟨positive, rfl, absent⟩
    exact lacks ⟨positive, AList.lookup_eq_none.mp absent⟩

theorem mirrorKeys_lookup (keys : List Int) (acc : ProxyMap × Bool) (x : Int) :
    (keys.foldl mirrorKey acc).1.lookup x =
      if x < 0 ∧ acc.1.lookup x = none ∧ -x ∈ keys then acc.1.lookup (-x)
      else acc.1.lookup x := by
  induction keys generalizing acc with
  | nil => simp
  | cons k _ ih =>
    rw [List.foldl_cons, ih, mirrorKey_lookup, mirrorKey_lookup]
    grind

theorem mirrorPositives_lookup (map : ProxyMap) (x : Int) :
    (mirrorPositives map).1.lookup x =
      if x < 0 ∧ map.lookup x = none then map.lookup (-x) else map.lookup x := by
  have none_of (absent : -x ∉ map.keys) : map.lookup (-x) = none :=
    AList.lookup_eq_none.mpr (mt AList.mem_keys.mp absent)
  rw [mirrorPositives, mirrorKeys_lookup]
  grind

theorem mirrorPositives_congr (same : map.toFinmap = new.toFinmap) :
    (mirrorPositives map).1.toFinmap = (mirrorPositives new).1.toFinmap := by
  have lookups (x : Int) : map.lookup x = new.lookup x := congrArg (Finmap.lookup x) same
  apply Finmap.ext_lookup
  intro x
  simp only [Finmap.lookup_toFinmap, mirrorPositives_lookup, lookups]

def Lacks (map : ProxyMap) (k : Int) : Prop :=
  0 < k ∧ map.lookup (-k) = none ∧ map.lookup k ≠ none

theorem mirrorKey_of_not_lacks {acc : ProxyMap × Bool} {k : Int} (has : ¬ Lacks acc.1 k) :
    mirrorKey acc k = acc := by
  rw [mirrorKey]
  cases found : acc.1.lookup k with
  | none => exact ite_self _
  | some =>
    exact if_neg fun lacks => has ⟨lacks.1, AList.lookup_eq_none.mpr lacks.2, by simp [found]⟩

theorem mirrorKey_of_lacks {acc : ProxyMap × Bool} {k : Int} (lacks : Lacks acc.1 k) :
    (mirrorKey acc k).2 = true := by
  obtain ⟨_, found⟩ := Option.ne_none_iff_exists'.mp lacks.2.2
  rw [mirrorKey, if_pos ⟨lacks.1, AList.lookup_eq_none.mp lacks.2.1⟩, found]
  rfl

theorem mirrorKeys_added (keys : List Int) (acc : ProxyMap × Bool) :
    (keys.foldl mirrorKey acc).2 = true ↔ acc.2 = true ∨ ∃ k ∈ keys, Lacks acc.1 k := by
  induction keys generalizing acc with
  | nil => simp
  | cons k _ ih =>
    rw [List.foldl_cons, ih, List.exists_mem_cons_iff]
    by_cases lacks : Lacks acc.1 k
    · simp [mirrorKey_of_lacks lacks, lacks]
    · rw [mirrorKey_of_not_lacks lacks]
      simp [lacks]

theorem twinned_iff : Twinned map ↔ ∀ k, ¬ Lacks map k := by
  simp only [Twinned, Lacks, ne_eq, AList.lookup_eq_none]
  grind

theorem mirrorPositives_added : (mirrorPositives map).2 = true ↔ ¬ Twinned map := by
  rw [mirrorPositives, mirrorKeys_added, twinned_iff]
  simp only [Bool.false_eq_true, false_or, not_forall, not_not]
  refine ⟨fun ⟨k, _, lacks⟩ => ⟨k, lacks⟩, fun ⟨k, lacks⟩ => ⟨k, ?_, lacks⟩⟩
  exact AList.mem_keys.mp (not_not.mp (mt AList.lookup_eq_none.mpr lacks.2.2))

theorem mirrorPositives_twinned (map : ProxyMap) : Twinned (mirrorPositives map).1 := by
  rw [twinned_iff]
  intro k
  rw [Lacks, mirrorPositives_lookup, mirrorPositives_lookup]
  grind

theorem mirrorPositives_of_twinned (twinned : Twinned map) :
    (mirrorPositives map).1.toFinmap = map.toFinmap := by
  apply Finmap.ext_lookup
  intro x
  rw [twinned_iff] at twinned
  have twin := twinned (-x)
  rw [Lacks, neg_neg] at twin
  simp only [Finmap.lookup_toFinmap, mirrorPositives_lookup]
  grind

theorem applyFamily_cases (map : ProxyMap) (new : Option ProxyMap) :
    (∃ m ∈ new, isEmpty m = false ∧ map.toFinmap ≠ m.toFinmap ∧
      applyFamily map new = ((mirrorPositives m).1, true)) ∨
    (∀ m ∈ new, isEmpty m = true ∨ map.toFinmap = m.toFinmap) ∧
      applyFamily map new = mirrorPositives map := by
  cases new with
  | none => exact .inr ⟨by simp, by simp [applyFamily]⟩
  | some m =>
    by_cases replaced : !isEmpty m ∧ map.toFinmap ≠ m.toFinmap
    · exact .inl ⟨m, rfl, by simpa using replaced.1, replaced.2,
        by simp [applyFamily, replaceMap, replaced]⟩
    · have unchanged : replaceMap map m = (map, false) := if_neg replaced
      refine .inr ⟨?_, by simp [applyFamily, unchanged]⟩
      rintro _ ⟨⟩
      cases empty : isEmpty m with
      | true => exact .inl rfl
      | false => exact .inr (not_not.mp fun other => replaced ⟨by simp [empty], other⟩)

theorem applyFamily_mirrors (map : ProxyMap) {new : Option ProxyMap} {m : ProxyMap} (given : m ∈ new)
    (filled : isEmpty m = false) :
    (applyFamily map new).1.toFinmap = (mirrorPositives m).1.toFinmap := by
  rcases applyFamily_cases map new with ⟨m', given', _, _, applied⟩ | ⟨unchanged, applied⟩
  · rw [applied, Option.mem_unique given given']
  · rw [applied]
    exact mirrorPositives_congr ((unchanged m given).resolve_left (by simp [filled]))

/-- What the second of two calls with the same map does to its family. -/
theorem applyFamily_again (map : ProxyMap) (new : Option ProxyMap) :
    (applyFamily (applyFamily map new).1 new).1.toFinmap = (applyFamily map new).1.toFinmap ∧
      ((applyFamily (applyFamily map new).1 new).2 = false ↔
        ∀ m ∈ new, isEmpty m = false → Twinned m) := by
  have twinned : Twinned (applyFamily map new).1 := mirrorPositives_twinned _
  have quiet : (mirrorPositives (applyFamily map new).1).2 = false :=
    Bool.eq_false_iff.mpr fun added => mirrorPositives_added.mp added twinned
  rcases applyFamily_cases (applyFamily map new).1 new with
    ⟨m, given, filled, other, applied⟩ | ⟨unchanged, applied⟩
  · rw [applied]
    refine ⟨(applyFamily_mirrors map given filled).symm, iff_of_false (by simp) fun all => other ?_⟩
    rw [applyFamily_mirrors map given filled, mirrorPositives_of_twinned (all m given filled)]
  · rw [applied]
    refine ⟨mirrorPositives_of_twinned twinned, iff_of_true quiet fun m given filled => ?_⟩
    have same := (unchanged m given).resolve_left (by simp [filled])
    have lookups (x : Int) : (applyFamily map new).1.lookup x = m.lookup x :=
      congrArg (Finmap.lookup x) same
    rw [twinned_iff] at twinned ⊢
    simpa only [Lacks, lookups] using twinned

theorem isEmpty_twinned (empty : isEmpty map = true) : Twinned map := by
  intro k _ present
  rw [isEmpty, List.isEmpty_iff] at empty
  simp [AList.mem_keys, AList.keys, empty] at present

theorem reapplied_snapshot_iff (p : Pool) (newV4 : ProxyMap) (newV6 : Option ProxyMap)
    (filled : ¬ (isEmpty newV4 = true ∧ newV6.all isEmpty = true)) :
    let first := (p.updateProxyMaps newV4 newV6).2
    let second := first.updateProxyMaps newV4 newV6
    (second.1 = .appliedNoDelta ↔ Twinned newV4 ∧ ∀ m ∈ newV6, Twinned m) ∧
      second.2.proxyMapV4.toFinmap = first.proxyMapV4.toFinmap ∧
      second.2.proxyMapV6.toFinmap = first.proxyMapV6.toFinmap := by
  obtain ⟨sameV4, quietV4⟩ := applyFamily_again p.proxyMapV4 (some newV4)
  obtain ⟨sameV6, quietV6⟩ := applyFamily_again p.proxyMapV6 newV6
  have twinned_iff_filled (new : Option ProxyMap) :
      (∀ m ∈ new, isEmpty m = false → Twinned m) ↔ ∀ m ∈ new, Twinned m := by
    refine forall₂_congr fun m _ => ⟨fun all => ?_, fun twinned _ => twinned⟩
    cases empty : isEmpty m with
    | true => exact isEmpty_twinned empty
    | false => exact all empty
  rw [twinned_iff_filled] at quietV4 quietV6
  simp only [Pool.updateProxyMaps, if_neg filled]
  refine ⟨?_, sameV4, sameV6⟩
  rw [← quietV6, ← (quietV4.trans (by simp) : _ ↔ Twinned newV4)]
  cases (applyFamily (applyFamily p.proxyMapV4 (some newV4)).1 (some newV4)).2 <;>
    cases (applyFamily (applyFamily p.proxyMapV6 newV6).1 newV6).2 <;> simp

-- The snapshot lists data centre 2 without its twin, so the second call reports a change again.
def loneDc : ProxyMap := AList.insert 2 [(.ofOctets 10 0 0 1, 8888)] ∅

def emptyPool : Pool where
  reinit := { hardswap := false }

theorem lone_dc_reported_twice :
    ((emptyPool.updateProxyMaps loneDc none).2.updateProxyMaps loneDc none).1 = .appliedChanged := by
  decide +kernel

theorem twinned_dc_reported_once :
    let first := (emptyPool.updateProxyMaps (loneDc.insert (-2) []) none).2
    ¬ (isEmpty (loneDc.insert (-2) []) = true ∧ (none : Option ProxyMap).all isEmpty = true) ∧
      (first.updateProxyMaps (loneDc.insert (-2) []) none).1 = .appliedNoDelta := by
  refine ⟨by decide, (reapplied_snapshot_iff emptyPool _ none (by decide)).1.mpr ⟨?_, by simp⟩⟩
  intro k positive present
  rcases (AList.mem_insert _).mp present with rfl | present
  · omega
  · rcases (AList.mem_insert _).mp present with rfl | absent
    · decide
    · exact absurd absent (AList.notMem_empty _)

structure ProxyConfigData where
  map : ProxyMap := ∅
  defaultDc : Option Int := none
  httpStatus : Nat := 200
  proxyForLines : Nat := 0

structure UpdaterConfig where
  requireHttp2xx : Bool
  minProxyForLines : Nat
  stableSnapshots : Nat
  applyCooldownSecs : Nat
  rejectEmptyMap : Bool

def snapshotPassesGuards (cfg : UpdaterConfig) (snapshot : ProxyConfigData) : Bool :=
  !(cfg.requireHttp2xx && !(200 ≤ snapshot.httpStatus && snapshot.httpStatus ≤ 299)) &&
    cfg.minProxyForLines ≤ snapshot.proxyForLines

variable {η : Type} [DecidableEq η]

structure StableSnapshot (η : Type) where
  candidateHash : Option η := none
  candidateHits : Nat := 0
  appliedHash : Option η := none

def StableSnapshot.observe (s : StableSnapshot η) (hash : η) : StableSnapshot η :=
  if s.candidateHash = some hash then { s with candidateHits := min (s.candidateHits + 1) 255 }
  else { s with candidateHash := some hash, candidateHits := 1 }

/-- The gate of one family, and the hashes of all fetches that passed the guards. -/
structure Gate (η : Type) where
  snapshot : StableSnapshot η := {}
  passed : List η := []

namespace Gate
variable (hash : ProxyConfigData → η) (cfg : UpdaterConfig)

/-- Also the snapshot that is ready to be applied. -/
def receive (g : Gate η) (fetched : Option ProxyConfigData) : Gate η × Option ProxyConfigData :=
  match fetched.filter (snapshotPassesGuards cfg) with
  | none => (g, none)
  | some data =>
    let snapshot := g.snapshot.observe (hash data)
    (⟨snapshot, g.passed ++ [hash data]⟩,
      if snapshot.candidateHits < max cfg.stableSnapshots 1 ∨
          snapshot.appliedHash = some (hash data) then none
      else some data)

def markApplied (g : Gate η) (ready : Option ProxyConfigData) : Gate η :=
  ready.elim g fun data =>
    { g with snapshot := { g.snapshot with appliedHash := some (hash data) } }

end Gate

def mapApplyCooldownReady (lastApplied : Option Instant) (cooldown : Duration) (now : Instant) :
    Bool :=
  cooldown = 0 || lastApplied.all fun at_ => cooldown ≤ Instant.durationSince now at_

/-- `clock` is the last reading; `marks` are the times at which snapshots were marked as applied. -/
structure Updater (η : Type) where
  pool : Pool
  defaultDc : Int
  v4 : Gate η := {}
  v6 : Gate η := {}
  lastMapApplyAt : Option Instant := none
  marks : List Instant := []
  clock : Instant

/-- What the cycle fetches, and the clock when it asks for the cooldown and when it is done. -/
structure UpdateCycle where
  fetchedV4 : Option ProxyConfigData
  fetchedV6 : Option ProxyConfigData
  asked : Instant
  done : Instant

namespace Updater
variable (hash : ProxyConfigData → η) (cfg : UpdaterConfig)

def cooldown : Duration := Duration.fromSecs cfg.applyCooldownSecs

variable (u : Updater η)

def applyMaps (readyV4 readyV6 : Option ProxyConfigData) : SnapshotApplyOutcome × Pool :=
  let updateV4 := (readyV4.map ProxyConfigData.map).getD ∅
  let updateV6 := readyV6.map ProxyConfigData.map
  if (isEmpty updateV4 && updateV6.all isEmpty) && !cfg.rejectEmptyMap then (.appliedNoDelta, u.pool)
  else u.pool.updateProxyMaps updateV4 updateV6

def runUpdateCycle (c : UpdateCycle) : Updater η :=
  let v4 := u.v4.receive hash cfg c.fetchedV4
  let v6 := u.v6.receive hash cfg c.fetchedV6
  let seen := { u with v4 := v4.1, v6 := v6.1, clock := c.done }
  let applied := u.applyMaps cfg v4.2 v6.2
  if (v4.2.isSome || v6.2.isSome) &&
      mapApplyCooldownReady u.lastMapApplyAt (cooldown cfg) c.asked then
    if applied.1 = .rejectedEmpty then seen
    else
      { seen with
        pool := applied.2
        defaultDc := (v4.2.bind ProxyConfigData.defaultDc).getD u.defaultDc
        v4 := v4.1.markApplied hash v4.2
        v6 := v6.1.markApplied hash v6.2
        lastMapApplyAt := some c.done
        marks := u.marks ++ [c.done] }
  else seen

-- The clock never goes back.
def step (c : UpdateCycle) : Option (Updater η) :=
  if u.clock ≤ c.asked ∧ c.asked ≤ c.done then some (u.runUpdateCycle hash cfg c) else none

end Updater

variable {hash : ProxyConfigData → η} {cfg : UpdaterConfig}

def Gate.Backed (g : Gate η) : Prop :=
  ∀ candidate ∈ g.snapshot.candidateHash,
    List.replicate g.snapshot.candidateHits candidate <:+ g.passed

theorem Gate.Backed.receive {g : Gate η} (backed : g.Backed) (hash : ProxyConfigData → η)
    (cfg : UpdaterConfig) (fetched : Option ProxyConfigData) :
    (g.receive hash cfg fetched).1.Backed ∧
      ∀ data ∈ (g.receive hash cfg fetched).2, fetched = some data ∧
        snapshotPassesGuards cfg data = true ∧
        List.replicate (max cfg.stableSnapshots 1) (hash data) <:+
          (g.receive hash cfg fetched).1.passed := by
  unfold Gate.receive
  cases kept : fetched.filter (snapshotPassesGuards cfg) with
  | none => exact ⟨backed, by simp⟩
  | some data =>
    obtain ⟨rfl, passes⟩ := Option.filter_eq_some_iff.mp kept
    dsimp only
    obtain ⟨candidate, hits⟩ : (g.snapshot.observe (hash data)).candidateHash = some (hash data) ∧
        ∀ more ≤ (g.snapshot.observe (hash data)).candidateHits,
          List.replicate more (hash data) <:+ g.passed ++ [hash data] := by
      unfold StableSnapshot.observe
      split_ifs with again
      · exact ⟨again, fun more fewer =>
          replicate_suffix_concat (backed _ again) (fewer.trans (Nat.min_le_left _ _))⟩
      · have none : List.replicate 0 (hash data) <:+ g.passed := List.nil_suffix
        exact ⟨rfl, fun more fewer => replicate_suffix_concat none fewer⟩
    refine ⟨?_, ?_⟩
    · intro other same
      rw [Option.mem_def, candidate] at same
      cases same
      exact hits _ le_rfl
    · intro ready isReady
      split_ifs at isReady with waits
      · cases isReady
      · obtain rfl : data = ready := Option.some.inj isReady
        exact ⟨rfl, passes, hits _ (not_lt.mp fun fewer => waits (.inl fewer))⟩

/-- The map of a family is left alone, mirrored, or replaced by a stable snapshot and mirrored. -/
def Justified (hash : ProxyConfigData → η) (cfg : UpdaterConfig) (fetched : Option ProxyConfigData)
    (passed : List η) (before after : ProxyMap) : Prop :=
  after = before ∨ after = (mirrorPositives before).1 ∨
    ∃ data, fetched = some data ∧ snapshotPassesGuards cfg data = true ∧
      after = (mirrorPositives data.map).1 ∧
      List.replicate (max cfg.stableSnapshots 1) (hash data) <:+ passed

def TakenFrom (ready : Option ProxyConfigData) (before after : ProxyMap) : Prop :=
  after = before ∨ after = (mirrorPositives before).1 ∨
    ∃ data ∈ ready, after = (mirrorPositives data.map).1

omit [DecidableEq η] in
theorem justified_of_ready {fetched ready : Option ProxyConfigData} {passed : List η}
    {before after : ProxyMap}
    (stable : ∀ data ∈ ready, fetched = some data ∧ snapshotPassesGuards cfg data = true ∧
      List.replicate (max cfg.stableSnapshots 1) (hash data) <:+ passed)
    (maps : TakenFrom ready before after) :
    Justified hash cfg fetched passed before after := by
  rcases maps with same | mirrored | ⟨data, isReady, replaced⟩
  · exact .inl same
  · exact .inr (.inl mirrored)
  · obtain ⟨given, passes, hits⟩ := stable data isReady
    exact .inr (.inr ⟨data, given, passes, replaced, hits⟩)

omit [DecidableEq η] in
theorem Gate.markApplied_passed (g : Gate η) (ready : Option ProxyConfigData) :
    (g.markApplied hash ready).passed = g.passed := by
  cases ready <;> rfl

omit [DecidableEq η] in
theorem Gate.Backed.markApplied {g : Gate η} (backed : g.Backed) (ready : Option ProxyConfigData) :
    (g.markApplied hash ready).Backed := by
  cases ready <;> exact backed

theorem applyFamily_fst (map : ProxyMap) (new : Option ProxyMap) :
    (applyFamily map new).1 = (mirrorPositives map).1 ∨
      ∃ m ∈ new, isEmpty m = false ∧ (applyFamily map new).1 = (mirrorPositives m).1 := by
  rcases applyFamily_cases map new with ⟨m, given, filled, _, applied⟩ | ⟨_, applied⟩
  · exact .inr ⟨m, given, filled, by rw [applied]⟩
  · exact .inl (by rw [applied])

namespace Updater
variable {u next : Updater η} {c : UpdateCycle}

omit [DecidableEq η] in
theorem applyMaps_maps (u : Updater η) (readyV4 readyV6 : Option ProxyConfigData) :
    let pool := (u.applyMaps cfg readyV4 readyV6).2
    TakenFrom readyV4 u.pool.proxyMapV4 pool.proxyMapV4 ∧
      TakenFrom readyV6 u.pool.proxyMapV6 pool.proxyMapV6 := by
  unfold applyMaps
  dsimp only
  split_ifs
  · exact ⟨.inl rfl, .inl rfl⟩
  rw [Pool.updateProxyMaps]
  by_cases empty : isEmpty ((readyV4.map ProxyConfigData.map).getD ∅) ∧
      (readyV6.map ProxyConfigData.map).all isEmpty
  · rw [if_pos empty]
    exact ⟨.inl rfl, .inl rfl⟩
  · rw [if_neg empty]
    constructor
    · rcases applyFamily_fst u.pool.proxyMapV4 (some ((readyV4.map ProxyConfigData.map).getD ∅)) with
        mirrored | ⟨m, ⟨⟩, filled, replaced⟩
      · exact .inr (.inl mirrored)
      · cases readyV4 with
        | none => simp [isEmpty] at filled
        | some data => exact .inr (.inr ⟨data, rfl, replaced⟩)
    · rcases applyFamily_fst u.pool.proxyMapV6 (readyV6.map ProxyConfigData.map) with
        mirrored | ⟨m, given, _, replaced⟩
      · exact .inr (.inl mirrored)
      · obtain ⟨data, isReady, rfl⟩ := Option.map_eq_some_iff.mp given
        exact .inr (.inr ⟨data, isReady, replaced⟩)

structure Sound (cfg : UpdaterConfig) (u : Updater η) : Prop where
  v4 : u.v4.Backed
  v6 : u.v6.Backed
  last : ∀ mark ∈ u.marks, ∃ last ∈ u.lastMapApplyAt, mark ≤ last
  past : ∀ last ∈ u.lastMapApplyAt, last ≤ u.clock
  apart : u.marks.Pairwise fun (earlier later : Instant) => earlier + cooldown cfg ≤ later

omit [DecidableEq η] in
theorem sound_start (pool : Pool) (defaultDc : Int) (clock : Instant) :
    Sound cfg ({ pool, defaultDc, clock } : Updater η) :=
  ⟨by simp [Gate.Backed], by simp [Gate.Backed], by simp, by simp, List.Pairwise.nil⟩

theorem apart_of_ready {last now : Instant} {rest : Duration} (past : last ≤ now)
    (ready : mapApplyCooldownReady (some last) rest now = true) : last + rest ≤ now := by
  simp only [mapApplyCooldownReady, Option.all_some, Bool.or_eq_true, decide_eq_true_eq] at ready
  rcases ready with rfl | long
  · simpa using past
  · exact Int.add_le_of_le_sub_left ((Int.le_toNat (Int.sub_nonneg_of_le past)).mp long)

theorem Sound.step (sound : u.Sound cfg) (moved : u.step hash cfg c = some next) :
    next.Sound cfg ∧
      Justified hash cfg c.fetchedV4 next.v4.passed u.pool.proxyMapV4 next.pool.proxyMapV4 ∧
      Justified hash cfg c.fetchedV6 next.v6.passed u.pool.proxyMapV6 next.pool.proxyMapV6 := by
  obtain ⟨backedV4, readyV4⟩ := sound.v4.receive hash cfg c.fetchedV4
  obtain ⟨backedV6, readyV6⟩ := sound.v6.receive hash cfg c.fetchedV6
  unfold Updater.step at moved
  split_ifs at moved with order
  cases moved
  have seen : Sound cfg { u with
      v4 := (u.v4.receive hash cfg c.fetchedV4).1
      v6 := (u.v6.receive hash cfg c.fetchedV6).1
      clock := c.done } :=
    ⟨backedV4, backedV6, sound.last,
      fun last given => (sound.past last given).trans (order.1.trans order.2), sound.apart⟩
  unfold runUpdateCycle
  dsimp only
  split_ifs with ready rejected
  · exact ⟨seen, .inl rfl, .inl rfl⟩
  · rw [Bool.and_eq_true] at ready
    obtain ⟨mapsV4, mapsV6⟩ := u.applyMaps_maps _ _
    refine ⟨⟨backedV4.markApplied _, backedV6.markApplied _, ?_, ?_, ?_⟩, ?_, ?_⟩
    · intro mark member
      refine ⟨c.done, rfl, ?_⟩
      rcases List.mem_append.mp member with old | new
      · obtain ⟨last, given, before⟩ := sound.last mark old
        exact before.trans (seen.past last given)
      · exact (List.mem_singleton.mp new).le
    · rintro _ ⟨⟩
      exact le_rfl
    · refine List.pairwise_append.mpr ⟨sound.apart, List.pairwise_singleton _ _, ?_⟩
      intro mark old later new
      obtain ⟨last, given, before⟩ := sound.last mark old
      rw [Option.mem_def.mp given] at ready
      have rested := apart_of_ready ((sound.past last given).trans order.1) ready.2
      rw [List.mem_singleton.mp new]
      exact (Int.add_le_add_right before _).trans (rested.trans order.2)
    · rw [Gate.markApplied_passed]
      exact justified_of_ready readyV4 mapsV4
    · rw [Gate.markApplied_passed]
      exact justified_of_ready readyV6 mapsV6
  · exact ⟨seen, .inl rfl, .inl rfl⟩

end Updater

theorem stable_snapshot_gate (hash : ProxyConfigData → η) (cfg : UpdaterConfig) (pool : Pool)
    (defaultDc : Int) (start : Instant) (cycles : List UpdateCycle) (u : Updater η)
    (run : runFrom (Updater.step hash cfg) { pool, defaultDc, clock := start } cycles = some u) :
    (u.marks.Pairwise fun (earlier later : Instant) => earlier + Updater.cooldown cfg ≤ later) ∧
    ∀ c next, u.step hash cfg c = some next →
      Justified hash cfg c.fetchedV4 next.v4.passed u.pool.proxyMapV4 next.pool.proxyMapV4 ∧
      Justified hash cfg c.fetchedV6 next.v6.passed u.pool.proxyMapV6 next.pool.proxyMapV6 := by
  have sound := runFrom_invariant (Updater.Sound cfg)
    (fun _ _ _ _ sound moved => (Updater.Sound.step sound moved).1)
    (guarded_of_mem (fun _ _ _ => trivial) _) (Updater.sound_start pool defaultDc start) run
  exact ⟨sound.apart, fun c next moved => (sound.step moved).2⟩

def twoSnapshots : UpdaterConfig := ⟨true, 1, 2, 10, true⟩

def cycleAt (lines : Nat) (now : Instant) : UpdateCycle where
  fetchedV4 := some { map := loneDc.insert lines [], proxyForLines := lines }
  fetchedV6 := none
  asked := now
  done := now

def fiveCycles : List UpdateCycle :=
  [cycleAt 1 0, cycleAt 1 1, cycleAt 3 20000000000, cycleAt 3 20000000001, cycleAt 5 40000000000]

theorem second_snapshot_applied :
    ∃ u next, runFrom (Updater.step (·.proxyForLines) twoSnapshots)
        { pool := emptyPool, defaultDc := 2, clock := 0 } fiveCycles = some u ∧
      u.step (·.proxyForLines) twoSnapshots (cycleAt 5 40000000001) = some next ∧
      (u.marks, next.marks) = ([1, 20000000001], [1, 20000000001, 40000000001]) ∧
      (u.marks.Pairwise fun (earlier later : Instant) =>
        earlier + Updater.cooldown twoSnapshots ≤ later) ∧
      Justified (·.proxyForLines) twoSnapshots (cycleAt 5 40000000001).fetchedV4 next.v4.passed
        u.pool.proxyMapV4 next.pool.proxyMapV4 := by
  have reached : ((runFrom (Updater.step (·.proxyForLines) twoSnapshots)
      { pool := emptyPool, defaultDc := 2, clock := 0 } fiveCycles).bind fun u =>
        (u.step (·.proxyForLines) twoSnapshots (cycleAt 5 40000000001)).map fun next =>
          (u.marks, next.marks)) =
      some ([1, 20000000001], [1, 20000000001, 40000000001]) := by decide +kernel
  obtain ⟨u, run, moved⟩ := Option.bind_eq_some_iff.mp reached
  obtain ⟨next, moved, marks⟩ := Option.map_eq_some_iff.mp moved
  obtain ⟨apart, justified⟩ := stable_snapshot_gate _ _ _ _ _ _ u run
  exact ⟨u, next, run, moved, marks, apart, (justified _ next moved).1⟩

end Telemt.MePool
