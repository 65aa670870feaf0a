import Telemt.Foundation.Rotation
import Telemt.Foundation.Trimming
import Telemt.MePool.FloorPlan

namespace Telemt.MePool
open Foundation

/-! # The adaptive floor plan as a budget -/

namespace DcFloorPlanEntry

def face (entry : DcFloorPlanEntry) : DcFloorPlanEntry :=
  { entry with targetRequired := 0, floorCapped := false }

theorem face_cut (entry : DcFloorPlanEntry) : entry.cut.face = entry.face := rfl

def spare (floor : FloorRuntime) (entry : DcFloorPlanEntry) : Nat :=
  floor.targetRequired entry.endpoints.length - entry.minRequired

def Bounded (floor : FloorRuntime) (entry : DcFloorPlanEntry) : Prop :=
  entry.minRequired ≤ entry.targetRequired ∧
    entry.targetRequired ≤ floor.targetRequired entry.endpoints.length

theorem Bounded.cut {floor : FloorRuntime} {entry : DcFloorPlanEntry} (bounded : entry.Bounded floor)
    (above : entry.minRequired < entry.targetRequired) : entry.cut.Bounded floor :=
  ⟨Nat.le_sub_one_of_lt above, (Nat.sub_le _ _).trans bounded.2⟩

end DcFloorPlanEntry

open DcFloorPlanEntry

section Pass
variable (floor : FloorRuntime) (familyCap : Nat)

section
variable (targetSum : Nat) (entries : List DcFloorPlanEntry)

theorem trimPass_faces :
    (trimPass familyCap targetSum entries).entries.map face = entries.map face := by
  induction entries generalizing targetSum with
  | nil => rfl
  | cons _ _ ih =>
    unfold trimPass
    split_ifs
    · rfl
    · simp only [List.map_cons, face_cut, ih]
    · simp only [List.map_cons, ih]

theorem trimPass_bounded {entries : List DcFloorPlanEntry}
    (bounded : ∀ entry ∈ entries, entry.Bounded floor) :
    ∀ entry ∈ (trimPass familyCap targetSum entries).entries, entry.Bounded floor := by
  induction entries generalizing targetSum with
  | nil => exact bounded
  | cons entry _ ih =>
    have later (sum : Nat) := ih sum fun other member => bounded other (List.mem_cons_of_mem entry member)
    have here := bounded entry List.mem_cons_self
    unfold trimPass
    split_ifs with met above
    · exact bounded
    · exact List.forall_mem_cons.mpr ⟨here.cut above, later _⟩
    · exact List.forall_mem_cons.mpr ⟨here, later _⟩

theorem trimPass_round : let next := trimPass familyCap targetSum entries
    (next.targetSum - familyCap, next.entries.map slack) =
      trimRound (targetSum - familyCap) (entries.map slack) := by
  induction entries generalizing targetSum with
  | nil => simp [trimPass]
  | cons entry _ ih =>
    dsimp only at ih ⊢
    rw [trimPass]
    split_ifs with met above
    · rw [Nat.sub_eq_zero_of_le met, trimRound_zero]
    · have more : targetSum - familyCap = targetSum - 1 - familyCap + 1 := by omega
      have cut : entry.slack = entry.cut.slack + 1 := by
        simp only [slack, DcFloorPlanEntry.cut]
        omega
      simp only [List.map_cons, more, cut, trimRound, ← ih (targetSum - 1)]
    · have none_left : entry.slack = 0 := Nat.sub_eq_zero_of_le (Nat.le_of_not_lt above)
      have next := ih targetSum
      obtain ⟨excess, more⟩ : ∃ excess, targetSum - familyCap = excess + 1 :=
        Nat.exists_eq_succ_of_ne_zero (by omega)
      rw [more] at next ⊢
      simp only [List.map_cons, none_left, trimRound, ← next]

end

theorem trimPass_changed (targetSum : Nat) (entries : List DcFloorPlanEntry)
    (exceeds : familyCap < targetSum) (some_giver : 0 < givers (entries.map slack)) :
    (trimPass familyCap targetSum entries).changed = true := by
  induction entries with
  | nil => exact absurd some_giver (Nat.lt_irrefl 0)
  | cons entry _ ih =>
    unfold trimPass
    split_ifs with met above
    · exact absurd exceeds (Nat.not_lt_of_le met)
    · rfl
    · have none_left : entry.slack = 0 := Nat.sub_eq_zero_of_le (Nat.le_of_not_lt above)
      rw [List.map_cons, none_left, givers_zero_cons] at some_giver
      exact ih some_giver

end Pass

section Loop
variable (floor : FloorRuntime) (familyCap : Nat)

structure TrimState.Feasible (s : TrimState) : Prop where
  changed : s.changed = true
  enough : s.targetSum - familyCap ≤ (s.entries.map slack).sum
  bounded : ∀ entry ∈ s.entries, entry.Bounded floor

structure TrimState.Trimmed (s result : TrimState) : Prop where
  faces : result.entries.map face = s.entries.map face
  trims : Trims (s.targetSum - familyCap) (s.entries.map slack) (result.entries.map slack)
  bounded : ∀ entry ∈ result.entries, entry.Bounded floor

variable {floor familyCap}

theorem trimPass_feasible {s : TrimState} (feasible : s.Feasible floor familyCap)
    (exceeds : familyCap < s.targetSum) :
    let next := trimPass familyCap s.targetSum s.entries
    next.Feasible floor familyCap ∧
      next.targetSum - familyCap < s.targetSum - familyCap ∧
      ∀ result, next.Trimmed floor familyCap result → s.Trimmed floor familyCap result := by
  intro next
  have round := trimPass_round familyCap s.targetSum s.entries
  have left : next.targetSum - familyCap = _ := congrArg Prod.fst round
  have slacks : next.entries.map slack = _ := congrArg Prod.snd round
  have some_excess : 0 < s.targetSum - familyCap := Nat.sub_pos_of_lt exceeds
  have some_giver : 0 < givers (s.entries.map slack) := by
    rcases Nat.eq_zero_or_pos (givers (s.entries.map slack)) with none_left | positive
    · have empty := List.sum_eq_zero (givers_eq_zero.mp none_left)
      have enough := feasible.enough
      omega
    · exact positive
  have sum := trimRound_sum (s.targetSum - familyCap) (s.entries.map slack)
  have taken := trimRound_fst (s.targetSum - familyCap) (s.entries.map slack)
  refine ⟨⟨?_, ?_, ?_⟩, ?_, ?_⟩
  · exact trimPass_changed familyCap s.targetSum s.entries exceeds some_giver
  · have enough := feasible.enough
    rw [left, slacks]
    omega
  · exact trimPass_bounded floor familyCap s.targetSum feasible.bounded
  · rw [left]
    omega
  · intro result later
    refine ⟨later.faces.trans (trimPass_faces familyCap s.targetSum s.entries), ?_, later.bounded⟩
    have rest := later.trims
    rw [left, slacks] at rest
    exact .round some_excess rest

theorem loop_trims {s : TrimState} (feasible : s.Feasible floor familyCap) {fuel : Nat}
    (enough : s.targetSum - familyCap < fuel) :
    ∃ result, loop (trimTurn familyCap) fuel s = some result ∧ s.Trimmed floor familyCap result := by
  refine loop_spec (fun s => s.targetSum - familyCap) (TrimState.Feasible floor familyCap)
    (TrimState.Trimmed floor familyCap) ?_ feasible enough
  intro s feasible
  by_cases exceeds : familyCap < s.targetSum
  · obtain ⟨kept, lower, back⟩ := trimPass_feasible feasible exceeds
    exact .inr ⟨_, if_pos ⟨exceeds, feasible.changed⟩, kept, lower, back⟩
  · have met : s.targetSum - familyCap = 0 := Nat.sub_eq_zero_of_le (Nat.le_of_not_lt exceeds)
    refine .inl ⟨s, if_neg fun guard => exceeds guard.1, rfl, ?_, feasible.bounded⟩
    rw [met]
    exact .done _

end Loop

theorem sum_targets {floor : FloorRuntime} {entries : List DcFloorPlanEntry}
    (bounded : ∀ entry ∈ entries, entry.Bounded floor) :
    (entries.map targetRequired).sum = (entries.map minRequired).sum + (entries.map slack).sum := by
  rw [← List.sum_map_add]
  apply congrArg
  apply List.map_congr_left
  intro entry member
  exact (Nat.add_sub_of_le (bounded entry member).1).symm

theorem FloorRuntime.minRequired_le_baseRequired (floor : FloorRuntime) (endpointCount : Nat) :
    floor.minRequired endpointCount ≤ floor.baseRequired endpointCount := by
  have positive : 1 ≤ floor.baseRequired endpointCount := le_max_right _ _
  unfold minRequired adaptiveFloorClassMin
  rw [max_eq_left positive]
  split_ifs
  · exact min_le_right _ _
  · exact min_le_right _ _
  · exact le_rfl

theorem FloorRuntime.targetRequired_eq_baseRequired (floor : FloorRuntime) {endpointCount : Nat}
    (fits : floor.baseRequired endpointCount ≤ usizeMax) :
    floor.targetRequired endpointCount = floor.baseRequired endpointCount := by
  have class_max : floor.baseRequired endpointCount ≤ floor.maxRequired endpointCount := by
    unfold maxRequired adaptiveFloorClassMax
    dsimp only
    split_ifs with low low <;> omega
  unfold targetRequired
  rw [min_eq_left class_max, max_eq_right (floor.minRequired_le_baseRequired endpointCount)]

section Plan
variable (floor : FloorRuntime) (input : FloorInput)

theorem planEntries_distinct : ((planEntries floor input).map DcFloorPlanEntry.dc).Nodup := by
  unfold planEntries
  rw [List.map_map]
  exact (List.Sublist.map _ List.filter_sublist).nodup input.dcEndpoints.nodupKeys

theorem planEntries_fresh {entry : DcFloorPlanEntry} (member : entry ∈ planEntries floor input) :
    entry.Bounded floor ∧ entry.slack = entry.spare floor := by
  obtain ⟨_, -, rfl⟩ := List.mem_map.mp member
  exact ⟨⟨le_max_left _ _, le_rfl⟩, rfl⟩

theorem mem_planEntries {dc : Int} {endpoints : List SocketAddr}
    (found : input.dcEndpoints.lookup dc = some endpoints) (some_endpoint : endpoints ≠ []) :
    planEntry floor input dc endpoints ∈ planEntries floor input := by
  refine List.mem_map.mpr ⟨⟨dc, endpoints⟩, List.mem_filter.mpr ⟨?_, ?_⟩, rfl⟩
  · exact AList.mem_lookup_iff.mp found
  · exact decide_eq_true some_endpoint

def excess : Nat := initialTargetSum floor input - familyCap floor input

theorem excess_le_slack : excess floor input ≤ ((planEntries floor input).map slack).sum := by
  have targets := sum_targets fun entry member => (planEntries_fresh floor input member).1
  have cap : minSum floor input ≤ familyCap floor input := le_max_right _ _
  unfold excess initialTargetSum
  unfold minSum at cap
  omega

structure Planned (entries : List DcFloorPlanEntry) : Prop where
  faces : (entries.map face).Perm ((planEntries floor input).map face)
  bounded : ∀ entry ∈ entries, entry.Bounded floor
  trims : Trims (excess floor input) (entries.map (spare floor)) (entries.map slack)
  idleFirst : 0 < excess floor input → Leads (fun entry => !entry.hasBoundClients) entries

variable {floor input}

theorem spare_of_faces {before after : List DcFloorPlanEntry}
    (faces : after.map face = before.map face) :
    after.map (spare floor) = before.map (spare floor) := by
  have read : spare floor = spare floor ∘ face := rfl
  rw [read, ← List.map_map, ← List.map_map, faces]

theorem planned_untrimmed (met : excess floor input = 0) :
    Planned floor input (planEntries floor input) where
  faces := .refl _
  bounded := fun _ member => (planEntries_fresh floor input member).1
  trims := by
    rw [met, List.map_congr_left fun _ member => (planEntries_fresh floor input member).2]
    exact .done _
  idleFirst := fun exceeds => absurd exceeds (by rw [met]; exact Nat.lt_irrefl 0)

theorem planned_trimmed {result : TrimState}
    (trimmed : TrimState.Trimmed floor (familyCap floor input)
      ⟨initialTargetSum floor input, true, sortByKey trimKey (planEntries floor input)⟩ result) :
    Planned floor input result.entries := by
  have same := sortByKey_perm trimKey (planEntries floor input)
  have fresh : ∀ entry ∈ sortByKey trimKey (planEntries floor input), entry.slack = entry.spare floor :=
    fun entry member => (planEntries_fresh floor input ((mem_sortByKey trimKey).mp member)).2
  refine ⟨?_, trimmed.bounded, ?_, ?_⟩
  · rw [trimmed.faces]
    exact same.map face
  · rw [spare_of_faces trimmed.faces, ← List.map_congr_left fresh]
    exact trimmed.trims
  · intro _
    have sorted := sortByKey_pairwise trimKey (planEntries floor input)
    have byClients : ((sortByKey trimKey (planEntries floor input)).map face).Pairwise
        fun a b => a.hasBoundClients ≤ b.hasBoundClients :=
      List.pairwise_map.mpr (sorted.imp fun before => Prod.Lex.monotone_fst _ _ before)
    have faces : result.entries.map face = (sortByKey trimKey (planEntries floor input)).map face :=
      trimmed.faces
    rw [← faces, List.pairwise_map] at byClients
    refine byClients.imp ?_
    intro a b before
    change a.hasBoundClients ≤ b.hasBoundClients at before
    simp only [Bool.not_eq_true']
    intro idle
    rw [idle] at before
    exact le_bot_iff.mp before

theorem buildFamilyFloorPlan_planned (adaptive : floor.floorMode = .adaptive) {fuel : Nat}
    (enough : excess floor input < fuel) :
    ∃ plan entries, buildFamilyFloorPlan floor input fuel = some plan ∧
      plan.byDc = indexByDc entries ∧ Planned floor input entries := by
  unfold buildFamilyFloorPlan
  dsimp only
  by_cases none_wanted : planEntries floor input = []
  · rw [if_pos none_wanted]
    have met : excess floor input = 0 := by simp [excess, initialTargetSum, none_wanted]
    have planned := planned_untrimmed met
    rw [none_wanted] at planned
    exact ⟨_, _, rfl, rfl, planned⟩
  · rw [if_neg none_wanted, if_neg (not_not_intro adaptive)]
    by_cases exceeds : familyCap floor input < initialTargetSum floor input
    · rw [if_pos exceeds]
      have same := sortByKey_perm trimKey (planEntries floor input)
      have feasible : TrimState.Feasible floor (familyCap floor input)
          ⟨initialTargetSum floor input, true, sortByKey trimKey (planEntries floor input)⟩ := by
        refine ⟨rfl, ?_, ?_⟩
        · rw [(same.map slack).sum_eq]
          exact excess_le_slack floor input
        · intro entry member
          exact (planEntries_fresh floor input ((mem_sortByKey trimKey).mp member)).1
      obtain ⟨_, ran, trimmed⟩ := loop_trims feasible enough
      rw [ran]
      exact ⟨_, _, rfl, rfl, planned_trimmed trimmed⟩
    · rw [if_neg exceeds]
      exact ⟨_, _, rfl, rfl, planned_untrimmed (Nat.sub_eq_zero_of_le (Nat.le_of_not_lt exceeds))⟩

namespace Planned
variable {entries : List DcFloorPlanEntry} (planned : Planned floor input entries)
include planned

theorem distinct : (entries.map DcFloorPlanEntry.dc).Nodup := by
  have dcs := planned.faces.map DcFloorPlanEntry.dc
  rw [List.map_map, List.map_map] at dcs
  exact dcs.nodup_iff.mpr (planEntries_distinct floor input)

theorem values_perm : (Dict.values (indexByDc entries)).Perm entries := by
  have values := Dict.values_index_perm planned.distinct ∅ fun _ _ => AList.notMem_empty _
  rwa [show Dict.values (∅ : Dict Int DcFloorPlanEntry) = [] from rfl, List.append_nil] at values

theorem lookup {dc : Int} {endpoints : List SocketAddr}
    (found : input.dcEndpoints.lookup dc = some endpoints) (some_endpoint : endpoints ≠ []) :
    ∃ entry ∈ entries, (indexByDc entries).lookup dc = some entry ∧
      entry.face = (planEntry floor input dc endpoints).face := by
  have wanted := List.mem_map_of_mem (f := face) (mem_planEntries floor input found some_endpoint)
  obtain ⟨entry, member, same⟩ := List.mem_map.mp (planned.faces.mem_iff.mpr wanted)
  have located : entry.dc = dc := congrArg DcFloorPlanEntry.dc same
  exact ⟨entry, member, located ▸ Dict.lookup_index planned.distinct member ∅, same⟩

theorem sum_targets_eq :
    (entries.map targetRequired).sum = min (initialTargetSum floor input) (familyCap floor input) := by
  have mins : (entries.map minRequired).sum = minSum floor input := by
    have mapped := (planned.faces.map minRequired).sum_eq
    rwa [List.map_map, List.map_map] at mapped
  have spares : (entries.map (spare floor)).sum = ((planEntries floor input).map slack).sum := by
    have mapped := (planned.faces.map (spare floor)).sum_eq
    rw [List.map_map, List.map_map] at mapped
    refine mapped.trans (congrArg List.sum (List.map_congr_left ?_))
    intro entry member
    exact (planEntries_fresh floor input member).2.symm
  have after := sum_targets planned.bounded
  have before := sum_targets fun entry member => (planEntries_fresh floor input member).1
  have taken := planned.trims.sum
  unfold excess initialTargetSum minSum at *
  omega

end Planned

end Plan

theorem floor_plan_tight (floor : FloorRuntime) (input : FloorInput) (fuel : Nat)
    (adaptive : floor.floorMode = .adaptive)
    (enough : initialTargetSum floor input - familyCap floor input < fuel) :
    ∃ plan, buildFamilyFloorPlan floor input fuel = some plan ∧
      (∀ dc endpoints, input.dcEndpoints.lookup dc = some endpoints → endpoints ≠ [] →
        let base := floor.baseRequired endpoints.length
        ∃ entry, plan.byDc.lookup dc = some entry ∧
          entry.minRequired = floor.minRequired endpoints.length ∧
          entry.maxRequired = floor.maxRequired endpoints.length ∧
          entry.minRequired ≤ entry.targetRequired ∧
          entry.targetRequired ≤ max entry.minRequired (min base entry.maxRequired) ∧
          (base ≤ usizeMax → max entry.minRequired (min base entry.maxRequired) = base)) ∧
      ((Dict.values plan.byDc).map DcFloorPlanEntry.targetRequired).sum =
        min (initialTargetSum floor input)
          (max (floor.adaptiveFloorActiveCapConfiguredTotal - otherActive floor input)
            (minSum floor input)) ∧
      initialTargetSum floor input -
          ((Dict.values plan.byDc).map DcFloorPlanEntry.targetRequired).sum ≤
        initialTargetSum floor input - familyCap floor input := by
  obtain ⟨plan, _, built, indexed, planned⟩ := buildFamilyFloorPlan_planned adaptive enough
  have sum : ((Dict.values plan.byDc).map targetRequired).sum =
      min (initialTargetSum floor input) (familyCap floor input) := by
    rw [indexed, (planned.values_perm.map targetRequired).sum_eq, planned.sum_targets_eq]
  refine ⟨plan, built, ?_, sum, ?_⟩
  · intro dc endpoints found some_endpoint base
    obtain ⟨entry, member, located, same⟩ := planned.lookup found some_endpoint
    have lower : entry.minRequired = floor.minRequired endpoints.length :=
      congrArg DcFloorPlanEntry.minRequired same
    have upper : entry.maxRequired = floor.maxRequired endpoints.length :=
      congrArg DcFloorPlanEntry.maxRequired same
    have length : entry.endpoints.length = endpoints.length :=
      congrArg (fun entry => entry.endpoints.length) same
    have bounded := planned.bounded entry member
    rw [DcFloorPlanEntry.Bounded, length] at bounded
    refine ⟨entry, indexed ▸ located, lower, upper, bounded.1, ?_, ?_⟩
    · rw [lower, upper]
      exact bounded.2
    · rw [lower, upper]
      exact floor.targetRequired_eq_baseRequired
  · rw [sum]
    omega

/-! Three data centres with a cap of seven writers. The second one has clients. -/

def sevenWriters : FloorRuntime where
  floorMode := .adaptive
  singleEndpointShadowWriters := 2
  minWritersSingleEndpoint := 1
  minWritersMultiEndpoint := 1
  cpuCoresDetected := 1
  cpuCoresOverride := 0
  maxExtraWritersSinglePerCore := 1
  maxExtraWritersMultiPerCore := 2
  maxActiveWritersPerCore := 7
  maxWarmWritersPerCore := 64
  maxActiveWritersGlobal := 256
  maxWarmWritersGlobal := 256

def planEndpoint (dc : Int) : SocketAddr := ⟨.ofOctets 149 154 175 (.ofNat dc.toNat), 8888⟩

def threeDcs : FloorInput where
  dcEndpoints := Dict.assign (fun dc => [planEndpoint dc]) [1, 2, 3] ∅
  liveWriterIdsByAddr := AList.singleton (2, planEndpoint 2) [21]
  boundClientsByWriter := AList.singleton 21 4

theorem three_dcs_planned :
    ∃ plan, buildFamilyFloorPlan sevenWriters threeDcs 9 = some plan ∧
      ((Dict.values plan.byDc).map DcFloorPlanEntry.targetRequired).sum = 7 := by
  obtain ⟨plan, built, -, sum, -⟩ :=
    floor_plan_tight sevenWriters threeDcs 9 rfl (by decide +kernel)
  exact ⟨plan, built, sum.trans (by decide +kernel)⟩

end Telemt.MePool
