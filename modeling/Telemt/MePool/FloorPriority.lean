import Telemt.MePool.FloorBudget

namespace Telemt.MePool
open Foundation DcFloorPlanEntry

/-! # Whether idle data centres are compressed first -/

section Split
variable {floor : FloorRuntime} {input : FloorInput} {entries : List DcFloorPlanEntry}

theorem Planned.spare_perm (planned : Planned floor input entries) (p : Bool → Bool) :
    ((entries.filter fun entry => p entry.hasBoundClients).map (spare floor)).Perm
      (((planEntries floor input).filter fun entry => p entry.hasBoundClients).map slack) := by
  have chosen := (planned.faces.filter fun entry => p entry.hasBoundClients).map (spare floor)
  rw [List.filter_map, List.filter_map, List.map_map, List.map_map] at chosen
  refine chosen.trans (.of_eq (List.map_congr_left ?_))
  intro entry member
  exact (planEntries_fresh floor input (List.mem_of_mem_filter member)).2.symm

theorem DcFloorPlanEntry.Bounded.slack_eq_spare_iff {entry : DcFloorPlanEntry}
    (bounded : entry.Bounded floor) :
    entry.slack = entry.spare floor ↔
      ¬ entry.targetRequired < floor.targetRequired entry.endpoints.length := by
  obtain ⟨_, _⟩ := bounded
  unfold slack spare
  omega

theorem DcFloorPlanEntry.Bounded.slack_eq_zero_iff {entry : DcFloorPlanEntry}
    (bounded : entry.Bounded floor) :
    entry.slack = 0 ↔ entry.targetRequired = entry.minRequired := by
  have lower := bounded.1
  unfold slack
  omega

end Split

section Priority
variable (floor : FloorRuntime) (input : FloorInput)

def idleSlacks : List Nat :=
  ((planEntries floor input).filter fun entry => !entry.hasBoundClients).map slack

def busySlacks : List Nat :=
  ((planEntries floor input).filter fun entry => entry.hasBoundClients).map slack

def IdleFirst (entries : List DcFloorPlanEntry) : Prop :=
  ∀ busy ∈ entries, busy.hasBoundClients = true →
    busy.targetRequired < floor.targetRequired busy.endpoints.length →
    ∀ idle ∈ entries, idle.hasBoundClients = false → idle.targetRequired = idle.minRequired

variable {floor input} {entries : List DcFloorPlanEntry}

theorem idleFirst_iff (bounded : ∀ entry ∈ entries, entry.Bounded floor) :
    IdleFirst floor entries ↔
      (entries.filter fun entry => entry.hasBoundClients).map slack =
          (entries.filter fun entry => entry.hasBoundClients).map (spare floor) ∨
        ∀ amount ∈ (entries.filter fun entry => !entry.hasBoundClients).map slack, amount = 0 := by
  have untouched : (entries.filter fun entry => entry.hasBoundClients).map slack =
      (entries.filter fun entry => entry.hasBoundClients).map (spare floor) ↔
        ∀ busy ∈ entries, busy.hasBoundClients = true →
          ¬ busy.targetRequired < floor.targetRequired busy.endpoints.length := by
    rw [List.map_inj_left]
    constructor
    · intro same busy member clients
      exact (bounded busy member).slack_eq_spare_iff.mp
        (same busy (List.mem_filter.mpr ⟨member, clients⟩))
    · intro kept busy chosen
      obtain ⟨member, clients⟩ := List.mem_filter.mp chosen
      exact (bounded busy member).slack_eq_spare_iff.mpr (kept busy member clients)
  have compressed : (∀ amount ∈ (entries.filter fun entry => !entry.hasBoundClients).map slack,
      amount = 0) ↔
        ∀ idle ∈ entries, idle.hasBoundClients = false → idle.targetRequired = idle.minRequired := by
    constructor
    · intro spent idle member nobody
      have chosen : idle ∈ entries.filter fun entry => !entry.hasBoundClients :=
        List.mem_filter.mpr ⟨member, by simp [nobody]⟩
      exact (bounded idle member).slack_eq_zero_iff.mp (spent _ (List.mem_map_of_mem chosen))
    · intro least amount member
      obtain ⟨idle, chosen, rfl⟩ := List.mem_map.mp member
      obtain ⟨member, nobody⟩ := List.mem_filter.mp chosen
      exact (bounded idle member).slack_eq_zero_iff.mpr
        (least idle member (by simpa using nobody))
  rw [untouched, compressed]
  constructor
  · intro first
    rw [or_iff_not_imp_left]
    intro touched
    simp only [not_forall, not_not] at touched
    obtain ⟨busy, member, clients, lower⟩ := touched
    exact first busy member clients lower
  · rintro (kept | least) busy member clients lower
    · exact absurd lower (kept busy member clients)
    · exact least

theorem Planned.idleFirst_iff (planned : Planned floor input entries) :
    IdleFirst floor entries ↔
      givers (busySlacks floor input) = 0 ∨
        excess floor input ≤ givers (idleSlacks floor input) ∨
        spending (idleSlacks floor input) (busySlacks floor input) ≤ excess floor input := by
  rw [MePool.idleFirst_iff planned.bounded]
  have trims := planned.trims
  rcases Nat.eq_zero_or_pos (excess floor input) with met | exceeds
  · -- Nothing is trimmed.
    rw [met, trims_zero, List.map_inj_left] at trims
    rw [met]
    refine iff_of_true (.inl (List.map_congr_left ?_)) (.inr (.inl (Nat.zero_le _)))
    intro entry member
    exact trims entry (List.mem_of_mem_filter member)
  · have split := (planned.idleFirst exceeds).split
    simp only [Bool.not_not] at split
    have idle : ((entries.filter fun entry => !entry.hasBoundClients).map (spare floor)).Perm
        (idleSlacks floor input) := planned.spare_perm (!·)
    have busy : ((entries.filter fun entry => entry.hasBoundClients).map (spare floor)).Perm
        (busySlacks floor input) := planned.spare_perm id
    rw [← split, List.map_append, List.map_append] at trims
    have lengths : ((entries.filter fun entry => !entry.hasBoundClients).map slack).length =
        ((entries.filter fun entry => !entry.hasBoundClients).map (spare floor)).length := by
      rw [List.length_map, List.length_map]
    rw [trims.back_kept_iff lengths, trims.front_spent_iff lengths, givers_perm busy,
      givers_perm idle, spending_perm idle busy, or_assoc]

end Priority

theorem idle_compressed_first_iff (floor : FloorRuntime) (input : FloorInput) (fuel : Nat)
    (adaptive : floor.floorMode = .adaptive)
    (enough : initialTargetSum floor input - familyCap floor input < fuel) :
    ∃ plan, buildFamilyFloorPlan floor input fuel = some plan ∧
      (IdleFirst floor (Dict.values plan.byDc) ↔
        givers (busySlacks floor input) = 0 ∨
          initialTargetSum floor input - familyCap floor input ≤ givers (idleSlacks floor input) ∨
          spending (idleSlacks floor input) (busySlacks floor input) ≤
            initialTargetSum floor input - familyCap floor input) := by
  obtain ⟨plan, entries, built, indexed, planned⟩ := buildFamilyFloorPlan_planned adaptive enough
  refine ⟨plan, built, ?_⟩
  have same : IdleFirst floor (Dict.values plan.byDc) ↔ IdleFirst floor entries := by
    unfold IdleFirst
    simp only [indexed, planned.values_perm.mem_iff]
  rw [same]
  exact planned.idleFirst_iff

theorem seven_writers_idle_first :
    ∃ plan, buildFamilyFloorPlan sevenWriters threeDcs 9 = some plan ∧
      IdleFirst sevenWriters (Dict.values plan.byDc) := by
  obtain ⟨plan, built, first⟩ :=
    idle_compressed_first_iff sevenWriters threeDcs 9 rfl (by decide +kernel)
  exact ⟨plan, built, first.mpr (by decide +kernel)⟩

theorem six_writers_compress_busy :
    let six := { sevenWriters with maxActiveWritersPerCore := 6 }
    (buildFamilyFloorPlan six threeDcs 9).map (fun plan =>
        (Dict.values plan.byDc).map fun entry =>
          (entry.dc, entry.hasBoundClients, entry.minRequired, entry.targetRequired)) =
      some [(2, true, 1, 2), (3, false, 1, 2), (1, false, 1, 2)] ∧
      six.targetRequired 1 = 3 := by
  decide +kernel

end Telemt.MePool
