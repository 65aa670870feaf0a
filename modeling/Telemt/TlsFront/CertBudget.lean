import Telemt.Basic
import Telemt.Foundation.Dict
import Telemt.Foundation.Run

namespace Telemt.TlsFront
open Foundation

/-!
# The budget of full certificates

`take_full_cert_budget_for_ip`, cut where a call reads the clock, decides about a sweep, sweeps a shard
and updates its own one. The shards are one table here; the sweep of a shard looks at the addresses that
hash to it. The gauge changes under the lock of a shard, in one step with it.
-/

def fullCertSentSweepIntervalSecs : Nat := 30

def fullCertSentMaxIps : Nat := 65536

abbrev CertShard := Fin 64

/-- `shards` are still to be swept before the call comes to its own shard. -/
inductive BudgetPhase
  | idle
  | started (ip : IpAddr) (clock : Clock)
  | locking (ip : IpAddr) (now : Instant) (shards : List CertShard)

def BudgetPhase.reading : BudgetPhase → Option (IpAddr × Instant)
  | .idle => none
  | .started ip clock => some (ip, clock.now)
  | .locking ip now _ => some (ip, now)

/-- `clock` is the last reading; `granted` lists the calls that returned true, with their readings. -/
structure CertBudget (ι : Type) where
  tracked : Dict IpAddr Instant := ∅
  gauge : Nat := 0
  lastSweepEpochSecs : Nat := 0
  phase : ι → BudgetPhase := fun _ => .idle
  clock : Instant
  granted : List (IpAddr × Instant) := []

inductive BudgetEvent (ι : Type)
  | take (call : ι) (ip : IpAddr) (clock : Clock)
  | advance (call : ι)

def tryReserveFullCertSentEntry (gauge : Nat) : Option Nat :=
  if fullCertSentMaxIps ≤ gauge then none else some (gauge + 1)

namespace CertBudget
variable {ι : Type} [DecidableEq ι] (shardIdx : IpAddr → CertShard) (ttl : Duration)

variable (s : CertBudget ι)

def sweepShard (shard : CertShard) (now : Instant) : CertBudget ι :=
  let kept := Dict.retain (fun ip seen => shardIdx ip ≠ shard ∨ now.durationSince seen < ttl) s.tracked
  { s with tracked := kept, gauge := s.gauge - (Dict.size s.tracked - Dict.size kept) }

def updateShard (ip : IpAddr) (now : Instant) : CertBudget ι :=
  let allowed := { s with
    tracked := s.tracked.insert ip now
    granted := s.granted ++ [(ip, now)] }
  match s.tracked.lookup ip with
  | some seen => if ttl ≤ now.durationSince seen then allowed else s
  | none =>
    match tryReserveFullCertSentEntry s.gauge with
    | some gauge => { allowed with gauge }
    | none => s

-- The clock never goes back. Without a `ttl` a call returns at once.
def step : BudgetEvent ι → Option (CertBudget ι)
  | .take call ip clock =>
    match s.phase call with
    | .idle =>
      if ttl = 0 then some s
      else if s.clock ≤ clock.now then
        some { s with clock := clock.now, phase := Function.update s.phase call (.started ip clock) }
      else none
    | _ => none
  | .advance call =>
    match s.phase call with
    | .idle => none
    | .started ip clock =>
      if fullCertSentSweepIntervalSecs ≤ clock.epochSecs - s.lastSweepEpochSecs then
        some { s with
          lastSweepEpochSecs := clock.epochSecs
          phase := Function.update s.phase call (.locking ip clock.now (List.finRange 64)) }
      else some { s with phase := Function.update s.phase call (.locking ip clock.now []) }
    | .locking ip now (shard :: shards) =>
      some { s.sweepShard shardIdx ttl shard now with
        phase := Function.update s.phase call (.locking ip now shards) }
    | .locking ip now [] =>
      some { s.updateShard ttl ip now with phase := Function.update s.phase call .idle }

/-- The sweep forgets no address for which a call in progress has a reading of before it expires. -/
def Patient (shard : CertShard) (now : Instant) : Prop :=
  ∀ ip seen, s.tracked.lookup ip = some seen → shardIdx ip = shard → ttl ≤ now.durationSince seen →
    ∀ call reading, (s.phase call).reading = some (ip, reading) → seen + ttl ≤ reading

def Unhurried : BudgetEvent ι → Prop
  | .take .. => True
  | .advance call => ∀ ip now shard shards,
    s.phase call = .locking ip now (shard :: shards) → s.Patient shardIdx ttl shard now

structure Counted (s : CertBudget ι) : Prop where
  gauge : s.gauge = Dict.size s.tracked
  capped : Dict.size s.tracked ≤ fullCertSentMaxIps

structure Spaced (s : CertBudget ι) : Prop where
  past : ∀ call r, (s.phase call).reading = some r → 0 < ttl ∧ r.2 ≤ s.clock
  apart : s.granted.Pairwise fun (a b : IpAddr × Instant) => a.1 = b.1 → a.2 + ttl ≤ b.2
  latest : ∀ g ∈ s.granted, ∀ seen, s.tracked.lookup g.1 = some seen → g.2 ≤ seen
  expired : ∀ g ∈ s.granted, s.tracked.lookup g.1 = none → g.2 + ttl ≤ s.clock ∧
    ∀ call reading, (s.phase call).reading = some (g.1, reading) → g.2 + ttl ≤ reading

variable {shardIdx ttl} {s t : CertBudget ι} {event : BudgetEvent ι} {call : ι} {ip : IpAddr}
  {now : Instant}

theorem le_of_durationSince {seen : Instant} (positive : 0 < ttl)
    (long : ttl ≤ now.durationSince seen) : seen + ttl ≤ now := by
  have arith (a b : Int) (d : Nat) (_ : 0 < d) (_ : d ≤ (a - b).toNat) : b + d ≤ a := by omega
  exact arith now seen ttl positive long

omit [DecidableEq ι] in
theorem Counted.sweepShard (counted : s.Counted) (shard : CertShard) :
    (s.sweepShard shardIdx ttl shard now).Counted := by
  have fewer := Dict.size_retain_le
    (fun ip seen => shardIdx ip ≠ shard ∨ now.durationSince seen < ttl) s.tracked
  refine ⟨?_, fewer.trans counted.capped⟩
  rw [CertBudget.sweepShard, counted.gauge, Nat.sub_sub_self fewer]

omit [DecidableEq ι] in
theorem Counted.updateShard (counted : s.Counted) : (s.updateShard ttl ip now).Counted := by
  unfold CertBudget.updateShard tryReserveFullCertSentEntry
  cases found : s.tracked.lookup ip with
  | some seen =>
    dsimp only
    split_ifs
    · have size := Dict.size_insert_of_mem now (Dict.mem_iff_lookup.mpr ⟨seen, found⟩)
      exact ⟨counted.gauge.trans size.symm, size.trans_le counted.capped⟩
    · exact counted
  | none =>
    split_ifs with full
    · exact counted
    · have size := Dict.size_insert_of_notMem now (AList.lookup_eq_none.mp found)
      rw [counted.gauge] at full
      exact ⟨(congrArg (· + 1) counted.gauge).trans size.symm,
        size.trans_le (Nat.not_le.mp full)⟩

omit [DecidableEq ι] in
theorem updateShard_phase : (s.updateShard ttl ip now).phase = s.phase := by
  unfold CertBudget.updateShard
  split <;> split <;> rfl

theorem step_cases (moved : s.step shardIdx ttl event = some t) :
    t = s ∨
    (∃ call phase clock last, s.clock ≤ clock ∧
      (∀ r, phase.reading = some r → (s.phase call).reading = some r ∨ 0 < ttl ∧ r.2 = clock) ∧
      t = { s with
        clock
        lastSweepEpochSecs := last
        phase := Function.update s.phase call phase }) ∨
    (∃ call ip now shard shards, event = .advance call ∧
      s.phase call = .locking ip now (shard :: shards) ∧
      t = { s.sweepShard shardIdx ttl shard now with
        phase := Function.update s.phase call (.locking ip now shards) }) ∨
    ∃ call ip now, (s.phase call).reading = some (ip, now) ∧
      t = { s.updateShard ttl ip now with phase := Function.update s.phase call .idle } := by
  cases event with
  | take call ip clock =>
    simp only [step] at moved
    split at moved
    · split_ifs at moved with free order
      · exact .inl (Option.some.inj moved).symm
      · refine .inr (.inl ⟨call, _, clock.now, _, order, fun r reading => .inr ?_,
          (Option.some.inj moved).symm⟩)
        cases reading
        exact ⟨Nat.pos_of_ne_zero free, rfl⟩
    · cases moved
  | advance call =>
    simp only [step] at moved
    split at moved
    · cases moved
    · rename_i ip clock started
      have reading : (s.phase call).reading = some (ip, clock.now) := by rw [started]; rfl
      split_ifs at moved
      all_goals exact .inr (.inl ⟨call, .locking ip clock.now _, s.clock, _, le_rfl,
        fun r same => .inl (reading.trans same), (Option.some.inj moved).symm⟩)
    · rename_i ip now shard shards sweeps
      exact .inr (.inr (.inl ⟨call, ip, now, shard, shards, rfl, sweeps,
        (Option.some.inj moved).symm⟩))
    · rename_i ip now updates
      exact .inr (.inr (.inr ⟨call, ip, now, by rw [updates]; rfl, (Option.some.inj moved).symm⟩))

theorem Counted.step (counted : s.Counted) (moved : s.step shardIdx ttl event = some t) :
    t.Counted := by
  rcases step_cases moved with rfl | ⟨_, _, _, _, _, _, rfl⟩ | ⟨_, _, _, shard, _, _, _, rfl⟩ |
    ⟨_, _, _, _, rfl⟩
  · exact counted
  · exact ⟨counted.gauge, counted.capped⟩
  · exact ⟨(counted.sweepShard shard).gauge, (counted.sweepShard shard).capped⟩
  · exact ⟨counted.updateShard.gauge, counted.updateShard.capped⟩

section
variable (spaced : s.Spaced ttl)
include spaced

theorem Spaced.setPhase {phase : BudgetPhase} {clock : Instant} (last : Nat) (order : s.clock ≤ clock)
    (reads : ∀ r, phase.reading = some r →
      (s.phase call).reading = some r ∨ 0 < ttl ∧ r.2 = clock) :
    Spaced ttl { s with
      clock
      lastSweepEpochSecs := last
      phase := Function.update s.phase call phase } := by
  have readings (other : ι) (r : IpAddr × Instant)
      (reading : (Function.update s.phase call phase other).reading = some r) :
      (s.phase other).reading = some r ∨ 0 < ttl ∧ r.2 = clock := by
    by_cases same : other = call
    · rw [same, Function.update_self] at reading
      exact same ▸ reads r reading
    · rw [Function.update_of_ne same] at reading
      exact .inl reading
  refine ⟨?_, spaced.apart, spaced.latest, ?_⟩
  · intro other r reading
    rcases readings other r reading with old | ⟨positive, new⟩
    · exact ⟨(spaced.past other r old).1, (spaced.past other r old).2.trans order⟩
    · exact ⟨positive, new.le⟩
  · intro g member gone
    obtain ⟨before, waiting⟩ := spaced.expired g member gone
    refine ⟨before.trans order, fun other r reading => ?_⟩
    rcases readings other _ reading with old | ⟨_, rfl⟩
    · exact waiting other r old
    · exact before.trans order

omit [DecidableEq ι] in
theorem Spaced.sweepShard {shard : CertShard} (reading : (s.phase call).reading = some (ip, now))
    (patient : s.Patient shardIdx ttl shard now) :
    Spaced ttl (s.sweepShard shardIdx ttl shard now) := by
  obtain ⟨positive, past⟩ := spaced.past call _ reading
  refine ⟨spaced.past, spaced.apart, ?_, ?_⟩
  · intro g member seen found
    rw [CertBudget.sweepShard, Dict.lookup_retain] at found
    exact spaced.latest g member seen (Option.filter_eq_some_iff.mp found).1
  · intro g member gone
    rw [CertBudget.sweepShard, Dict.lookup_retain] at gone
    cases found : s.tracked.lookup g.1 with
    | none => exact spaced.expired g member found
    | some seen =>
      have latest := spaced.latest g member seen found
      rw [found] at gone
      simp only [Option.filter_some, ite_eq_right_iff, reduceCtorEq, imp_false, decide_eq_true_eq,
        not_or, not_not, not_lt] at gone
      have added := Int.add_le_add_right latest ttl
      refine ⟨added.trans ((le_of_durationSince positive gone.2).trans past), ?_⟩
      intro waiting r waits
      exact added.trans (patient g.1 seen found gone.1 gone.2 waiting r waits)

omit [DecidableEq ι] in
/-- The call is allowed if all earlier ones for its address are `ttl` ago. -/
theorem Spaced.grant (gauge : Nat) (ago : ∀ g ∈ s.granted, g.1 = ip → g.2 + ttl ≤ now) :
    Spaced ttl { s with
      tracked := s.tracked.insert ip now
      gauge
      granted := s.granted ++ [(ip, now)] } := by
  refine ⟨spaced.past, ?_, ?_, ?_⟩
  · refine List.pairwise_append.mpr ⟨spaced.apart, List.pairwise_singleton _ _, ?_⟩
    intro g member new isNew same
    rw [List.mem_singleton.mp isNew] at same ⊢
    exact ago g member same
  · intro g member seen found
    rw [Dict.lookup_insert_ite] at found
    split_ifs at found with same
    · cases found
      rcases List.mem_append.mp member with old | new
      · exact (Int.le_add_of_nonneg_right (Int.natCast_nonneg ttl)).trans (ago g old same)
      · rw [List.mem_singleton.mp new]
    · rcases List.mem_append.mp member with old | new
      · exact spaced.latest g old seen found
      · exact absurd (congrArg Prod.fst (List.mem_singleton.mp new)) same
  · intro g member gone
    rw [Dict.lookup_insert_ite] at gone
    split_ifs at gone with same
    rcases List.mem_append.mp member with old | new
    · exact spaced.expired g old gone
    · exact absurd (congrArg Prod.fst (List.mem_singleton.mp new)) same

omit [DecidableEq ι] in
theorem Spaced.updateShard (reading : (s.phase call).reading = some (ip, now)) :
    Spaced ttl (s.updateShard ttl ip now) := by
  obtain ⟨positive, -⟩ := spaced.past call _ reading
  unfold CertBudget.updateShard
  cases found : s.tracked.lookup ip with
  | some seen =>
    dsimp only
    split_ifs with long
    · refine spaced.grant s.gauge fun g member same => ?_
      exact (Int.add_le_add_right (spaced.latest g member seen (same ▸ found)) _).trans
        (le_of_durationSince positive long)
    · exact spaced
  | none =>
    cases tryReserveFullCertSentEntry s.gauge with
    | none => exact spaced
    | some gauge =>
      refine spaced.grant gauge fun g member same => ?_
      exact (spaced.expired g member (same ▸ found)).2 call now (same ▸ reading)

theorem Spaced.step (unhurried : s.Unhurried shardIdx ttl event)
    (moved : s.step shardIdx ttl event = some t) : t.Spaced ttl := by
  rcases step_cases moved with rfl | ⟨call, phase, clock, last, order, reads, rfl⟩ |
    ⟨call, ip, now, shard, shards, rfl, sweeps, rfl⟩ | ⟨call, ip, now, reading, rfl⟩
  · exact spaced
  · exact spaced.setPhase last order reads
  · have reading : (s.phase call).reading = some (ip, now) := by rw [sweeps]; rfl
    have swept := spaced.sweepShard reading (unhurried ip now shard shards sweeps)
    exact swept.setPhase _ le_rfl fun r same => .inl (reading.trans same)
  · rw [← s.updateShard_phase]
    exact (spaced.updateShard reading).setPhase _ le_rfl fun r none => by cases none

end

end CertBudget

open CertBudget

theorem full_cert_budget {ι : Type} [DecidableEq ι] (shardIdx : IpAddr → CertShard)
    (ttl : Duration) (start : Instant) (events : List (BudgetEvent ι)) (s : CertBudget ι)
    (run : runFrom (step shardIdx ttl) { clock := start } events = some s) :
    s.gauge = Dict.size s.tracked ∧ Dict.size s.tracked ≤ fullCertSentMaxIps ∧
      (Guarded (step shardIdx ttl) (Unhurried shardIdx ttl) { clock := start } events →
        s.granted.Pairwise fun (a b : IpAddr × Instant) => a.1 = b.1 → a.2 + ttl ≤ b.2) := by
  have counted := runFrom_invariant Counted (fun _ _ _ _ counted moved => counted.step moved)
    (guarded_of_mem (fun _ _ _ => trivial) _) ⟨rfl, Nat.zero_le _⟩ run
  refine ⟨counted.gauge, counted.capped, fun unhurried => ?_⟩
  have spaced : s.Spaced ttl := runFrom_invariant (Spaced ttl)
    (fun _ _ _ ok spaced moved => spaced.step ok moved) unhurried
    ⟨by simp [BudgetPhase.reading], List.Pairwise.nil, by simp, by simp⟩ run
  exact spaced.apart

instance {ι : Type} [Fintype ι] (shardIdx : IpAddr → CertShard) (ttl : Duration) (s : CertBudget ι)
    (shard : CertShard) (now : Instant) : Decidable (s.Patient shardIdx ttl shard now) :=
  decidable_of_iff (∀ entry ∈ s.tracked.entries, shardIdx entry.1 = shard →
    ttl ≤ now.durationSince entry.2 → ∀ call, ∀ r ∈ (s.phase call).reading, r.1 = entry.1 →
      entry.2 + ttl ≤ r.2) (by
    constructor
    · intro patient ip seen found here long call reading waits
      exact patient ⟨ip, seen⟩ (AList.mem_lookup_iff.mp found) here long call _ waits rfl
    · rintro patient entry member here long call ⟨_, reading⟩ waits rfl
      exact patient _ _ (AList.mem_lookup_iff.mpr member) here long call reading waits)

instance {ι : Type} [Fintype ι] (shardIdx : IpAddr → CertShard) (ttl : Duration) (s : CertBudget ι) :
    (event : BudgetEvent ι) → Decidable (s.Unhurried shardIdx ttl event)
  | .take .. => isTrue trivial
  | .advance call =>
    match at_ : s.phase call with
    | .locking _ now (shard :: _) => decidable_of_iff (s.Patient shardIdx ttl shard now)
        ⟨fun patient _ _ _ _ sweeps => by cases at_.symm.trans sweeps; exact patient,
          fun unhurried => unhurried _ _ _ _ at_⟩
    | .idle | .started .. | .locking _ _ [] => isTrue fun _ _ _ _ sweeps => by
        cases at_.symm.trans sweeps

-- Call 1 waits with its reading while call 2 sweeps at 60 seconds.
def lateUpdate (reading : Clock) : List (BudgetEvent (Fin 3)) :=
  let ip := IpAddr.ofOctets 10 0 0 1
  [.take 0 ip ⟨0, 1000⟩, .advance 0] ++ List.replicate 65 (.advance 0) ++
    [.take 1 ip reading, .take 2 ip ⟨60000000000, 1060⟩, .advance 2, .advance 2, .advance 1, .advance 1]

theorem swept_budget_granted_early :
    (runFrom (step (fun _ => 0) (Duration.fromSecs 60)) { clock := 0 }
      (lateUpdate ⟨20000000000, 1020⟩)).map (fun s => s.granted) =
      some [(.ofOctets 10 0 0 1, 0), (.ofOctets 10 0 0 1, 20000000000)] := by
  decide +kernel

theorem swept_budget_granted_in_time :
    ∃ s, runFrom (step (fun _ => 0) (Duration.fromSecs 60)) { clock := 0 }
        (lateUpdate ⟨60000000000, 1060⟩) = some s ∧
      s.granted = [(.ofOctets 10 0 0 1, 0), (.ofOctets 10 0 0 1, 60000000000)] ∧
      s.gauge = Dict.size s.tracked ∧ Dict.size s.tracked ≤ fullCertSentMaxIps ∧
      s.granted.Pairwise fun (a b : IpAddr × Instant) =>
        a.1 = b.1 → a.2 + Duration.fromSecs 60 ≤ b.2 := by
  have reached : (runFrom (step (fun _ => 0) (Duration.fromSecs 60)) { clock := 0 }
      (lateUpdate ⟨60000000000, 1060⟩)).map (fun s => s.granted) =
      some [(.ofOctets 10 0 0 1, 0), (.ofOctets 10 0 0 1, 60000000000)] := by
    decide +kernel
  obtain ⟨s, run, granted⟩ := Option.map_eq_some_iff.mp reached
  obtain ⟨gauge, capped, apart⟩ := full_cert_budget _ _ _ _ s run
  exact ⟨s, run, granted, gauge, capped, apart (by decide +kernel)⟩

end Telemt.TlsFront
