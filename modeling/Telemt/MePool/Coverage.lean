import Telemt.MePool.Reinit

namespace Telemt.MePool
open Foundation

/-! # Which data centres a reinit leaves served -/

def Served (writers : Dict WriterId MeWriter) (dc : Int) : Prop :=
  ∃ id writer, writers.lookup id = some writer ∧ writer.writerDc = dc ∧ writer.draining = false

def KeptDraining (stale : List WriterId) (writers : Dict WriterId MeWriter) (dc : Int) : Prop :=
  ∃ id ∈ stale, ∃ writer,
    writers.lookup id = some writer ∧ writer.writerDc = dc ∧ writer.draining = true

variable (desired : DesiredMap)

theorem hasNonDrainingWriterPerDesiredDcGroup_iff (writers : Dict WriterId MeWriter) :
    hasNonDrainingWriterPerDesiredDcGroup desired writers = true ↔
      ∀ dc ∈ requiredDcs desired, Served writers dc := by
  unfold hasNonDrainingWriterPerDesiredDcGroup Served
  rw [decide_eq_true_iff]
  apply forall₂_congr
  intro dc _
  constructor
  · rintro ⟨⟨id, writer⟩, member, active, same⟩
    exact ⟨id, writer, AList.mem_lookup_iff.mpr member, same, active⟩
  · rintro ⟨id, writer, found, same, active⟩
    exact ⟨⟨id, writer⟩, AList.mem_lookup_iff.mp found, active, same⟩

namespace Pool

theorem mem_staleWriterIds {p : Pool} {desired : DesiredMap} {hardswap : Bool} {generation : Nat}
    {id : WriterId} :
    id ∈ p.staleWriterIds desired hardswap generation ↔
      ∃ writer, p.writers.lookup id = some writer ∧ writer.draining = false ∧
        isStale desired hardswap generation writer = true := by
  simp only [staleWriterIds, List.mem_map, List.mem_filter, Bool.and_eq_true, Bool.not_eq_true']
  constructor
  · rintro ⟨⟨_, writer⟩, ⟨member, active, stale⟩, rfl⟩
    exact ⟨writer, AList.mem_lookup_iff.mpr member, active, stale⟩
  · rintro ⟨writer, found, active, stale⟩
    exact ⟨⟨id, writer⟩, ⟨AList.mem_lookup_iff.mp found, active, stale⟩, rfl⟩

theorem promoteWriter_role (hardswap : Bool) (generation stamp : Nat) (writer : MeWriter) :
    (promoteWriter stamp writer).draining = writer.draining ∧
      (promoteWriter stamp writer).writerDc = writer.writerDc ∧
      isStale desired hardswap generation (promoteWriter stamp writer) =
        isStale desired hardswap generation writer := by
  unfold promoteWriter
  split <;> exact ⟨rfl, rfl, rfl⟩

def OnlyStale (hardswap : Bool) (generation : Nat) (writers : Dict WriterId MeWriter) (dc : Int) :
    Prop :=
  ∀ id writer, writers.lookup id = some writer → writer.writerDc = dc → writer.draining = false →
    isStale desired hardswap generation writer = true

section Promoted
variable (p : Pool) (desired : DesiredMap) (hardswap : Bool) (generation stamp : Nat)

theorem lookup_promoted (id : WriterId) :
    (p.promoteWarmGenerationToActive stamp).writers.lookup id =
      (p.writers.lookup id).map (promoteWriter stamp) :=
  Dict.lookup_mapValues _ _ id

theorem served_promoted (dc : Int) :
    Served (p.promoteWarmGenerationToActive stamp).writers dc ↔ Served p.writers dc := by
  apply exists_congr
  intro id
  rw [lookup_promoted]
  constructor
  · rintro ⟨_, found, same, active⟩
    obtain ⟨writer, located, rfl⟩ := Option.map_eq_some_iff.mp found
    obtain ⟨draining, writerDc, -⟩ := promoteWriter_role ∅ false 0 stamp writer
    exact ⟨writer, located, writerDc ▸ same, draining ▸ active⟩
  · rintro ⟨writer, found, same, active⟩
    obtain ⟨draining, writerDc, -⟩ := promoteWriter_role ∅ false 0 stamp writer
    exact ⟨promoteWriter stamp writer, by rw [found]; rfl, writerDc.trans same,
      draining.trans active⟩

theorem staleWriterIds_promoted :
    (p.promoteWarmGenerationToActive stamp).staleWriterIds desired hardswap generation =
      p.staleWriterIds desired hardswap generation := by
  have role := promoteWriter_role desired hardswap generation stamp
  simp [staleWriterIds, promoteWarmGenerationToActive, Dict.mapValues, List.filter_map,
    Function.comp_def, role]

theorem onlyStale_promoted (dc : Int) :
    OnlyStale desired hardswap generation (p.promoteWarmGenerationToActive stamp).writers dc ↔
      OnlyStale desired hardswap generation p.writers dc := by
  apply forall_congr'
  intro id
  rw [lookup_promoted]
  have role := promoteWriter_role desired hardswap generation stamp
  cases p.writers.lookup id <;> simp [role]

end Promoted

theorem lookup_closeStale (canDrop hardswap : Bool) (timeoutSecs : Option Nat) (now : Nat)
    (p : WriterPool) (id other : WriterId) :
    (closeStale canDrop hardswap timeoutSecs now p id).writers.lookup other =
      if other = id then
        if canDrop then none
        else (p.writers.lookup other).map (·.startDraining timeoutSecs (!hardswap) now)
      else p.writers.lookup other := by
  unfold closeStale
  by_cases same : other = id
  · subst same
    cases canDrop <;>
      simp [WriterPool.lookup_removeWriterAndCloseClients,
        WriterPool.lookup_markWriterDrainingWithTimeout]
  · cases canDrop <;>
      simp [WriterPool.lookup_removeWriterAndCloseClients,
        WriterPool.lookup_markWriterDrainingWithTimeout, same]

theorem lookup_closeAll (canDrop hardswap : Bool) (timeoutSecs : Option Nat) (now : Nat)
    (stale : List WriterId) (p : WriterPool) (other : WriterId) :
    (stale.foldl (closeStale canDrop hardswap timeoutSecs now) p).writers.lookup other =
      if other ∈ stale then
        if canDrop then none
        else (p.writers.lookup other).map (·.startDraining timeoutSecs (!hardswap) now)
      else p.writers.lookup other := by
  induction stale generalizing p with
  | nil => rfl
  | cons id _ ih =>
    rw [List.foldl_cons, ih, lookup_closeStale]
    by_cases same : other = id
    · -- Marking a writer again changes nothing.
      cases canDrop <;> simp [same, MeWriter.startDraining, Function.comp_def]
    · simp [same]

section Loop
variable {p : Pool} {desired : DesiredMap} {hardswap : Bool} {generation : Nat} {dc : Int}
  {canDrop : Bool} {timeoutSecs : Option Nat} {now : Nat}

theorem kept_of_fallback (served : Served p.writers dc) :
    let stale := p.staleWriterIds desired hardswap generation
    let after := stale.foldl (closeStale false hardswap timeoutSecs now) p.toWriterPool
    Served after.writers dc ∨ KeptDraining stale after.writers dc := by
  intro stale after
  obtain ⟨id, writer, found, same, active⟩ := served
  have located := lookup_closeAll false hardswap timeoutSecs now stale p.toWriterPool id
  rw [found] at located
  by_cases member : id ∈ stale
  · rw [if_pos member] at located
    exact .inr ⟨id, member, _, located, same, rfl⟩
  · rw [if_neg member] at located
    exact .inl ⟨id, writer, located, same, active⟩

theorem kept_of_dropped :
    let stale := p.staleWriterIds desired hardswap generation
    let after := stale.foldl (closeStale true hardswap timeoutSecs now) p.toWriterPool
    Served after.writers dc ∨ KeptDraining stale after.writers dc ↔
      ¬ OnlyStale desired hardswap generation p.writers dc := by
  intro stale after
  have located := lookup_closeAll true hardswap timeoutSecs now stale p.toWriterPool
  constructor
  · rintro (⟨id, writer, found, same, active⟩ | ⟨id, member, writer, found, -⟩) only
    · rw [located] at found
      by_cases member : id ∈ stale
      · rw [if_pos member] at found
        cases found
      · rw [if_neg member] at found
        exact member
          (mem_staleWriterIds.mpr ⟨writer, found, active, only id writer found same active⟩)
    · rw [located, if_pos member] at found
      cases found
  · intro fresh
    simp only [OnlyStale, not_forall] at fresh
    obtain ⟨id, writer, found, same, active, current⟩ := fresh
    refine .inl ⟨id, writer, ?_, same, active⟩
    rw [located, if_neg]
    · exact found
    · rintro member
      obtain ⟨_, found', -, stale'⟩ := mem_staleWriterIds.mp member
      rw [found] at found'
      cases found'
      exact current stale'

end Loop

section Drain
variable {p : Pool} {desired : DesiredMap} {hardswap : Bool} {generation now later : Nat} {dc : Int}

def canDropWithReplacement (p : Pool) (later : Nat) : Bool :=
  hasNonDrainingWriterPerDesiredDcGroup (p.desiredDcEndpoints later) p.writers

theorem canDropWithReplacement_promoted (stamp : Nat) :
    (p.promoteWarmGenerationToActive stamp).canDropWithReplacement later =
      p.canDropWithReplacement later := by
  rw [Bool.eq_iff_iff]
  unfold canDropWithReplacement
  rw [hasNonDrainingWriterPerDesiredDcGroup_iff, hasNonDrainingWriterPerDesiredDcGroup_iff]
  simp only [served_promoted]
  rfl

def closeAll (p : Pool) (desired : DesiredMap) (hardswap : Bool) (generation later : Nat) :
    WriterPool :=
  (p.staleWriterIds desired hardswap generation).foldl
    (closeStale (p.canDropWithReplacement later) hardswap p.forceCloseTimeout later) p.toWriterPool

theorem closeAll_of_none (none : p.staleWriterIds desired hardswap generation = []) :
    (p.closeAll desired hardswap generation later).writers = p.writers := by
  rw [closeAll, none]
  rfl

theorem writers_drainStaleWriters :
    (p.drainStaleWriters desired hardswap generation now later).1.writers =
      if (p.evaluateDrainGate desired hardswap generation now).2 then
        ((if hardswap then p.promoteWarmGenerationToActive generation else p).closeAll desired
          hardswap generation later).writers
      else p.writers := by
  unfold drainStaleWriters
  cases opens : (p.evaluateDrainGate desired hardswap generation now).2 with
  | false => simp [opens, setLastDrainGate]
  | true =>
    cases hardswap
    all_goals
      simp only [opens, Bool.not_true, Bool.false_eq_true, if_false, if_true]
      split_ifs with none
      · exact (closeAll_of_none none).symm
      · rfl

theorem closeAll_keeps_iff (served : Served p.writers dc) :
    let after := (p.closeAll desired hardswap generation later).writers
    Served after dc ∨ KeptDraining (p.staleWriterIds desired hardswap generation) after dc ↔
      ¬ (p.canDropWithReplacement later = true ∧
        OnlyStale desired hardswap generation p.writers dc) := by
  unfold closeAll
  cases p.canDropWithReplacement later with
  | false => simpa using kept_of_fallback served
  | true => simpa using kept_of_dropped

theorem closeAll_promoted_keeps_iff (served : Served p.writers dc) :
    let after := ((p.promoteWarmGenerationToActive generation).closeAll desired hardswap generation
      later).writers
    Served after dc ∨ KeptDraining (p.staleWriterIds desired hardswap generation) after dc ↔
      ¬ (p.canDropWithReplacement later = true ∧
        OnlyStale desired hardswap generation p.writers dc) := by
  have promoted := @closeAll_keeps_iff (p.promoteWarmGenerationToActive generation) desired
    hardswap generation later dc ((served_promoted p generation dc).mpr served)
  rwa [staleWriterIds_promoted, canDropWithReplacement_promoted, onlyStale_promoted] at promoted

theorem drainStaleWriters_keeps_iff (served : Served p.writers dc) :
    let after := (p.drainStaleWriters desired hardswap generation now later).1.writers
    Served after dc ∨ KeptDraining (p.staleWriterIds desired hardswap generation) after dc ↔
      ¬ ((p.evaluateDrainGate desired hardswap generation now).2 = true ∧
        p.canDropWithReplacement later = true ∧
        OnlyStale desired hardswap generation p.writers dc) := by
  intro after
  have writers : after = _ := writers_drainStaleWriters
  by_cases opens : (p.evaluateDrainGate desired hardswap generation now).2 = true
  · rw [writers, and_iff_right opens]
    split_ifs
    · exact closeAll_promoted_keeps_iff served
    · exact closeAll_keeps_iff served
  · rw [if_neg opens] at writers
    rw [writers]
    exact iff_of_true (.inl served) fun failed => opens failed.1

end Drain

end Pool

def Pool.atGate (p : Pool) (mapHash : DesiredMap → Nat) (connect : Pool → Pool) (now : Nat) :
    Nat × Pool :=
  let (generation, begun) := p.beginGeneration (mapHash (p.desiredDcEndpoints now)) now
  (generation, connect begun)

open Pool

theorem reinit_keeps_served_dc_iff (p : Pool) (mapHash : DesiredMap → Nat) (connect : Pool → Pool)
    (now later : Nat) (dc : Int) (mapped : (p.desiredDcEndpoints now).entries ≠ []) :
    let desired := p.desiredDcEndpoints now
    let generation := (p.atGate mapHash connect now).1
    let gate := (p.atGate mapHash connect now).2
    let stale := gate.staleWriterIds desired p.reinit.hardswap generation
    let after := (p.zeroDowntimeReinitAfterMapChange mapHash connect now later).1.writers
    Served gate.writers dc →
      (Served after dc ∨ KeptDraining stale after dc ↔
        ¬ ((gate.evaluateDrainGate desired p.reinit.hardswap generation now).2 = true ∧
          gate.canDropWithReplacement later = true ∧
          OnlyStale desired p.reinit.hardswap generation gate.writers dc)) := by
  intro desired generation gate stale after served
  have reached : after =
      (gate.drainStaleWriters desired p.reinit.hardswap generation now later).1.writers := by
    simp only [after, zeroDowntimeReinitAfterMapChange, if_neg mapped]
    rfl
  rw [reached]
  exact drainStaleWriters_keeps_iff served

/-! A hardswap of two data centres, of which only the first gets a writer of the new generation. -/

def endpointOf (dc : UInt8) : SocketAddr := ⟨.ofOctets 10 0 0 dc, 8888⟩

def writerOf (dc : UInt8) (generation : Nat) : MeWriter where
  addr := endpointOf dc
  sourceIp := .ofOctets 10 0 0 9
  writerDc := dc.toNat
  generation := generation

def addDc (dc : UInt8) (map : ProxyMap) : ProxyMap :=
  @AList.insert Int (fun _ => List (IpAddr × UInt16)) _ dc.toNat
    [((endpointOf dc).ip, (endpointOf dc).port)] map

def addWriter (id : WriterId) (writer : MeWriter) (p : Pool) : Pool :=
  { p with writers := p.writers.insert id writer }

def twoDcs (permille : Nat) : Pool :=
  addWriter 12 (writerOf 2 1) (addWriter 11 (writerOf 1 1)
    { proxyMapV4 := addDc 2 (addDc 1 ∅)
      minFreshRatioPermille := permille
      reinit := { hardswap := true } })

def warmFirst : Pool → Pool := addWriter 13 (writerOf 1 2)

theorem full_quorum_keeps_second_dc :
    let p := twoDcs 1000
    let gate := p.atGate (fun _ => 7) warmFirst 100
    let after := (p.zeroDowntimeReinitAfterMapChange (fun _ => 7) warmFirst 100 101).1.writers
    Served after 2 ∨
      KeptDraining (gate.2.staleWriterIds (p.desiredDcEndpoints 100) true gate.1) after 2 :=
  (reinit_keeps_served_dc_iff (twoDcs 1000) (fun _ => 7) warmFirst 100 101 2 (by decide +kernel)
    ⟨12, writerOf 2 1, by decide +kernel, by decide, rfl⟩).mpr fun failed =>
      absurd failed.1 (by decide +kernel)

theorem half_quorum_closes_second_dc :
    Served ((twoDcs 500).atGate (fun _ => 7) warmFirst 100).2.writers 2 ∧
      ((twoDcs 500).zeroDowntimeReinitAfterMapChange (fun _ => 7) warmFirst 100 101).2 = true ∧
      ∀ entry ∈ ((twoDcs 500).zeroDowntimeReinitAfterMapChange (fun _ => 7) warmFirst 100
        101).1.writers.entries, entry.2.writerDc ≠ 2 := by
  refine ⟨⟨12, writerOf 2 1, by decide +kernel, by decide, rfl⟩, by decide +kernel, by decide +kernel⟩

end Telemt.MePool
