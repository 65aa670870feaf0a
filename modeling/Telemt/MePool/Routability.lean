import Telemt.MePool.Selection

namespace Telemt.MePool
open Foundation

/-! # Coverage and routability -/

theorem mem_destutter'_ne {α : Type*} [DecidableEq α] {a b : α} {values : List α} :
    a ∈ values.destutter' (· ≠ ·) b ↔ a = b ∨ a ∈ values := by
  induction values generalizing b with
  | nil => simp
  | cons c _ ih =>
    rw [List.destutter'_cons]
    split_ifs with differs
    · rw [List.mem_cons, ih, List.mem_cons]
    · rw [ih, List.mem_cons, not_not.mp differs]
      tauto

theorem mem_destutter_ne {α : Type*} [DecidableEq α] {a : α} {values : List α} :
    a ∈ values.destutter (· ≠ ·) ↔ a ∈ values := by
  cases values with
  | nil => rfl
  | cons b => rw [List.destutter_cons', mem_destutter'_ne, List.mem_cons]

variable {dc : Int}

theorem endpointsOf_of_notMem {map : ProxyMap} (absent : dc ∉ map.keys) :
    endpointsOf map dc = [] := by
  have none : map.lookup dc = none := AList.lookup_eq_none.mpr absent
  simp [endpointsOf, none]

theorem mem_preferred (decision : NetworkDecision) (mapV4 mapV6 : ProxyMap) (dc : Int)
    (addr : SocketAddr) :
    addr ∈ ((buildPreferredEndpointsByDc decision mapV4 mapV6).lookup dc).getD [] ↔
      addr ∈ decision.selectEndpoints (endpointsOf mapV4 dc) (endpointsOf mapV6 dc) := by
  unfold buildPreferredEndpointsByDc
  rw [Dict.lookup_assign]
  split_ifs with known
  · rw [Option.getD_some, mem_destutter_ne, mem_sortByKey]
  · rw [List.mem_append, not_or] at known
    rw [endpointsOf_of_notMem known.1, endpointsOf_of_notMem known.2]
    simp [NetworkDecision.selectEndpoints, NetworkDecision.preferredFamily]

theorem mem_addEndpoints (out : DesiredMap) (map : ProxyMap) (dc : Int) (addr : SocketAddr) :
    addr ∈ ((addEndpoints out map).lookup dc).getD ∅ ↔
      addr ∈ (out.lookup dc).getD ∅ ∨ addr ∈ endpointsOf map dc := by
  have shown := Dict.view_foldl_entries
    (fun (out : DesiredMap) dc endpoints =>
      out.insert dc ((out.lookup dc).getD ∅ ∪
        (endpoints.map fun endpoint => SocketAddr.mk endpoint.1 endpoint.2).toFinset))
    (fun out dc => (out.lookup dc).getD ∅)
    (fun known endpoints =>
      known ∪ (endpoints.map fun endpoint => SocketAddr.mk endpoint.1 endpoint.2).toFinset)
    (by intro out dc endpoints; simp)
    (by intro out dc endpoints other differs; simp [AList.lookup_insert_ne differs])
    map out dc
  unfold addEndpoints
  rw [shown, endpointsOf]
  cases map.lookup dc with
  | none | some endpoints => simp

theorem mem_addEndpoints_if (enabled : Prop) [Decidable enabled] (out : DesiredMap)
    (map : ProxyMap) (dc : Int) (addr : SocketAddr) :
    addr ∈ ((if enabled then addEndpoints out map else out).lookup dc).getD ∅ ↔
      addr ∈ (out.lookup dc).getD ∅ ∨ (enabled ∧ addr ∈ endpointsOf map dc) := by
  split_ifs with holds
  · rw [mem_addEndpoints, and_iff_right holds]
  · simp [holds]

theorem mem_desiredDcEndpoints (p : Pool) (now : Nat) (dc : Int) (addr : SocketAddr) :
    addr ∈ ((p.desiredDcEndpoints now).lookup dc).getD ∅ ↔
      ((p.ipv4Me = true ∧ ¬ now < p.suppressedUntilV4) ∧ addr ∈ endpointsOf p.proxyMapV4 dc) ∨
        ((p.ipv6Me = true ∧ ¬ now < p.suppressedUntilV6) ∧ addr ∈ endpointsOf p.proxyMapV6 dc) := by
  unfold Pool.desiredDcEndpoints
  rw [mem_addEndpoints_if, mem_addEndpoints_if]
  simp

def Pool.under (p : Pool) (decision : NetworkDecision) : Pool :=
  { p with ipv4Me := decision.ipv4Me, ipv6Me := decision.ipv6Me }

section Views
variable (p : Pool) (decision : NetworkDecision) (now : Nat) (dc : Int)

def desiredAt : Finset SocketAddr := (((p.under decision).desiredDcEndpoints now).lookup dc).getD ∅

theorem mem_selectEndpoints_of_multipath (multipath : decision.effectiveMultipath = true)
    {addr : SocketAddr} (desired : addr ∈ desiredAt p decision now dc) :
    addr ∈ decision.selectEndpoints (endpointsOf p.proxyMapV4 dc)
      (endpointsOf p.proxyMapV6 dc) := by
  have known : addr ∈ endpointsOf p.proxyMapV4 dc ∨ addr ∈ endpointsOf p.proxyMapV6 dc := by
    rcases (mem_desiredDcEndpoints (p.under decision) now dc addr).mp desired with v4 | v6
    · exact .inl v4.2
    · exact .inr v6.2
  unfold NetworkDecision.selectEndpoints
  split_ifs
  · exact List.mem_append.mpr known.symm
  · exact List.mem_append.mpr known

end Views

theorem writerEligible_of_active (policy : SelectionPolicy) (now : Nat) {writer : MeWriter}
    (active : writer.draining = false) :
    policy.writerEligibleForSelection now true writer = true := by
  unfold SelectionPolicy.writerEligibleForSelection SelectionPolicy.writerAcceptsNewBinding
  rw [active]
  cases writer.contour <;> rfl

theorem candidatesForDc_eq_filter (policy : SelectionPolicy) (now : Nat)
    (preferred : PreferredEndpoints) (writers : List Candidate) (dc : Int) (includeWarm : Bool) :
    policy.candidatesForDc now preferred writers dc includeWarm =
      writers.filter fun candidate =>
        policy.writerEligibleForSelection now includeWarm candidate.2 &&
          (candidate.2.writerDc = dc && candidate.2.addr ∈ (preferred.lookup dc).getD []) := by
  unfold SelectionPolicy.candidatesForDc
  split
  · rename_i absent
    simp [absent]
  · rename_i endpoints found
    rw [found]
    split_ifs with empty
    · simp [empty]
    · rfl

section Candidates
variable {p : WriterPool} {dc : Int} {id : WriterId} {writer : MeWriter}

theorem mem_snapshot : (id, writer) ∈ p.snapshot ↔ p.writers.lookup id = some writer := by
  unfold WriterPool.snapshot
  rw [Dict.mem_pairs, ← AList.mem_lookup_iff, Option.mem_def]

theorem mem_candidates_of_active (policy : SelectionPolicy) (now : Nat)
    {preferred : PreferredEndpoints} (found : p.writers.lookup id = some writer)
    (active : writer.draining = false) (serves : writer.writerDc = dc) :
    (id, writer) ∈ policy.candidatesForDc now preferred p.snapshot dc true ↔
      writer.addr ∈ (preferred.lookup dc).getD [] := by
  rw [candidatesForDc_eq_filter, List.mem_filter, mem_snapshot]
  simp [found, writerEligible_of_active policy now active, serves]

end Candidates

def Covered (desired : DesiredMap) (active : Finset (Int × SocketAddr)) (dc : Int) : Prop :=
  dc ∈ requiredDcs desired ∧ dc ∉ (coverageRatio desired active).2

theorem covered_iff {desired : DesiredMap} {active : Finset (Int × SocketAddr)} :
    Covered desired active dc ↔
      ∃ addr ∈ (desired.lookup dc).getD ∅, (dc, addr) ∈ active := by
  have located (endpoints : Finset SocketAddr) :
      (⟨dc, endpoints⟩ : (_ : Int) × Finset SocketAddr) ∈ desired.entries ↔
        desired.lookup dc = some endpoints := AList.mem_lookup_iff.symm
  have required : dc ∈ requiredDcs desired ↔
      ∃ endpoints, desired.lookup dc = some endpoints ∧ endpoints ≠ ∅ := by
    simp [requiredDcs, located]
  have missing : dc ∈ (coverageRatio desired active).2 ↔
      ∃ endpoints, desired.lookup dc = some endpoints ∧ endpoints ≠ ∅ ∧
        ¬ ∃ addr ∈ endpoints, (dc, addr) ∈ active := by
    simp [coverageRatio, located, and_comm]
  unfold Covered
  rw [required, missing]
  cases desired.lookup dc with
  | none => simp
  | some =>
    simp only [Option.some.injEq, exists_eq_left', Option.getD_some]
    constructor
    · rintro ⟨inhabited, covered⟩
      exact not_not.mp fun uncovered => covered ⟨inhabited, uncovered⟩
    · rintro ⟨addr, member, here⟩
      exact ⟨Finset.ne_empty_of_mem member, fun uncovered => uncovered.2 ⟨addr, member, here⟩⟩

theorem mem_writerAddrs {writers : Dict WriterId MeWriter} {counted : MeWriter → Bool}
    {addr : SocketAddr} :
    (dc, addr) ∈ writerAddrs writers counted ↔
      ∃ id writer, writers.lookup id = some writer ∧ writer.draining = false ∧
        counted writer = true ∧ writer.writerDc = dc ∧ writer.addr = addr := by
  simp only [writerAddrs, List.mem_toFinset, List.mem_map, List.mem_filter, Bool.and_eq_true,
    Bool.not_eq_true', Prod.mk.injEq]
  constructor
  · rintro ⟨⟨id, writer⟩, ⟨member, active, counts⟩, serves, at_⟩
    exact ⟨id, writer, AList.mem_lookup_iff.mpr member, active, counts, serves, at_⟩
  · rintro ⟨id, writer, found, active, counts, serves, at_⟩
    exact ⟨⟨id, writer⟩, ⟨AList.mem_lookup_iff.mp found, active, counts⟩, serves, at_⟩

def CoverageRoutes (policy : SelectionPolicy) (p : Pool) (decision : NetworkDecision)
    (now : Nat) (dc : Int) : Prop :=
  ∀ (writers : Dict WriterId MeWriter) (counted : MeWriter → Bool),
    (∀ id writer, writers.lookup id = some writer → writer.draining = false) →
    Covered ((p.under decision).desiredDcEndpoints now) (writerAddrs writers counted) dc →
    policy.candidatesForDc now (buildPreferredEndpointsByDc decision p.proxyMapV4 p.proxyMapV6)
      { p.toWriterPool with writers := writers }.snapshot dc true ≠ []

section Routes
variable {policy : SelectionPolicy} {p : Pool} {decision : NetworkDecision} {now : Nat} {dc : Int}

theorem coverageRoutes_of_preferred
    (preferred : ∀ addr ∈ desiredAt p decision now dc,
      addr ∈ decision.selectEndpoints (endpointsOf p.proxyMapV4 dc) (endpointsOf p.proxyMapV6 dc)) :
    CoverageRoutes policy p decision now dc := by
  intro writers counted _ covered
  obtain ⟨_, desired, here⟩ := covered_iff.mp covered
  obtain ⟨id, writer, found, active, -, serves, rfl⟩ := mem_writerAddrs.mp here
  have member := (@mem_candidates_of_active { p.toWriterPool with writers := writers } dc id writer
    policy now (buildPreferredEndpointsByDc decision p.proxyMapV4 p.proxyMapV6) found active
    serves).mpr ((mem_preferred _ _ _ _ _).mpr (preferred _ desired))
  exact List.ne_nil_of_mem member

theorem preferred_of_coverageRoutes (routes : CoverageRoutes policy p decision now dc)
    {addr : SocketAddr} (desired : addr ∈ desiredAt p decision now dc) :
    addr ∈ decision.selectEndpoints (endpointsOf p.proxyMapV4 dc) (endpointsOf p.proxyMapV6 dc) := by
  let writer : MeWriter := { addr := addr, sourceIp := addr.ip, writerDc := dc, generation := 0 }
  let writers : Dict WriterId MeWriter := AList.singleton 0 writer
  have only (id : WriterId) (other : MeWriter) (found : writers.lookup id = some other) :
      id = 0 ∧ other = writer := by
    have member : (⟨id, other⟩ : (_ : WriterId) × MeWriter) ∈ [⟨0, writer⟩] :=
      AList.mem_lookup_iff.mp found
    cases List.mem_singleton.mp member
    exact ⟨rfl, rfl⟩
  have alone : writers.lookup 0 = some writer := rfl
  have covered : Covered ((p.under decision).desiredDcEndpoints now)
      (writerAddrs writers fun _ => true) dc :=
    covered_iff.mpr ⟨addr, desired, mem_writerAddrs.mpr ⟨0, writer, alone, rfl, rfl, rfl, rfl⟩⟩
  have candidates := routes writers (fun _ => true)
    (fun id other found => by rw [(only id other found).2]) covered
  obtain ⟨⟨id, other⟩, member⟩ := List.exists_mem_of_ne_nil _ candidates
  have found : writers.lookup id = some other := by
    rw [candidatesForDc_eq_filter, List.mem_filter] at member
    exact mem_snapshot.mp member.1
  obtain ⟨rfl, rfl⟩ := only id other found
  have preferred := (mem_candidates_of_active policy now found rfl rfl).mp member
  exact (mem_preferred _ _ _ _ _).mp preferred

end Routes

theorem coverage_routes_iff (policy : SelectionPolicy) (p : Pool) (decision : NetworkDecision)
    (now : Nat) (dc : Int) :
    CoverageRoutes policy p decision now dc ↔
      decision.effectiveMultipath = true ∨
        ∀ addr ∈ desiredAt p decision now dc,
          addr ∈ decision.preferredFamily (endpointsOf p.proxyMapV4 dc)
            (endpointsOf p.proxyMapV6 dc) := by
  constructor
  · intro routes
    rw [or_iff_not_imp_left]
    intro single addr desired
    have selected := preferred_of_coverageRoutes routes desired
    rwa [NetworkDecision.selectEndpoints, if_neg single] at selected
  · rintro (multipath | preferred)
    · exact coverageRoutes_of_preferred fun addr desired =>
        mem_selectEndpoints_of_multipath p decision now dc multipath desired
    · apply coverageRoutes_of_preferred
      intro addr desired
      by_cases multipath : decision.effectiveMultipath = true
      · exact mem_selectEndpoints_of_multipath p decision now dc multipath desired
      · rw [NetworkDecision.selectEndpoints, if_neg multipath]
        exact preferred addr desired

/-! Data centre 2 has an endpoint of each family, IPv4 is preferred, and only the IPv6 endpoint could
be reached. -/

def ipv6Endpoint : SocketAddr := ⟨.v6 (Vector.replicate 16 1), 8888⟩

def bothFamilies : Pool where
  proxyMapV4 := AList.singleton 2 [(.ofOctets 10 0 0 2, 8888)]
  proxyMapV6 := AList.singleton 2 [(ipv6Endpoint.ip, ipv6Endpoint.port)]
  reinit := { hardswap := false }

def preferV4 (multipath : Bool) : NetworkDecision where
  ipv4Me := true
  ipv6Me := true
  effectivePrefer := 4
  effectiveMultipath := multipath

def ipv6Writer : MeWriter where
  addr := ipv6Endpoint
  sourceIp := .v6 (Vector.replicate 16 2)
  writerDc := 2
  generation := 1

theorem multipath_coverage_routes :
    CoverageRoutes {} bothFamilies (preferV4 true) 100 2 :=
  (coverage_routes_iff {} bothFamilies (preferV4 true) 100 2).mpr (.inl rfl)

theorem ipv6_writer_covers_without_candidate :
    let writers : Dict WriterId MeWriter := AList.singleton 7 ipv6Writer
    let desired := (bothFamilies.under (preferV4 false)).desiredDcEndpoints 100
    2 ∈ requiredDcs desired ∧ coverageRatio desired (writerAddrs writers fun _ => true) = (1, []) ∧
      ({} : SelectionPolicy).candidatesForDc 100
        (buildPreferredEndpointsByDc (preferV4 false) bothFamilies.proxyMapV4
          bothFamilies.proxyMapV6)
        { bothFamilies.toWriterPool with writers := writers }.snapshot 2 true = [] := by
  decide +kernel

end Telemt.MePool
