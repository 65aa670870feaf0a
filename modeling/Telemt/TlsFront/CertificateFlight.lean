import Telemt.TlsFront.Emulator
import Mathlib.Algebra.Order.BigOperators.Group.Finset
import Mathlib.Algebra.Order.Ring.Nat

namespace Telemt.TlsFront
open Telemt.Foundation Telemt.Stream

/-! # What the certificate flight carries -/

def AppDataRecord.inner (record : AppDataRecord) : Bytes :=
  record.body.take (record.body.length - 17)

variable (payload : Bytes)

def CarriesOnce (records : List AppDataRecord) : Prop :=
  records.flatMap (·.inner) = payload ++ records.flatMap (·.filler)

variable (sizes : List Nat)

def RepeatsItself : Prop :=
  payload = sizes.flatMap fun size => payload.take (size - 17)

instance (records : List AppDataRecord) : Decidable (CarriesOnce payload records) :=
  inferInstanceAs (Decidable (_ = _))

instance : Decidable (RepeatsItself payload sizes) :=
  inferInstanceAs (Decidable (_ = _))

def Sized : Prop := ∀ size ∈ sizes, minAppData ≤ size ∧ size ≤ maxAppData

theorem clampAppData_sized (size : Nat) :
    minAppData ≤ clampAppData size ∧ clampAppData size ≤ maxAppData := by
  unfold clampAppData minAppData maxAppData maxTlsCiphertextSize
  omega

theorem jitterAndClampSize_sized (rng : SecureRandom) (call size : Nat) :
    minAppData ≤ (jitterAndClampSize rng call size).1 ∧
      (jitterAndClampSize rng call size).1 ≤ maxAppData := by
  unfold jitterAndClampSize
  dsimp only
  split_ifs
  · exact clampAppData_sized size
  · unfold minAppData maxAppData maxTlsCiphertextSize
    omega

theorem jitterAndClampSizes_sized (rng : SecureRandom) (call : Nat) (sizes : List Nat) :
    Sized (jitterAndClampSizes rng call sizes).1 ∧
      (jitterAndClampSizes rng call sizes).1.length = sizes.length := by
  induction sizes generalizing call with
  | nil => exact ⟨nofun, rfl⟩
  | cons size _ ih =>
    obtain ⟨sized, length⟩ := ih (jitterAndClampSize rng call size).2
    refine ⟨?_, congrArg Nat.succ length⟩
    intro other member
    rcases List.mem_cons.mp member with rfl | later
    · exact jitterAndClampSize_sized rng call size
    · exact sized other later

theorem clampedAppDataSizes_sized (cached : CachedTlsData) (rng : SecureRandom) (call : Nat) :
    Sized (clampedAppDataSizes cached rng call).1 ∧
      (clampedAppDataSizes cached rng call).1.length = (emulatedAppDataSizes cached).length := by
  have clamped : Sized ((emulatedAppDataSizes cached).map clampAppData) := by
    intro size member
    obtain ⟨base, _, rfl⟩ := List.mem_map.mp member
    exact clampAppData_sized base
  unfold clampedAppDataSizes
  split
  · exact ⟨clamped, List.length_map _⟩
  · exact ⟨clamped, List.length_map _⟩
  · exact jitterAndClampSizes_sized rng call _
  · exact jitterAndClampSizes_sized rng call _

theorem emulatedAppDataSizes_ne_nil (cached : CachedTlsData) : emulatedAppDataSizes cached ≠ [] := by
  unfold emulatedAppDataSizes
  split
  · split <;> exact List.cons_ne_nil _ _
  · split <;> exact List.cons_ne_nil _ _
  · split_ifs with empty
    · exact List.cons_ne_nil _ _
    · exact empty
  · split_ifs with empty
    · exact List.cons_ne_nil _ _
    · exact empty

theorem appDataBodyCapacity_cons (size : Nat) (sizes : List Nat) :
    appDataBodyCapacity (size :: sizes) = (size - 17) + appDataBodyCapacity sizes := by
  rfl

theorem appDataBodyCapacity_append (first second : List Nat) :
    appDataBodyCapacity (first ++ second) =
      appDataBodyCapacity first + appDataBodyCapacity second := by
  rw [appDataBodyCapacity, List.map_append, List.sum_append]
  rfl

theorem extraSizes_sized (fuel remaining : Nat) : Sized (extraSizes fuel remaining) := by
  induction fuel generalizing remaining with
  | zero => exact nofun
  | succ _ ih =>
    rw [extraSizes]
    split_ifs
    · exact nofun
    · intro size member
      rcases List.mem_cons.mp member with rfl | later
      · exact clampAppData_sized _
      · exact ih _ size later

theorem le_capacity_extraSizes {fuel remaining : Nat} (enough : remaining ≤ fuel) :
    remaining ≤ appDataBodyCapacity (extraSizes fuel remaining) := by
  induction fuel generalizing remaining with
  | zero => exact enough.trans (Nat.zero_le _)
  | succ _ ih =>
    rw [extraSizes]
    split_ifs with done
    · exact done.le.trans (Nat.zero_le _)
    · have room : 0 < clampAppData (remaining + 17) - 17 := by
        have sized := (clampAppData_sized (remaining + 17)).1
        unfold minAppData at sized
        omega
      have rest := @ih (remaining - (clampAppData (remaining + 17) - 17)) (by omega)
      rw [appDataBodyCapacity_cons]
      omega

theorem ensurePayloadCapacity_cases {sizes : List Nat} {payloadLen : Nat} (nonempty : sizes ≠ []) :
    (payloadLen ≤ appDataBodyCapacity sizes ∧ ensurePayloadCapacity sizes payloadLen = sizes) ∨
    ∃ init last, sizes = init ++ [last] ∧ appDataBodyCapacity sizes < payloadLen ∧
      ensurePayloadCapacity sizes payloadLen =
        init ++ (last + min (maxAppData - last) (payloadLen - appDataBodyCapacity sizes)) ::
          extraSizes
            (payloadLen - appDataBodyCapacity sizes -
              min (maxAppData - last) (payloadLen - appDataBodyCapacity sizes))
            (payloadLen - appDataBodyCapacity sizes -
              min (maxAppData - last) (payloadLen - appDataBodyCapacity sizes)) := by
  unfold ensurePayloadCapacity
  split_ifs with empty fits
  · exact Or.inl ⟨empty.le.trans (Nat.zero_le _), rfl⟩
  · exact Or.inl ⟨fits, rfl⟩
  · refine Or.inr ⟨sizes.dropLast, sizes.getLast nonempty, ?_, Nat.lt_of_not_le fits, ?_⟩
    · exact (List.dropLast_append_getLast nonempty).symm
    · rw [List.getLast?_eq_some_getLast nonempty]

variable {sizes : List Nat}

theorem ensurePayloadCapacity_sized (payloadLen : Nat) (nonempty : sizes ≠ [])
    (sized : Sized sizes) : Sized (ensurePayloadCapacity sizes payloadLen) := by
  rcases @ensurePayloadCapacity_cases sizes payloadLen nonempty with
    ⟨_, same⟩ | ⟨init, last, rfl, _, grown⟩
  · rw [same]
    exact sized
  · rw [grown]
    intro size member
    rcases List.mem_append.mp member with kept | later
    · exact sized size (List.mem_append_left _ kept)
    · rcases List.mem_cons.mp later with rfl | extra
      · obtain ⟨_, _⟩ := sized last (List.mem_append_right _ List.mem_cons_self)
        omega
      · exact extraSizes_sized _ _ size extra

theorem le_capacity_ensurePayloadCapacity (payloadLen : Nat) (nonempty : sizes ≠ [])
    (sized : Sized sizes) :
    payloadLen ≤ appDataBodyCapacity (ensurePayloadCapacity sizes payloadLen) := by
  rcases @ensurePayloadCapacity_cases sizes payloadLen nonempty with
    ⟨fits, same⟩ | ⟨init, last, rfl, short, grown⟩
  · rw [same]
    exact fits
  · have low := (sized last (List.mem_append_right _ List.mem_cons_self)).1
    have before : appDataBodyCapacity (init ++ [last]) = appDataBodyCapacity init + (last - 17) := by
      rw [appDataBodyCapacity_append, appDataBodyCapacity_cons]
      rfl
    rw [grown, appDataBodyCapacity_append, appDataBodyCapacity_cons]
    generalize min (maxAppData - last) _ = grow
    have extra := @le_capacity_extraSizes
      (payloadLen - appDataBodyCapacity (init ++ [last]) - grow) _ le_rfl
    unfold minAppData at low
    omega

theorem extraSizes_zero (fuel : Nat) : extraSizes fuel 0 = [] := by
  cases fuel <;> rfl

theorem ensurePayloadCapacity_single_iff {payloadLen : Nat} (nonempty : sizes ≠ [])
    (sized : Sized sizes) :
    (ensurePayloadCapacity sizes payloadLen).length = 1 ↔
      sizes.length = 1 ∧ payloadLen ≤ maxAppData - 17 := by
  have capacity := le_capacity_ensurePayloadCapacity payloadLen nonempty sized
  have sized' := ensurePayloadCapacity_sized payloadLen nonempty sized
  constructor
  · intro single
    obtain ⟨size, isSize⟩ := List.length_eq_one_iff.mp single
    have high := (sized' size (by rw [isSize]; exact List.mem_cons_self)).2
    rw [isSize, appDataBodyCapacity_cons] at capacity
    refine ⟨?_, capacity.trans (Nat.sub_le_sub_right high 17)⟩
    rcases @ensurePayloadCapacity_cases sizes payloadLen nonempty with
      ⟨_, same⟩ | ⟨init, last, split, _, grown⟩
    · rw [← same]
      exact single
    · rw [grown, List.length_append, List.length_cons] at single
      rw [split, List.length_append, List.length_singleton]
      omega
  · rintro ⟨single, _⟩
    rcases @ensurePayloadCapacity_cases sizes payloadLen nonempty with
      ⟨_, same⟩ | ⟨init, last, split, short, grown⟩
    · rw [same]
      exact single
    · have alone : init = [] := by
        rw [split, List.length_append, List.length_singleton] at single
        exact List.eq_nil_of_length_eq_zero (by omega)
      subst alone split
      have held : appDataBodyCapacity ([] ++ [last]) = last - 17 := by
        rfl
      rw [held] at grown short
      have enough : payloadLen - (last - 17) - min (maxAppData - last) (payloadLen - (last - 17)) = 0 := by
        have low := (sized last (List.mem_append_right _ List.mem_cons_self)).1
        unfold minAppData at low
        omega
      rw [grown, enough, extraSizes_zero]
      rfl

structure FilledFrom (payload : Bytes) (size : Nat) (record : AppDataRecord) : Prop where
  copied_eq : record.copied = payload.take (size - 17)
  filler_length : record.filler.length = size - 17 - payload.length
  trailer_length : record.trailer.length = 17

variable {size : Nat}

theorem fillRecord_filled (rng : SecureRandom) (payload : Bytes) (call : Nat) (room : 17 < size) :
    FilledFrom payload size (fillRecord rng (some payload) call size).1 := by
  have copied : payload.take (min payload.length (size - 17)) = payload.take (size - 17) := by
    rw [Nat.min_comm, ← List.take_eq_take_min]
  unfold fillRecord
  dsimp only
  split_ifs with short
  · refine ⟨copied, ?_, ?_⟩
    · rw [rng.bytes_length]
      omega
    · show (rng.bytes _ 16).length + 1 = 17
      rw [rng.bytes_length]
  · refine ⟨copied, ?_, ?_⟩
    · show 0 = _
      omega
    · show (rng.bytes _ 16).length + 1 = 17
      rw [rng.bytes_length]

theorem fillRecords_filled (rng : SecureRandom) (payload : Bytes) (call : Nat) (sized : Sized sizes) :
    List.Forall₂ (FilledFrom payload) sizes (fillRecords rng (some payload) call sizes).1 := by
  induction sizes generalizing call with
  | nil => exact List.Forall₂.nil
  | cons size _ ih =>
    have low := (sized size List.mem_cons_self).1
    unfold minAppData at low
    refine List.Forall₂.cons (fillRecord_filled rng payload call (by omega)) ?_
    exact ih _ fun other member => sized other (List.mem_cons_of_mem size member)

variable {payload : Bytes}

theorem FilledFrom.inner_eq {record : AppDataRecord} (filled : FilledFrom payload size record) :
    record.inner = record.copied ++ record.filler := by
  unfold AppDataRecord.inner AppDataRecord.body
  rw [List.length_append, filled.trailer_length, Nat.add_sub_cancel, List.take_left]

variable {records : List AppDataRecord}

theorem flatMap_copied (filled : List.Forall₂ (FilledFrom payload) sizes records) :
    records.flatMap (·.copied) = sizes.flatMap fun size => payload.take (size - 17) := by
  induction filled with
  | nil => rfl
  | cons first _ ih => rw [List.flatMap_cons, List.flatMap_cons, first.copied_eq, ih]

theorem flatMap_inner (filled : List.Forall₂ (FilledFrom payload) sizes records) :
    records.flatMap (·.inner) = records.flatMap fun record => record.copied ++ record.filler := by
  induction filled with
  | nil => rfl
  | cons first _ ih => rw [List.flatMap_cons, List.flatMap_cons, first.inner_eq, ih]

theorem lt_sum_of_mem {values : List Nat} (positive : ∀ value ∈ values, 0 < value)
    (two : 1 < values.length) {value : Nat} (member : value ∈ values) : value < values.sum := by
  have split := List.sum_erase member
  have rest : 0 < (values.erase value).sum := by
    refine List.sum_pos _ (fun other later => positive other (List.mem_of_mem_erase later)) ?_
    refine List.ne_nil_of_length_pos ?_
    rw [List.length_erase_of_mem member]
    omega
  omega

theorem FilledFrom.copied_spec {record : AppDataRecord} (filled : FilledFrom payload size record)
    (low : minAppData ≤ size) (nonempty : payload ≠ []) :
    0 < record.copied.length ∧ (record.filler ≠ [] → record.copied.length = payload.length) := by
  have some_payload := List.length_pos_of_ne_nil nonempty
  have filler := filled.filler_length
  unfold minAppData at low
  rw [filled.copied_eq, List.length_take]
  refine ⟨by omega, ?_⟩
  intro more
  have spare := List.length_pos_of_ne_nil more
  omega

theorem copied_specs (filled : List.Forall₂ (FilledFrom payload) sizes records)
    (sized : Sized sizes) (nonempty : payload ≠ []) :
    ∀ record ∈ records, 0 < record.copied.length ∧
      (record.filler ≠ [] → record.copied.length = payload.length) := by
  induction filled with
  | nil => exact nofun
  | @cons size _ sizes _ first _ ih =>
    intro record member
    rcases List.mem_cons.mp member with rfl | later
    · exact first.copied_spec (sized size List.mem_cons_self).1 nonempty
    · exact ih (fun other inside => sized other (List.mem_cons_of_mem size inside)) record later

theorem filler_eq_nil
    (specs : ∀ record ∈ records, 0 < record.copied.length ∧ (record.filler ≠ [] →
      record.copied.length = payload.length))
    (several : 1 < records.length) (total : (records.flatMap (·.copied)).length = payload.length) :
    ∀ record ∈ records, record.filler = [] := by
  intro record member
  by_contra more
  have whole := (specs record member).2 more
  have positive : ∀ length ∈ records.map (·.copied.length), 0 < length := by
    intro length inside
    obtain ⟨other, otherMember, rfl⟩ := List.mem_map.mp inside
    exact (specs other otherMember).1
  have less := lt_sum_of_mem positive (by rw [List.length_map]; exact several)
    (List.mem_map_of_mem member)
  rw [List.length_flatMap] at total
  omega

theorem flatMap_eq_of_filler_nil (empty : ∀ record ∈ records, record.filler = []) :
    records.flatMap (·.filler) = [] ∧
      (records.flatMap fun record => record.copied ++ record.filler) =
        records.flatMap (·.copied) := by
  induction records with
  | nil => exact ⟨rfl, rfl⟩
  | cons record _ ih =>
    obtain ⟨fillers, copies⟩ := ih fun other later => empty other (List.mem_cons_of_mem record later)
    simp only [List.flatMap_cons, empty record List.mem_cons_self, fillers, copies, List.append_nil,
      and_self]

theorem length_flatMap_inner (records : List AppDataRecord) :
    (records.flatMap fun record => record.copied ++ record.filler).length =
      (records.flatMap (·.copied)).length + (records.flatMap (·.filler)).length := by
  induction records with
  | nil => rfl
  | cons _ _ ih =>
    simp only [List.flatMap_cons, List.length_append, ih]
    omega

theorem carriesOnce_iff (filled : List.Forall₂ (FilledFrom payload) sizes records)
    (sized : Sized sizes) (nonempty : payload ≠ []) :
    CarriesOnce payload records ↔ RepeatsItself payload sizes := by
  have specs := copied_specs filled sized nonempty
  unfold CarriesOnce RepeatsItself
  rw [flatMap_inner filled, ← flatMap_copied filled]
  by_cases several : 1 < records.length
  · constructor
    · intro carried
      have lengths := congrArg List.length carried
      rw [length_flatMap_inner, List.length_append] at lengths
      obtain ⟨fillers, copies⟩ := flatMap_eq_of_filler_nil
        (filler_eq_nil specs several (Nat.add_right_cancel lengths))
      rw [copies, fillers, List.append_nil] at carried
      exact carried.symm
    · intro repeated
      obtain ⟨fillers, copies⟩ := flatMap_eq_of_filler_nil
        (filler_eq_nil specs several (congrArg List.length repeated).symm)
      rw [copies, fillers, List.append_nil]
      exact repeated.symm
  · match records, several with
    | [], _ => simp [eq_comm]
    | [record], _ => simp [eq_comm]
    | _ :: _ :: _, more => exact absurd (by simp) more

theorem hashBlocks_length (crc32 : Bytes → UInt32) (payload : Bytes) (fuel : Nat) (state : UInt32) :
    (hashBlocks crc32 payload fuel state).length = 4 * fuel := by
  induction fuel generalizing state with
  | zero => rfl
  | succ _ ih =>
    rw [hashBlocks, List.length_append, leBytes_length, ih]
    omega

theorem hashCompactCertInfoPayload_ne_nil {crc32 : Bytes → UInt32} {hashed : Bytes}
    (some_hash : hashCompactCertInfoPayload crc32 payload = some hashed) : hashed ≠ [] := by
  unfold hashCompactCertInfoPayload at some_hash
  split_ifs at some_hash with empty
  cases some_hash
  have positive := List.length_pos_of_ne_nil empty
  refine List.ne_nil_of_length_pos ?_
  rw [List.length_take, hashBlocks_length]
  omega

theorem selectedPayload_ne_nil {prims : Primitives} {cached : CachedTlsData}
    {request : EmulationRequest} (selected : selectedPayload prims cached request = some payload) :
    payload ≠ [] := by
  have full : ∀ bytes, cached.certificateMessage.filter (· ≠ []) = some bytes → bytes ≠ [] := by
    intro bytes some_bytes
    simpa using (Option.filter_eq_some_iff.mp some_bytes).2
  have compact : ∀ bytes, ((cached.certInfo.bind buildCompactCertInfoPayload).bind
      (hashCompactCertInfoPayload prims.crc32)) = some bytes → bytes ≠ [] := by
    intro bytes some_bytes
    obtain ⟨_, _, hashed⟩ := Option.bind_eq_some_iff.mp some_bytes
    exact hashCompactCertInfoPayload_ne_nil hashed
  unfold selectedPayload at selected
  dsimp only at selected
  split at selected
  · cases selected
  · split_ifs at selected with compacted whole
    · rcases Option.or_eq_some_iff.mp selected with first | ⟨_, second⟩
      · exact full payload first
      · exact compact payload second
    · exact compact payload selected
    · exact full payload selected

theorem signResponse_append {prims : Primitives} {request : EmulationRequest} {hello rest : Bytes}
    (long : tlsDigestPos + tlsDigestLen ≤ hello.length) :
    ∃ signed, signed.length = hello.length ∧
      signResponse prims request (hello ++ rest) = signed ++ rest := by
  refine ⟨hello.take tlsDigestPos ++
    prims.sha256Hmac request.secret (request.clientDigest ++ (hello ++ rest)) ++
    hello.drop (tlsDigestPos + tlsDigestLen), ?_, ?_⟩
  · unfold tlsDigestPos tlsDigestLen at long ⊢
    rw [List.length_append, List.length_append, List.length_take, List.length_drop,
      prims.hmac_length]
    omega
  · unfold signResponse
    rw [List.take_append_of_le_length ((Nat.le_add_right _ _).trans long),
      List.drop_append_of_le_length long]
    simp only [List.append_assoc]

theorem serverHelloRecord_length (cached : CachedTlsData) (request : EmulationRequest)
    (extensions : Bytes) :
    tlsDigestPos + tlsDigestLen ≤
      (serverHelloRecord (serverHelloMessage cached request extensions)).length := by
  simp only [serverHelloRecord, serverHelloMessage, TlsRecordHeader.toBytes, beBytes,
    List.length_append, List.length_cons, List.length_nil, List.length_replicate,
    List.length_reverse, leBytes_length, tlsDigestPos, tlsDigestLen]
  omega

def flightCall (prims : Primitives) (cached : CachedTlsData) (rng : SecureRandom) : Nat :=
  (buildProfiledServerHelloExtensions prims cached rng 0).2

theorem buildEmulatedServerHello_eq (prims : Primitives) (cached : CachedTlsData)
    (request : EmulationRequest) (rng : SecureRandom) :
    ∃ hello tickets, buildEmulatedServerHello prims cached request rng =
      hello ++ changeCipherSpec ++
        (certificateFlight cached (selectedPayload prims cached request) rng
          (flightCall prims cached rng)).1.flatMap (·.toBytes) ++ tickets := by
  unfold buildEmulatedServerHello flightCall
  dsimp only
  rw [List.append_assoc, List.append_assoc]
  obtain ⟨signed, _, response⟩ := @signResponse_append prims request _ _
    (serverHelloRecord_length cached request
      (buildProfiledServerHelloExtensions prims cached rng 0).1)
  rw [response]
  exact ⟨signed, _, by rw [List.append_assoc, List.append_assoc]⟩

theorem plannedSizes_spec (cached : CachedTlsData) (payload : Bytes) (rng : SecureRandom)
    (call : Nat) :
    Sized (plannedSizes cached (some payload) rng call).1 ∧
      (plannedSizes cached (some payload) rng call).1 ≠ [] ∧
      payload.length ≤ appDataBodyCapacity (plannedSizes cached (some payload) rng call).1 ∧
      ((plannedSizes cached (some payload) rng call).1.length = 1 ↔
        (emulatedAppDataSizes cached).length = 1 ∧ payload.length ≤ maxAppData - 17) := by
  obtain ⟨sized, length⟩ := clampedAppDataSizes_sized cached rng call
  have nonempty : (clampedAppDataSizes cached rng call).1 ≠ [] := by
    refine List.ne_nil_of_length_pos ?_
    rw [length]
    exact List.length_pos_of_ne_nil (emulatedAppDataSizes_ne_nil cached)
  rw [← length]
  refine ⟨ensurePayloadCapacity_sized _ nonempty sized, ?_,
    le_capacity_ensurePayloadCapacity _ nonempty sized,
    ensurePayloadCapacity_single_iff nonempty sized⟩
  show ensurePayloadCapacity (clampedAppDataSizes cached rng call).1 payload.length ≠ []
  rcases @ensurePayloadCapacity_cases _ payload.length nonempty with ⟨_, same⟩ | ⟨_, _, _, _, grown⟩
  · rw [same]
    exact nonempty
  · rw [grown]
    exact List.append_ne_nil_of_right_ne_nil _ (List.cons_ne_nil _ _)

theorem flight_carries_payload_iff (prims : Primitives) (cached : CachedTlsData)
    (request : EmulationRequest) (rng : SecureRandom) (payload : Bytes)
    (selected : selectedPayload prims cached request = some payload) :
    (∃ hello tickets, buildEmulatedServerHello prims cached request rng =
      hello ++ changeCipherSpec ++
        (certificateFlight cached (some payload) rng (flightCall prims cached rng)).1.flatMap
          (·.toBytes) ++ tickets) ∧
    (CarriesOnce payload
        (certificateFlight cached (some payload) rng (flightCall prims cached rng)).1 ↔
      ((emulatedAppDataSizes cached).length = 1 ∧ payload.length ≤ maxAppData - 17) ∨
      (1 < (plannedSizes cached (some payload) rng (flightCall prims cached rng)).1.length ∧
        RepeatsItself payload
          (plannedSizes cached (some payload) rng (flightCall prims cached rng)).1)) := by
  refine ⟨selected ▸ buildEmulatedServerHello_eq prims cached request rng, ?_⟩
  generalize flightCall prims cached rng = call
  obtain ⟨sized, some_sizes, capacity, single_iff⟩ := plannedSizes_spec cached payload rng call
  have filled := fillRecords_filled rng payload (plannedSizes cached (some payload) rng call).2 sized
  have iff := carriesOnce_iff filled sized (selectedPayload_ne_nil selected)
  have positive := List.length_pos_of_ne_nil some_sizes
  rw [← single_iff]
  refine iff.trans ⟨?_, ?_⟩
  · intro repeated
    by_cases single : (plannedSizes cached (some payload) rng call).1.length = 1
    · exact Or.inl single
    · exact Or.inr ⟨by omega, repeated⟩
  · rintro (single | ⟨_, repeated⟩)
    · obtain ⟨_, isSize⟩ := List.length_eq_one_iff.mp single
      rw [isSize, appDataBodyCapacity_cons] at capacity
      unfold RepeatsItself
      rw [isSize, List.flatMap_singleton]
      exact (List.take_of_length_le capacity).symm
    · exact repeated

def zeroRandom : SecureRandom where
  bytes := fun _ len => List.replicate len 0
  range := fun _ _ => 0
  bytes_length := fun _ _ => List.length_replicate

def zeroPrimitives : Primitives where
  x25519 := fun _ => List.replicate 32 0
  crc32 := fun _ => 0
  sha256Hmac := fun _ _ => List.replicate 32 0
  hmac_length := fun _ _ => List.length_replicate

/-- A profile without raw capture, with the given record sizes and certificate message. -/
def profileOf (sizes : List Nat) (certificateMessage : Bytes) : CachedTlsData where
  serverHelloTemplate := ⟨tlsVersion, (0x13, 0x01), 0, []⟩
  certInfo := none
  certificateMessage := some certificateMessage
  appDataRecordsSizes := sizes
  totalAppDataLen := sizes.sum
  behaviorProfile := ⟨[], [], .default⟩

def tls12Request : EmulationRequest where
  secret := []
  clientDigest := List.replicate 32 0
  sessionId := []
  useFullCertPayload := true
  serverhelloCompact := false
  clientTlsVersion := .tls12
  selectedCipherSuite := (0, 0)
  newSessionTickets := 0

def countingPayload : Bytes := (List.range 60).map UInt8.ofNat

theorem single_record_carries_payload :
    selectedPayload zeroPrimitives (profileOf [100] countingPayload) tls12Request =
      some countingPayload ∧
    CarriesOnce countingPayload (certificateFlight (profileOf [100] countingPayload)
      (some countingPayload) zeroRandom
      (flightCall zeroPrimitives (profileOf [100] countingPayload) zeroRandom)).1 := by
  have selected : selectedPayload zeroPrimitives (profileOf [100] countingPayload) tls12Request =
    some countingPayload := by decide +kernel
  refine ⟨selected, ?_⟩
  refine (flight_carries_payload_iff zeroPrimitives (profileOf [100] countingPayload) tls12Request
    zeroRandom countingPayload selected).2.mpr (Or.inl ?_)
  decide +kernel

/-- Two records of 64 bytes have room for 60 bytes of payload, but the second one starts again at
the payload's beginning. -/
theorem second_record_restarts_payload :
    selectedPayload zeroPrimitives (profileOf [64, 64] countingPayload) tls12Request =
      some countingPayload ∧
    (plannedSizes (profileOf [64, 64] countingPayload) (some countingPayload) zeroRandom
      (flightCall zeroPrimitives (profileOf [64, 64] countingPayload) zeroRandom)).1 = [64, 64] ∧
    ((certificateFlight (profileOf [64, 64] countingPayload) (some countingPayload) zeroRandom
      (flightCall zeroPrimitives (profileOf [64, 64] countingPayload) zeroRandom)).1.flatMap
        (·.inner)).take 60 = countingPayload.take 47 ++ countingPayload.take 13 ∧
    ¬ CarriesOnce countingPayload (certificateFlight (profileOf [64, 64] countingPayload)
      (some countingPayload) zeroRandom
      (flightCall zeroPrimitives (profileOf [64, 64] countingPayload) zeroRandom)).1 := by
  decide +kernel

end Telemt.TlsFront
