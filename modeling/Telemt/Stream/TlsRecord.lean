import Telemt.Stream.State

namespace Telemt.Stream
open Foundation

/-! # TLS records -/

def tlsHeaderSize : Nat := 5

def tlsRecordChangeCipher : UInt8 := 0x14

def tlsRecordAlert : UInt8 := 0x15

def tlsRecordHandshake : UInt8 := 0x16

def tlsRecordApplication : UInt8 := 0x17

def maxTlsPlaintextSize : Nat := 16384

def maxTlsCiphertextSize : Nat := 16384 + 256

def hexDigit (n : Nat) : Char := "0123456789abcdef".toList.getD n '0'

def hexByte (b : UInt8) : String :=
  String.ofList [hexDigit (b.toNat / 16), hexDigit (b.toNat % 16)]

structure TlsVersion where
  major : UInt8
  minor : UInt8
  deriving DecidableEq, Repr

def tlsVersion : TlsVersion := ⟨0x03, 0x03⟩

def TlsVersion.shown (version : TlsVersion) : String :=
  "[" ++ hexByte version.major ++ ", " ++ hexByte version.minor ++ "]"

structure TlsRecordHeader where
  recordType : UInt8
  version : TlsVersion
  length : Nat

namespace TlsRecordHeader

/-- Defined on exactly five bytes, which is all the source's array type can hold. -/
def parse : Bytes → Option TlsRecordHeader
  | [recordType, major, minor, high, low] =>
    some ⟨recordType, ⟨major, minor⟩, beNat [high, low]⟩
  | _ => none

def toBytes (header : TlsRecordHeader) : Bytes :=
  [header.recordType, header.version.major, header.version.minor,
    UInt8.ofNat (header.length / 256), UInt8.ofNat header.length]

def invalid (message : String) : Except IoError Unit := .error ⟨.invalidData, message⟩

def validate (header : TlsRecordHeader) : Except IoError Unit :=
  let len := header.length
  let shownType := hexByte header.recordType
  let shownVersion := header.version.shown
  if header.version ≠ ⟨0x03, 0x01⟩ ∧ header.version ≠ tlsVersion then
    invalid s!"Invalid TLS version: {shownVersion}"
  else if header.recordType ≠ tlsRecordHandshake ∧ header.version ≠ tlsVersion then
    invalid s!"invalid TLS version for record type 0x{shownType}: {shownVersion}"
  else if header.recordType = tlsRecordApplication then
    if len = 0 ∨ maxTlsCiphertextSize < len then
      invalid s!"invalid TLS application data length: {len} (min 1, max {maxTlsCiphertextSize})"
    else .ok ()
  else if header.recordType = tlsRecordChangeCipher then
    if len ≠ 1 then invalid s!"invalid TLS ChangeCipherSpec length: {len} (expected 1)" else .ok ()
  else if header.recordType = tlsRecordAlert then
    if len ≠ 2 then invalid s!"invalid TLS alert length: {len} (expected 2)" else .ok ()
  else if header.recordType = tlsRecordHandshake then
    if ¬ (4 ≤ len ∧ len ≤ maxTlsPlaintextSize) then
      invalid s!"invalid TLS handshake length: {len} (min 4, max {maxTlsPlaintextSize})"
    else .ok ()
  else invalid s!"unknown TLS record type: 0x{shownType}"

def Known (recordType : UInt8) : Prop :=
  recordType = tlsRecordApplication ∨ recordType = tlsRecordChangeCipher ∨
    recordType = tlsRecordAlert ∨ recordType = tlsRecordHandshake

theorem ok_of_check {refused : Prop} [Decidable refused] {message : String} {next : Except IoError Unit}
    (valid : (if refused then invalid message else next) = .ok ()) : ¬ refused ∧ next = .ok () := by
  split_ifs at valid with here
  · cases valid
  · exact ⟨here, valid⟩

theorem validate_ok {header : TlsRecordHeader} (valid : header.validate = .ok ()) :
    Known header.recordType ∧ 0 < header.length := by
  obtain ⟨_, valid⟩ := ok_of_check valid
  obtain ⟨_, valid⟩ := ok_of_check valid
  split at valid
  · next application =>
    have inside := (ok_of_check valid).1
    exact ⟨Or.inl application, by omega⟩
  split at valid
  · next changeCipher =>
    have inside := (ok_of_check valid).1
    exact ⟨Or.inr (Or.inl changeCipher), by omega⟩
  split at valid
  · next alert =>
    have inside := (ok_of_check valid).1
    exact ⟨Or.inr (Or.inr (Or.inl alert)), by omega⟩
  split at valid
  · next handshake =>
    have inside := (ok_of_check valid).1
    exact ⟨Or.inr (Or.inr (Or.inr handshake)), by omega⟩
  · cases valid

theorem validate_application {length : Nat} (nonempty : 0 < length)
    (fits : length ≤ maxTlsCiphertextSize) :
    validate ⟨tlsRecordApplication, tlsVersion, length⟩ = .ok () := by
  have inRange : ¬ (length = 0 ∨ maxTlsCiphertextSize < length) := by omega
  unfold validate
  simp only [ne_eq, not_true_eq_false, and_false, if_false, if_true, if_neg inRange]

theorem parse_of_length {bytes : Bytes} (five : bytes.length = tlsHeaderSize) :
    ∃ header, parse bytes = some header := by
  match bytes, five with
  | [_, _, _, _, _], _ => exact ⟨_, rfl⟩

theorem parse_toBytes {header : TlsRecordHeader} (fits : header.length < 65536) :
    parse header.toBytes = some header := by
  obtain ⟨_, _, length⟩ := header
  have same : beNat [UInt8.ofNat (length / 256), UInt8.ofNat length] = length := by
    dsimp only at fits
    simp only [beNat, List.reverse_cons, List.reverse_nil, List.nil_append, List.cons_append, leNat,
      UInt8.toNat_ofNat']
    omega
  show some _ = some _
  rw [same]

end TlsRecordHeader

structure TlsRecord where
  recordType : UInt8
  payload : Bytes
  deriving DecidableEq, Repr

def nextRecord (input : Bytes) : Option (TlsRecord × Bytes) :=
  match TlsRecordHeader.parse (input.take tlsHeaderSize) with
  | none => none
  | some header =>
    let body := input.drop tlsHeaderSize
    match header.validate with
    | .error _ => none
    | .ok () =>
      if body.length < header.length then none
      else some (⟨header.recordType, body.take header.length⟩, body.drop header.length)

def recordsWithin : Nat → Bytes → List TlsRecord
  | 0, _ => []
  | fuel + 1, input =>
    match nextRecord input with
    | none => []
    | some (record, rest) => record :: recordsWithin fuel rest

def records (input : Bytes) : List TlsRecord := recordsWithin input.length input

/-- The payloads of the application data records before the first record that `ends` picks. -/
def payloadsBefore (ends : TlsRecord → Bool) (input : Bytes) : Bytes :=
  (((records input).takeWhile fun record => !ends record).filter
    (·.recordType = tlsRecordApplication)).flatMap (·.payload)

theorem nextRecord_header {header : TlsRecordHeader} {headerBytes body : Bytes}
    (parsed : TlsRecordHeader.parse headerBytes = some header)
    (five : headerBytes.length = tlsHeaderSize) (valid : header.validate = .ok ()) :
    nextRecord (headerBytes ++ body) =
      if body.length < header.length then none
      else some (⟨header.recordType, body.take header.length⟩, body.drop header.length) := by
  unfold nextRecord
  rw [← five, List.take_left, List.drop_left, parsed]
  dsimp only
  rw [valid]

theorem nextRecord_invalid {header : TlsRecordHeader} {headerBytes body : Bytes} {error : IoError}
    (parsed : TlsRecordHeader.parse headerBytes = some header)
    (five : headerBytes.length = tlsHeaderSize) (invalid : header.validate = .error error) :
    nextRecord (headerBytes ++ body) = none := by
  unfold nextRecord
  rw [← five, List.take_left, parsed]
  dsimp only
  rw [invalid]

theorem parse_length {bytes : Bytes} {header : TlsRecordHeader}
    (parsed : TlsRecordHeader.parse bytes = some header) : bytes.length = tlsHeaderSize := by
  unfold TlsRecordHeader.parse at parsed
  split at parsed
  · rfl
  · cases parsed

variable {input : Bytes}

theorem nextRecord_short (short : input.length < tlsHeaderSize) :
    nextRecord input = none := by
  unfold nextRecord
  cases parsed : TlsRecordHeader.parse (input.take tlsHeaderSize) with
  | none => rfl
  | some =>
    have five := parse_length parsed
    rw [List.length_take] at five
    omega

variable {rest : Bytes} {record : TlsRecord}

theorem nextRecord_shrinks (next : nextRecord input = some (record, rest)) :
    rest.length < input.length := by
  have long : ¬ input.length < tlsHeaderSize := by
    intro short
    rw [nextRecord_short short] at next
    cases next
  unfold nextRecord at next
  split at next
  · cases next
  · dsimp only at next
    split at next
    · cases next
    · split_ifs at next
      cases next
      rw [List.length_drop, List.length_drop]
      unfold tlsHeaderSize at long ⊢
      omega

theorem recordsWithin_enough {fuel : Nat} (enough : input.length ≤ fuel) :
    recordsWithin fuel input = records input := by
  suffices all : ∀ size fuel (input : Bytes), input.length ≤ size → input.length ≤ fuel →
      recordsWithin fuel input = recordsWithin size input from
    all input.length fuel input le_rfl enough
  intro size
  induction size with
  | zero =>
    intro fuel input small _
    have nothing : nextRecord input = none := nextRecord_short (by unfold tlsHeaderSize; omega)
    cases fuel with
    | zero => rfl
    | succ fuel => simp only [recordsWithin, nothing]
  | succ _ ih =>
    intro fuel input small enough
    cases next : nextRecord input with
    | none =>
      cases fuel with
      | zero | succ fuel => rw [recordsWithin, recordsWithin, next]
    | some found =>
      obtain ⟨_, rest⟩ := found
      have shorter := nextRecord_shrinks next
      cases fuel with
      | zero => omega
      | succ fuel =>
        rw [recordsWithin, recordsWithin, next]
        dsimp only
        rw [ih fuel rest (by omega) (by omega)]

theorem records_of_none (nothing : nextRecord input = none) : records input = [] := by
  rw [← recordsWithin_enough (Nat.le_succ input.length), recordsWithin, nothing]

theorem records_of_some (next : nextRecord input = some (record, rest)) :
    records input = record :: records rest := by
  have shorter := nextRecord_shrinks next
  rw [← recordsWithin_enough (Nat.le_succ input.length), recordsWithin, next]
  dsimp only
  rw [recordsWithin_enough shorter.le]

def afterRecord (ends : TlsRecord → Bool) (record : TlsRecord) (rest : Bytes) : Bytes :=
  if ends record = true then []
  else if record.recordType = tlsRecordApplication then record.payload ++ payloadsBefore ends rest
  else payloadsBefore ends rest

theorem payloadsBefore_of_none {ends : TlsRecord → Bool} (nothing : nextRecord input = none) :
    payloadsBefore ends input = [] := by
  rw [payloadsBefore, records_of_none nothing]
  rfl

theorem payloadsBefore_of_some {ends : TlsRecord → Bool}
    (next : nextRecord input = some (record, rest)) :
    payloadsBefore ends input = afterRecord ends record rest := by
  rw [payloadsBefore, records_of_some next, afterRecord]
  by_cases last : ends record = true
  · simp [last]
  · by_cases application : record.recordType = tlsRecordApplication
    · simp [last, application, payloadsBefore]
    · simp [last, application, payloadsBefore]

end Telemt.Stream
