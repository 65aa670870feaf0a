import Telemt.Foundation.Layout
import Telemt.Handshake.HelloBounds

namespace Telemt.ClientHello
open Foundation

/-! # The ClientHello parsers against the messages a client can send -/

section Reading
variable {handshake part : Bytes} {pos n : Nat} {b : UInt8}

theorem byteAt_of_holds (held : Holds handshake pos [b]) : byteAt handshake pos = b := by
  rw [byteAt, List.getD_eq_getElem?_getD, held.getElem?, Option.getD_some]

theorem count_of_holds (small : n < 256) (held : Holds handshake pos [UInt8.ofNat n]) :
    (byteAt handshake pos).toNat = n := by
  rw [byteAt_of_holds held, UInt8.toNat_ofNat', Nat.mod_eq_of_lt small]

theorem be16_of_holds (small : n < 65536) (held : Holds handshake pos (be16Bytes n)) :
    be16 handshake pos = n := by
  obtain ⟨high, low⟩ := holds_cons.mp held
  rw [be16, byteAt_of_holds high, byteAt_of_holds low, UInt8.toNat_ofNat', UInt8.toNat_ofNat']
  omega

theorem slice_of_holds (held : Holds handshake pos part) :
    slice handshake pos part.length = part :=
  held.take_drop

end Reading

abbrev NameEntry := UInt8 × Text

inductive Extension
  | serverName (before : List NameEntry) (host : Text) (after : List NameEntry)
  | alpn (protocols : List Bytes)
  | supportedVersions (versions : List UInt16)
  | other (etype : UInt16) (body : Bytes)

def NameEntry.encode (entry : NameEntry) : Bytes :=
  [entry.1] ++ (be16Bytes entry.2.length ++ entry.2)

def encodeProtocol (protocol : Bytes) : Bytes := [UInt8.ofNat protocol.length] ++ protocol

def encodeVersion (version : UInt16) : Bytes := be16Bytes version.toNat

theorem encodeProtocol_length_pos (protocol : Bytes) : 0 < (encodeProtocol protocol).length := by
  simp [encodeProtocol]

theorem flatMap_encodeVersion_length (versions : List UInt16) :
    (versions.flatMap encodeVersion).length = 2 * versions.length := by
  simp [List.length_flatMap, encodeVersion, Nat.mul_comm]

theorem NameEntry.encode_length_pos (entry : NameEntry) : 0 < entry.encode.length := by
  simp [NameEntry.encode]

namespace Extension

def etype : Extension → Nat
  | serverName .. => 0
  | alpn _ => alpnExtension
  | supportedVersions _ => supportedVersionsExtension
  | other etype _ => etype.toNat

def names (before : List NameEntry) (host : Text) (after : List NameEntry) : Bytes :=
  (before ++ (0, host) :: after).flatMap NameEntry.encode

def body : Extension → Bytes
  | serverName before host after =>
    be16Bytes (names before host after).length ++ names before host after
  | alpn protocols =>
    be16Bytes (protocols.flatMap encodeProtocol).length ++ protocols.flatMap encodeProtocol
  | supportedVersions versions =>
    [UInt8.ofNat (versions.flatMap encodeVersion).length] ++ versions.flatMap encodeVersion
  | other _ body => body

variable (extension : Extension)

def encode : Bytes :=
  be16Bytes extension.etype ++ (be16Bytes extension.body.length ++ extension.body)

theorem etype_lt : extension.etype < 65536 := by
  cases extension with
  | serverName => simp [etype]
  | alpn => simp [etype, alpnExtension]
  | supportedVersions => simp [etype, supportedVersionsExtension]
  | other etype => exact etype.toNat_lt

theorem encode_length_pos : 0 < extension.encode.length := by
  simp only [encode, List.length_append, be16Bytes_length]
  omega

theorem flatMap_encode_length (extensions : List Extension) :
    ((extension :: extensions).flatMap encode).length =
      4 + extension.body.length + (extensions.flatMap encode).length := by
  simp only [List.flatMap_cons, encode, List.length_append, be16Bytes_length]
  omega

theorem names_length (before : List NameEntry) (host : Text) (after : List NameEntry) :
    3 ≤ (names before host after).length := by
  simp only [names, List.flatMap_append, List.flatMap_cons, NameEntry.encode, List.length_append,
    List.length_singleton, be16Bytes_length]
  omega

/-- One host name, lists that are not empty and fit their counts, and no second encoding of a type
that has its own constructor. -/
def WellFormed : Extension → Prop
  | serverName before _ after => ∀ entry ∈ before ++ after, entry.1 ≠ 0
  | alpn protocols => protocols ≠ [] ∧ ∀ protocol ∈ protocols, protocol.length < 256
  | supportedVersions versions => versions ≠ [] ∧ versions.length < 128
  | other etype _ =>
    etype.toNat ≠ 0 ∧ etype.toNat ≠ alpnExtension ∧ etype.toNat ≠ supportedVersionsExtension

variable {extension : Extension}

section
variable (formed : extension.WellFormed)
include formed

theorem eq_serverName (typed : extension.etype = 0) :
    ∃ before host after, extension = serverName before host after := by
  cases extension with
  | serverName before host after => exact ⟨before, host, after, rfl⟩
  | alpn => simp [etype, alpnExtension] at typed
  | supportedVersions => simp [etype, supportedVersionsExtension] at typed
  | other => exact absurd typed formed.1

theorem eq_alpn (typed : extension.etype = alpnExtension) :
    ∃ protocols, extension = alpn protocols := by
  cases extension with
  | serverName => simp [etype, alpnExtension] at typed
  | alpn protocols => exact ⟨protocols, rfl⟩
  | supportedVersions => simp [etype, alpnExtension, supportedVersionsExtension] at typed
  | other => exact absurd typed formed.2.1

theorem eq_supportedVersions (typed : extension.etype = supportedVersionsExtension) :
    ∃ versions, extension = supportedVersions versions := by
  cases extension with
  | serverName => simp [etype, supportedVersionsExtension] at typed
  | alpn => simp [etype, alpnExtension, supportedVersionsExtension] at typed
  | supportedVersions versions => exact ⟨versions, rfl⟩
  | other => exact absurd typed formed.2.2

end

end Extension

structure HelloFields where
  recordVersion : UInt8 × UInt8
  legacyVersion : UInt16
  random : Bytes
  sessionId : Bytes
  cipherSuites : Bytes
  compressionMethods : Bytes
  extensions : Option (List Extension)

def extensionBytes : Option (List Extension) → Bytes
  | none => []
  | some extensions =>
    be16Bytes (extensions.flatMap Extension.encode).length ++
      extensions.flatMap Extension.encode

namespace HelloFields
variable (hello : HelloFields)

def offered : List Extension := hello.extensions.getD []

def body : Bytes :=
  be16Bytes hello.legacyVersion.toNat ++ (hello.random ++
    ([UInt8.ofNat hello.sessionId.length] ++ (hello.sessionId ++
      (be16Bytes hello.cipherSuites.length ++ (hello.cipherSuites ++
        ([UInt8.ofNat hello.compressionMethods.length] ++ (hello.compressionMethods ++
          extensionBytes hello.extensions)))))))

def message : Bytes :=
  [0x01] ++ (be24Bytes hello.body.length ++ hello.body)

def encode : Bytes :=
  [0x16, hello.recordVersion.1, hello.recordVersion.2] ++
    (be16Bytes hello.message.length ++ hello.message)

end HelloFields

structure Hello extends HelloFields where
  random_length : random.length = 32
  sessionId_length : sessionId.length < 256
  compressionMethods_length : compressionMethods.length < 256
  extensions_wellFormed : ∀ extension ∈ toHelloFields.offered, extension.WellFormed
  extensions_distinct : (toHelloFields.offered.map Extension.etype).Nodup
  single_record : toHelloFields.message.length < 65536

variable (extensions : List Extension)

def offeredName : Option Text :=
  extensions.findSome? fun
    | .serverName _ host _ => some host
    | _ => none

def offeredProtocols : Option (List Bytes) :=
  extensions.findSome? fun
    | .alpn protocols => some protocols
    | _ => none

def offeredVersions : Option (List UInt16) :=
  extensions.findSome? fun
    | .supportedVersions versions => some versions
    | _ => none

def generation (legacyVersion : UInt16) : Option (List UInt16) → Option ClientHelloTlsVersion
  | some versions =>
    if 0x0304 ∈ versions then some .tls13
    else if ∃ version ∈ versions, 0x0301 ≤ version ∧ version ≤ 0x0303 then some .tls12
    else none
  | none => if 0x0303 ≤ legacyVersion then some .tls12 else none

section Offers
variable {extension : Extension} {extensions : List Extension}

theorem offeredName_skip (otherType : extension.etype ≠ 0) :
    offeredName (extension :: extensions) = offeredName extensions := by
  cases extension with
  | serverName => exact absurd rfl otherType
  | _ => rfl

theorem offeredName_eq_none (absent : 0 ∉ extensions.map Extension.etype) :
    offeredName extensions = none := by
  induction extensions with
  | nil => rfl
  | cons _ _ ih =>
    simp only [List.map_cons, List.mem_cons, not_or] at absent
    rw [offeredName_skip (Ne.symm absent.1), ih absent.2]

theorem offeredProtocols_skip (otherType : extension.etype ≠ alpnExtension) :
    offeredProtocols (extension :: extensions) = offeredProtocols extensions := by
  cases extension with
  | alpn => exact absurd rfl otherType
  | _ => rfl

theorem offeredVersions_skip (otherType : extension.etype ≠ supportedVersionsExtension) :
    offeredVersions (extension :: extensions) = offeredVersions extensions := by
  cases extension with
  | supportedVersions => exact absurd rfl otherType
  | _ => rfl

end Offers

namespace HelloFields
variable (hello : HelloFields)

def serverName : Option Text :=
  (offeredName hello.offered).filter isValidSniHostname

def protocols : List Bytes := (offeredProtocols hello.offered).getD []

def tlsVersion : Option ClientHelloTlsVersion :=
  generation hello.legacyVersion (offeredVersions hello.offered)

end HelloFields

section Loops
variable {handshake : Bytes} {pos turns : Nat}

theorem findServerName_entries (entries : List NameEntry)
    (held : Holds handshake pos (entries.flatMap NameEntry.encode))
    (small : (entries.flatMap NameEntry.encode).length < 65536) (enough : entries.length < turns) :
    findServerName handshake (pos + (entries.flatMap NameEntry.encode).length) turns pos =
      (entries.find? fun entry => entry.1 == 0 && isValidSniHostname entry.2).map Prod.snd := by
  induction entries generalizing pos turns with
  | nil =>
    cases turns with
    | zero => simp at enough
    | succ turns => simp [findServerName]
  | cons entry entries ih =>
    obtain ⟨nameType, name⟩ := entry
    cases turns with
    | zero => simp at enough
    | succ =>
      simp only [List.flatMap_cons, NameEntry.encode, holds_append, List.length_append,
        List.length_singleton, be16Bytes_length] at held small ⊢
      obtain ⟨⟨typeHeld, lengthHeld, nameHeld⟩, restHeld⟩ := held
      generalize rest : (entries.flatMap NameEntry.encode).length = restLen at *
      rw [show pos + (1 + (2 + name.length)) = pos + 3 + name.length by omega] at restHeld
      rw [show pos + (1 + (2 + name.length) + restLen) = pos + 3 + name.length + restLen by omega,
        findServerName, if_neg (by omega), byteAt_of_holds typeHeld,
        be16_of_holds (by omega) lengthHeld]
      simp only [slice_of_holds nameHeld, if_neg (show ¬ pos + 3 + name.length + restLen <
        pos + 3 + name.length by omega)]
      by_cases chosen : nameType = 0 ∧ isValidSniHostname name
      · have nonempty : 0 < name.length := by
          cases name with
          | nil => cases chosen.2
          | cons b => simp
        rw [if_pos ⟨chosen.1, nonempty, chosen.2⟩, List.find?_cons_of_pos (by simpa using chosen)]
        rfl
      · rw [if_neg fun taken => chosen ⟨taken.1, taken.2.2⟩,
          List.find?_cons_of_neg (by simpa using chosen)]
        exact ih restHeld (by omega) (by simpa using enough)

theorem findServerName_host {before after : List NameEntry} {host : Text}
    (others : ∀ entry ∈ before ++ after, entry.1 ≠ 0)
    (held : Holds handshake pos (Extension.names before host after))
    (small : (Extension.names before host after).length < 65536)
    (enough : (Extension.names before host after).length < turns) :
    findServerName handshake (pos + (Extension.names before host after).length) turns pos =
      if isValidSniHostname host then some host else none := by
  have counted := length_le_flatMap NameEntry.encode_length_pos (before ++ (0, host) :: after)
  have noOther : ∀ entries : List NameEntry, (∀ entry ∈ entries, entry.1 ≠ 0) →
      entries.find? (fun entry => entry.1 == 0 && isValidSniHostname entry.2) = none := by
    intro entries types
    simp only [List.find?_eq_none, Bool.and_eq_true, beq_iff_eq, not_and]
    intro entry member zero
    exact absurd zero (types entry member)
  simp only [List.forall_mem_append] at others
  rw [Extension.names, findServerName_entries _ held small (lt_of_le_of_lt counted enough),
    List.find?_append, noOther before others.1, Option.none_or, List.find?_cons]
  cases valid : isValidSniHostname host with
  | false => simp [noOther after others.2]
  | true => simp

theorem alpnProtocols_encoded (protocols : List Bytes)
    (held : Holds handshake pos (protocols.flatMap encodeProtocol))
    (sized : ∀ protocol ∈ protocols, protocol.length < 256) (enough : protocols.length < turns) :
    alpnProtocols handshake (pos + (protocols.flatMap encodeProtocol).length) turns pos =
      protocols := by
  induction protocols generalizing pos turns with
  | nil =>
    cases turns with
    | zero => simp at enough
    | succ turns => simp [alpnProtocols]
  | cons protocol protocols ih =>
    cases turns with
    | zero => simp at enough
    | succ =>
      simp only [List.flatMap_cons, encodeProtocol, holds_append, List.length_append,
        List.length_singleton, List.forall_mem_cons] at held sized ⊢
      obtain ⟨⟨lengthHeld, protocolHeld⟩, restHeld⟩ := held
      generalize rest : (protocols.flatMap encodeProtocol).length = restLen at *
      rw [← Nat.add_assoc] at restHeld
      rw [← Nat.add_assoc, ← Nat.add_assoc, alpnProtocols, if_neg (by omega),
        count_of_holds sized.1 lengthHeld]
      simp only [slice_of_holds protocolHeld,
        if_neg (show ¬ pos + 1 + protocol.length + restLen < pos + 1 + protocol.length by omega)]
      rw [ih restHeld sized.2 (by simpa using enough)]

theorem versionOfList_encoded (versions : List UInt16) {hasTls12 : Bool}
    (held : Holds handshake pos (versions.flatMap encodeVersion))
    (enough : versions.length < turns) :
    versionOfList handshake (pos + (versions.flatMap encodeVersion).length) turns pos hasTls12 =
      if 0x0304 ∈ versions then some .tls13
      else if hasTls12 ∨ ∃ version ∈ versions, 0x0301 ≤ version ∧ version ≤ 0x0303 then some .tls12
      else none := by
  induction versions generalizing pos turns hasTls12 with
  | nil =>
    cases turns with
    | zero => simp at enough
    | succ turns => simp [versionOfList]
  | cons version versions ih =>
    cases turns with
    | zero => simp at enough
    | succ =>
      simp only [List.flatMap_cons, encodeVersion, holds_append, List.length_append,
        be16Bytes_length] at held ⊢
      generalize rest : (versions.flatMap encodeVersion).length = restLen at *
      have same : version.toNat = 0x0304 ↔ version = 0x0304 := @UInt16.toNat_inj version 0x0304
      have older : (version.toNat == 0x0303 || version.toNat == 0x0302 ||
          version.toNat == 0x0301) = true ↔ 0x0301 ≤ version ∧ version ≤ 0x0303 := by
        simp only [Bool.or_eq_true, beq_iff_eq, UInt16.le_iff_toNat_le]
        simp
        omega
      rw [← Nat.add_assoc, versionOfList, if_pos (by omega),
        be16_of_holds version.toNat_lt held.1]
      by_cases tls13 : version = 0x0304
      · simp [tls13]
      simp only [same, if_neg tls13]
      rw [ih held.2 (by simpa using enough)]
      have listed : 0x0304 ∈ version :: versions ↔ 0x0304 ∈ versions := by
        rw [List.mem_cons]
        exact or_iff_right (Ne.symm tls13)
      have newer : (hasTls12 || version.toNat == 0x0303 || version.toNat == 0x0302 ||
          version.toNat == 0x0301) = true ↔
            hasTls12 ∨ (0x0301 ≤ version ∧ version ≤ 0x0303) := by
        rw [← older, Bool.or_assoc, Bool.or_assoc, Bool.or_eq_true, Bool.or_assoc]
      simp only [listed, newer, List.exists_mem_cons_iff, or_assoc]

/-- The extension is a part of the block that ends at `extEnd`. -/
structure Laid (handshake : Bytes) (extEnd pos : Nat) (extension : Extension) : Prop where
  formed : extension.WellFormed
  typeRead : be16 handshake pos = extension.etype
  lengthRead : be16 handshake (pos + 2) = extension.body.length
  held : Holds handshake (pos + 4) extension.body
  inside : pos + 4 + extension.body.length ≤ extEnd
  within : extEnd ≤ handshake.length
  small : extension.body.length < 65536

structure LaidBlock (handshake : Bytes) (pos turns : Nat) (extensions : List Extension) :
    Prop where
  formed : ∀ extension ∈ extensions, extension.WellFormed
  held : Holds handshake pos (extensions.flatMap Extension.encode)
  small : (extensions.flatMap Extension.encode).length < 65536
  within : pos + (extensions.flatMap Extension.encode).length ≤ handshake.length
  enough : extensions.length < turns

theorem LaidBlock.cons {extension : Extension} {extensions : List Extension}
    (block : LaidBlock handshake pos (turns + 1) (extension :: extensions)) :
    Laid handshake (pos + ((extension :: extensions).flatMap Extension.encode).length) pos
        extension ∧
      LaidBlock handshake (pos + 4 + extension.body.length) turns extensions ∧
      pos + ((extension :: extensions).flatMap Extension.encode).length =
        pos + 4 + extension.body.length + (extensions.flatMap Extension.encode).length := by
  obtain ⟨formed, held, small, within, enough⟩ := block
  rw [List.forall_mem_cons] at formed
  rw [Extension.flatMap_encode_length] at small within ⊢
  simp only [List.flatMap_cons, Extension.encode, holds_append, List.length_append,
    be16Bytes_length] at held
  obtain ⟨⟨typeHeld, lengthHeld, bodyHeld⟩, restHeld⟩ := held
  rw [show pos + (2 + (2 + extension.body.length)) = pos + 4 + extension.body.length by omega]
    at restHeld
  exact ⟨⟨formed.1, be16_of_holds extension.etype_lt typeHeld,
    be16_of_holds (by omega) lengthHeld, bodyHeld, by omega, within, by omega⟩,
    ⟨formed.2, restHeld, by omega, by omega, by simpa using enough⟩, by omega⟩

section Turns
variable {extEnd : Nat} {legacyVersion : UInt16} {sawSni : Bool} {extracted : Option Text}
  {extension : Extension}

theorem sniOfExtensions_skip (laid : Laid handshake extEnd pos extension)
    (otherType : extension.etype ≠ 0) :
    sniOfExtensions handshake extEnd (turns + 1) pos sawSni extracted =
      sniOfExtensions handshake extEnd turns (pos + 4 + extension.body.length) sawSni extracted := by
  have inside := laid.inside
  rw [sniOfExtensions, if_neg (by omega), laid.typeRead, laid.lengthRead]
  simp [otherType, beq_false_of_ne otherType, Nat.not_lt.mpr inside]

theorem sniOfExtensions_name {before after : List NameEntry} {host : Text}
    (laid : Laid handshake extEnd pos (.serverName before host after)) :
    sniOfExtensions handshake extEnd (turns + 1) pos false extracted =
      sniOfExtensions handshake extEnd turns
        (pos + 4 + (Extension.serverName before host after).body.length) true
        (((some host).filter isValidSniHostname).or extracted) := by
  obtain ⟨formed, typeRead, lengthRead, held, inside, _, _⟩ := laid
  rw [sniOfExtensions, if_neg (by omega), typeRead, lengthRead]
  have entries := Extension.names_length before host after
  simp only [Extension.body, Extension.etype, holds_append, List.length_append,
    be16Bytes_length] at *
  generalize sized : (Extension.names before host after).length = namesLen at *
  have found := findServerName_host formed held.2 (by omega)
    (show _ < handshake.length by omega)
  rw [sized] at found
  simp only [be16_of_holds (by omega) held.1, if_neg (Nat.not_lt.mpr inside),
    show 5 ≤ 2 + namesLen by omega, Bool.false_eq_true, and_false, and_self, if_true, if_false,
    show min (pos + 4 + 2 + namesLen) (pos + 4 + (2 + namesLen)) = pos + 4 + 2 + namesLen by omega,
    found]
  rfl

theorem alpnOfExtensions_skip (laid : Laid handshake extEnd pos extension)
    (otherType : extension.etype ≠ alpnExtension) :
    alpnOfExtensions handshake extEnd (turns + 1) pos =
      alpnOfExtensions handshake extEnd turns (pos + 4 + extension.body.length) := by
  have inside := laid.inside
  rw [alpnOfExtensions, if_neg (by omega), laid.typeRead, laid.lengthRead]
  simp [otherType, Nat.not_lt.mpr inside]

theorem alpnOfExtensions_list {protocols : List Bytes}
    (laid : Laid handshake extEnd pos (.alpn protocols)) :
    alpnOfExtensions handshake extEnd (turns + 1) pos = protocols := by
  obtain ⟨formed, typeRead, lengthRead, held, inside, _, _⟩ := laid
  rw [alpnOfExtensions, if_neg (by omega), typeRead, lengthRead]
  have entries := length_le_flatMap encodeProtocol_length_pos protocols
  have nonempty := List.length_pos_of_ne_nil formed.1
  simp only [Extension.body, Extension.etype, holds_append, List.length_append,
    be16Bytes_length] at *
  have read := alpnProtocols_encoded protocols held.2 formed.2
    (show protocols.length < handshake.length by omega)
  generalize sized : (protocols.flatMap encodeProtocol).length = listLen at *
  simp only [be16_of_holds (by omega) held.1, if_neg (Nat.not_lt.mpr inside),
    show 3 ≤ 2 + listLen by omega, and_self, if_true,
    show min (pos + 4 + 2 + listLen) (pos + 4 + (2 + listLen)) = pos + 4 + 2 + listLen by omega, read]

theorem versionOfExtensions_skip (laid : Laid handshake extEnd pos extension)
    (otherType : extension.etype ≠ supportedVersionsExtension) :
    versionOfExtensions handshake legacyVersion.toNat extEnd (turns + 1) pos =
      versionOfExtensions handshake legacyVersion.toNat extEnd turns
        (pos + 4 + extension.body.length) := by
  have inside := laid.inside
  rw [versionOfExtensions, if_neg (by omega), laid.typeRead, laid.lengthRead]
  simp [otherType, Nat.not_lt.mpr inside]

theorem versionOfExtensions_list {versions : List UInt16}
    (laid : Laid handshake extEnd pos (.supportedVersions versions)) :
    versionOfExtensions handshake legacyVersion.toNat extEnd (turns + 1) pos =
      generation legacyVersion (some versions) := by
  obtain ⟨formed, typeRead, lengthRead, held, inside, _, -⟩ := laid
  rw [versionOfExtensions, if_neg (by omega), typeRead, lengthRead]
  have sized := flatMap_encodeVersion_length versions
  have nonempty := List.length_pos_of_ne_nil formed.1
  have few := formed.2
  simp only [Extension.body, Extension.etype, holds_append, List.length_append,
    List.length_singleton] at *
  have read := @versionOfList_encoded handshake _ handshake.length versions false held.2 (by omega)
  simp only [if_neg (Nat.not_lt.mpr inside), if_true, count_of_holds (by omega) held.1]
  rw [if_neg (by omega), if_neg (by omega), read]
  simp [generation]

end Turns

theorem sniOfExtensions_encoded (extensions : List Extension) {sawSni : Bool}
    {extracted : Option Text} (distinct : (extensions.map Extension.etype).Nodup)
    (unseen : sawSni → 0 ∉ extensions.map Extension.etype)
    (block : LaidBlock handshake pos turns extensions) :
    sniOfExtensions handshake (pos + (extensions.flatMap Extension.encode).length) turns pos sawSni
      extracted = ((offeredName extensions).filter isValidSniHostname).or extracted := by
  induction extensions generalizing pos turns sawSni extracted with
  | nil =>
    obtain ⟨turns, rfl⟩ := Nat.exists_eq_succ_of_ne_zero (Nat.ne_of_gt block.enough)
    simp [sniOfExtensions, offeredName]
  | cons extension _ ih =>
    obtain ⟨_, rfl⟩ := Nat.exists_eq_succ_of_ne_zero (Nat.ne_zero_of_lt block.enough)
    obtain ⟨laid, rest, ends⟩ := block.cons
    simp only [List.map_cons, List.nodup_cons, List.mem_cons, not_or] at distinct unseen
    by_cases named : extension.etype = 0
    · obtain ⟨_, _, _, rfl⟩ := Extension.eq_serverName laid.formed named
      cases sawSni with
      | true => exact absurd rfl (unseen rfl).1
      | false =>
        rw [sniOfExtensions_name laid, ends, ih distinct.2 (fun _ => distinct.1) rest,
          offeredName_eq_none distinct.1]
        rfl
    · rw [sniOfExtensions_skip laid named, offeredName_skip named, ends]
      exact ih distinct.2 (fun saw => (unseen saw).2) rest

/-- A walk that answers at the first extension of the type it looks for. -/
theorem walk_encoded {β : Type} (walk : Nat → Nat → Nat → β) (answer : List Extension → β)
    {wanted : Nat} (ended : ∀ pos turns, walk pos (turns + 1) pos = answer [])
    (found : ∀ extEnd pos turns extension rest, Laid handshake extEnd pos extension →
      extension.etype = wanted → walk extEnd (turns + 1) pos = answer (extension :: rest))
    (skipped : ∀ extEnd pos turns extension, Laid handshake extEnd pos extension →
      extension.etype ≠ wanted →
      walk extEnd (turns + 1) pos = walk extEnd turns (pos + 4 + extension.body.length))
    (passed : ∀ extension rest, extension.etype ≠ wanted →
      answer (extension :: rest) = answer rest)
    (extensions : List Extension) (block : LaidBlock handshake pos turns extensions) :
    walk (pos + (extensions.flatMap Extension.encode).length) turns pos = answer extensions := by
  induction extensions generalizing pos turns with
  | nil =>
    obtain ⟨turns, rfl⟩ := Nat.exists_eq_succ_of_ne_zero (Nat.ne_of_gt block.enough)
    exact ended pos turns
  | cons extension extensions ih =>
    obtain ⟨turns, rfl⟩ := Nat.exists_eq_succ_of_ne_zero (Nat.ne_zero_of_lt block.enough)
    obtain ⟨laid, rest, ends⟩ := block.cons
    by_cases typed : extension.etype = wanted
    · exact found _ pos turns extension extensions laid typed
    · rw [skipped _ pos turns extension laid typed, passed extension extensions typed, ends]
      exact ih rest

theorem alpnOfExtensions_encoded (extensions : List Extension)
    (block : LaidBlock handshake pos turns extensions) :
    alpnOfExtensions handshake (pos + (extensions.flatMap Extension.encode).length) turns pos =
      (offeredProtocols extensions).getD [] := by
  refine walk_encoded (alpnOfExtensions handshake) (fun sent => (offeredProtocols sent).getD [])
    (fun pos turns => ?_) (fun extEnd pos turns extension rest laid typed => ?_)
    (fun _ _ _ _ => alpnOfExtensions_skip)
    (fun extension rest typed => by rw [offeredProtocols_skip typed]) extensions block
  · simp [alpnOfExtensions, offeredProtocols]
  · obtain ⟨_, rfl⟩ := Extension.eq_alpn laid.formed typed
    rw [alpnOfExtensions_list laid]
    rfl

theorem versionOfExtensions_encoded (legacyVersion : UInt16) (extensions : List Extension)
    (block : LaidBlock handshake pos turns extensions) :
    versionOfExtensions handshake legacyVersion.toNat
        (pos + (extensions.flatMap Extension.encode).length) turns pos =
      generation legacyVersion (offeredVersions extensions) := by
  refine walk_encoded (versionOfExtensions handshake legacyVersion.toNat)
    (fun sent => generation legacyVersion (offeredVersions sent)) (fun pos turns => ?_)
    (fun extEnd pos turns extension rest laid typed => ?_)
    (fun _ _ _ _ => versionOfExtensions_skip)
    (fun extension rest typed => by rw [offeredVersions_skip typed]) extensions block
  · simp [versionOfExtensions, offeredVersions, generation, UInt16.le_iff_toNat_le]
  · obtain ⟨_, rfl⟩ := Extension.eq_supportedVersions laid.formed typed
    rw [versionOfExtensions_list laid]
    rfl

end Loops

namespace Hello
variable (hello : Hello)

def ciphersAt : Nat := 44 + hello.sessionId.length

def compressionAt : Nat := hello.ciphersAt + 2 + hello.cipherSuites.length

def extensionsAt : Nat := hello.compressionAt + 1 + hello.compressionMethods.length

theorem message_length : hello.message.length = 4 + hello.body.length := by
  simp only [HelloFields.message, List.length_append, List.length_singleton, be24Bytes_length]
  omega

theorem encode_length :
    hello.encode.length = hello.extensionsAt + (extensionBytes hello.extensions).length := by
  simp only [HelloFields.encode, message_length, HelloFields.body, List.length_append,
    List.length_cons, List.length_nil, be16Bytes_length, hello.random_length, extensionsAt,
    compressionAt, ciphersAt]
  omega

theorem encode_length_message : hello.encode.length = 5 + hello.message.length := by
  simp only [HelloFields.encode, List.length_append, List.length_cons, List.length_nil,
    be16Bytes_length]
  omega

theorem laid :
    Holds hello.encode 0 [0x16] ∧ Holds hello.encode 3 (be16Bytes hello.message.length) ∧
      Holds hello.encode 5 [0x01] ∧ Holds hello.encode 6 (be24Bytes hello.body.length) ∧
      Holds hello.encode 9 (be16Bytes hello.legacyVersion.toNat) ∧
      Holds hello.encode 43 [UInt8.ofNat hello.sessionId.length] ∧
      Holds hello.encode hello.ciphersAt (be16Bytes hello.cipherSuites.length) ∧
      Holds hello.encode hello.compressionAt [UInt8.ofNat hello.compressionMethods.length] ∧
      Holds hello.encode hello.extensionsAt (extensionBytes hello.extensions) := by
  obtain ⟨header, messageLength, message⟩ :=
    (holds_append.trans (and_congr_right' holds_append)).mp (holds_self hello.encode)
  obtain ⟨messageType, bodyLength, body⟩ :=
    (holds_append.trans (and_congr_right' holds_append)).mp message
  simp only [HelloFields.body, holds_append, List.length_cons, List.length_nil, be16Bytes_length,
    be24Bytes_length, hello.random_length, Nat.reduceAdd] at body messageType bodyLength messageLength
  obtain ⟨version, -, sessionId, -, ciphers, -, compression, -, extensions⟩ := body
  exact ⟨(holds_cons.mp header).1, messageLength, messageType, bodyLength, version, sessionId,
    ciphers, compression, extensions⟩

theorem message_length_read : be16 hello.encode 3 = hello.message.length :=
  be16_of_holds hello.single_record hello.laid.2.1

theorem body_length_read :
    (byteAt hello.encode 6).toNat * 65536 + be16 hello.encode 7 = hello.body.length := by
  have small := hello.single_record
  rw [message_length] at small
  obtain ⟨high, low⟩ := holds_cons.mp hello.laid.2.2.2.1
  rw [byteAt_of_holds high, be16_of_holds (by omega) low, UInt8.toNat_ofNat']
  omega

theorem extensionBlock_walk :
    extensionBlock hello.encode =
      if hello.encode.length < hello.extensionsAt + 2 then none
      else if hello.encode.length < hello.extensionsAt + 2 + be16 hello.encode hello.extensionsAt
      then none
      else some (hello.extensionsAt + 2,
        hello.extensionsAt + 2 + be16 hello.encode hello.extensionsAt) := by
  obtain ⟨-, -, messageType, -, -, sessionId, ciphers, compression, -⟩ := hello.laid
  have total := hello.encode_length
  have framed := hello.encode_length_message
  have small := hello.single_record
  have positions : hello.ciphersAt = 44 + hello.sessionId.length ∧
      hello.compressionAt = hello.ciphersAt + 2 + hello.cipherSuites.length ∧
      hello.extensionsAt = hello.compressionAt + 1 + hello.compressionMethods.length :=
    ⟨rfl, rfl, rfl⟩
  unfold extensionBlock
  rw [if_neg (by rw [messageType.getElem?]; simp)]
  simp only [Nat.reduceAdd, count_of_holds hello.sessionId_length sessionId]
  rw [← ciphersAt, if_neg (by omega), if_neg (by omega), be16_of_holds (by omega) ciphers,
    ← compressionAt, if_neg (by omega),
    count_of_holds hello.compressionMethods_length compression, ← extensionsAt]

theorem extensionsAt_ge : 47 ≤ hello.extensionsAt := by
  rw [extensionsAt, compressionAt, ciphersAt]
  omega

theorem extensionBlock_absent (unsent : hello.extensions = none) :
    extensionBlock hello.encode = none := by
  have total := hello.encode_length
  rw [unsent] at total
  rw [extensionBlock_walk, if_pos (by simp [total, extensionBytes])]

theorem offered_eq {extensions : List Extension} (sent : hello.extensions = some extensions) :
    hello.offered = extensions := by
  rw [HelloFields.offered, sent, Option.getD_some]

theorem extensionBlock_present {extensions : List Extension}
    (sent : hello.extensions = some extensions) :
    extensionBlock hello.encode = some (hello.extensionsAt + 2,
      hello.extensionsAt + 2 + (extensions.flatMap Extension.encode).length) ∧
    LaidBlock hello.encode (hello.extensionsAt + 2) hello.encode.length extensions := by
  have total := hello.encode_length
  have framed := hello.encode_length_message
  have small := hello.single_record
  have started := hello.extensionsAt_ge
  have formed := hello.extensions_wellFormed
  have count := length_le_flatMap Extension.encode_length_pos extensions
  obtain ⟨lengthHeld, held⟩ := holds_append.mp (sent ▸ hello.laid.2.2.2.2.2.2.2.2)
  simp only [sent, extensionBytes, List.length_append, be16Bytes_length] at total
  rw [hello.offered_eq sent] at formed
  refine ⟨?_, formed, held, by omega, by omega, by omega⟩
  rw [extensionBlock_walk, be16_of_holds (by omega) lengthHeld, if_neg (by omega),
    if_neg (by omega)]

theorem offered_absent (unsent : hello.extensions = none) : hello.offered = [] := by
  rw [HelloFields.offered, unsent, Option.getD_none]

theorem recordType_read : byteAt hello.encode 0 = tlsRecordHandshake :=
  byteAt_of_holds hello.laid.1

theorem extractSni_encode : extractSniFromClientHello hello.encode = hello.serverName := by
  have total := hello.encode_length
  have framed := hello.encode_length_message
  have started := hello.extensionsAt_ge
  have whole : ¬ (hello.encode.length < 43 ∨ byteAt hello.encode 0 ≠ tlsRecordHandshake) :=
    not_or_intro (by omega) (not_not_intro hello.recordType_read)
  rw [extractSniFromClientHello, if_neg whole, message_length_read, if_neg (by omega),
    HelloFields.serverName]
  cases sent : hello.extensions with
  | none =>
    rw [extensionBlock_absent hello sent, offered_absent hello sent]
    rfl
  | some extensions =>
    obtain ⟨found, block⟩ := hello.extensionBlock_present sent
    have distinct := hello.extensions_distinct
    rw [hello.offered_eq sent] at distinct ⊢
    rw [found]
    dsimp only
    rw [sniOfExtensions_encoded extensions distinct (by simp) block, Option.or_none]

theorem extractAlpn_encode : extractAlpnFromClientHello hello.encode = hello.protocols := by
  have framed := hello.encode_length_message
  have whole : ¬ (hello.encode.length < 5 ∨ byteAt hello.encode 0 ≠ tlsRecordHandshake) :=
    not_or_intro (by omega) (not_not_intro hello.recordType_read)
  rw [extractAlpnFromClientHello, if_neg whole, message_length_read, if_neg (by omega),
    HelloFields.protocols]
  cases sent : hello.extensions with
  | none =>
    rw [extensionBlock_absent hello sent, offered_absent hello sent]
    rfl
  | some extensions =>
    obtain ⟨found, block⟩ := hello.extensionBlock_present sent
    rw [hello.offered_eq sent, found]
    exact alpnOfExtensions_encoded extensions block

theorem detectVersion_encode :
    detectClientHelloTlsVersion hello.encode =
      if hello.extensions = none then none else hello.tlsVersion := by
  have total := hello.encode_length
  have framed := hello.encode_length_message
  have nested := hello.message_length
  have started := hello.extensionsAt_ge
  have whole : ¬ (hello.encode.length < 5 ∨ byteAt hello.encode 0 ≠ tlsRecordHandshake) :=
    not_or_intro (by omega) (not_not_intro hello.recordType_read)
  obtain ⟨-, -, messageType, -, version, -⟩ := hello.laid
  rw [detectClientHelloTlsVersion, if_neg whole, message_length_read]
  simp only [Nat.reduceAdd, body_length_read, be16_of_holds hello.legacyVersion.toNat_lt version]
  rw [if_neg (by omega), if_neg (by rw [messageType.getElem?]; simp), if_neg (by omega),
    if_neg (by omega), if_neg (by omega)]
  cases sent : hello.extensions with
  | none =>
    rw [extensionBlock_absent hello sent, if_pos rfl]
  | some extensions =>
    obtain ⟨found, block⟩ := hello.extensionBlock_present sent
    rw [found, if_neg (by simp), HelloFields.tlsVersion, hello.offered_eq sent]
    exact versionOfExtensions_encoded hello.legacyVersion extensions block

end Hello

theorem hello_parsers_exact_iff (handshake : Bytes) (hello : Hello) :
    Bounded.extractSniFromClientHello handshake = .ok (extractSniFromClientHello handshake) ∧
    Bounded.extractAlpnFromClientHello handshake = .ok (extractAlpnFromClientHello handshake) ∧
    Bounded.detectClientHelloTlsVersion handshake =
      .ok (detectClientHelloTlsVersion handshake) ∧
    extractSniFromClientHello hello.encode = hello.serverName ∧
    extractAlpnFromClientHello hello.encode = hello.protocols ∧
    (detectClientHelloTlsVersion hello.encode = hello.tlsVersion ↔
      hello.extensions ≠ none ∨ hello.legacyVersion < 0x0303) := by
  refine ⟨extractSni_bounded handshake, extractAlpn_bounded handshake,
    detectVersion_bounded handshake, hello.extractSni_encode, hello.extractAlpn_encode, ?_⟩
  rw [hello.detectVersion_encode]
  cases sent : hello.extensions with
  | none =>
    simp [HelloFields.tlsVersion, hello.offered_absent sent, offeredVersions, generation]
  | some => simp

def tls12Fields (extensions : Option (List Extension)) : HelloFields where
  recordVersion := (0x03, 0x01)
  legacyVersion := 0x0303
  random := List.replicate 32 0
  sessionId := []
  cipherSuites := [0xc0, 0x2f]
  compressionMethods := [0x00]
  extensions := extensions

def browserOffers : List Extension :=
  [.other 0x0a0a [], .serverName [] [97, 46, 105, 111] [], .alpn [[104, 50], [104, 51]],
    .supportedVersions [0x0303, 0x0304]]

def browserHello : Hello where
  toHelloFields := tls12Fields (some browserOffers)
  random_length := rfl
  sessionId_length := by decide
  compressionMethods_length := by decide
  extensions_wellFormed := by
    simp [HelloFields.offered, tls12Fields, browserOffers, Extension.WellFormed, alpnExtension,
      supportedVersionsExtension]
  extensions_distinct := by decide
  single_record := by decide

def blocklessHello : Hello where
  toHelloFields := tls12Fields none
  random_length := rfl
  sessionId_length := by decide
  compressionMethods_length := by decide
  extensions_wellFormed := by simp [HelloFields.offered, tls12Fields]
  extensions_distinct := List.nodup_nil
  single_record := by decide

theorem browser_hello_read :
    Bounded.extractSniFromClientHello browserHello.encode = .ok (some [97, 46, 105, 111]) ∧
      Bounded.extractAlpnFromClientHello browserHello.encode = .ok [[104, 50], [104, 51]] ∧
      Bounded.detectClientHelloTlsVersion browserHello.encode = .ok (some .tls13) := by
  obtain ⟨sniBounded, alpnBounded, versionBounded, sni, alpn, version⟩ :=
    hello_parsers_exact_iff browserHello.encode browserHello
  have detected := version.mpr (.inl (Option.some_ne_none browserOffers))
  rw [sniBounded, alpnBounded, versionBounded, sni, alpn, detected]
  decide

theorem blockless_hello_undetected :
    blocklessHello.legacyVersion = 0x0303 ∧ blocklessHello.tlsVersion = some .tls12 ∧
      detectClientHelloTlsVersion blocklessHello.encode = none := by
  decide

end Telemt.ClientHello
