import Telemt.Foundation.Checked
import Telemt.Handshake.ClientHello

namespace Telemt.ClientHello
open Foundation Foundation.Checked

/-!
# The ClientHello parsers stay inside their input

`Bounded` is the code of the three parsers of `protocol/tls.rs` once more, with every indexing,
slicing and addition of offsets checked and every loop counted. Offsets have 32 bits here, the
narrowest `usize` the proxy is built for.
-/

namespace Bounded

def addOffset (pos step : Nat) : Except Fault Nat := Checked.add (2 ^ 32) pos step

variable (handshake : Bytes)

def readU16 (pos : Nat) : Except Fault Nat := do
  let high ← index handshake pos
  let next ← addOffset pos 1
  let low ← index handshake next
  return high.toNat * 256 + low.toNat

-- The parsers begin alike; the one for the server name asks for 43 bytes, the others for five.
def inRecord {β : Type} (least : Nat) (handshake : Bytes) (absent : β)
    (parse : Nat → Except Fault β) : Except Fault β :=
  if handshake.length < least then return absent
  else do
    let recordType ← index handshake 0
    if recordType ≠ tlsRecordHandshake then return absent
    else
      let recordLen ← readU16 handshake 3
      let recordEnd ← addOffset 5 recordLen
      if handshake.length < recordEnd then return absent else parse recordEnd

def extensionBlock : Except Fault (Option (Nat × Nat)) :=
  if handshake[5]? ≠ some 0x01 then return none
  else do
    let pos := 5 + 4 + (2 + 32)
    let stop ← addOffset pos 1
    if handshake.length < stop then return none
    else
      let sessionIdLen ← index handshake pos
      let step ← addOffset 1 sessionIdLen.toNat
      let pos ← addOffset pos step
      let stop ← addOffset pos 2
      if handshake.length < stop then return none
      else
        let cipherSuitesLen ← readU16 handshake pos
        let step ← addOffset 2 cipherSuitesLen
        let pos ← addOffset pos step
        let stop ← addOffset pos 1
        if handshake.length < stop then return none
        else
          let compLen ← index handshake pos
          let step ← addOffset 1 compLen.toNat
          let pos ← addOffset pos step
          let stop ← addOffset pos 2
          if handshake.length < stop then return none
          else
            let extLen ← readU16 handshake pos
            let extEnd ← addOffset stop extLen
            if handshake.length < extEnd then return none else return some (stop, extEnd)

def findServerName (handshake : Bytes) (snEnd : Nat) : Nat → Nat → Except Fault (Option Text)
  | 0, _ => .error .outOfTurns
  | turns + 1, snPos => do
      let namePos ← addOffset snPos 3
      if snEnd < namePos then return none
      else
        let nameType ← index handshake snPos
        let lenPos ← addOffset snPos 1
        let nameLen ← readU16 handshake lenPos
        let nameEnd ← addOffset namePos nameLen
        if snEnd < nameEnd then return none
        else
          let host ← range handshake namePos nameEnd
          if nameType = 0 ∧ 0 < nameLen ∧ isValidSniHostname host then return some host
          else findServerName handshake snEnd turns nameEnd

def sniOfExtensions (handshake : Bytes) (extEnd : Nat) :
    Nat → Nat → Bool → Option Text → Except Fault (Option Text)
  | 0, _, _, _ => .error .outOfTurns
  | turns + 1, pos, sawSni, extracted => do
      let body ← addOffset pos 4
      if extEnd < body then return extracted
      else
        let etype ← readU16 handshake pos
        let lenPos ← addOffset pos 2
        let elen ← readU16 handshake lenPos
        let next ← addOffset body elen
        if extEnd < next then return extracted
        else if etype = 0 ∧ sawSni then return none
        else
          let found ←
            if etype = 0 ∧ 5 ≤ elen then do
              let listLen ← readU16 handshake body
              let snPos ← addOffset body 2
              let listEnd ← addOffset snPos listLen
              findServerName handshake (min listEnd next) handshake.length snPos
            else pure none
          sniOfExtensions handshake extEnd turns next (sawSni || etype == 0) (found.or extracted)

def extractSniFromClientHello : Except Fault (Option Text) :=
  inRecord 43 handshake none fun _ => do
    match ← extensionBlock handshake with
    | none => return none
    | some (pos, extEnd) => sniOfExtensions handshake extEnd handshake.length pos false none

def alpnProtocols (handshake : Bytes) (listEnd : Nat) : Nat → Nat → Except Fault (List Bytes)
  | 0, _ => .error .outOfTurns
  | turns + 1, pos =>
    if listEnd ≤ pos then return []
    else do
      let len ← index handshake pos
      let pos ← addOffset pos 1
      let next ← addOffset pos len.toNat
      if listEnd < next then return []
      else
        let protocol ← range handshake pos next
        let protocols ← alpnProtocols handshake listEnd turns next
        return protocol :: protocols

def alpnOfExtensions (handshake : Bytes) (extEnd : Nat) : Nat → Nat → Except Fault (List Bytes)
  | 0, _ => .error .outOfTurns
  | turns + 1, pos => do
      let body ← addOffset pos 4
      if extEnd < body then return []
      else
        let etype ← readU16 handshake pos
        let lenPos ← addOffset pos 2
        let elen ← readU16 handshake lenPos
        let next ← addOffset body elen
        if extEnd < next then return []
        else if etype = alpnExtension ∧ 3 ≤ elen then
          let listLen ← readU16 handshake body
          let lp ← addOffset body 2
          -- The one addition of the source that saturates.
          let listEnd := min (lp + listLen) (2 ^ 32 - 1)
          alpnProtocols handshake (min listEnd next) handshake.length lp
        else alpnOfExtensions handshake extEnd turns next

def extractAlpnFromClientHello : Except Fault (List Bytes) :=
  inRecord 5 handshake [] fun _ => do
    match ← extensionBlock handshake with
    | none => return []
    | some (pos, extEnd) => alpnOfExtensions handshake extEnd handshake.length pos

def versionOfList (handshake : Bytes) (verEnd : Nat) :
    Nat → Nat → Bool → Except Fault (Option ClientHelloTlsVersion)
  | 0, _, _ => .error .outOfTurns
  | turns + 1, verPos, hasTls12 => do
      let last ← addOffset verPos 1
      if last < verEnd then
        let version ← readU16 handshake verPos
        if version = 0x0304 then return some .tls13
        else
          let next ← addOffset verPos 2
          versionOfList handshake verEnd turns next
            (hasTls12 || version == 0x0303 || version == 0x0302 || version == 0x0301)
      else if hasTls12 then return some .tls12
      else return none

def versionOfExtensions (handshake : Bytes) (legacyVersion extEnd : Nat) :
    Nat → Nat → Except Fault (Option ClientHelloTlsVersion)
  | 0, _ => .error .outOfTurns
  | turns + 1, pos => do
      let body ← addOffset pos 4
      if extEnd < body then
        if 0x0303 ≤ legacyVersion then return some .tls12 else return none
      else
        let etype ← readU16 handshake pos
        let lenPos ← addOffset pos 2
        let elen ← readU16 handshake lenPos
        let next ← addOffset body elen
        if extEnd < next then return none
        else if etype = supportedVersionsExtension then
          if elen < 1 then return none
          else
            let listLen ← index handshake body
            let counted ← addOffset 1 listLen.toNat
            if listLen.toNat = 0 ∨ listLen.toNat % 2 ≠ 0 ∨ elen < counted then return none
            else
              let verPos ← addOffset body 1
              let verEnd ← addOffset verPos listLen.toNat
              versionOfList handshake verEnd handshake.length verPos false
        else versionOfExtensions handshake legacyVersion extEnd turns next

def detectClientHelloTlsVersion : Except Fault (Option ClientHelloTlsVersion) :=
  inRecord 5 handshake none fun recordEnd =>
    if handshake[5]? ≠ some 0x01 then return none
    else do
      let pos ← addOffset 5 1
      let stop ← addOffset pos 3
      if handshake.length < stop then return none
      else
        let high ← index handshake pos
        let lowPos ← addOffset pos 1
        let low ← readU16 handshake lowPos
        let bodyEnd ← addOffset stop (high.toNat * 65536 + low)
        if recordEnd < bodyEnd then return none
        else
          let randomPos ← addOffset stop 2
          let afterRandom ← addOffset randomPos 32
          if handshake.length < afterRandom then return none
          else
            let legacyVersion ← readU16 handshake stop
            match ← extensionBlock handshake with
            | none => return none
            | some (pos, extEnd) =>
              versionOfExtensions handshake legacyVersion extEnd handshake.length pos

end Bounded

variable {handshake : Bytes} {pos : Nat}

theorem byteAt_lt (handshake : Bytes) (pos : Nat) : (byteAt handshake pos).toNat < 256 :=
  UInt8.toNat_lt _

theorem be16_lt (handshake : Bytes) (pos : Nat) : be16 handshake pos < 65536 := by
  have high := byteAt_lt handshake pos
  have low := byteAt_lt handshake (pos + 1)
  rw [be16]
  omega

variable {β : Type}

theorem addOffset_bind {step : Nat} (small : pos + step < 2 ^ 32) (next : Nat → Except Fault β) :
    Bounded.addOffset pos step >>= next = next (pos + step) :=
  congrArg (· >>= next) (add_eq_ok small)

theorem index_bind (inside : pos < handshake.length) (next : UInt8 → Except Fault β) :
    index handshake pos >>= next = next (byteAt handshake pos) :=
  congrArg (· >>= next) (index_eq_ok inside 0)

theorem readU16_bind (inside : pos + 2 ≤ handshake.length) (small : pos + 1 < 2 ^ 32)
    (next : Nat → Except Fault β) :
    Bounded.readU16 handshake pos >>= next = next (be16 handshake pos) := by
  rw [Bounded.readU16, index_bind (by omega), addOffset_bind small, index_bind (by omega)]
  rfl

theorem extensionBlock_bounded (handshake : Bytes) :
    Bounded.extensionBlock handshake = .ok (extensionBlock handshake) := by
  refine ite_ok (fun _ => rfl) fun _ => ?_
  -- Each length field moves the position by at most 65537.
  have sessionId := byteAt_lt handshake 43
  simp only [Nat.reduceAdd]
  refine ite_ok (fun _ => rfl) fun cut => ?_
  rw [index_bind (by omega), addOffset_bind (by omega), addOffset_bind (by omega),
    addOffset_bind (by omega), ← Nat.add_assoc]
  generalize ciphersAt : 43 + 1 + (byteAt handshake 43).toNat = pos
  have ciphers := be16_lt handshake pos
  refine ite_ok (fun _ => rfl) fun cut => ?_
  rw [readU16_bind (by omega) (by omega), addOffset_bind (by omega), addOffset_bind (by omega),
    addOffset_bind (by omega), ← Nat.add_assoc]
  generalize compressionAt : pos + 2 + be16 handshake pos = pos
  have compression := byteAt_lt handshake pos
  refine ite_ok (fun _ => rfl) fun cut => ?_
  rw [index_bind (by omega), addOffset_bind (by omega), addOffset_bind (by omega),
    addOffset_bind (by omega), ← Nat.add_assoc]
  generalize extensionsAt : pos + 1 + (byteAt handshake pos).toNat = pos
  have extensions := be16_lt handshake pos
  refine ite_ok (fun _ => rfl) fun cut => ?_
  rw [readU16_bind (by omega) (by omega), addOffset_bind (by omega)]
  exact ite_ok (fun _ => rfl) fun _ => rfl

variable {extEnd : Nat}

theorem extensionBlock_inside (found : extensionBlock handshake = some (pos, extEnd)) :
    46 ≤ pos ∧ pos ≤ extEnd ∧ extEnd ≤ handshake.length ∧ extEnd < 2 ^ 20 := by
  simp only [extensionBlock, Nat.reduceAdd, Option.ite_none_left_eq_some, Option.some.injEq,
    Prod.mk.injEq] at found
  have sessionId := byteAt_lt handshake 43
  generalize ciphersAt : 44 + (byteAt handshake 43).toNat = pos at *
  have ciphers := be16_lt handshake pos
  generalize compressionAt : pos + 2 + be16 handshake pos = pos at *
  have compression := byteAt_lt handshake pos
  generalize extensionsAt : pos + 1 + (byteAt handshake pos).toNat = pos at *
  have extensions := be16_lt handshake pos
  omega

/-! ## Loops that stay inside

Each loop starts at or before its end, moves forward in every turn and never past its end, so the
turns it is given suffice. -/

variable {turns : Nat}

theorem findServerName_bounded {snEnd snPos : Nat} (inside : snEnd ≤ handshake.length)
    (small : snEnd < 2 ^ 20) (started : snPos ≤ snEnd) (enough : snEnd < snPos + turns) :
    Bounded.findServerName handshake snEnd turns snPos =
      .ok (findServerName handshake snEnd turns snPos) := by
  induction turns generalizing snPos with
  | zero => omega
  | succ _ ih =>
    rw [Bounded.findServerName, findServerName, addOffset_bind (by omega)]
    refine ite_ok (fun _ => rfl) fun _ => ?_
    have nameLen := be16_lt handshake (snPos + 1)
    rw [index_bind (by omega), addOffset_bind (by omega), readU16_bind (by omega) (by omega),
      addOffset_bind (by omega)]
    refine ite_ok (fun _ => rfl) fun _ => ?_
    rw [range_eq_ok (by omega), ok_bind]
    exact ite_ok (fun _ => rfl) fun _ => ih (by omega) (by omega)

theorem alpnProtocols_bounded {listEnd : Nat} (inside : listEnd ≤ handshake.length)
    (small : listEnd < 2 ^ 20) (started : pos ≤ listEnd) (enough : listEnd < pos + turns) :
    Bounded.alpnProtocols handshake listEnd turns pos =
      .ok (alpnProtocols handshake listEnd turns pos) := by
  induction turns generalizing pos with
  | zero => omega
  | succ _ ih =>
    refine ite_ok (fun _ => rfl) fun _ => ?_
    have len := byteAt_lt handshake pos
    rw [index_bind (by omega), addOffset_bind (by omega), addOffset_bind (by omega)]
    refine ite_ok (fun _ => rfl) fun _ => ?_
    rw [range_eq_ok (by omega), ok_bind, ih (by omega) (by omega)]
    rfl

theorem versionOfList_bounded {verEnd verPos : Nat} {hasTls12 : Bool}
    (inside : verEnd ≤ handshake.length) (small : verEnd < 2 ^ 20) (started : verPos ≤ verEnd)
    (enough : verEnd < verPos + turns) :
    Bounded.versionOfList handshake verEnd turns verPos hasTls12 =
      .ok (versionOfList handshake verEnd turns verPos hasTls12) := by
  induction turns generalizing verPos hasTls12 with
  | zero => omega
  | succ _ ih =>
    rw [Bounded.versionOfList, versionOfList, addOffset_bind (by omega)]
    refine ite_ok (fun _ => ?_) fun _ => ite_ok (fun _ => rfl) fun _ => rfl
    rw [readU16_bind (by omega) (by omega)]
    refine ite_ok (fun _ => rfl) fun _ => ?_
    rw [addOffset_bind (by omega)]
    exact ih (by omega) (by omega)

section
variable {sawSni : Bool} {extracted : Option Text} {legacyVersion : Nat}
variable (inside : extEnd ≤ handshake.length) (small : extEnd < 2 ^ 20) (started : pos ≤ extEnd)
include inside small started

/-- The walks over the extensions read the header of an extension alike. -/
theorem extension_bounded {ended cut value : β} {onEnd onCut : Except Fault β}
    {parse : Nat → Nat → Nat → Nat → Except Fault β} (atEnd : onEnd = .ok ended)
    (atCut : onCut = .ok cut)
    (parsed : pos + 4 + be16 handshake (pos + 2) ≤ extEnd →
      parse (be16 handshake pos) (be16 handshake (pos + 2)) (pos + 4)
        (pos + 4 + be16 handshake (pos + 2)) = .ok value) :
    (do
      let body ← Bounded.addOffset pos 4
      if extEnd < body then onEnd
      else
        let etype ← Bounded.readU16 handshake pos
        let lenPos ← Bounded.addOffset pos 2
        let elen ← Bounded.readU16 handshake lenPos
        let next ← Bounded.addOffset body elen
        if extEnd < next then onCut else parse etype elen body next) =
      .ok (if extEnd < pos + 4 then ended
        else if extEnd < pos + 4 + be16 handshake (pos + 2) then cut else value) := by
  have elen := be16_lt handshake (pos + 2)
  rw [addOffset_bind (by omega)]
  refine ite_ok (fun _ => atEnd) fun _ => ?_
  rw [readU16_bind (by omega) (by omega), addOffset_bind (by omega),
    readU16_bind (by omega) (by omega), addOffset_bind (by omega)]
  exact ite_ok (fun _ => atCut) fun reached => parsed (Nat.not_lt.mp reached)

variable (enough : extEnd < pos + turns)
include enough

theorem sniOfExtensions_bounded :
    Bounded.sniOfExtensions handshake extEnd turns pos sawSni extracted =
      .ok (sniOfExtensions handshake extEnd turns pos sawSni extracted) := by
  induction turns generalizing pos sawSni extracted with
  | zero => omega
  | succ _ ih =>
    refine extension_bounded inside small started rfl rfl fun reached => ?_
    refine ite_ok (fun _ => rfl) fun _ => ?_
    by_cases names : be16 handshake pos = 0 ∧ 5 ≤ be16 handshake (pos + 2)
    · have listLen := be16_lt handshake (pos + 4)
      simp only [if_pos names]
      rw [readU16_bind (by omega) (by omega), addOffset_bind (by omega), addOffset_bind (by omega),
        findServerName_bounded (by omega) (by omega) (by omega) (by omega), ok_bind]
      exact ih (by omega) (by omega)
    · simp only [if_neg names]
      exact ih (by omega) (by omega)

theorem alpnOfExtensions_bounded :
    Bounded.alpnOfExtensions handshake extEnd turns pos =
      .ok (alpnOfExtensions handshake extEnd turns pos) := by
  induction turns generalizing pos with
  | zero => omega
  | succ _ ih =>
    refine extension_bounded inside small started rfl rfl fun reached => ?_
    refine ite_ok (fun _ => ?_) fun _ => ih (by omega) (by omega)
    have listLen := be16_lt handshake (pos + 4)
    rw [readU16_bind (by omega) (by omega), addOffset_bind (by omega),
      Nat.min_eq_left (show pos + 4 + 2 + be16 handshake (pos + 4) ≤ 2 ^ 32 - 1 by omega)]
    exact alpnProtocols_bounded (by omega) (by omega) (by omega) (by omega)

theorem versionOfExtensions_bounded :
    Bounded.versionOfExtensions handshake legacyVersion extEnd turns pos =
      .ok (versionOfExtensions handshake legacyVersion extEnd turns pos) := by
  induction turns generalizing pos with
  | zero => omega
  | succ _ ih =>
    refine extension_bounded inside small started (ite_ok (fun _ => rfl) fun _ => rfl) rfl
      fun reached => ite_ok (fun _ => ?_) fun _ => ih (by omega) (by omega)
    refine ite_ok (fun _ => rfl) fun _ => ?_
    have listLen := byteAt_lt handshake (pos + 4)
    rw [index_bind (by omega), addOffset_bind (by omega)]
    refine ite_ok (fun _ => rfl) fun _ => ?_
    rw [addOffset_bind (by omega), addOffset_bind (by omega)]
    exact versionOfList_bounded (by omega) (by omega) (by omega) (by omega)

end

theorem inRecord_bounded {least : Nat} {absent value : β} {parse : Nat → Except Fault β}
    (header : 5 ≤ least)
    (parsed : 5 + be16 handshake 3 ≤ handshake.length →
      parse (5 + be16 handshake 3) = .ok value) :
    Bounded.inRecord least handshake absent parse =
      .ok (if handshake.length < least ∨ byteAt handshake 0 ≠ tlsRecordHandshake then absent
        else if handshake.length < 5 + be16 handshake 3 then absent else value) := by
  unfold Bounded.inRecord
  by_cases cut : handshake.length < least
  · rw [if_pos cut, if_pos (Or.inl cut)]
    rfl
  rw [if_neg cut, index_bind (by omega)]
  by_cases otherType : byteAt handshake 0 ≠ tlsRecordHandshake
  · rw [if_pos otherType, if_pos (Or.inr otherType)]
    rfl
  have recordLen := be16_lt handshake 3
  rw [if_neg otherType, if_neg (not_or_intro cut otherType), readU16_bind (by omega) (by omega),
    addOffset_bind (by omega)]
  exact ite_ok (fun _ => rfl) fun whole => parsed (Nat.not_lt.mp whole)

/-- What follows the walk to the extension block. -/
theorem onExtensions_bounded {absent : β} {parse : Nat → Nat → Except Fault β}
    {value : Nat → Nat → β}
    (parsed : ∀ {pos extEnd}, extEnd ≤ handshake.length → extEnd < 2 ^ 20 → pos ≤ extEnd →
      extEnd < pos + handshake.length → parse pos extEnd = .ok (value pos extEnd)) :
    (do match ← Bounded.extensionBlock handshake with
      | none => return absent
      | some (pos, extEnd) => parse pos extEnd) =
      .ok (match extensionBlock handshake with
        | none => absent
        | some (pos, extEnd) => value pos extEnd) := by
  rw [extensionBlock_bounded, ok_bind]
  cases block : extensionBlock handshake with
  | none => rfl
  | some =>
    obtain ⟨_, ends, inside, small⟩ := extensionBlock_inside block
    exact parsed inside small ends (by omega)

theorem extractSni_bounded (handshake : Bytes) :
    Bounded.extractSniFromClientHello handshake = .ok (extractSniFromClientHello handshake) :=
  inRecord_bounded (by decide) fun _ => onExtensions_bounded sniOfExtensions_bounded

theorem extractAlpn_bounded (handshake : Bytes) :
    Bounded.extractAlpnFromClientHello handshake = .ok (extractAlpnFromClientHello handshake) :=
  inRecord_bounded (by decide) fun _ => onExtensions_bounded alpnOfExtensions_bounded

theorem detectVersion_bounded (handshake : Bytes) :
    Bounded.detectClientHelloTlsVersion handshake =
      .ok (detectClientHelloTlsVersion handshake) := by
  apply inRecord_bounded (by decide)
  intro _
  refine ite_ok (fun _ => rfl) fun _ => ?_
  refine ite_ok (fun _ => rfl) fun cut => ?_
  have high := byteAt_lt handshake (5 + 1)
  have low := be16_lt handshake (5 + 1 + 1)
  rw [index_bind (by omega), addOffset_bind (by decide), readU16_bind (by omega) (by omega),
    addOffset_bind (by omega)]
  refine ite_ok (fun _ => rfl) fun _ => ?_
  rw [addOffset_bind (by decide), addOffset_bind (by decide)]
  refine ite_ok (fun _ => rfl) fun _ => ?_
  rw [readU16_bind (by omega) (by omega)]
  exact onExtensions_bounded versionOfExtensions_bounded

end Telemt.ClientHello
