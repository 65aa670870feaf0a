import Telemt.Foundation.Bytes

namespace Telemt.ClientHello
open Foundation

/-!
# What the proxy reads out of a TLS ClientHello

Texts are their UTF-8 bytes. The source indexes the record only after comparing the position with
its length, so the default of `byteAt` is never read; the loops advance by at least one byte a turn
and run on the length of the record.
-/

abbrev Text := Bytes

variable (bytes : Bytes)

def byteAt (pos : Nat) : UInt8 := bytes.getD pos 0

def be16 (pos : Nat) : Nat := (byteAt bytes pos).toNat * 256 + (byteAt bytes (pos + 1)).toNat

def slice (pos len : Nat) : Bytes := (bytes.drop pos).take len

def toAsciiLowercase (b : UInt8) : UInt8 := if 65 ≤ b ∧ b ≤ 90 then b + 32 else b

def eqIgnoreAsciiCase (a b : Text) : Bool := a.map toAsciiLowercase == b.map toAsciiLowercase

def isAsciiDigit (b : UInt8) : Bool := 48 ≤ b && b ≤ 57

def isAsciiAlphanumeric (b : UInt8) : Bool :=
  isAsciiDigit b || (65 ≤ b && b ≤ 90) || (97 ≤ b && b ≤ 122)

def dot : UInt8 := 46

def hyphen : UInt8 := 45

def decimal (digits : Text) : Nat := digits.foldl (fun n b => n * 10 + (b.toNat - 48)) 0

-- The decimal octets the standard parser accepts: at most three digits and no leading zero.
def isIpv4Octet (part : Text) : Bool :=
  part.all isAsciiDigit && 1 ≤ part.length && part.length ≤ 3 && decimal part ≤ 255 &&
    (part.length == 1 || part.head? != some 48)

-- A version 6 literal holds a colon, which no label may hold, so only version 4 is looked for.
def isIpLiteral (host : Text) : Bool :=
  (host.splitOn dot).length == 4 && (host.splitOn dot).all isIpv4Octet

def isValidLabel (label : Text) : Bool :=
  !label.isEmpty && label.length ≤ 63 && label.head? != some hyphen &&
    label.getLast? != some hyphen && label.all fun b => isAsciiAlphanumeric b || b == hyphen

def isValidSniHostname (host : Text) : Bool :=
  !host.isEmpty && host.length ≤ 253 && host.head? != some dot && host.getLast? != some dot &&
    !isIpLiteral host && (host.splitOn dot).all isValidLabel

def tlsRecordHandshake : UInt8 := 0x16

variable (handshake : Bytes)

-- From the handshake type on, the parsers walk to the extension block alike.
def extensionBlock : Option (Nat × Nat) :=
  if handshake[5]? ≠ some 0x01 then none
  else
    let pos := 5 + 4 + (2 + 32)
    if handshake.length < pos + 1 then none
    else
      let pos := pos + 1 + (byteAt handshake pos).toNat
      if handshake.length < pos + 2 then none
      else
        let pos := pos + 2 + be16 handshake pos
        if handshake.length < pos + 1 then none
        else
          let pos := pos + 1 + (byteAt handshake pos).toNat
          if handshake.length < pos + 2 then none
          else
            let extEnd := pos + 2 + be16 handshake pos
            if handshake.length < extEnd then none else some (pos + 2, extEnd)

def findServerName (handshake : Bytes) (snEnd : Nat) : Nat → Nat → Option Text
  | 0, _ => none
  | turns + 1, snPos =>
    if snEnd < snPos + 3 then none
    else
      let nameType := byteAt handshake snPos
      let nameLen := be16 handshake (snPos + 1)
      let snPos := snPos + 3
      if snEnd < snPos + nameLen then none
      else
        let host := slice handshake snPos nameLen
        if nameType = 0 ∧ 0 < nameLen ∧ isValidSniHostname host then some host
        else findServerName handshake snEnd turns (snPos + nameLen)

def sniOfExtensions (handshake : Bytes) (extEnd : Nat) :
    Nat → Nat → Bool → Option Text → Option Text
  | 0, _, _, extracted => extracted
  | turns + 1, pos, sawSni, extracted =>
    if extEnd < pos + 4 then extracted
    else
      let etype := be16 handshake pos
      let elen := be16 handshake (pos + 2)
      let pos := pos + 4
      if extEnd < pos + elen then extracted
      else if etype = 0 ∧ sawSni then none
      else
        let found :=
          if etype = 0 ∧ 5 ≤ elen then
            let snPos := pos + 2
            let snEnd := min (snPos + be16 handshake pos) (pos + elen)
            findServerName handshake snEnd handshake.length snPos
          else none
        sniOfExtensions handshake extEnd turns (pos + elen) (sawSni || etype == 0)
          (found.or extracted)

def extractSniFromClientHello : Option Text :=
  if handshake.length < 43 ∨ byteAt handshake 0 ≠ tlsRecordHandshake then none
  else if handshake.length < 5 + be16 handshake 3 then none
  else
    match extensionBlock handshake with
    | none => none
    | some (pos, extEnd) => sniOfExtensions handshake extEnd handshake.length pos false none

def alpnExtension : Nat := 0x0010

def alpnProtocols (handshake : Bytes) (listEnd : Nat) : Nat → Nat → List Bytes
  | 0, _ => []
  | turns + 1, pos =>
    if listEnd ≤ pos then []
    else
      let len := (byteAt handshake pos).toNat
      let pos := pos + 1
      if listEnd < pos + len then []
      else slice handshake pos len :: alpnProtocols handshake listEnd turns (pos + len)

def alpnOfExtensions (handshake : Bytes) (extEnd : Nat) : Nat → Nat → List Bytes
  | 0, _ => []
  | turns + 1, pos =>
    if extEnd < pos + 4 then []
    else
      let etype := be16 handshake pos
      let elen := be16 handshake (pos + 2)
      let pos := pos + 4
      if extEnd < pos + elen then []
      else if etype = alpnExtension ∧ 3 ≤ elen then
        let listEnd := min (pos + 2 + be16 handshake pos) (pos + elen)
        alpnProtocols handshake listEnd handshake.length (pos + 2)
      else alpnOfExtensions handshake extEnd turns (pos + elen)

def extractAlpnFromClientHello : List Bytes :=
  if handshake.length < 5 ∨ byteAt handshake 0 ≠ tlsRecordHandshake then []
  else if handshake.length < 5 + be16 handshake 3 then []
  else
    match extensionBlock handshake with
    | none => []
    | some (pos, extEnd) => alpnOfExtensions handshake extEnd handshake.length pos

inductive ClientHelloTlsVersion
  | tls12
  | tls13
  deriving DecidableEq, Repr

def supportedVersionsExtension : Nat := 0x002b

def versionOfList (handshake : Bytes) (verEnd : Nat) :
    Nat → Nat → Bool → Option ClientHelloTlsVersion
  | 0, _, _ => none
  | turns + 1, verPos, hasTls12 =>
    if verPos + 1 < verEnd then
      let version := be16 handshake verPos
      if version = 0x0304 then some .tls13
      else
        versionOfList handshake verEnd turns (verPos + 2)
          (hasTls12 || version == 0x0303 || version == 0x0302 || version == 0x0301)
    else if hasTls12 then some .tls12 else none

def versionOfExtensions (handshake : Bytes) (legacyVersion extEnd : Nat) :
    Nat → Nat → Option ClientHelloTlsVersion
  | 0, _ => none
  | turns + 1, pos =>
    if extEnd < pos + 4 then if 0x0303 ≤ legacyVersion then some .tls12 else none
    else
      let etype := be16 handshake pos
      let elen := be16 handshake (pos + 2)
      let pos := pos + 4
      if extEnd < pos + elen then none
      else if etype = supportedVersionsExtension then
        if elen < 1 then none
        else
          let listLen := (byteAt handshake pos).toNat
          if listLen = 0 ∨ listLen % 2 ≠ 0 ∨ elen < 1 + listLen then none
          else versionOfList handshake (pos + 1 + listLen) handshake.length (pos + 1) false
      else versionOfExtensions handshake legacyVersion extEnd turns (pos + elen)

def detectClientHelloTlsVersion : Option ClientHelloTlsVersion :=
  if handshake.length < 5 ∨ byteAt handshake 0 ≠ tlsRecordHandshake then none
  else
    let recordLen := be16 handshake 3
    if handshake.length < 5 + recordLen then none
    else if handshake[5]? ≠ some 0x01 then none
    else
      let pos := 5 + 1
      if handshake.length < pos + 3 then none
      else
        let handshakeLen := (byteAt handshake pos).toNat * 65536 + be16 handshake (pos + 1)
        let pos := pos + 3
        if 5 + recordLen < pos + handshakeLen then none
        else if handshake.length < pos + 2 + 32 then none
        else
          let legacyVersion := be16 handshake pos
          match extensionBlock handshake with
          | none => none
          | some (pos, extEnd) =>
            versionOfExtensions handshake legacyVersion extEnd handshake.length pos

end Telemt.ClientHello
