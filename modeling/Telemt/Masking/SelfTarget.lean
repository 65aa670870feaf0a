import Telemt.Basic
import Telemt.Foundation.Dict
import Telemt.Handshake.ClientHello

namespace Telemt.Masking
open Foundation ClientHello

/-!
# Where a bad client is sent

`handle_bad_client` up to the connection to the mask host; what is relayed then is not modelled. The
parsers of the standard library are parameters, and so is what the cache of interface addresses
holds. The local address is the one of the accepted socket.
-/

structure TextParsers where
  trim : Text → Text
  ip : Text → Option IpAddr
  port : Text → Option UInt16

def IpAddr.isUnspecified : IpAddr → Bool
  | .v4 octets => octets == Vector.replicate 4 0
  | .v6 octets => octets == Vector.replicate 16 0

def IpAddr.isLoopback : IpAddr → Bool
  | .v4 octets => octets[0] == 127
  | .v6 octets => octets == ⟨⟨List.replicate 15 0 ++ [1]⟩, rfl⟩

/-- An IPv4-mapped address stands for the address it maps. -/
def canonicalIp : IpAddr → IpAddr
  | .v4 octets => .v4 octets
  | .v6 octets =>
    if octets.toList.take 12 = List.replicate 10 0 ++ [0xff, 0xff] then
      .v4 #v[octets[12], octets[13], octets[14], octets[15]]
    else .v6 octets

structure MaskTcpTarget where
  host : Text
  port : UInt16
  deriving DecidableEq, Repr

structure CensorshipConfig where
  mask : Bool := true
  maskHost : Option Text := none
  maskPort : UInt16 := 443
  maskUnixSock : Option Text := none
  tlsDomain : Text
  tlsDomains : List Text := []
  exclusiveMask : Dict Text Text := ∅
  exclusiveMaskTargets : Dict Text MaskTcpTarget := ∅

def openBracket : UInt8 := 91

def closeBracket : UInt8 := 93

def colon : UInt8 := 58

section
variable (parsers : TextParsers)

def parseMaskHostIpLiteral (host : Text) : Option IpAddr :=
  if host.head? = some openBracket ∧ host.getLast? = some closeBracket then
    parsers.ip (host.drop 1).dropLast
  else parsers.ip host

def positivePort (host : Text) (port : Option UInt16) : Option MaskTcpTarget :=
  (port.filter fun port => decide (0 < port)).map fun port => ⟨host, port⟩

def parseExclusiveMaskTarget (target : Text) : Option MaskTcpTarget :=
  let target := parsers.trim target
  if target.isEmpty then none
  else if target.head? = some openBracket then
    match target.idxOf? closeBracket with
    | none => none
    | some bracket =>
      if target[bracket + 1]? ≠ some colon then none
      else positivePort (target.take (bracket + 1)) (parsers.port (target.drop (bracket + 2)))
  else
    match target.reverse.idxOf? colon with
    | none => none
    | some fromEnd =>
      let host := target.take (target.length - 1 - fromEnd)
      if host.isEmpty ∨ colon ∈ host then none
      else positivePort host (parsers.port (target.drop (target.length - fromEnd)))

variable (config : CensorshipConfig)

def exclusiveMaskTargetFor (sni : Text) : Option (Option MaskTcpTarget) :=
  match config.exclusiveMaskTargets.lookup sni with
  | some target => some (some target)
  | none => (config.exclusiveMask.lookup sni).map (parseExclusiveMaskTarget parsers)

def isAsciiUppercase (b : UInt8) : Bool := 65 ≤ b && b ≤ 90

-- A target found under the name as it stands is final, whether or not it parses.
def exclusiveMaskTargetForSni (sni : Text) : Option MaskTcpTarget :=
  match exclusiveMaskTargetFor parsers config sni with
  | some target => target
  | none =>
    if sni.any isAsciiUppercase then
      (exclusiveMaskTargetFor parsers config (sni.map toAsciiLowercase)).join
    else none

def matchingTlsDomainForSni (sni : Text) : Option Text :=
  if eqIgnoreAsciiCase config.tlsDomain sni then some config.tlsDomain
  else config.tlsDomains.find? (eqIgnoreAsciiCase · sni)

def defaultMaskTcpTargetForInitialData (initialData : Bytes) (sni : Option Text) : MaskTcpTarget :=
  let configuredMaskHost := config.maskHost.getD config.tlsDomain
  if !eqIgnoreAsciiCase configuredMaskHost config.tlsDomain then ⟨configuredMaskHost, config.maskPort⟩
  else
    let extractedSni := if sni.isNone then extractSniFromClientHello initialData else none
    ⟨((sni.or extractedSni).bind (matchingTlsDomainForSni config)).getD configuredMaskHost,
      config.maskPort⟩

abbrev OverrideMap := Dict (Text × UInt16) IpAddr

variable (overrides : OverrideMap)

def resolveSocketAddr (host : Text) (port : UInt16) : Option SocketAddr :=
  (overrides.lookup (host.map toAsciiLowercase, port)).map fun ip => ⟨ip, port⟩

def isOwnAddress (localIp : IpAddr) (interfaceIps : List IpAddr) (ip : IpAddr) : Bool :=
  ip == localIp ||
    IpAddr.isUnspecified localIp &&
      (IpAddr.isLoopback ip || IpAddr.isUnspecified ip || interfaceIps.contains ip)

def isMaskTargetLocalListenerWithInterfaces (maskHost : Text) (maskPort : UInt16)
    (localAddr : SocketAddr) (resolvedOverride : Option SocketAddr) (interfaceIps : List IpAddr) :
    Bool :=
  if maskPort ≠ localAddr.port then false
  else
    let localIp := canonicalIp localAddr.ip
    let literalMaskIp := (parseMaskHostIpLiteral parsers maskHost).map canonicalIp
    resolvedOverride.any (fun addr => isOwnAddress localIp interfaceIps (canonicalIp addr.ip)) ||
      literalMaskIp.any (isOwnAddress localIp interfaceIps)

inductive MaskChoice
  | disabled
  | unixSocket (path : Text)
  | tcp (target : MaskTcpTarget)
  deriving DecidableEq, Repr

def chooseMask (initialData : Bytes) : MaskChoice :=
  if !config.mask then .disabled
  else
    let clientSni := extractSniFromClientHello initialData
    match clientSni.bind (exclusiveMaskTargetForSni parsers config), config.maskUnixSock with
    | some target, _ => .tcp target
    | none, some path => .unixSocket path
    | none, none => .tcp (defaultMaskTcpTargetForInitialData config initialData clientSni)

inductive MaskOutcome
  | consume
  | unixSocket (path : Text)
  | refused
  | connect (target : MaskTcpTarget) (resolved : Option SocketAddr)
  deriving DecidableEq, Repr

def handleBadClient (interfaceIps : List IpAddr) (config : CensorshipConfig) (initialData : Bytes)
    (localAddr : SocketAddr) : MaskOutcome :=
  match chooseMask parsers config initialData with
  | .disabled => .consume
  | .unixSocket path => .unixSocket path
  | .tcp target =>
    let resolved := resolveSocketAddr overrides target.host target.port
    if isMaskTargetLocalListenerWithInterfaces parsers target.host target.port localAddr resolved
        interfaceIps then .refused
    else .connect target resolved

/-- The addresses a target names: its override, and its host where that is a literal. -/
def namedIps (target : MaskTcpTarget) : List IpAddr :=
  (overrides.lookup (target.host.map toAsciiLowercase, target.port)).toList ++
    (parseMaskHostIpLiteral parsers target.host).toList

end

theorem isUnspecified_of_isLoopback {ip : IpAddr} (loopback : IpAddr.isLoopback ip = true) :
    IpAddr.isUnspecified ip = false := by
  cases ip with
  | v4 octets =>
    simp only [IpAddr.isLoopback, beq_iff_eq] at loopback
    simp only [IpAddr.isUnspecified, beq_eq_false_iff_ne]
    rintro rfl
    exact absurd loopback (by decide)
  | v6 =>
    simp only [IpAddr.isLoopback, beq_iff_eq] at loopback
    subst loopback
    decide

theorem localListener_iff (parsers : TextParsers) (overrides : OverrideMap) {interfaceIps : List IpAddr}
    {localAddr : SocketAddr} {target : MaskTcpTarget} (samePort : target.port = localAddr.port)
    (specific : IpAddr.isUnspecified (canonicalIp localAddr.ip) = false) :
    isMaskTargetLocalListenerWithInterfaces parsers target.host target.port localAddr
        (resolveSocketAddr overrides target.host target.port) interfaceIps = true ↔
      ∃ ip ∈ namedIps parsers overrides target, canonicalIp ip = canonicalIp localAddr.ip := by
  have own (ip : IpAddr) : isOwnAddress (canonicalIp localAddr.ip) interfaceIps ip = true ↔
      ip = canonicalIp localAddr.ip := by
    simp [isOwnAddress, specific]
  unfold isMaskTargetLocalListenerWithInterfaces resolveSocketAddr namedIps
  rw [if_neg (not_not.mpr samePort)]
  simp only [Bool.or_eq_true, Option.any_map, Option.any_eq_true, own, List.mem_append,
    Option.mem_toList, or_and_right, exists_or]

theorem own_target_refused_iff (parsers : TextParsers) (overrides : OverrideMap)
    (interfaceIps : List IpAddr) (config : CensorshipConfig) (initialData : Bytes)
    (localAddr : SocketAddr) (interfaces : List IpAddr) (target : MaskTcpTarget)
    (assigned : ∀ ip ∈ interfaces, IpAddr.isUnspecified (canonicalIp ip) = false)
    (accepted : localAddr.ip ∈ interfaces ∨ IpAddr.isLoopback (canonicalIp localAddr.ip) = true)
    (chosen : chooseMask parsers config initialData = .tcp target)
    (samePort : target.port = localAddr.port) :
    handleBadClient parsers overrides interfaceIps config initialData localAddr = .refused ↔
      ∃ ip ∈ namedIps parsers overrides target, canonicalIp ip = canonicalIp localAddr.ip := by
  have specific : IpAddr.isUnspecified (canonicalIp localAddr.ip) = false := by
    rcases accepted with member | loopback
    · exact assigned localAddr.ip member
    · exact isUnspecified_of_isLoopback loopback
  rw [← @localListener_iff parsers overrides interfaceIps localAddr target samePort specific]
  unfold handleBadClient
  rw [chosen]
  dsimp only
  split_ifs with own
  · exact iff_of_true rfl own
  · exact iff_of_false (fun connects => by cases connects) own

def parseDottedIp (text : Text) : Option IpAddr :=
  match (text.splitOn dot).map decimal with
  | [a, b, c, d] =>
    if isIpLiteral text then
      some (.ofOctets (UInt8.ofNat a) (UInt8.ofNat b) (UInt8.ofNat c) (UInt8.ofNat d))
    else none
  | _ => none

def dottedParsers : TextParsers where
  trim := id
  ip := parseDottedIp
  port text := if text.all isAsciiDigit then some (UInt16.ofNat (decimal text)) else none

def hostIp : IpAddr := .ofOctets 10 0 0 5

def hostText : Text := [49, 48, 46, 48, 46, 48, 46, 53]

def loopbackText : Text := [49, 50, 55, 46, 48, 46, 48, 46, 49]

def maskingTo (host : Text) : CensorshipConfig where
  maskHost := some host
  tlsDomain := [97, 46, 99, 111, 109]

theorem target_of_client_refused :
    chooseMask dottedParsers (maskingTo hostText) [] = .tcp ⟨hostText, 443⟩ ∧
      handleBadClient dottedParsers ∅ [hostIp] (maskingTo hostText) [] ⟨hostIp, 443⟩ = .refused := by
  have chosen : chooseMask dottedParsers (maskingTo hostText) [] = .tcp ⟨hostText, 443⟩ := by
    decide +kernel
  refine ⟨chosen, (own_target_refused_iff dottedParsers ∅ [hostIp] (maskingTo hostText) []
    ⟨hostIp, 443⟩ [hostIp] ⟨hostText, 443⟩ (by decide) (by decide) chosen rfl).mpr ?_⟩
  exact ⟨hostIp, by decide +kernel, rfl⟩

-- The client came in over the address of the interface, the target is the loopback address.
theorem loopback_target_connected :
    IpAddr.isLoopback (.ofOctets 127 0 0 1) = true ∧
      parseMaskHostIpLiteral dottedParsers loopbackText = some (.ofOctets 127 0 0 1) ∧
      handleBadClient dottedParsers ∅ [hostIp] (maskingTo loopbackText) [] ⟨hostIp, 443⟩ =
        .connect ⟨loopbackText, 443⟩ none := by
  decide +kernel

end Telemt.Masking
