import Telemt.Config.AccessSections
import Telemt.Foundation.Checked

namespace Telemt.UserApi
open Foundation Foundation.Checked ClientHello TrafficLimiter
open Config (AccessSection Representable Timestamp)
open Handshake (UserAuthError UserAuthSnapshot)

/-!
# Creating and changing users over the API

`create_user` and `patch_user` of `api/users.rs` between the two validators they stand between: the
checks of `ProxyConfig::load`, which read the file before every change, and `ProxyConfig::validate`,
which the change must pass. Texts are their UTF-8 bytes. The file is its content: the access tables,
and the rest of the configuration with what the loader says about it.
-/

def utf8 (text : String) : Text := text.toUTF8.toList

structure AccessConfig where
  users : Dict Text Text
  userEnabled : Dict Text Bool
  userAdTags : Dict Text Text
  userMaxTcpConns : Dict Text Nat
  userExpirations : Dict Text Timestamp
  userDataQuota : Dict Text Nat
  userRateLimits : Dict Text RateLimitBps
  cidrRateLimits : List (Text × RateLimitBps)
  userMaxUniqueIps : Dict Text Nat
  userMaxUniqueIpsWindowSecs : Nat

structure Settings where
  classic : Bool
  secure : Bool
  tls : Bool
  tlsDomain : Text
  tlsDomains : List Text
  exclusiveMask : List (Text × Text)
  dnsOverrides : List Text

inductive ProxyError
  | config (message : Text)
  | invalidSecret (user reason : Text)

def ProxyError.ofAuth : UserAuthError → ProxyError
  | .invalidSecret user reason => .invalidSecret user (utf8 reason)
  | .config message => .config (utf8 message)

structure ConfigFile (ο : Type) where
  access : AccessConfig
  other : ο
  revision : Text

structure ProxyConfig where
  access : AccessConfig
  settings : Settings

/-- The parts of the program that do not look at the access tables: the loader's checks of the rest
of the file, in three groups around those of the access tables, the validators of names, and the
texts of errors that come from libraries. -/
structure Surroundings (ο : Type) where
  checksBefore : ο → Option ProxyError
  checksBetween : ο → Option ProxyError
  checksAfter : ο → Option ProxyError
  settings : ο → Settings
  integerOutOfRange : ProxyError
  serializerRefusal : Text
  sniHash : Text → Nat
  isValidTlsDomainName : Text → Bool
  isExclusiveMaskTarget : Text → Bool
  validateEntries : List Text → Option ProxyError
  shown : ProxyError → Text
  parseFromRfc3339 : Text → Option Timestamp

def isAsciiHexdigit (b : UInt8) : Bool :=
  (48 ≤ b && b ≤ 57) || (97 ≤ b && b ≤ 102) || (65 ≤ b && b ≤ 70)

def isHex32 (text : Text) : Bool := text.length == 32 && text.all isAsciiHexdigit

def isValidUserSecret : Text → Bool := isHex32

def isValidAdTag : Text → Bool := isHex32

/-- TOML integers have 64 bits, one of them the sign. -/
def tomlIntegerLimit : Nat := 2 ^ 63

def Integers (table : Dict Text Nat) : Prop := Dict.Each (fun _ number => number < tomlIntegerLimit) table

instance (table : Dict Text Nat) : Decidable (Integers table) :=
  inferInstanceAs (Decidable (Dict.Each _ table))

instance (limit : RateLimitBps) : Decidable (Representable limit) :=
  inferInstanceAs (Decidable (_ ∧ _))

/-- Every number of the access tables is a TOML integer. -/
@[mk_iff]
structure AccessConfig.Integral (access : AccessConfig) : Prop where
  userMaxTcpConns : Integers access.userMaxTcpConns
  userDataQuota : Integers access.userDataQuota
  userRateLimits : Dict.Each (fun _ limit => Representable limit) access.userRateLimits
  cidrRateLimits : ∀ row ∈ access.cidrRateLimits, Representable row.2
  userMaxUniqueIps : Integers access.userMaxUniqueIps
  userMaxUniqueIpsWindowSecs : access.userMaxUniqueIpsWindowSecs < tomlIntegerLimit

instance (access : AccessConfig) : Decidable access.Integral :=
  decidable_of_iff' _ access.integral_iff

-- Users and networks share the check, under different names.
def checkRateLimit (table : String) (key : Text) (limit : RateLimitBps) : Option ProxyError :=
  if limit.upBps = 0 ∧ limit.downBps = 0 then
    some (.config (utf8 ("access." ++ table ++ ".") ++ key ++
      utf8 " must set at least one non-zero direction"))
  else none

def checkSecret (user secret : Text) : Option ProxyError :=
  if !secret.all isAsciiHexdigit || secret.length != 32 then
    some (.invalidSecret user (utf8 "Must be 32 hex characters"))
  else none

section
variable {ο : Type} (around : Surroundings ο)

def rebuildRuntimeUserAuth (users : Dict Text Text) : Except ProxyError Unit :=
  match UserAuthSnapshot.fromUsers around.sniHash users with
  | .error error => .error (.ofAuth error)
  | .ok _ => .ok ()

def load (file : ConfigFile ο) : Except ProxyError ProxyConfig := do
  refuseIf (¬file.access.Integral) around.integerOutOfRange
  refuse (around.checksBefore file.other)
  refuseIf (file.access.userMaxUniqueIpsWindowSecs = 0)
    (.config (utf8 "access.user_max_unique_ips_window_secs must be > 0"))
  refuseFirst (fun row => checkRateLimit "user_rate_limits" row.1 row.2)
    file.access.userRateLimits.entries
  refuseFirst (fun row => checkRateLimit "cidr_rate_limits" row.1 row.2) file.access.cidrRateLimits
  refuse (around.checksBetween file.other)
  refuseFirst (fun row => checkSecret row.1 row.2) file.access.users.entries
  refuse (around.checksAfter file.other)
  rebuildRuntimeUserAuth around file.access.users
  return ⟨file.access, around.settings file.other⟩

def checkTlsDomain (domain : Text) : Option ProxyError :=
  if !around.isValidTlsDomainName domain then
    some (.config (utf8 "Invalid tls_domains entry: '" ++ domain ++
      utf8 "'. Must be a valid domain name"))
  else none

def checkExclusiveMask (domain target : Text) : Option ProxyError :=
  if !around.isValidTlsDomainName domain then
    some (.config (utf8 "Invalid censorship.exclusive_mask domain: '" ++ domain ++
      utf8 "'. Must be a valid domain name"))
  else if !around.isExclusiveMaskTarget target then
    some (.config (utf8 "Invalid censorship.exclusive_mask target for '" ++ domain ++ utf8 "': '" ++
      target ++ utf8 "'. Expected host:port with port > 0"))
  else none

def checkUserAdTag (user tag : Text) : Option ProxyError :=
  if !isValidAdTag tag then
    some (.config (utf8 "access.user_ad_tags['" ++ user ++
      utf8 "'] must be exactly 32 hex characters"))
  else none

def validate (config : ProxyConfig) : Except ProxyError Unit := do
  let settings := config.settings
  refuseIf (config.access.users.entries.isEmpty) (.config (utf8 "No users configured"))
  refuseIf (!settings.classic && !settings.secure && !settings.tls)
    (.config (utf8 "No modes enabled"))
  refuseIf (!around.isValidTlsDomainName settings.tlsDomain)
    (.config (utf8 "Invalid tls_domain: '" ++ settings.tlsDomain ++
      utf8 "'. Must be a valid domain name"))
  refuseFirst (checkTlsDomain around) settings.tlsDomains
  refuseFirst (fun row => checkExclusiveMask around row.1 row.2) settings.exclusiveMask
  refuseFirst (fun row => checkUserAdTag row.1 row.2) config.access.userAdTags.entries
  refuse (around.validateEntries settings.dnsOverrides)

def reload (file : ConfigFile ο) : Except ProxyError ProxyConfig := do
  let config ← load around file
  validate around config
  return config

structure ApiFailure where
  status : Nat
  code : String
  message : Text

namespace ApiFailure

def badRequest (message : Text) : ApiFailure := ⟨400, "bad_request", message⟩

def internal (message : Text) : ApiFailure := ⟨500, "internal_error", message⟩

end ApiFailure

structure CreateUserRequest where
  username : Text
  secret : Option Text
  userAdTag : Option Text
  maxTcpConns : Option Nat
  expirationRfc3339 : Option Text
  dataQuotaBytes : Option Nat
  rateLimitUpBps : Option Nat
  rateLimitDownBps : Option Nat
  maxUniqueIps : Option Nat
  enabled : Option Bool

inductive Patch (α : Type)
  | unchanged
  | remove
  | set (value : α)

structure PatchUserRequest where
  secret : Option Text
  userAdTag : Patch Text
  maxTcpConns : Patch Nat
  expirationRfc3339 : Patch Text
  dataQuotaBytes : Patch Nat
  rateLimitUpBps : Patch Nat
  rateLimitDownBps : Patch Nat
  maxUniqueIps : Patch Nat
  enabled : Patch Bool

/-- What a call finds around it: the revision its client expects, sixteen random bytes, whether the
file can be written and the revision it then has. -/
structure Call where
  expectedRevision : Option Text
  randomBytes : Bytes
  randomBytes_length : randomBytes.length = 16
  writeFailure : Option Text
  nextRevision : Text

def maxUsernameLen : Nat := 64

def isValidUsername (user : Text) : Bool :=
  !user.isEmpty && user.length ≤ maxUsernameLen &&
    user.all fun b => isAsciiAlphanumeric b || b == 95 || b == 45 || b == 46

def hexDigitOf (n : UInt8) : UInt8 := if n < 10 then 48 + n else 87 + n

def hexEncode (bytes : Bytes) : Text := bytes.flatMap fun b => [hexDigitOf (b / 16), hexDigitOf (b % 16)]

def randomUserSecret (call : Call) : Text := hexEncode call.randomBytes

def parseExpiration (raw : Text) : Except ApiFailure Timestamp :=
  match around.parseFromRfc3339 raw with
  | some time => .ok time
  | none => .error (.badRequest (utf8 "expiration_rfc3339 must be valid RFC3339"))

def parseOptionalExpiration : Option Text → Except ApiFailure (Option Timestamp)
  | none => .ok none
  | some raw => (parseExpiration around raw).map some

def parsePatchExpiration : Patch Text → Except ApiFailure (Patch Timestamp)
  | .unchanged => .ok .unchanged
  | .remove => .ok .remove
  | .set raw => (parseExpiration around raw).map .set

def loadConfigFromDisk (file : ConfigFile ο) : Except ApiFailure ProxyConfig :=
  match load around file with
  | .ok config => .ok config
  | .error error => .error (.internal (utf8 "failed to load config: " ++ around.shown error))

def ensureExpectedRevision (file : ConfigFile ο) (call : Call) : Except ApiFailure Unit :=
  refuse <| call.expectedRevision.bind fun expected =>
    if file.revision ≠ expected then
      some ⟨409, "revision_conflict", utf8 "Config revision mismatch"⟩
    else none

variable (access : AccessConfig)

/-- The TOML serializer refuses the numbers it cannot write; rate limits are formatted without it. -/
def Renders : AccessSection → Prop
  | .userMaxTcpConns => Integers access.userMaxTcpConns
  | .userDataQuota => Integers access.userDataQuota
  | .userMaxUniqueIps => Integers access.userMaxUniqueIps
  | .users | .userEnabled | .userAdTags | .userExpirations | .userRateLimits => True

instance (sect : AccessSection) : Decidable (Renders access sect) := by
  unfold Renders
  split <;> infer_instance

def replaceSection (file : AccessConfig) : AccessSection → AccessConfig
  | .users => { file with users := access.users }
  | .userEnabled => { file with userEnabled := access.userEnabled }
  | .userAdTags => { file with userAdTags := access.userAdTags }
  | .userMaxTcpConns => { file with userMaxTcpConns := access.userMaxTcpConns }
  | .userExpirations => { file with userExpirations := access.userExpirations }
  | .userDataQuota => { file with userDataQuota := access.userDataQuota }
  | .userRateLimits => { file with userRateLimits := access.userRateLimits }
  | .userMaxUniqueIps => { file with userMaxUniqueIps := access.userMaxUniqueIps }

def writeFailed (call : Call) : Option ApiFailure :=
  call.writeFailure.map fun error => .internal (utf8 "failed to write config: " ++ error)

def saveAccessSectionsToDisk (config : ProxyConfig) (sections : List AccessSection) (call : Call)
    (file : ConfigFile ο) : Except ApiFailure (ConfigFile ο) := do
  refuseIf (¬∀ sect ∈ sections, Renders config.access sect)
    (.internal (utf8 "failed to serialize access section: " ++ around.serializerRefusal))
  refuse (writeFailed call)
  return { file with
    access := sections.foldl (replaceSection config.access) file.access
    revision := call.nextRevision }

def validated (config : ProxyConfig) : Except ApiFailure Unit :=
  match validate around config with
  | .ok () => .ok ()
  | .error error =>
    .error (.badRequest (utf8 "config validation failed: " ++ around.shown error))

variable (body : CreateUserRequest)

def CreateUserRequest.touchesUserRateLimits : Bool :=
  body.rateLimitUpBps.isSome || body.rateLimitDownBps.isSome

def pushIf (touched : Bool) (sect : AccessSection) : List AccessSection :=
  if touched then [sect] else []

def CreateUserRequest.sections : List AccessSection :=
  [.users] ++ pushIf body.userAdTag.isSome .userAdTags ++
    pushIf body.maxTcpConns.isSome .userMaxTcpConns ++
    pushIf body.expirationRfc3339.isSome .userExpirations ++
    pushIf body.dataQuotaBytes.isSome .userDataQuota ++
    pushIf body.touchesUserRateLimits .userRateLimits ++
    pushIf body.maxUniqueIps.isSome .userMaxUniqueIps ++
    pushIf (body.enabled == some false) .userEnabled

def insertIf {α : Type} (value : Option α) (user : Text) (table : Dict Text α) : Dict Text α :=
  match value with
  | some value => table.insert user value
  | none => table

def CreateUserRequest.rateLimit : RateLimitBps :=
  ⟨body.rateLimitUpBps.getD 0, body.rateLimitDownBps.getD 0⟩

def CreateUserRequest.apply (secret : Text) (expiration : Option Timestamp)
    (access : AccessConfig) : AccessConfig :=
  { access with
    users := access.users.insert body.username secret
    userAdTags := insertIf body.userAdTag body.username access.userAdTags
    userMaxTcpConns := insertIf body.maxTcpConns body.username access.userMaxTcpConns
    userExpirations := insertIf expiration body.username access.userExpirations
    userDataQuota := insertIf body.dataQuotaBytes body.username access.userDataQuota
    userRateLimits :=
      if body.touchesUserRateLimits then
        access.userRateLimits.insert body.username body.rateLimit
      else access.userRateLimits
    userMaxUniqueIps := insertIf body.maxUniqueIps body.username access.userMaxUniqueIps
    userEnabled :=
      if body.enabled = some false then access.userEnabled.insert body.username false
      else access.userEnabled }

def CreateUserRequest.chosenSecret (call : Call) : Except ApiFailure Text :=
  match body.secret with
  | some secret =>
    if !isValidUserSecret secret then
      .error (.badRequest (utf8 "secret must be exactly 32 hex characters"))
    else .ok secret
  | none => .ok (randomUserSecret call)

def checkAdTag (tag : Option Text) : Except ApiFailure Unit :=
  refuse <| tag.bind fun tag =>
    if !isValidAdTag tag then
      some (.badRequest (utf8 "user_ad_tag must be exactly 32 hex characters"))
    else none

/-- The file after the call; a call that fails leaves the file as it is. -/
def createUser (body : CreateUserRequest) (call : Call) (file : ConfigFile ο) :
    Except ApiFailure (ConfigFile ο) := do
  refuseIf (!isValidUsername body.username)
    (.badRequest (utf8 "username must match [A-Za-z0-9_.-] and be 1..64 chars"))
  let secret ← body.chosenSecret call
  checkAdTag body.userAdTag
  let expiration ← parseOptionalExpiration around body.expirationRfc3339
  let config ← loadConfigFromDisk around file
  ensureExpectedRevision file call
  refuseIf (config.access.users.lookup body.username ≠ none)
    ⟨409, "user_exists", utf8 "User already exists"⟩
  let config := { config with access := body.apply secret expiration config.access }
  validated around config
  saveAccessSectionsToDisk around config body.sections call file

namespace Patch
variable {α : Type}

def touches : Patch α → Bool
  | .unchanged => false
  | .remove | .set _ => true

def value : Patch α → Option α
  | .set value => some value
  | .unchanged | .remove => none

def apply (patch : Patch α) (user : Text) (table : Dict Text α) : Dict Text α :=
  match patch with
  | .unchanged => table
  | .remove => table.erase user
  | .set value => table.insert user value

def rate (patch : Patch Nat) (current : Nat) : Nat :=
  match patch with
  | .unchanged => current
  | .remove => 0
  | .set limit => limit

end Patch

namespace PatchUserRequest
variable (body : PatchUserRequest)

def touchesUserRateLimits : Bool :=
  body.rateLimitUpBps.touches || body.rateLimitDownBps.touches

def sections : List AccessSection :=
  pushIf body.secret.isSome .users ++ pushIf body.userAdTag.touches .userAdTags ++
    pushIf body.maxTcpConns.touches .userMaxTcpConns ++
    pushIf body.expirationRfc3339.touches .userExpirations ++
    pushIf body.dataQuotaBytes.touches .userDataQuota ++
    pushIf body.touchesUserRateLimits .userRateLimits ++
    pushIf body.maxUniqueIps.touches .userMaxUniqueIps ++
    pushIf body.enabled.touches .userEnabled

def patchedRate (current : Option RateLimitBps) : RateLimitBps :=
  ⟨body.rateLimitUpBps.rate (current.getD {}).upBps,
    body.rateLimitDownBps.rate (current.getD {}).downBps⟩

-- A limit that is zero in both directions is taken out of the table.
def patchRateLimits (user : Text) (table : Dict Text RateLimitBps) : Dict Text RateLimitBps :=
  if body.touchesUserRateLimits then
    let limit := body.patchedRate (table.lookup user)
    if limit.upBps = 0 ∧ limit.downBps = 0 then table.erase user else table.insert user limit
  else table

def apply (user : Text) (expiration : Patch Timestamp) (access : AccessConfig) : AccessConfig :=
  { access with
    users := insertIf body.secret user access.users
    userAdTags := body.userAdTag.apply user access.userAdTags
    userMaxTcpConns := body.maxTcpConns.apply user access.userMaxTcpConns
    userExpirations := expiration.apply user access.userExpirations
    userDataQuota := body.dataQuotaBytes.apply user access.userDataQuota
    userRateLimits := body.patchRateLimits user access.userRateLimits
    userMaxUniqueIps := body.maxUniqueIps.apply user access.userMaxUniqueIps
    userEnabled :=
      match body.enabled with
      | .unchanged => access.userEnabled
      | .remove | .set true => access.userEnabled.erase user
      | .set false => access.userEnabled.insert user false }

end PatchUserRequest

def checkPatchedSecret (secret : Option Text) : Except ApiFailure Unit :=
  refuse <| secret.bind fun secret =>
    if !isValidUserSecret secret then
      some (.badRequest (utf8 "secret must be exactly 32 hex characters"))
    else none

def patchUser (user : Text) (body : PatchUserRequest) (call : Call) (file : ConfigFile ο) :
    Except ApiFailure (ConfigFile ο) := do
  checkPatchedSecret body.secret
  checkAdTag body.userAdTag.value
  let expiration ← parsePatchExpiration around body.expirationRfc3339
  let config ← loadConfigFromDisk around file
  ensureExpectedRevision file call
  refuseIf (config.access.users.lookup user = none) ⟨404, "not_found", utf8 "User not found"⟩
  let config := { config with access := body.apply user expiration config.access }
  validated around config
  if body.sections = [] then return file
  else saveAccessSectionsToDisk around config body.sections call file

end

end Telemt.UserApi
