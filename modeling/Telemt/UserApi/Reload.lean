import Telemt.UserApi.Loading

namespace Telemt.UserApi
open Foundation Foundation.Checked ClientHello TrafficLimiter
open Config (AccessSection Representable Timestamp)

/-! # Which changes can be loaded again -/

def SameAt (a b : AccessConfig) : AccessSection → Prop
  | .users => a.users = b.users
  | .userEnabled => a.userEnabled = b.userEnabled
  | .userAdTags => a.userAdTags = b.userAdTags
  | .userMaxTcpConns => a.userMaxTcpConns = b.userMaxTcpConns
  | .userExpirations => a.userExpirations = b.userExpirations
  | .userDataQuota => a.userDataQuota = b.userDataQuota
  | .userRateLimits => a.userRateLimits = b.userRateLimits
  | .userMaxUniqueIps => a.userMaxUniqueIps = b.userMaxUniqueIps

/-- A change that touches only the given sections, all of which can be written. -/
structure Change (old new : AccessConfig) (sections : List AccessSection) : Prop where
  renders : ∀ sect ∈ sections, Renders new sect
  untouched : ∀ sect, sect ∉ sections → SameAt new old sect
  cidrRateLimits : new.cidrRateLimits = old.cidrRateLimits
  window : new.userMaxUniqueIpsWindowSecs = old.userMaxUniqueIpsWindowSecs

variable {new old : AccessConfig}

theorem sameAt_replaceSection {written sect : AccessSection}
    (same : sect = written ∨ SameAt new old sect) :
    SameAt new (replaceSection new old written) sect := by
  rcases same with rfl | same
  · cases sect <;> rfl
  · cases written <;> cases sect <;> first | rfl | exact same

theorem foldl_replaceSection {sections : List AccessSection}
    (untouched : ∀ sect, sect ∉ sections → SameAt new old sect)
    (cidrRateLimits : new.cidrRateLimits = old.cidrRateLimits)
    (window : new.userMaxUniqueIpsWindowSecs = old.userMaxUniqueIpsWindowSecs) :
    sections.foldl (replaceSection new) old = new := by
  induction sections generalizing old with
  | nil =>
    have same (sect : AccessSection) : SameAt new old sect := untouched sect List.not_mem_nil
    obtain ⟨⟩ := old
    cases same .users
    cases same .userEnabled
    cases same .userAdTags
    cases same .userMaxTcpConns
    cases same .userExpirations
    cases same .userDataQuota
    cases same .userRateLimits
    cases same .userMaxUniqueIps
    cases cidrRateLimits
    cases window
    rfl
  | cons written _ ih =>
    apply ih
    · intro sect later
      apply sameAt_replaceSection
      by_cases here : sect = written
      · exact .inl here
      · exact .inr (untouched sect (List.not_mem_cons_of_ne_of_not_mem here later))
    · cases written <;> exact cidrRateLimits
    · cases written <;> exact window

theorem AccessConfig.Integral.renders {access : AccessConfig} (integral : access.Integral)
    (sect : AccessSection) : Renders access sect := by
  cases sect with
  | userMaxTcpConns => exact integral.userMaxTcpConns
  | userDataQuota => exact integral.userDataQuota
  | userMaxUniqueIps => exact integral.userMaxUniqueIps
  | _ => trivial

theorem SameAt.renders {sect : AccessSection} (same : SameAt new old sect)
    (renders : Renders old sect) : Renders new sect := by
  cases sect with
  | userMaxTcpConns | userDataQuota | userMaxUniqueIps => exact (congrArg Integers same).mpr renders
  | _ => trivial

theorem Change.integral_iff {sections : List AccessSection} (change : Change old new sections)
    (integral : old.Integral) :
    new.Integral ↔ Dict.Each (fun _ limit => Representable limit) new.userRateLimits := by
  have renders (sect : AccessSection) : Renders new sect := by
    by_cases touched : sect ∈ sections
    · exact change.renders sect touched
    · exact (change.untouched sect touched).renders (integral.renders sect)
  refine ⟨AccessConfig.Integral.userRateLimits, fun rates => ?_⟩
  exact {
    userMaxTcpConns := renders .userMaxTcpConns
    userDataQuota := renders .userDataQuota
    userRateLimits := rates
    cidrRateLimits := change.cidrRateLimits ▸ integral.cidrRateLimits
    userMaxUniqueIps := renders .userMaxUniqueIps
    userMaxUniqueIpsWindowSecs := change.window ▸ integral.userMaxUniqueIpsWindowSecs }

section
variable {ο : Type} (around : Surroundings ο)

def RateLoads (limit : RateLimitBps) : Prop := Representable limit ∧ limit.isUnlimited = false

variable {file : ConfigFile ο}

theorem Loads.rates (loads : Loads around file) :
    Dict.Each (fun _ limit => RateLoads limit) file.access.userRateLimits :=
  fun row member => ⟨loads.integral.userRateLimits row member, loads.userRates row member⟩

variable {after : ConfigFile ο} {sections : List AccessSection}

theorem Change.loads_iff (change : Change file.access after.access sections)
    (loads : Loads around file) (other : after.other = file.other)
    (secrets : Dict.Each (fun _ secret => isHex32 secret = true) after.access.users) :
    Loads around after ↔
      Dict.Each (fun _ limit => RateLoads limit) after.access.userRateLimits ∧
        Dict.size after.access.users ≤ maxUsers := by
  constructor
  · intro again
    exact ⟨again.rates, again.count⟩
  · rintro ⟨rates, count⟩
    exact {
      integral := (change.integral_iff loads.integral).mpr fun row member => (rates row member).1
      before := other ▸ loads.before
      window := change.window ▸ loads.window
      userRates := fun row member => (rates row member).2
      cidrRates := change.cidrRateLimits ▸ loads.cidrRates
      between := other ▸ loads.between
      secrets := secrets
      after := other ▸ loads.after
      count := count }

variable {config : ProxyConfig}

theorem loadConfigFromDisk_eq_ok :
    loadConfigFromDisk around file = .ok config ↔
      Loads around file ∧ config = ⟨file.access, around.settings file.other⟩ := by
  rw [← load_eq_ok]
  unfold loadConfigFromDisk
  split <;> simp_all

theorem validated_eq_ok {u : Unit} :
    validated around config = .ok u ↔ validate around config = .ok () := by
  unfold validated
  split <;> simp_all

variable {call : Call}

theorem saveAccessSectionsToDisk_eq_ok :
    saveAccessSectionsToDisk around config sections call file = .ok after ↔
      (∀ sect ∈ sections, Renders config.access sect) ∧ writeFailed call = none ∧
        after = { file with
          access := sections.foldl (replaceSection config.access) file.access
          revision := call.nextRevision } := by
  simp only [saveAccessSectionsToDisk, bind_eq_ok, refuseIf_eq_ok, refuse_eq_ok, not_not,
    exists_const]
  refine and_congr_right fun _ => and_congr_right fun _ => ?_
  exact ⟨fun saved => (Except.ok.inj saved).symm, fun same => congrArg Except.ok same.symm⟩

structure Applied (file after : ConfigFile ο) (access : AccessConfig)
    (sections : List AccessSection) : Prop where
  loads : Loads around file
  change : Change file.access access sections
  written : after.access = access
  other : after.other = file.other
  valid : validate around ⟨access, around.settings file.other⟩ = .ok ()

theorem Applied.loads_iff {access : AccessConfig}
    (applied : Applied around file after access sections)
    (secrets : Dict.Each (fun _ secret => isHex32 secret = true) access.users) :
    Loads around after ↔
      Dict.Each (fun _ limit => RateLoads limit) access.userRateLimits ∧
        Dict.size access.users ≤ maxUsers := by
  obtain ⟨loads, change, rfl, other, -⟩ := applied
  exact change.loads_iff around loads other secrets

theorem Applied.reloads_iff {access : AccessConfig}
    (applied : Applied around file after access sections) :
    (∃ config, reload around after = .ok config) ↔ Loads around after := by
  obtain ⟨-, -, rfl, other, valid⟩ := applied
  simp only [reload, bind_eq_ok, load_eq_ok]
  constructor
  · rintro ⟨_, _, ⟨again, _⟩, _⟩
    exact again
  · intro again
    rw [← other] at valid
    exact ⟨_, _, ⟨again, rfl⟩, (), valid, rfl⟩

theorem mem_pushIf {touched : Bool} {sect pushed : AccessSection} :
    sect ∈ pushIf touched pushed ↔ touched = true ∧ sect = pushed := by
  cases touched <;> simp [pushIf]

variable {body : CreateUserRequest}

theorem CreateUserRequest.untouched {secret : Text}
    {expiration : Option Timestamp} {access : AccessConfig}
    (parsed : parseOptionalExpiration around body.expirationRfc3339 = .ok expiration)
    (sect : AccessSection) (absent : sect ∉ body.sections) :
    SameAt (body.apply secret expiration access) access sect := by
  simp only [CreateUserRequest.sections, List.mem_append, mem_pushIf, not_or] at absent
  cases sect with
  | users => simp at absent
  | userExpirations =>
    have noText : body.expirationRfc3339 = none := by simpa using absent.1.1.1.1.2
    rw [noText] at parsed
    cases parsed
    rfl
  | _ => simp_all [SameAt, CreateUserRequest.apply, insertIf]

theorem createUser_applied (accepted : createUser around body call file = .ok after) :
    ∃ secret expiration, isHex32 secret = true ∧ body.username ∉ file.access.users ∧
      Applied around file after (body.apply secret expiration file.access) body.sections := by
  simp only [createUser, bind_eq_ok, refuseIf_eq_ok, loadConfigFromDisk_eq_ok, validated_eq_ok,
    saveAccessSectionsToDisk_eq_ok, exists_const, not_not] at accepted
  obtain ⟨_, secret, chosen, _, _, expiration, parsed, _, ⟨loads, rfl⟩, _, _, fresh, valid, renders,
    _, rfl⟩ := accepted
  have untouched := @CreateUserRequest.untouched _ around body secret expiration file.access parsed
  refine ⟨secret, expiration, isHex32_chosenSecret chosen, AList.lookup_eq_none.mp fresh, ?_⟩
  exact {
    loads := loads
    change := ⟨renders, untouched, rfl, rfl⟩
    written := foldl_replaceSection untouched rfl rfl
    other := rfl
    valid := valid }

def CreateUserRequest.RateLoads (body : CreateUserRequest) : Prop :=
  body.touchesUserRateLimits → UserApi.RateLoads body.rateLimit

theorem createUser_loads_iff (accepted : createUser around body call file = .ok after) :
    Loads around after ↔ Dict.size file.access.users < maxUsers ∧ body.RateLoads := by
  obtain ⟨secret, expiration, hex, fresh, applied⟩ := createUser_applied around accepted
  have secrets := (Dict.each_insert applied.loads.secrets (k := body.username)).mpr hex
  have grown : Dict.size (body.apply secret expiration file.access).users =
      Dict.size file.access.users + 1 := Dict.size_insert_of_notMem secret fresh
  have rates : Dict.Each (fun _ limit => UserApi.RateLoads limit)
      (body.apply secret expiration file.access).userRateLimits ↔ body.RateLoads := by
    unfold CreateUserRequest.RateLoads CreateUserRequest.apply
    by_cases touched : body.touchesUserRateLimits
    · simp only [touched, if_true, forall_const]
      exact Dict.each_insert applied.loads.rates
    · simp only [touched, Bool.false_eq_true, if_false, false_implies, iff_true]
      exact applied.loads.rates
  rw [applied.loads_iff around secrets, rates, grown, and_comm]
  rfl

theorem Patch.eq_unchanged {α : Type} {patch : Patch α} (untouched : patch.touches = false) :
    patch = .unchanged := by
  cases patch with
  | unchanged => rfl
  | remove | set value => cases untouched

theorem Patch.apply_of_untouched {α : Type} {patch : Patch α} (untouched : patch.touches = false)
    (user : Text) (table : Dict Text α) : patch.apply user table = table := by
  rw [Patch.eq_unchanged untouched]
  rfl

theorem PatchUserRequest.untouched {body : PatchUserRequest} {user : Text}
    {expiration : Patch Timestamp} {access : AccessConfig}
    (parsed : parsePatchExpiration around body.expirationRfc3339 = .ok expiration)
    (sect : AccessSection) (absent : sect ∉ body.sections) :
    SameAt (body.apply user expiration access) access sect := by
  simp only [PatchUserRequest.sections, List.mem_append, mem_pushIf, not_or] at absent
  cases sect with
  | users => simp_all [SameAt, PatchUserRequest.apply, insertIf]
  | userRateLimits => simp_all [SameAt, PatchUserRequest.apply, PatchUserRequest.patchRateLimits]
  | userExpirations =>
    have unchanged : body.expirationRfc3339 = .unchanged := by
      apply Patch.eq_unchanged
      simpa using absent.1.1.1.1.2
    rw [unchanged] at parsed
    cases parsed
    rfl
  | userEnabled =>
    have unchanged : body.enabled = .unchanged := by
      apply Patch.eq_unchanged
      simpa using absent.2
    simp [SameAt, PatchUserRequest.apply, unchanged]
  | userAdTags =>
    exact Patch.apply_of_untouched (by simpa using absent.1.1.1.1.1.1.2) _ _
  | userMaxTcpConns =>
    exact Patch.apply_of_untouched (by simpa using absent.1.1.1.1.1.2) _ _
  | userDataQuota =>
    exact Patch.apply_of_untouched (by simpa using absent.1.1.1.2) _ _
  | userMaxUniqueIps =>
    exact Patch.apply_of_untouched (by simpa using absent.1.2) _ _

variable {user : Text} {body : PatchUserRequest}

theorem patchUser_applied (accepted : patchUser around user body call file = .ok after) :
    ∃ expiration, (∀ secret ∈ body.secret, isHex32 secret = true) ∧ user ∈ file.access.users ∧
      Applied around file after (body.apply user expiration file.access) body.sections := by
  simp only [patchUser, bind_eq_ok, refuseIf_eq_ok, loadConfigFromDisk_eq_ok, validated_eq_ok,
    exists_const] at accepted
  obtain ⟨_, checked, _, _, expiration, parsed, _, ⟨loads, rfl⟩, _, _, known, valid, saved⟩ := accepted
  have untouched := @PatchUserRequest.untouched _ around body user expiration file.access parsed
  have written := foldl_replaceSection untouched rfl rfl
  refine ⟨expiration, isHex32_patchedSecret checked, AList.lookup_isSome.mp ?_, ?_⟩
  · exact Option.isSome_iff_ne_none.mpr known
  · split_ifs at saved with nothing
    · cases saved
      rw [nothing] at written untouched ⊢
      exact ⟨loads, ⟨by simp, untouched, rfl, rfl⟩, written, rfl, valid⟩
    · obtain ⟨renders, _, rfl⟩ := (saveAccessSectionsToDisk_eq_ok around).mp saved
      exact ⟨loads, ⟨renders, untouched, rfl, rfl⟩, written, rfl, valid⟩

def PatchUserRequest.RatesLoad (body : PatchUserRequest) : Prop :=
  (∀ rate ∈ body.rateLimitUpBps.value, rate < tomlIntegerLimit) ∧
    ∀ rate ∈ body.rateLimitDownBps.value, rate < tomlIntegerLimit

theorem Patch.rate_lt_iff {patch : Patch Nat} {current : Nat} (small : current < tomlIntegerLimit) :
    patch.rate current < tomlIntegerLimit ↔ ∀ rate ∈ patch.value, rate < tomlIntegerLimit := by
  cases patch with
  | unchanged => simp [Patch.rate, Patch.value, small]
  | remove => simp [Patch.rate, Patch.value, tomlIntegerLimit]
  | set rate => simp [Patch.rate, Patch.value]

theorem PatchUserRequest.patchRateLimits_load_iff {table : Dict Text RateLimitBps}
    (each : Dict.Each (fun _ limit => RateLoads limit) table) :
    Dict.Each (fun _ limit => RateLoads limit) (body.patchRateLimits user table) ↔
      body.RatesLoad := by
  have current : Representable ((table.lookup user).getD {}) := by
    cases found : table.lookup user with
    | none => exact ⟨by decide, by decide⟩
    | some => exact (each.lookup found).1
  have representable : Representable (body.patchedRate (table.lookup user)) ↔ body.RatesLoad :=
    and_congr (Patch.rate_lt_iff current.1) (Patch.rate_lt_iff current.2)
  unfold PatchUserRequest.patchRateLimits
  by_cases touched : body.touchesUserRateLimits
  · rw [if_pos touched]
    by_cases zero : (body.patchedRate (table.lookup user)).upBps = 0 ∧
        (body.patchedRate (table.lookup user)).downBps = 0
    · rw [if_pos zero, ← representable]
      exact iff_of_true (each.erase user) ⟨by rw [zero.1]; decide, by rw [zero.2]; decide⟩
    · rw [if_neg zero, Dict.each_insert each, RateLoads, representable]
      exact and_iff_left (by simpa [RateLimitBps.isUnlimited] using zero)
  · rw [if_neg touched]
    simp only [PatchUserRequest.touchesUserRateLimits, Bool.or_eq_true, not_or,
      Bool.not_eq_true] at touched
    refine iff_of_true each ?_
    rw [PatchUserRequest.RatesLoad, Patch.eq_unchanged touched.1, Patch.eq_unchanged touched.2]
    simp [Patch.value]

theorem patchUser_loads_iff (accepted : patchUser around user body call file = .ok after) :
    Loads around after ↔ body.RatesLoad := by
  obtain ⟨expiration, hex, known, applied⟩ := patchUser_applied around accepted
  have users : Dict.Each (fun _ secret => isHex32 secret = true)
        (body.apply user expiration file.access).users ∧
      Dict.size (body.apply user expiration file.access).users ≤ maxUsers := by
    show Dict.Each _ (insertIf body.secret user file.access.users) ∧
      Dict.size (insertIf body.secret user file.access.users) ≤ maxUsers
    cases given : body.secret with
    | none => exact ⟨applied.loads.secrets, applied.loads.count⟩
    | some secret =>
      refine ⟨(Dict.each_insert applied.loads.secrets).mpr (hex secret given), ?_⟩
      exact (Dict.size_insert_of_mem secret known).le.trans applied.loads.count
  rw [applied.loads_iff around users.1, and_iff_left users.2]
  exact body.patchRateLimits_load_iff applied.loads.rates

inductive Request
  | create (body : CreateUserRequest) (call : Call)
  | patch (user : Text) (body : PatchUserRequest) (call : Call)

def Request.perform : Request → ConfigFile ο → Except ApiFailure (ConfigFile ο)
  | .create body call, file => createUser around body call file
  | .patch user body call, file => patchUser around user body call file

def Request.LoadsAfter (file : ConfigFile ο) : Request → Prop
  | .create body _ => Dict.size file.access.users < maxUsers ∧ body.RateLoads
  | .patch _ body _ => body.RatesLoad

variable {request : Request}

section
variable (accepted : request.perform around file = .ok after)
include accepted

theorem Request.perform_loads_iff : Loads around after ↔ request.LoadsAfter file := by
  cases request with
  | create body call => exact createUser_loads_iff around accepted
  | patch => exact patchUser_loads_iff around accepted

theorem Request.perform_applied : ∃ access sections, Applied around file after access sections := by
  cases request with
  | create body call =>
    obtain ⟨_, _, _, _, applied⟩ := createUser_applied around accepted
    exact ⟨_, _, applied⟩
  | patch =>
    obtain ⟨_, _, _, applied⟩ := patchUser_applied around accepted
    exact ⟨_, _, applied⟩

theorem Request.perform_reloads_iff :
    (∃ config, reload around after = .ok config) ↔ request.LoadsAfter file := by
  obtain ⟨_, _, applied⟩ := request.perform_applied around accepted
  exact (applied.reloads_iff around).trans (request.perform_loads_iff around accepted)

end

def serve (file : ConfigFile ο) (request : Request) : Option (ConfigFile ο) :=
  match request.perform around file with
  | .ok after => some after
  | .error _ => some file

theorem perform_of_not_loads (broken : ¬Loads around file) (request : Request) :
    ∃ failure, request.perform around file = .error failure := by
  cases answer : request.perform around file with
  | error failure => exact ⟨failure, rfl⟩
  | ok =>
    obtain ⟨_, _, applied⟩ := request.perform_applied around answer
    exact absurd applied.loads broken

theorem run_of_not_loads (broken : ¬Loads around file) (requests : List Request) :
    Guarded (serve around) (fun file request => ∃ failure, request.perform around file =
        .error failure) file requests ∧
      runFrom (serve around) file requests = some file := by
  induction requests with
  | nil => exact ⟨trivial, rfl⟩
  | cons request _ ih =>
    obtain ⟨failure, refused⟩ := perform_of_not_loads around broken request
    have served : serve around file request = some file := by rw [serve, refused]
    refine ⟨⟨⟨failure, refused⟩, fun after moved => ?_⟩, ?_⟩
    · cases served.symm.trans moved
      exact ih.1
    · rw [runFrom_cons, served]
      exact ih.2

theorem accepted_change_reloads_iff {file after : ConfigFile ο} (request : Request)
    (accepted : request.perform around file = .ok after) :
    ((∃ config, load around after = .ok config) ↔ request.LoadsAfter file) ∧
      ((∃ config, reload around after = .ok config) ↔ request.LoadsAfter file) := by
  refine ⟨?_, request.perform_reloads_iff around accepted⟩
  rw [← request.perform_loads_iff around accepted]
  simp only [load_eq_ok, exists_and_left, exists_eq, and_true]

end

def tolerant : Surroundings Unit where
  checksBefore _ := none
  checksBetween _ := none
  checksAfter _ := none
  settings _ := ⟨true, true, true, [], [], [], []⟩
  integerOutOfRange := .config []
  serializerRefusal := []
  sniHash _ := 0
  isValidTlsDomainName _ := true
  isExclusiveMaskTarget _ := true
  validateEntries _ := none
  shown _ := []
  parseFromRfc3339 _ := none

def nullSecret : Text := List.replicate 32 48

def oneUser : ConfigFile Unit where
  access := {
    users := AList.singleton [97] nullSecret
    userEnabled := ∅
    userAdTags := ∅
    userMaxTcpConns := ∅
    userExpirations := ∅
    userDataQuota := ∅
    userRateLimits := ∅
    cidrRateLimits := []
    userMaxUniqueIps := ∅
    userMaxUniqueIpsWindowSecs := 30 }
  other := ()
  revision := []

def plainCall : Call where
  expectedRevision := none
  randomBytes := List.replicate 16 7
  randomBytes_length := rfl
  writeFailure := none
  nextRevision := []

def createWithUpRate (rate : Nat) : CreateUserRequest where
  username := [98]
  secret := some nullSecret
  userAdTag := none
  maxTcpConns := none
  expirationRfc3339 := none
  dataQuotaBytes := none
  rateLimitUpBps := some rate
  rateLimitDownBps := none
  maxUniqueIps := none
  enabled := none

def withCreated (rate : Nat) : ConfigFile Unit :=
  { oneUser with
    access := (createWithUpRate rate).apply nullSecret none oneUser.access }

theorem createWithUpRate_accepted (rate : Nat) :
    createUser tolerant (createWithUpRate rate) plainCall oneUser = .ok (withCreated rate) := rfl

theorem broken_file_kept :
    (∃ failure, (Request.create (createWithUpRate 1) plainCall).perform tolerant (withCreated 0) =
        .error failure) ∧
      runFrom (serve tolerant) (withCreated 0) [.create (createWithUpRate 1) plainCall] =
        some (withCreated 0) := by
  have broken : ¬Loads tolerant (withCreated 0) := fun loads => absurd loads.userRates (by decide)
  obtain ⟨⟨refused, _⟩, kept⟩ :=
    run_of_not_loads tolerant broken [.create (createWithUpRate 1) plainCall]
  exact ⟨refused, kept⟩

theorem limited_user_reloads :
    createUser tolerant (createWithUpRate 1) plainCall oneUser = .ok (withCreated 1) ∧
      (∃ config, load tolerant (withCreated 1) = .ok config) ∧
      ∃ config, reload tolerant (withCreated 1) = .ok config := by
  have again := accepted_change_reloads_iff tolerant (.create (createWithUpRate 1) plainCall)
    (createWithUpRate_accepted 1)
  have fits : (Request.create (createWithUpRate 1) plainCall).LoadsAfter oneUser :=
    ⟨by decide, fun _ => ⟨by decide, rfl⟩⟩
  exact ⟨createWithUpRate_accepted 1, again.1.mpr fits, again.2.mpr fits⟩

/-- A user created with a rate of zero: the request is accepted, and the file it leaves is refused. -/
theorem zero_rate_user_fails_to_load :
    (∃ config, load tolerant oneUser = .ok config) ∧
      createUser tolerant (createWithUpRate 0) plainCall oneUser = .ok (withCreated 0) ∧
      load tolerant (withCreated 0) = .error (.config (utf8 "access.user_rate_limits." ++ [98] ++
        utf8 " must set at least one non-zero direction")) :=
  ⟨⟨_, rfl⟩, createWithUpRate_accepted 0, rfl⟩

end Telemt.UserApi
