import Telemt.UserApi.Model

namespace Telemt.UserApi
open Foundation Foundation.Checked ClientHello TrafficLimiter
open Handshake (UserAuthSnapshot hexDecode hexDigit)

/-! # What the loader accepts -/

theorem hexDigit_isSome {b : UInt8} (digit : isAsciiHexdigit b = true) :
    ∃ value, hexDigit b = some value := by
  unfold isAsciiHexdigit at digit
  unfold hexDigit
  split_ifs with decimal lower upper
  · exact ⟨_, rfl⟩
  · exact ⟨_, rfl⟩
  · exact ⟨_, rfl⟩
  · simp_all

theorem hexDecode_of_digits {n : Nat} {text : Text} (length : text.length = 2 * n)
    (digits : text.all isAsciiHexdigit = true) :
    ∃ bytes, hexDecode text = some bytes ∧ bytes.length = n := by
  induction n generalizing text with
  | zero =>
    rw [List.length_eq_zero_iff.mp length]
    exact ⟨[], rfl, rfl⟩
  | succ n ih =>
    obtain ⟨high, low, rest, rfl⟩ : ∃ high low rest, text = high :: low :: rest := by
      match text, length with
      | high :: low :: rest, _ => exact ⟨high, low, rest, rfl⟩
    simp only [List.all_cons, Bool.and_eq_true] at digits
    obtain ⟨highDigit, lowDigit, restDigits⟩ := digits
    have restLength : rest.length = 2 * n := by
      simp only [List.length_cons] at length
      omega
    obtain ⟨highValue, highDecoded⟩ := hexDigit_isSome highDigit
    obtain ⟨lowValue, lowDecoded⟩ := hexDigit_isSome lowDigit
    obtain ⟨bytes, decoded, count⟩ := ih restLength restDigits
    refine ⟨(highValue * 16 + lowValue) :: bytes, ?_, congrArg (· + 1) count⟩
    simp [hexDecode, highDecoded, lowDecoded, decoded]

theorem isHex32_iff {text : Text} :
    isHex32 text = true ↔ text.length = 32 ∧ text.all isAsciiHexdigit = true := by
  simp [isHex32]

theorem isAsciiHexdigit_hexDigitOf {n : UInt8} (small : n < 16) :
    isAsciiHexdigit (hexDigitOf n) = true := by
  have bound : n.toNat < 16 := UInt8.lt_iff_toNat_lt.mp small
  unfold isAsciiHexdigit hexDigitOf
  simp only [UInt8.lt_iff_toNat_lt, UInt8.le_iff_toNat_le, Bool.or_eq_true, Bool.and_eq_true,
    decide_eq_true_eq]
  split_ifs with decimal
  · simp only [UInt8.toNat_add, UInt8.reduceToNat] at decimal ⊢
    omega
  · simp only [UInt8.toNat_add, UInt8.reduceToNat] at decimal ⊢
    omega

theorem isHex32_randomUserSecret (call : Call) : isHex32 (randomUserSecret call) = true := by
  apply isHex32_iff.mpr
  constructor
  · simp [randomUserSecret, hexEncode, call.randomBytes_length]
  · simp only [randomUserSecret, hexEncode, List.all_flatMap, List.all_eq_true, List.mem_cons,
      List.not_mem_nil, or_false]
    rintro b _ digit (rfl | rfl)
    · apply isAsciiHexdigit_hexDigitOf
      exact Nat.div_lt_of_lt_mul b.toNat_lt
    · apply isAsciiHexdigit_hexDigitOf
      exact Nat.mod_lt _ (by decide)

theorem isHex32_chosenSecret {body : CreateUserRequest} {call : Call} {secret : Text}
    (chosen : body.chosenSecret call = .ok secret) : isHex32 secret = true := by
  unfold CreateUserRequest.chosenSecret at chosen
  split at chosen
  · split_ifs at chosen with invalid
    cases chosen
    simpa [isValidUserSecret] using invalid
  · cases chosen
    exact isHex32_randomUserSecret call

theorem isHex32_patchedSecret {secret : Option Text} {u : Unit}
    (checked : checkPatchedSecret secret = .ok u) : ∀ text ∈ secret, isHex32 text = true := by
  rintro text rfl
  have passed := refuse_eq_ok.mp checked
  simpa [isValidUserSecret] using passed

theorem checkRateLimit_eq_none {table : String} {key : Text} {limit : RateLimitBps} :
    checkRateLimit table key limit = none ↔ limit.isUnlimited = false := by
  simp [checkRateLimit, RateLimitBps.isUnlimited]

theorem checkSecret_eq_none {user secret : Text} :
    checkSecret user secret = none ↔ isHex32 secret = true := by
  simp [checkSecret, isHex32_iff, and_comm]

def maxUsers : Nat := 2 ^ 32

theorem foldlM_addUser_ok {sniHash : Text → Nat} {rows : List (Sigma fun _ : Text => Text)}
    (valid : ∀ row ∈ rows, isHex32 row.2 = true) {snapshot : UserAuthSnapshot}
    (fits : snapshot.entries.length ≤ maxUsers) :
    (∃ done, rows.foldlM (fun snapshot row => snapshot.addUser sniHash row.1 row.2) snapshot =
      Except.ok done) ↔ snapshot.entries.length + rows.length ≤ maxUsers := by
  induction rows generalizing snapshot with
  | nil => exact ⟨fun _ => fits, fun _ => ⟨snapshot, rfl⟩⟩
  | cons row _ ih =>
    obtain ⟨length, digits⟩ := isHex32_iff.mp (valid row List.mem_cons_self)
    obtain ⟨_, decoded, count⟩ := @hexDecode_of_digits 16 row.2 length digits
    rw [List.foldlM_cons]
    by_cases full : maxUsers ≤ snapshot.entries.length
    · have refused : snapshot.addUser sniHash row.1 row.2 =
          .error (.config "Too many users for runtime auth snapshot") := by
        simp only [UserAuthSnapshot.addUser, decoded, count]
        exact if_pos full
      constructor
      · rintro ⟨_, ran⟩
        rw [refused] at ran
        cases ran
      · intro small
        simp only [List.length_cons] at small
        omega
    · obtain ⟨next, added, _⟩ : ∃ next, snapshot.addUser sniHash row.1 row.2 = .ok next ∧
          next.entries.length = snapshot.entries.length + 1 := by
        simp only [UserAuthSnapshot.addUser, decoded, count]
        exact ⟨_, if_neg full, by simp⟩
      rw [added]
      have rest := @ih (fun later member => valid later (List.mem_cons_of_mem _ member)) next
        (by omega)
      refine rest.trans ?_
      simp only [List.length_cons]
      omega

section
variable {ο : Type} (around : Surroundings ο)

theorem rebuildRuntimeUserAuth_ok {users : Dict Text Text} {u : Unit}
    (valid : Dict.Each (fun _ secret => isHex32 secret = true) users) :
    rebuildRuntimeUserAuth around users = .ok u ↔ Dict.size users ≤ maxUsers := by
  have folded := @foldlM_addUser_ok around.sniHash users.entries valid {} (Nat.zero_le _)
  rw [show ({} : UserAuthSnapshot).entries.length = 0 from rfl, Nat.zero_add] at folded
  unfold Dict.size rebuildRuntimeUserAuth
  rw [← folded]
  unfold UserAuthSnapshot.fromUsers
  split
  · rename_i failed
    simp [failed]
  · rename_i done built
    simp [built]

structure Loads (file : ConfigFile ο) : Prop where
  integral : file.access.Integral
  before : around.checksBefore file.other = none
  window : file.access.userMaxUniqueIpsWindowSecs ≠ 0
  userRates : Dict.Each (fun _ limit => limit.isUnlimited = false) file.access.userRateLimits
  cidrRates : ∀ row ∈ file.access.cidrRateLimits, row.2.isUnlimited = false
  between : around.checksBetween file.other = none
  secrets : Dict.Each (fun _ secret => isHex32 secret = true) file.access.users
  after : around.checksAfter file.other = none
  count : Dict.size file.access.users ≤ maxUsers

theorem load_eq_ok {file : ConfigFile ο} {config : ProxyConfig} :
    load around file = .ok config ↔
      Loads around file ∧ config = ⟨file.access, around.settings file.other⟩ := by
  simp only [load, bind_eq_ok, refuseIf_eq_ok, refuse_eq_ok, refuseFirst_eq_ok,
    checkRateLimit_eq_none, checkSecret_eq_none, not_not, exists_const]
  constructor
  · rintro ⟨integral, before, window, userRates, cidrRates, between, secrets, after, _, built, done⟩
    have count := (rebuildRuntimeUserAuth_ok around secrets).mp built
    cases done
    exact ⟨⟨integral, before, window, userRates, cidrRates, between, secrets, after, count⟩, rfl⟩
  · rintro ⟨loads, rfl⟩
    have built := (@rebuildRuntimeUserAuth_ok _ around _ () loads.secrets).mpr loads.count
    exact ⟨loads.integral, loads.before, loads.window, loads.userRates, loads.cidrRates,
      loads.between, loads.secrets, loads.after, (), built, rfl⟩

end

end Telemt.UserApi
