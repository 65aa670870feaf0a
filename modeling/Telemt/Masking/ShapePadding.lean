import Mathlib.Algebra.Order.Floor.Div
import Mathlib.Data.Nat.Log

namespace Telemt.Masking

/-!
# Padding up to a bucket

Random numbers are drawn from `draw`; a padding write succeeds or ends the padding.
-/

def usizeMax : Nat := 2 ^ 64 - 1

-- The loop doubles the bucket in every turn and gets `total` turns.
def doubleBucket (total cap : Nat) : Nat → Nat → Nat
  | 0, bucket => bucket
  | turns + 1, bucket =>
    if bucket < total then
      if usizeMax < bucket * 2 then total
      else if cap < bucket * 2 then cap
      else doubleBucket total cap turns (bucket * 2)
    else bucket

def nextMaskShapeBucket (total floor cap : Nat) : Nat :=
  if total = 0 ∨ floor = 0 ∨ cap < floor then total
  else if cap ≤ total then total
  else doubleBucket total cap total floor

structure ShapeSettings where
  enabled : Bool
  floor : Nat
  cap : Nat
  aboveCapBlur : Bool
  aboveCapBlurMaxBytes : Nat
  aggressiveMode : Bool
  deriving DecidableEq, Repr

namespace ShapeSettings
variable (cfg : ShapeSettings)

def extra (draw : Nat) : Nat :=
  if cfg.aggressiveMode then 1 + draw % cfg.aboveCapBlurMaxBytes
  else draw % (cfg.aboveCapBlurMaxBytes + 1)

def targetTotal (draw totalSent : Nat) : Nat :=
  if cfg.cap ≤ totalSent ∧ cfg.aboveCapBlur ∧ 0 < cfg.aboveCapBlurMaxBytes then
    min (totalSent + cfg.extra draw) usizeMax
  else nextMaskShapeBucket totalSent cfg.floor cfg.cap

end ShapeSettings

def padChunkLen : Nat := 1024

-- `succeeds turn`: the deadline has not passed and the write of this turn succeeds in time.
def padding (succeeds : Nat → Bool) : Nat → Nat → Nat → Nat
  | 0, _, _ => 0
  | fuel + 1, turn, remaining =>
    if remaining = 0 ∨ !succeeds turn then 0
    else
      let writeLen := min remaining padChunkLen
      writeLen + padding succeeds fuel (turn + 1) (remaining - writeLen)

def maybeWriteShapePadding (cfg : ShapeSettings) (draw : Nat) (succeeds : Nat → Bool)
    (totalSent : Nat) : Nat :=
  if !cfg.enabled then 0
  else
    let remaining := cfg.targetTotal draw totalSent - totalSent
    padding succeeds remaining 0 remaining

def shapedTotal (cfg : ShapeSettings) (draw : Nat) (succeeds : Nat → Bool) (totalSent : Nat) : Nat :=
  totalSent + maybeWriteShapePadding cfg draw succeeds totalSent

variable {floor cap total : Nat}

def doublings (floor total : Nat) : Nat := Nat.clog 2 (total ⌈/⌉ floor)

theorem doublings_le_iff (positive : 0 < floor) {k : Nat} :
    doublings floor total ≤ k ↔ total ≤ floor * 2 ^ k := by
  rw [doublings, Nat.clog_le_iff_le_pow Nat.one_lt_two, ceilDiv_le_iff_le_mul positive]

theorem doubleBucket_eq (positive : 0 < floor) (small : cap ≤ usizeMax / 2) (below : total < cap)
    {turns k : Nat} (within : floor * 2 ^ k ≤ cap) (early : k ≤ doublings floor total)
    (enough : total ≤ floor * 2 ^ k + turns) :
    doubleBucket total cap turns (floor * 2 ^ k) = min cap (floor * 2 ^ doublings floor total) := by
  have reached (covered : total ≤ floor * 2 ^ k) :
      floor * 2 ^ k = min cap (floor * 2 ^ doublings floor total) := by
    rw [← early.antisymm ((doublings_le_iff positive).mpr covered), Nat.min_eq_right within]
  induction turns generalizing k with
  | zero => exact reached enough
  | succ _ ih =>
    rw [doubleBucket]
    by_cases more : floor * 2 ^ k < total
    · have later : k + 1 ≤ doublings floor total := by
        by_contra sooner
        exact absurd ((doublings_le_iff positive).mp (Nat.not_lt.mp sooner)) (Nat.not_le.mpr more)
      have larger : 0 < floor * 2 ^ k := Nat.mul_pos positive (Nat.two_pow_pos k)
      have doubled : floor * 2 ^ k * 2 = floor * 2 ^ (k + 1) := by rw [Nat.pow_succ, Nat.mul_assoc]
      rw [if_pos more, if_neg (by omega), doubled]
      split_ifs with beyond
      · have grown : floor * 2 ^ (k + 1) ≤ floor * 2 ^ doublings floor total :=
          Nat.mul_le_mul_left _ (Nat.pow_le_pow_right two_pos later)
        exact (Nat.min_eq_left (beyond.le.trans grown)).symm
      · refine ih (Nat.not_lt.mp beyond) later (by omega) fun covered => ?_
        rw [← later.antisymm ((doublings_le_iff positive).mpr covered), Nat.min_eq_right (by omega)]
    · rw [if_neg more]
      exact reached (Nat.not_lt.mp more)

theorem nextMaskShapeBucket_eq (positive : 0 < floor) (ordered : floor ≤ cap)
    (small : cap ≤ usizeMax / 2) (nonzero : 0 < total) (below : total < cap) :
    nextMaskShapeBucket total floor cap = min cap (floor * 2 ^ doublings floor total) := by
  have start := @doubleBucket_eq floor cap total positive small below total 0 (by simpa using ordered)
    (Nat.zero_le _) (Nat.le_add_left _ _)
  rw [nextMaskShapeBucket, if_neg (by omega), if_neg (by omega)]
  simpa using start

variable {succeeds : Nat → Bool}

theorem padding_eq (all : ∀ turn, succeeds turn = true) {fuel remaining : Nat}
    (enough : remaining ≤ fuel) (turn : Nat) : padding succeeds fuel turn remaining = remaining := by
  induction fuel generalizing turn remaining with
  | zero => exact (Nat.le_zero.mp enough).symm
  | succ _ ih =>
    by_cases done : remaining = 0
    · simp [padding, done]
    · have chunk : 0 < padChunkLen := by decide
      rw [padding, if_neg (by simp [done, all])]
      dsimp only
      rw [ih (by omega)]
      omega

def Shaped (cfg : ShapeSettings) (t total : Nat) : Prop :=
  ∃ draw succeeds, (∀ turn, succeeds turn = true) ∧ total = shapedTotal cfg draw succeeds t

theorem shapedTotal_eq {cfg : ShapeSettings} (enabled : cfg.enabled = true)
    (all : ∀ turn, succeeds turn = true) (draw t : Nat) :
    shapedTotal cfg draw succeeds t = max t (cfg.targetTotal draw t) := by
  rw [shapedTotal, maybeWriteShapePadding, enabled]
  simp only [Bool.not_true, Bool.false_eq_true, if_false]
  rw [padding_eq all le_rfl]
  omega

structure ShapeSettings.Valid (cfg : ShapeSettings) : Prop where
  enabled : cfg.enabled = true
  positive : 0 < cfg.floor
  ordered : cfg.floor ≤ cfg.cap
  small : cfg.cap ≤ usizeMax / 2

section
variable {cfg : ShapeSettings} (valid : cfg.Valid) {t t' total total' : Nat}
include valid

section
variable (shaped : Shaped cfg t total)
include shaped

theorem Shaped.eq (nonzero : 0 < t) (below : t < cfg.cap) :
    total = nextMaskShapeBucket t cfg.floor cfg.cap ∧
      total = min cfg.cap (cfg.floor * 2 ^ doublings cfg.floor t) := by
  obtain ⟨_, _, all, rfl⟩ := shaped
  have covered : t ≤ cfg.floor * 2 ^ doublings cfg.floor t :=
    (doublings_le_iff valid.positive).mp le_rfl
  have bucket := nextMaskShapeBucket_eq valid.positive valid.ordered valid.small nonzero below
  rw [shapedTotal_eq valid.enabled all, ShapeSettings.targetTotal, if_neg (by omega), bucket]
  omega

theorem Shaped.mono (shaped' : Shaped cfg t' total') (nonzero : 0 < t) (le : t ≤ t')
    (below : t' < cfg.cap) : total ≤ total' := by
  have fewer : doublings cfg.floor t ≤ doublings cfg.floor t' :=
    (doublings_le_iff valid.positive).mpr (le.trans ((doublings_le_iff valid.positive).mp le_rfl))
  rw [(shaped.eq valid nonzero (le.trans_lt below)).2, (shaped'.eq valid (by omega) below).2]
  exact min_le_min le_rfl (Nat.mul_le_mul_left _ (Nat.pow_le_pow_right two_pos fewer))

-- A bucket below the cap is its own bucket; at the cap only the blur can add bytes.
theorem Shaped.again (nonzero : 0 < t) (below : t < cfg.cap) {draw : Nat}
    (all : ∀ turn, succeeds turn = true) :
    shapedTotal cfg draw succeeds total = total ↔
      ¬ (total = cfg.cap ∧ cfg.aboveCapBlur = true ∧ 0 < cfg.aboveCapBlurMaxBytes ∧
        0 < cfg.extra draw) := by
  have total_eq := (shaped.eq valid nonzero below).2
  have small := valid.small
  rw [shapedTotal_eq valid.enabled all, ShapeSettings.targetTotal]
  by_cases capped : total = cfg.cap
  · by_cases blurred : cfg.aboveCapBlur = true ∧ 0 < cfg.aboveCapBlurMaxBytes
    · rw [if_pos ⟨capped.ge, blurred⟩]
      simp only [capped, blurred, true_and]
      omega
    · rw [if_neg fun cond => blurred cond.2, nextMaskShapeBucket]
      have stays : ¬ (total = 0 ∨ cfg.floor = 0 ∨ cfg.cap < cfg.floor) := by
        have := valid.positive
        have := valid.ordered
        omega
      rw [if_neg stays, if_pos capped.ge]
      simp only [max_self, true_iff]
      exact fun cond => blurred ⟨cond.2.1, cond.2.2.1⟩
  · have power : total = cfg.floor * 2 ^ doublings cfg.floor t := by omega
    have larger : 0 < total := by
      rw [power]
      exact Nat.mul_pos valid.positive (Nat.two_pow_pos _)
    have same : cfg.floor * 2 ^ doublings cfg.floor total ≤ total := by
      conv_rhs => rw [power]
      exact Nat.mul_le_mul_left _
        (Nat.pow_le_pow_right two_pos ((doublings_le_iff valid.positive).mpr power.le))
    rw [if_neg (by omega), nextMaskShapeBucket_eq valid.positive valid.ordered valid.small larger
      (by omega)]
    simp only [capped, false_and, not_false_iff, iff_true]
    omega

theorem Shaped.mem_values (nonzero : 0 < t) (below : t < cfg.cap) :
    total ∈ insert cfg.cap
      ((Finset.range (Nat.log 2 (cfg.cap / cfg.floor) + 1)).image (cfg.floor * 2 ^ ·)) := by
  have total_eq := (shaped.eq valid nonzero below).2
  by_cases capped : total = cfg.cap
  · simp [capped]
  · have power : total = cfg.floor * 2 ^ doublings cfg.floor t := by omega
    have fits : 2 ^ doublings cfg.floor t ≤ cfg.cap / cfg.floor := by
      rw [Nat.le_div_iff_mul_le valid.positive, Nat.mul_comm]
      omega
    refine Finset.mem_insert_of_mem (Finset.mem_image.mpr ⟨_, ?_, power.symm⟩)
    exact Finset.mem_range.mpr (Nat.lt_succ_of_le (Nat.le_log_of_pow_le Nat.one_lt_two fits))

end

end

theorem shaping_hides_length (cfg : ShapeSettings) (valid : cfg.Valid) :
    (∀ t total, 0 < t → t < cfg.cap → Shaped cfg t total →
      t ≤ total ∧ total ≤ cfg.cap ∧ (total = cfg.cap ∨ ∃ k, total = cfg.floor * 2 ^ k) ∧
      ∀ draw succeeds, (∀ turn, succeeds turn = true) →
        (shapedTotal cfg draw succeeds total = total ↔
          ¬ (total = cfg.cap ∧ cfg.aboveCapBlur = true ∧ 0 < cfg.aboveCapBlurMaxBytes ∧
            0 < cfg.extra draw))) ∧
    (∀ t t' total total', 0 < t → t ≤ t' → t' < cfg.cap → Shaped cfg t total →
      Shaped cfg t' total' → total ≤ total') ∧
    (∀ t t' total total', 0 < t → t < cfg.cap → 0 < t' → t' < cfg.cap → Shaped cfg t total →
      Shaped cfg t' total' →
      nextMaskShapeBucket t cfg.floor cfg.cap = nextMaskShapeBucket t' cfg.floor cfg.cap →
      total = total') ∧
    ∃ values : Finset Nat, values.card ≤ Nat.log 2 (cfg.cap / cfg.floor) + 2 ∧
      ∀ t total, 0 < t → t < cfg.cap → Shaped cfg t total → total ∈ values := by
  refine ⟨fun t total nonzero below shaped => ?_, ?_, ?_, _, ?_,
    fun t total nonzero below shaped => shaped.mem_values valid nonzero below⟩
  · have total_eq := (shaped.eq valid nonzero below).2
    have covered : t ≤ cfg.floor * 2 ^ doublings cfg.floor t :=
      (doublings_le_iff valid.positive).mp le_rfl
    have either : total = cfg.cap ∨ total = cfg.floor * 2 ^ doublings cfg.floor t := by omega
    exact ⟨by omega, by omega, either.imp_right fun power => ⟨_, power⟩,
      fun _ _ all => shaped.again valid nonzero below all⟩
  · intro t t' total total' nonzero le below shaped shaped'
    exact shaped.mono valid shaped' nonzero le below
  · intro t t' total total' nonzero below nonzero' below' shaped shaped' same
    rw [(shaped.eq valid nonzero below).1, (shaped'.eq valid nonzero' below').1, same]
  · refine (Finset.card_insert_le _ _).trans (Nat.succ_le_succ ?_)
    exact Finset.card_image_le.trans (Finset.card_range _).le

def blurring : ShapeSettings := ⟨true, 512, 1000, true, 1, true⟩

theorem blurring_valid : blurring.Valid := ⟨rfl, by decide, by decide, by decide⟩

theorem shaping_hides_length_blurring :
    blurring.Valid ∧ ∃ values : Finset Nat, values.card ≤ Nat.log 2 (1000 / 512) + 2 ∧
      ∀ t total, 0 < t → t < 1000 → Shaped blurring t total → total ∈ values :=
  ⟨blurring_valid, (shaping_hides_length blurring blurring_valid).2.2.2⟩

/-- 600 bytes are padded to the cap, and the blur then pads the cap to 1001. -/
theorem blur_pads_capped_total :
    shapedTotal blurring 0 (fun _ => true) 600 = 1000 ∧
      shapedTotal blurring 0 (fun _ => true) 1000 = 1001 := by
  have enabled := blurring_valid.enabled
  rw [shapedTotal_eq enabled fun _ => rfl, shapedTotal_eq enabled fun _ => rfl]
  decide +kernel

end Telemt.Masking
