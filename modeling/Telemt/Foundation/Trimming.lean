import Mathlib.Algebra.BigOperators.Fin

namespace Telemt.Foundation

/-! # Trimming in rounds -/

def trimRound : Nat → List Nat → Nat × List Nat
  | excess, [] => (excess, [])
  | 0, amounts => (0, amounts)
  | excess + 1, 0 :: rest =>
    let next := trimRound (excess + 1) rest
    (next.1, 0 :: next.2)
  | excess + 1, (amount + 1) :: rest =>
    let next := trimRound excess rest
    (next.1, amount :: next.2)

def givers (amounts : List Nat) : Nat := amounts.countP (0 < ·)

@[simp] theorem givers_nil : givers [] = 0 := rfl

@[simp] theorem givers_zero_cons (rest : List Nat) : givers (0 :: rest) = givers rest := by
  simp [givers]

@[simp] theorem givers_succ_cons (amount : Nat) (rest : List Nat) :
    givers ((amount + 1) :: rest) = givers rest + 1 := by
  simp [givers]

@[simp] theorem givers_append (front back : List Nat) :
    givers (front ++ back) = givers front + givers back := List.countP_append

variable {amounts : List Nat}

theorem givers_eq_zero : givers amounts = 0 ↔ ∀ amount ∈ amounts, amount = 0 := by
  simp [givers, List.countP_eq_zero]

theorem givers_le_sum (amounts : List Nat) : givers amounts ≤ amounts.sum := by
  induction amounts with
  | nil => exact le_rfl
  | cons amount _ ih =>
    cases amount with
    | zero => simpa using ih
    | succ =>
      rw [givers_succ_cons, List.sum_cons]
      omega

@[simp] theorem trimRound_nil (excess : Nat) : trimRound excess [] = (excess, []) := by
  cases excess <;> rfl

@[simp] theorem trimRound_zero (amounts : List Nat) : trimRound 0 amounts = (0, amounts) := by
  cases amounts <;> rfl

section Round
variable (excess : Nat) (amounts : List Nat)

theorem trimRound_fst : (trimRound excess amounts).1 = excess - givers amounts := by
  induction amounts generalizing excess with
  | nil => simp
  | cons amount _ ih =>
    cases excess with
    | zero => simp
    | succ excess =>
      cases amount with
      | zero => rw [trimRound, ih, givers_zero_cons]
      | succ =>
        rw [trimRound, ih, givers_succ_cons]
        exact (Nat.add_sub_add_right excess 1 _).symm

theorem trimRound_append (front back : List Nat) :
    trimRound excess (front ++ back) =
      ((trimRound (trimRound excess front).1 back).1,
        (trimRound excess front).2 ++ (trimRound (trimRound excess front).1 back).2) := by
  induction front generalizing excess with
  | nil => simp
  | cons amount _ ih =>
    cases excess with
    | zero => simp
    | succ =>
      cases amount with
      | zero | succ amount =>
        rw [List.cons_append, trimRound, trimRound, ih]
        rfl

theorem trimRound_sum :
    (trimRound excess amounts).2.sum + excess = amounts.sum + (trimRound excess amounts).1 := by
  induction amounts generalizing excess with
  | nil => simp
  | cons amount rest ih =>
    cases excess with
    | zero => simp
    | succ excess =>
      cases amount with
      | zero =>
        have rest := ih (excess + 1)
        simp only [trimRound, List.sum_cons]
        omega
      | succ =>
        have rest := ih excess
        simp only [trimRound, List.sum_cons]
        omega

theorem length_trimRound : (trimRound excess amounts).2.length = amounts.length := by
  induction amounts generalizing excess with
  | nil => simp
  | cons amount _ ih =>
    cases excess with
    | zero => rw [trimRound_zero]
    | succ excess =>
      cases amount with
      | zero => exact congrArg (· + 1) (ih (excess + 1))
      | succ => exact congrArg (· + 1) (ih excess)

variable {excess amounts}

theorem trimRound_whole (lasts : givers amounts ≤ excess) :
    (trimRound excess amounts).2 = amounts.map Nat.pred := by
  induction amounts generalizing excess with
  | nil => simp
  | cons amount rest ih =>
    cases amount with
    | zero =>
      rw [givers_zero_cons] at lasts
      cases excess with
      | zero =>
        have none_left := givers_eq_zero.mp (Nat.le_zero.mp lasts)
        refine congrArg _ ((List.map_id rest).symm.trans (List.map_congr_left ?_))
        intro amount member
        rw [none_left amount member]
        rfl
      | succ excess => rw [trimRound, ih lasts, List.map_cons, Nat.pred_zero]
    | succ =>
      rw [givers_succ_cons] at lasts
      cases excess with
      | zero => exact absurd lasts (Nat.not_succ_le_zero _)
      | succ =>
        rw [trimRound, ih (Nat.le_of_succ_le_succ lasts), List.map_cons, Nat.pred_succ]

theorem trimRound_changes (some_excess : 0 < excess) (some_giver : 0 < givers amounts) :
    (trimRound excess amounts).2.sum < amounts.sum := by
  have sum := trimRound_sum excess amounts
  have left := trimRound_fst excess amounts
  omega

end Round

inductive Trims : Nat → List Nat → List Nat → Prop
  | done (amounts : List Nat) : Trims 0 amounts amounts
  | round {excess : Nat} {amounts result : List Nat} (some_excess : 0 < excess)
      (rest : Trims (trimRound excess amounts).1 (trimRound excess amounts).2 result) :
      Trims excess amounts result

section Trims
variable {excess : Nat} {amounts result : List Nat}

theorem Trims.sum (trims : Trims excess amounts result) : result.sum + excess = amounts.sum := by
  induction trims with
  | done => rfl
  | round _ _ ih =>
    rename_i excess amounts _ _ _
    have once := trimRound_sum excess amounts
    omega

theorem trims_zero : Trims 0 amounts result ↔ result = amounts := by
  constructor
  · rintro (_ | ⟨some_excess, _⟩)
    · rfl
    · exact absurd some_excess (Nat.lt_irrefl 0)
  · rintro rfl
    exact .done _

theorem trims_of_pos (some_excess : 0 < excess) :
    Trims excess amounts result ↔
      Trims (trimRound excess amounts).1 (trimRound excess amounts).2 result := by
  constructor
  · rintro (_ | ⟨_, rest⟩)
    · exact absurd some_excess (Nat.lt_irrefl 0)
    · exact rest
  · exact .round some_excess

variable {front back front' back' : List Nat}

section
variable (trims : Trims excess (front ++ back) (front' ++ back'))
  (split : front'.length = front.length)
include trims split

theorem Trims.back_sum_le : back'.sum ≤ back.sum := by
  generalize joined : front ++ back = amounts at trims
  generalize parted : front' ++ back' = result at trims
  induction trims generalizing front back with
  | done =>
    rw [← joined] at parted
    rw [(List.append_inj parted split).2]
  | round _ _ ih =>
    rename_i excess _ _ _ _
    subst joined
    rw [trimRound_append] at ih
    have lengths := length_trimRound excess front
    have once := trimRound_sum (trimRound excess front).1 back
    have left := trimRound_fst (trimRound excess front).1 back
    refine (ih (split.trans lengths.symm) rfl parted).trans ?_
    omega

theorem Trims.back_of_spent (none_left : givers back = 0) : back' = back := by
  generalize joined : front ++ back = amounts at trims
  generalize parted : front' ++ back' = result at trims
  induction trims generalizing front with
  | done =>
    rw [← joined] at parted
    exact (List.append_inj parted split).2
  | round _ _ ih =>
    rename_i excess _ _ _ _
    subst joined
    have lengths := length_trimRound excess front
    have same : (trimRound (trimRound excess front).1 back).2 = back := by
      rw [trimRound_whole (by rw [none_left]; exact Nat.zero_le _)]
      refine (List.map_congr_left ?_).trans (List.map_id back)
      intro amount member
      rw [givers_eq_zero.mp none_left amount member]
      rfl
    rw [trimRound_append, same] at ih
    exact ih (split.trans lengths.symm) rfl parted

theorem Trims.back_kept_iff : back' = back ↔ givers back = 0 ∨ excess ≤ givers front := by
  have lengths := length_trimRound excess front
  have left := trimRound_fst excess front
  constructor
  · intro kept
    by_contra! opposite
    obtain ⟨some_giver, more⟩ := opposite
    rw [trims_of_pos (Nat.zero_lt_of_lt more), trimRound_append] at trims
    have later := trims.back_sum_le (split.trans lengths.symm)
    have reached : 0 < (trimRound excess front).1 := by omega
    have lowered := trimRound_changes reached (Nat.pos_of_ne_zero some_giver)
    rw [kept] at later
    exact absurd lowered (Nat.not_lt_of_le later)
  · rintro (none_left | few)
    · exact trims.back_of_spent split none_left
    · rcases Nat.eq_zero_or_pos excess with rfl | some_excess
      · exact (List.append_inj (trims_zero.mp trims) split).2
      · have spent : (trimRound excess front).1 = 0 := by omega
        rw [trims_of_pos some_excess, trimRound_append, spent, trimRound_zero, trims_zero] at trims
        exact (List.append_inj trims (split.trans lengths.symm)).2

end

end Trims

def peak (amounts : List Nat) : Nat := amounts.foldr max 0

theorem le_peak {amount : Nat} (member : amount ∈ amounts) :
    amount ≤ peak amounts := by
  induction amounts with
  | nil => cases member
  | cons _ _ ih =>
    rcases List.mem_cons.mp member with rfl | later
    · exact le_max_left _ _
    · exact (ih later).trans (le_max_right _ _)

theorem peak_mem (positive : 0 < peak amounts) : peak amounts ∈ amounts := by
  induction amounts with
  | nil => exact absurd positive (Nat.lt_irrefl 0)
  | cons first rest ih =>
    change 0 < max first (peak rest) at positive
    change max first (peak rest) ∈ first :: rest
    rcases le_total (peak rest) first with first_most | rest_more
    · rw [max_eq_left first_most]
      exact List.mem_cons_self
    · rw [max_eq_right rest_more] at positive ⊢
      exact List.mem_cons_of_mem _ (ih positive)

theorem peak_eq_zero :
    peak amounts = 0 ↔ ∀ amount ∈ amounts, amount = 0 := by
  constructor
  · intro flat amount member
    exact Nat.le_zero.mp (flat ▸ le_peak member)
  · intro spent
    by_contra nonzero
    exact nonzero (spent _ (peak_mem (Nat.pos_of_ne_zero nonzero)))

theorem peak_le_trimRound (excess : Nat) (amounts : List Nat) :
    peak amounts ≤ peak (trimRound excess amounts).2 + 1 := by
  induction amounts generalizing excess with
  | nil => exact Nat.zero_le _
  | cons amount rest ih =>
    change max amount (peak rest) ≤ _
    cases excess with
    | zero =>
      exact Nat.le_succ _
    | succ excess =>
      cases amount with
      | zero =>
        have later := ih (excess + 1)
        change _ ≤ max 0 (peak (trimRound (excess + 1) rest).2) + 1
        omega
      | succ amount =>
        have later := ih excess
        change _ ≤ max amount (peak (trimRound excess rest).2) + 1
        omega

theorem peak_map_pred (amounts : List Nat) : peak (amounts.map Nat.pred) = peak amounts - 1 := by
  induction amounts with
  | nil => rfl
  | cons first rest ih =>
    change max first.pred (peak (rest.map Nat.pred)) = max first (peak rest) - 1
    rw [ih, Nat.pred_eq_sub_one]
    omega

/-- What is taken until the front is spent: all rounds before the last one in full, and of the last
round the front's share. -/
def spending (front back : List Nat) : Nat :=
  ((front ++ back).map (min (peak front - 1))).sum +
    front.countP fun amount => amount = peak front && decide (0 < amount)

theorem sum_min_zero (amounts : List Nat) : (amounts.map (min 0)).sum = 0 := by
  induction amounts with
  | nil => rfl
  | cons _ _ ih => simp [ih]

variable {front back : List Nat}

theorem spending_eq_zero :
    spending front back = 0 ↔ ∀ amount ∈ front, amount = 0 := by
  rw [← peak_eq_zero]
  constructor
  · intro nothing
    by_contra nonzero
    have positive := Nat.pos_of_ne_zero nonzero
    have counted : 0 < front.countP fun amount => amount = peak front && decide (0 < amount) :=
      List.countP_pos_iff.mpr ⟨peak front, peak_mem positive, by simp [positive]⟩
    unfold spending at nothing
    omega
  · intro flat
    have nobody : (front.countP fun amount => amount = peak front && decide (0 < amount)) = 0 := by
      rw [List.countP_eq_zero]
      intro amount member
      simp [peak_eq_zero.mp flat amount member]
    rw [spending, nobody, flat]
    exact sum_min_zero _

theorem spending_of_low (low : peak front ≤ 1) :
    spending front back = givers front := by
  have last : (front.countP fun amount => amount = peak front && decide (0 < amount)) =
      givers front := by
    apply List.countP_congr
    intro amount member
    have bound := le_peak member
    simp only [Bool.and_eq_true, decide_eq_true_eq]
    omega
  have flat : peak front - 1 = 0 := by omega
  rw [spending, last, flat, sum_min_zero, Nat.zero_add]

theorem sum_min_succ (level : Nat) (amounts : List Nat) :
    (amounts.map (min (level + 1))).sum =
      givers amounts + ((amounts.map Nat.pred).map (min level)).sum := by
  induction amounts with
  | nil => rfl
  | cons amount _ ih =>
    simp only [List.map_cons, List.sum_cons, ih]
    cases amount with
    | zero => simp
    | succ =>
      rw [givers_succ_cons, Nat.pred_succ, Nat.add_min_add_right]
      omega

theorem spending_of_high (high : 2 ≤ peak front) :
    spending front back =
      givers (front ++ back) + spending (front.map Nat.pred) (back.map Nat.pred) := by
  obtain ⟨level, _⟩ := Nat.exists_eq_add_of_le' high
  have last : (front.countP fun amount => amount = peak front && decide (0 < amount)) =
      (front.map Nat.pred).countP fun amount =>
        amount = peak front - 1 && decide (0 < amount) := by
    rw [List.countP_map]
    apply List.countP_congr
    intro amount _
    simp only [Function.comp_apply, Nat.pred_eq_sub_one, Bool.and_eq_true, decide_eq_true_eq]
    omega
  have level_eq : peak front - 1 = level + 1 := by omega
  have below : peak front - 1 - 1 = level := by omega
  rw [spending, spending, last, peak_map_pred, ← List.map_append, below, level_eq,
    sum_min_succ level (front ++ back), Nat.add_assoc]

theorem givers_lt_spending (high : 2 ≤ peak front) :
    givers (front ++ back) < spending front back := by
  have later : spending (front.map Nat.pred) (back.map Nat.pred) ≠ 0 := by
    rw [Ne, spending_eq_zero, ← peak_eq_zero, peak_map_pred]
    omega
  rw [spending_of_high high]
  omega

section Perm
variable {front front' back back' : List Nat}

theorem givers_perm (same : front.Perm front') : givers front = givers front' := same.countP_eq _

theorem peak_perm (same : front.Perm front') : peak front = peak front' := by
  have below {amounts amounts' : List Nat} (same : amounts.Perm amounts') :
      peak amounts ≤ peak amounts' := by
    rcases Nat.eq_zero_or_pos (peak amounts) with zero | positive
    · rw [zero]
      exact Nat.zero_le _
    · exact le_peak (same.mem_iff.mp (peak_mem positive))
  exact le_antisymm (below same) (below same.symm)

theorem spending_perm (same : front.Perm front') (same' : back.Perm back') :
    spending front back = spending front' back' := by
  unfold spending
  rw [peak_perm same, ((same.append same').map _).sum_eq, same.countP_eq]

end Perm

section Front
variable {excess : Nat} {front back front' back' : List Nat}

theorem not_spent_of_short (short : excess < givers front) :
    ¬ ∀ amount ∈ (trimRound excess front).2, amount = 0 := by
  intro spent
  have sum := trimRound_sum excess front
  have enough := givers_le_sum front
  rw [List.sum_eq_zero spent] at sum
  omega

theorem Trims.front_spent_iff (trims : Trims excess (front ++ back) (front' ++ back'))
    (split : front'.length = front.length) :
    (∀ amount ∈ front', amount = 0) ↔ spending front back ≤ excess := by
  generalize joined : front ++ back = amounts at trims
  generalize parted : front' ++ back' = result at trims
  induction trims generalizing front back with
  | done =>
    rw [← joined] at parted
    rw [(List.append_inj parted split).1, Nat.le_zero, spending_eq_zero]
  | round _ _ ih =>
    rename_i excess _ _ _ _
    subst joined
    have lengths := length_trimRound excess front
    have left := trimRound_fst excess front
    have left' := trimRound_fst (trimRound excess front).1 back
    have together := givers_append front back
    rw [trimRound_append] at ih
    rw [ih (split.trans lengths.symm) rfl parted]
    rcases Nat.lt_or_ge (peak front) 2 with low | high
    · -- This round spends the front, or nothing does.
      rw [spending_of_low (Nat.le_of_lt_succ low)]
      rcases Nat.lt_or_ge excess (givers front) with short | lasts
      · have gone : (trimRound (trimRound excess front).1 back).1 = 0 := by omega
        rw [gone, Nat.le_zero, spending_eq_zero]
        exact iff_of_false (not_spent_of_short short) (Nat.not_le_of_lt short)
      · have spent : spending (trimRound excess front).2
            (trimRound (trimRound excess front).1 back).2 = 0 := by
          rw [spending_eq_zero, ← peak_eq_zero, trimRound_whole lasts, peak_map_pred]
          omega
        rw [spent]
        exact iff_of_true (Nat.zero_le _) lasts
    · rcases Nat.lt_or_ge excess (givers (front ++ back)) with short | lasts
      · -- The excess is gone after this round, and the front had two to give.
        have gone : (trimRound (trimRound excess front).1 back).1 = 0 := by omega
        have kept := peak_le_trimRound excess front
        rw [gone, Nat.le_zero, spending_eq_zero, ← peak_eq_zero]
        have more : givers (front ++ back) < spending front back := givers_lt_spending high
        exact iff_of_false (by omega) (by omega)
      · have whole : (trimRound excess front).2 = front.map Nat.pred :=
          trimRound_whole (by omega)
        have whole' : (trimRound (trimRound excess front).1 back).2 = back.map Nat.pred :=
          trimRound_whole (by omega)
        rw [whole, whole', spending_of_high high]
        omega

end Front

end Telemt.Foundation
