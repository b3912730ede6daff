import Mathlib.Data.Rat.Floor
import SceneSketch.Proofs.DecimalLiterals
import SceneSketch.Proofs.Nearest

/-!
# The values of finite doubles

A finite double stands for a rational number, its units divided by the number of units in one.
Doubles of one value differ at most in the sign of zero (`FiniteDouble.unsignedZero_inj`), and
values from `2 ^ 52` on are whole (`FiniteDouble.whole_of_large`).
-/

namespace SceneSketch

/-- The exponent has a name here, since the power is too large to be evaluated. -/
theorem unitsPerOne_eq_pow {n : Nat} (h : 1074 = n) : unitsPerOne = 2 ^ n := by
  unfold unitsPerOne
  rw [h, Nat.pow_eq]

theorem unitsPerOne_eq {g : Nat} (h : g ≤ 1074) : unitsPerOne = 2 ^ (1074 - g) * 2 ^ g := by
  generalize same : 1074 = n at h ⊢
  rw [unitsPerOne_eq_pow same, ← Nat.pow_add, Nat.sub_add_cancel h]

theorem two_pow_eq_mul {g : Nat} (h : 1074 ≤ g) : 2 ^ g = 2 ^ (g - 1074) * unitsPerOne := by
  generalize same : 1074 = n at h ⊢
  rw [unitsPerOne_eq_pow same, ← Nat.pow_add, Nat.sub_add_cancel h]

theorem unitsPerOne_le_pow {g : Nat} (h : 1074 ≤ g) : unitsPerOne ≤ 2 ^ g := by
  rw [two_pow_eq_mul h]
  exact Nat.le_mul_of_pos_left _ (Nat.two_pow_pos _)

theorem unitsPerOne_pos : 0 < unitsPerOne := by
  obtain ⟨n, h⟩ : ∃ n, 1074 = n := ⟨_, rfl⟩
  rw [unitsPerOne_eq_pow h]
  exact Nat.two_pow_pos n

theorem unitsOfRank_rankLimit : unitsOfRank rankLimit = Nat.pow 2 1024 * unitsPerOne := by
  decide +kernel

theorem rankLimit_lt : rankLimit < Nat.pow 2 63 := by decide

namespace FiniteDouble

variable {x y : FiniteDouble}

theorem magnitude_lt (x : FiniteDouble) : x.magnitude < Nat.pow 2 1024 * unitsPerOne := by
  rw [← unitsOfRank_rankLimit]
  exact unitsOfRank_strictMono x.rank_lt

theorem ofUnits_magnitude (x : FiniteDouble) {den : Nat} (hden : 0 < den) :
    Double.ofUnits x.negative (x.magnitude * den) den = .finite x := by
  have itself : nearestRank (x.magnitude * den) den = x.rank :=
    nearestRank_self (Nat.lt_trans x.rank_lt rankLimit_lt) hden
  unfold Double.ofUnits
  simp only [itself]
  rw [dif_pos x.rank_lt]

/-! ## Rational values -/

/-- The number that a finite double stands for. -/
def value (x : FiniteDouble) : ℚ :=
  (x.units : ℚ) / (unitsPerOne : ℚ)

theorem unitsPerOne_ne_zero : (unitsPerOne : ℚ) ≠ 0 :=
  Nat.cast_ne_zero.mpr unitsPerOne_pos.ne'

theorem value_eq_intCast {n : Int} : x.value = n ↔ x.units = n * unitsPerOne := by
  rw [value, div_eq_iff unitsPerOne_ne_zero]
  norm_cast

theorem value_inj : x.value = y.value ↔ x.units = y.units := by
  unfold value
  rw [div_left_inj' unitsPerOne_ne_zero]
  norm_cast

theorem natAbs_units (x : FiniteDouble) : x.units.natAbs = x.magnitude := by
  unfold units
  split <;> simp

theorem toInt?_eq_some {n : Int} : x.toInt? = some n ↔ x.value = n := by
  rw [value_eq_intCast, toInt?, Option.ite_none_right_eq_some, Option.some_inj]
  constructor
  · rintro ⟨divides, h⟩
    have whole : x.magnitude = x.magnitude / unitsPerOne * unitsPerOne :=
      (Nat.div_mul_cancel (Nat.dvd_of_mod_eq_zero divides)).symm
    rw [← h, units, whole, Nat.mul_div_cancel _ unitsPerOne_pos, Nat.cast_mul]
    split
    · rw [Int.neg_mul]
    · rfl
  · intro h
    have whole : x.magnitude = n.natAbs * unitsPerOne := by
      rw [← natAbs_units, h, Int.natAbs_mul, Int.natAbs_natCast]
    refine ⟨by rw [whole, Nat.mul_mod_left], ?_⟩
    have positive : (unitsPerOne : Int) ≠ 0 := Int.natCast_ne_zero.mpr unitsPerOne_pos.ne'
    apply Int.eq_of_mul_eq_mul_right positive
    rw [← h, units, whole, Nat.mul_div_cancel _ unitsPerOne_pos, Nat.cast_mul]
    split
    · rw [Int.neg_mul]
    · rfl

/-- **Large values are whole.** -/
theorem whole_of_large (h : 2 ^ 52 * unitsPerOne ≤ x.magnitude) : ∃ n, x.toInt? = some n := by
  obtain ⟨f, g, scaled, hf, -⟩ := unitsOfRank_split x.rank
  have large : 1074 ≤ g := by
    by_contra small
    have step : 2 ^ (g + 1) ≤ unitsPerOne := by
      rw [unitsPerOne_eq (show g + 1 ≤ 1074 by omega)]
      exact Nat.le_mul_of_pos_left _ (Nat.two_pow_pos _)
    have bound : f * 2 ^ g < 2 ^ 53 * 2 ^ g := Nat.mul_lt_mul_of_pos_right hf (Nat.two_pow_pos g)
    rw [Nat.pow_succ] at step
    rw [magnitude, scaled] at h
    omega
  have divides : unitsPerOne ∣ x.magnitude := by
    rw [magnitude, scaled, two_pow_eq_mul large]
    exact (Nat.dvd_mul_left _ _).mul_left f
  unfold toInt?
  rw [if_pos (Nat.mod_eq_zero_of_dvd divides)]
  exact ⟨_, rfl⟩

/-! ## The sign of zero -/

def unsignedZero (x : FiniteDouble) : FiniteDouble :=
  ⟨x.isBelowZero, x.rank, x.rank_lt⟩

theorem units_unsignedZero (x : FiniteDouble) : x.unsignedZero.units = x.units := by
  by_cases zero : x.rank = 0
  · have least : x.magnitude = 0 := magnitude_eq_zero.mpr zero
    have least' : x.unsignedZero.magnitude = 0 := least
    simp [units, least, least']
  · simp only [units, unsignedZero, isBelowZero_of_ne_zero zero, magnitude]

theorem unsignedZero_inj : x.unsignedZero = y.unsignedZero ↔ x.value = y.value := by
  rw [value_inj]
  constructor
  · intro h
    rw [← units_unsignedZero, h, units_unsignedZero]
  · intro h
    have same : x.rank = y.rank := by
      apply unitsOfRank_strictMono.injective
      change x.magnitude = y.magnitude
      rw [← natAbs_units, h, natAbs_units]
    have sign : x.isBelowZero = y.isBelowZero := by
      have below (z : FiniteDouble) : z.isBelowZero = decide (z.units < 0) := by
        have least : 0 < z.magnitude ↔ 0 < z.rank := unitsOfRank_strictMono.lt_iff_lt (a := 0)
        unfold isBelowZero units
        cases z.negative <;> simp [least]
      rw [below, below, h]
    simp only [unsignedZero, same, sign]

end FiniteDouble

end SceneSketch
