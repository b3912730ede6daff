import SceneSketch.Drawing.Description
import SceneSketch.Proofs.Values

/-!
# Rounding half up

One half is added to a number as a double, and then the sum is rounded down. The sum itself may be
rounded up to a whole number: this happens exactly below one half and at odd numbers of 53 bits
(`FiniteDouble.roundHalfUp_finite`). Everywhere else two magnitudes with the same whole number below
them lie on both sides of the sum, or the number is whole and nearer to the sum than any other.
-/

namespace SceneSketch

/-! ## Rounded sums -/

def nearestUnits (sum : Int) : Int :=
  if sum < 0 then -(unitsOfRank (nearestRank sum.natAbs 1) : Int)
    else unitsOfRank (nearestRank sum.natAbs 1)

/-- The magnitude of a number of units needs no rounding. -/
def Representable (n : Int) : Prop :=
  ∃ r < Nat.pow 2 63, unitsOfRank r = n.natAbs

section
variable {a b sum : Int}

theorem le_nearestUnits (ha : Representable a) (h : a ≤ sum) : a ≤ nearestUnits sum := by
  obtain ⟨r, hr, units⟩ := ha
  unfold nearestUnits
  by_cases negative : sum < 0
  · have bound : nearestRank sum.natAbs 1 ≤ r := nearestRank_le Nat.one_pos (by omega)
    have := unitsOfRank_strictMono.monotone bound
    rw [if_pos negative]
    omega
  · rw [if_neg negative]
    by_cases below : a < 0
    · omega
    · have bound : r ≤ nearestRank sum.natAbs 1 := le_nearestRank hr (by omega)
      have := unitsOfRank_strictMono.monotone bound
      omega

theorem nearestUnits_le (hb : Representable b) (h : sum ≤ b) : nearestUnits sum ≤ b := by
  obtain ⟨r, hr, units⟩ := hb
  unfold nearestUnits
  by_cases negative : sum < 0
  · rw [if_pos negative]
    by_cases below : b < 0
    · have bound : r ≤ nearestRank sum.natAbs 1 := le_nearestRank hr (by omega)
      have := unitsOfRank_strictMono.monotone bound
      omega
    · omega
  · have bound : nearestRank sum.natAbs 1 ≤ r := nearestRank_le Nat.one_pos (by omega)
    have := unitsOfRank_strictMono.monotone bound
    rw [if_neg negative]
    omega

theorem nearestUnits_self (h : Representable sum) : nearestUnits sum = sum :=
  Int.le_antisymm (nearestUnits_le h (Int.le_refl _)) (le_nearestUnits h (Int.le_refl _))

/-- **Rounding a sum does not change the whole number below it if magnitudes on both sides have the
same one.** -/
theorem div_nearestUnits (ha : Representable a) (hb : Representable b) (lower : a ≤ sum)
    (upper : sum ≤ b)
    {n : Int} (floorA : n * unitsPerOne ≤ a) (floorB : b < (n + 1) * unitsPerOne) :
    nearestUnits sum / unitsPerOne = sum / unitsPerOne := by
  have positive : (0 : Int) < unitsPerOne := Int.natCast_pos.mpr unitsPerOne_pos
  have floor {s : Int} (hs : a ≤ s) (hs' : s ≤ b) : s / unitsPerOne = n := by
    apply Int.le_antisymm
    · exact Int.lt_add_one_iff.mp (Int.ediv_lt_of_lt_mul positive (by omega))
    · exact Int.le_ediv_of_mul_le positive (by omega)
  rw [floor (le_nearestUnits ha lower) (nearestUnits_le hb upper), floor lower upper]

end

theorem representable_scaled {f : Int} (hf : f.natAbs ≤ 2 ^ 53) {g : Nat} (hg : g ≤ 2000) :
    Representable (f * 2 ^ g) := by
  obtain ⟨r, bound, units⟩ := exists_unitsOfRank hf g
  refine ⟨r, ?_, ?_⟩
  · have limit : 2000 * 2 ^ 52 + 2 ^ 53 < Nat.pow 2 63 := by decide
    have grows : g * 2 ^ 52 ≤ 2000 * 2 ^ 52 := Nat.mul_le_mul_right _ hg
    exact Nat.lt_of_le_of_lt (bound.trans (Nat.add_le_add_right grows _)) limit
  · rw [units, Int.natAbs_mul, Int.natAbs_pow]
    rfl

theorem representable_zero : Representable 0 := ⟨0, by decide, rfl⟩

theorem Double.add_finite (x y : FiniteDouble) : finite x + finite y = addFinite x y := by
  change Double.add (finite x) (finite y) = _
  rw [add]

theorem addFinite_eq {x y : FiniteDouble} (small : (x.units + y.units).natAbs < leastOverflow) :
    ∃ z, Double.addFinite x y = .finite z ∧ z.units = nearestUnits (x.units + y.units) := by
  have within : nearestRank (x.units + y.units).natAbs 1 < rankLimit := by
    rw [nearestRank_lt_rankLimit, Nat.mul_one]
    exact small
  unfold Double.addFinite Double.ofUnits
  generalize x.units + y.units = sum at within ⊢
  dsimp only
  rw [dif_pos within]
  refine ⟨_, rfl, ?_⟩
  unfold FiniteDouble.units FiniteDouble.magnitude nearestUnits
  by_cases zero : sum = 0
  · subst zero
    have start : nearestRank 0 1 = 0 := Nat.le_zero.mp (nearestRank_le Nat.one_pos (Nat.zero_le _))
    have least : unitsOfRank 0 = 0 := rfl
    simp [start, least]
  · simp only [zero, if_false, decide_eq_true_eq]

/-! ## Halves -/

def unitsPerHalf : Nat := Nat.pow 2 1073

theorem unitsPerHalf_eq_pow {n : Nat} (h : 1073 = n) : unitsPerHalf = 2 ^ n := by
  unfold unitsPerHalf
  rw [h, Nat.pow_eq]

theorem unitsPerOne_eq_two_mul : unitsPerOne = 2 * unitsPerHalf := by
  obtain ⟨n, h⟩ : ∃ n, 1073 = n := ⟨_, rfl⟩
  rw [unitsPerHalf_eq_pow h, unitsPerOne_eq_pow (congrArg Nat.succ h), Nat.pow_succ']

theorem half_eq : (0.5 : Double) = .finite ⟨false, 1022 * Nat.pow 2 52, by decide⟩ := by
  decide +kernel

theorem units_half : FiniteDouble.units ⟨false, 1022 * Nat.pow 2 52, by decide⟩ = unitsPerHalf := by
  decide +kernel

namespace FiniteDouble

theorem roundHalfUp_eq (x : FiniteDouble) :
    (Double.finite x).roundHalfUp = nearestUnits (x.units + unitsPerHalf) / unitsPerOne := by
  have small : (x.units + unitsPerHalf).natAbs < leastOverflow := by
    have room : unitsOfRank (rankLimit - 1) + unitsPerHalf < leastOverflow := by decide +kernel
    have bound : x.magnitude ≤ unitsOfRank (rankLimit - 1) :=
      unitsOfRank_strictMono.monotone (Nat.le_sub_one_of_lt x.rank_lt)
    have := x.natAbs_units
    omega
  rw [← units_half] at small ⊢
  obtain ⟨z, sum, units⟩ := addFinite_eq small
  rw [Double.roundHalfUp, half_eq, Double.add_finite, sum, Double.floor?, Option.getD_some, units,
    Int.fdiv_eq_ediv_of_nonneg _ (Int.natCast_nonneg _)]

theorem floor_value_add_half (x : FiniteDouble) :
    ⌊x.value + 1 / 2⌋ = (x.units + unitsPerHalf) / unitsPerOne := by
  have half : (1 / 2 : ℚ) = (unitsPerHalf : ℚ) / (unitsPerOne : ℚ) := by
    rw [eq_div_iff unitsPerOne_ne_zero, unitsPerOne_eq_two_mul]
    push_cast
    ring
  rw [value, half, ← add_div, ← Int.cast_natCast unitsPerHalf, ← Int.cast_add,
    Rat.floor_intCast_div_natCast]

end FiniteDouble

theorem unitsPerHalf_pos : (0 : Int) < unitsPerHalf := by
  have := unitsPerOne_pos
  have := unitsPerOne_eq_two_mul
  omega

theorem unitsPerHalf_eq {g : Nat} (h : g ≤ 1073) :
    (unitsPerHalf : Int) = 2 ^ (1073 - g) * 2 ^ g := by
  generalize same : 1073 = n at h ⊢
  rw [unitsPerHalf_eq_pow same, ← Int.pow_add, Nat.sub_add_cancel h, Nat.cast_pow, Nat.cast_ofNat]

theorem whole_eq : (unitsPerOne : Int) = 2 * unitsPerHalf := by
  exact_mod_cast unitsPerOne_eq_two_mul

theorem representable_halves {f : Int} (h : f.natAbs ≤ 2 ^ 53) :
    Representable (f * unitsPerHalf) := by
  obtain ⟨g, hg⟩ : ∃ g, 1073 = g := ⟨_, rfl⟩
  rw [unitsPerHalf_eq_pow hg, Nat.cast_pow, Nat.cast_ofNat]
  exact representable_scaled h (by omega)

/-! ## Numbers with a fraction -/

section
variable {t : Int} {g : Nat}

theorem div_nearestUnits_negative (lower : 0 ≤ t + unitsPerHalf) (negative : t ≤ 0) :
    nearestUnits (t + unitsPerHalf) / unitsPerOne = (t + unitsPerHalf) / unitsPerOne := by
  have whole := whole_eq
  have positive := unitsPerHalf_pos
  have bound : Representable unitsPerHalf := by
    rw [← Int.one_mul (unitsPerHalf : Int)]
    exact representable_halves (by decide)
  exact div_nearestUnits (n := 0) representable_zero bound lower (by omega) (by omega) (by omega)

/-- The sum is less than three quarters. -/
theorem div_nearestUnits_quarter (hg : g < 1020) (nonneg : 0 ≤ t) (below : t < 2 ^ 53 * 2 ^ g) :
    nearestUnits (t + unitsPerHalf) / unitsPerOne = (t + unitsPerHalf) / unitsPerOne := by
  have whole := whole_eq
  have positive := unitsPerHalf_pos
  have quarter : (unitsPerHalf : Int) = 2 * 2 ^ (1072 - g + g) := by
    rw [unitsPerHalf_eq (show g ≤ 1073 by omega), show 1073 - g = 1072 - g + 1 by omega,
      Int.pow_succ, Int.pow_add]
    ring
  have room : (2 : Int) ^ 53 * 2 ^ g ≤ 2 ^ (1072 - g + g) := by
    rw [Int.pow_add]
    exact Int.mul_le_mul_of_nonneg_right (pow_le_pow_right₀ (by decide) (by omega))
      (Int.pow_pos (by decide)).le
  have bound : Representable (3 * 2 ^ (1072 - g + g)) :=
    representable_scaled (by decide) (by omega)
  generalize (2 : Int) ^ (1072 - g + g) = q at quarter room bound
  exact div_nearestUnits (n := 0) representable_zero bound (by omega) (by omega)
    (by omega) (by omega)

/-- Two steps below one half the sum is not above the last magnitude below one. -/
theorem div_nearestUnits_last (hg : g = 1020) (nonneg : 0 ≤ t) (last : t ≤ (2 ^ 53 - 2) * 2 ^ g) :
    nearestUnits (t + unitsPerHalf) / unitsPerOne = (t + unitsPerHalf) / unitsPerOne := by
  have whole := whole_eq
  have positive := unitsPerHalf_pos
  have half := unitsPerHalf_eq (show g ≤ 1073 by omega)
  rw [show 1073 - g = 53 by omega] at half
  have step : (0 : Int) < 2 ^ g := Int.pow_pos (by decide)
  have bound : Representable ((2 ^ 53 - 1) * 2 ^ (g + 1)) :=
    representable_scaled (by decide) (by omega)
  rw [Int.pow_succ] at bound
  exact div_nearestUnits (n := 0) representable_zero bound (by omega) (by omega)
    (by omega) (by omega)

/-- The next power of two is whole, and the sum is less than one half above it. -/
theorem div_nearestUnits_beyond (low : 1020 < g) (high : g < 1073) (below : t < 2 ^ 53 * 2 ^ g)
    (above : 2 ^ 53 * 2 ^ g < t + unitsPerHalf) :
    nearestUnits (t + unitsPerHalf) / unitsPerOne = (t + unitsPerHalf) / unitsPerOne := by
  have whole := whole_eq
  have positive := unitsPerHalf_pos
  have power : (2 : Int) ^ 53 * 2 ^ g = 2 ^ (g - 1021) * unitsPerOne := by
    rw [unitsPerOne_eq (show g ≤ 1074 by omega), Nat.cast_mul, Nat.cast_pow, Nat.cast_pow,
      Nat.cast_ofNat, ← Int.pow_add, ← Int.pow_add, ← Int.pow_add,
      show g - 1021 + (1074 - g + g) = 53 + g by omega]
  have bound : Representable (2 ^ 53 * 2 ^ g + unitsPerHalf) := by
    have odd : 2 ^ 53 * 2 ^ g + unitsPerHalf =
        (2 * 2 ^ (g - 1021) + 1) * (unitsPerHalf : Int) := by
      rw [power, whole]
      ring
    have least : (0 : Int) < 2 ^ (g - 1021) := Int.pow_pos (by decide)
    have most : (2 : Int) ^ (g - 1021) ≤ 2 ^ 51 := pow_le_pow_right₀ (by decide) (by omega)
    rw [odd]
    exact representable_halves (by omega)
  exact div_nearestUnits (n := 2 ^ (g - 1021)) (representable_scaled (by decide) (by omega)) bound
    above.le (by omega) power.ge (by rw [power, Int.add_mul]; omega)

end

theorem div_nearestUnits_small {s : Int} {g : Nat} (hs : s.natAbs < 2 ^ 53) (hg : g ≤ 1073)
    (other : ¬ (g = 1020 ∧ s = 2 ^ 53 - 1)) :
    nearestUnits (s * 2 ^ g + unitsPerHalf) / unitsPerOne =
      (s * 2 ^ g + unitsPerHalf) / unitsPerOne := by
  have step : (0 : Int) < 2 ^ g := Int.pow_pos (by decide)
  have sum : s * 2 ^ g + unitsPerHalf = (s + 2 ^ (1073 - g)) * 2 ^ g := by
    rw [unitsPerHalf_eq hg, Int.add_mul]
  by_cases short : (s + 2 ^ (1073 - g)).natAbs ≤ 2 ^ 53
  · rw [sum, nearestUnits_self (representable_scaled short (by omega))]
  have large : 2 ^ 53 < s + 2 ^ (1073 - g) := by
    have : (0 : Int) < 2 ^ (1073 - g) := Int.pow_pos (by decide)
    omega
  have above : 2 ^ 53 * 2 ^ g < s * 2 ^ g + unitsPerHalf := by
    rw [sum]
    exact Int.mul_lt_mul_of_pos_right large step
  have below : s * 2 ^ g < 2 ^ 53 * 2 ^ g := Int.mul_lt_mul_of_pos_right (by omega) step
  by_cases negative : s < 0
  · have zero : (0 : Int) < 2 ^ 53 * 2 ^ g := Int.mul_pos (by decide) step
    exact div_nearestUnits_negative (by omega)
      (Int.mul_nonpos_of_nonpos_of_nonneg negative.le step.le)
  have nonneg : 0 ≤ s * 2 ^ g := Int.mul_nonneg (by omega) step.le
  rcases Nat.lt_trichotomy g 1020 with few | middle | many
  · exact div_nearestUnits_quarter few nonneg below
  · exact div_nearestUnits_last middle nonneg
      (Int.mul_le_mul_of_nonneg_right (by omega) step.le)
  · have fraction : g < 1073 := by
      by_contra full
      rw [show 1073 - g = 0 by omega] at large
      omega
    exact div_nearestUnits_beyond many fraction below above

/-! ## Whole numbers of 53 bits and more -/

theorem unitsOfRank_whole {k : Nat} (low : 2 ^ 52 ≤ k) (high : k ≤ 2 ^ 53) :
    unitsOfRank (1074 * 2 ^ 52 + k) = k * unitsPerOne := by
  generalize same : 1074 = n
  rw [unitsOfRank_scaled low high, unitsPerOne_eq_pow same]

theorem two_pow_eq {g : Nat} (h : 1074 ≤ g) : (2 : Int) ^ g = 2 ^ (g - 1074) * unitsPerOne := by
  exact_mod_cast two_pow_eq_mul h

/-- The middle of two whole numbers of 53 bits is rounded to the even one. -/
theorem nearestRank_middle {k : Nat} (low : 2 ^ 52 ≤ k) (high : k < 2 ^ 53) :
    nearestRank (k * unitsPerOne + unitsPerHalf) 1 = 1074 * 2 ^ 52 + (k + k % 2) := by
  have whole := unitsPerOne_eq_two_mul
  have here := unitsOfRank_whole low high.le
  have next := unitsOfRank_whole (k := k + 1) (by omega) high
  have positive := unitsPerHalf_pos
  rw [Nat.add_mul] at next
  have grows (r : Nat) : unitsOfRank r < unitsOfRank (r + 1) :=
    unitsOfRank_strictMono (Nat.lt_succ_self r)
  have room : 1074 * 2 ^ 52 + (k + k % 2) < Nat.pow 2 63 := by
    have limit : 1074 * 2 ^ 52 + 2 ^ 53 + 2 < Nat.pow 2 63 := by decide
    omega
  rcases Nat.mod_two_eq_zero_or_one k with even | odd
  · rw [even, Nat.add_zero] at room ⊢
    apply nearestRank_eq room Nat.one_pos
    · rintro q hq
      have := grows q
      rw [hq] at this
      omega
    · have next' : unitsOfRank (1074 * 2 ^ 52 + k + 1) =
        unitsOfRank (1074 * 2 ^ 52 + (k + 1)) := rfl
      omega
  · rw [odd] at room ⊢
    apply nearestRank_eq room Nat.one_pos
    · rintro q hq
      obtain rfl : q = 1074 * 2 ^ 52 + k := by omega
      omega
    · have := grows (1074 * 2 ^ 52 + (k + 1))
      omega

theorem div_unitsPerOne (n : Int) : (n * unitsPerOne + unitsPerHalf) / unitsPerOne = n := by
  have whole := whole_eq
  have positive := unitsPerHalf_pos
  rw [Int.ediv_eq_iff_of_pos (by omega)]
  omega

/-- **One half more than a whole number of 53 bits is rounded to the even neighbour.** -/
theorem div_nearestUnits_whole {s : Int} (low : 2 ^ 52 ≤ s.natAbs) (high : s.natAbs < 2 ^ 53) :
    nearestUnits (s * unitsPerOne + unitsPerHalf) / unitsPerOne = s + s % 2 := by
  have whole := whole_eq
  have positive := unitsPerHalf_pos
  have quotient (n : Int) : n * unitsPerOne / unitsPerOne = n := Int.mul_ediv_cancel n (by omega)
  have rounded {k : Nat} (low : 2 ^ 52 ≤ k) (high : k < 2 ^ 53) :
      unitsOfRank (nearestRank (k * unitsPerOne + unitsPerHalf) 1) = (k + k % 2) * unitsPerOne := by
    rw [nearestRank_middle low high, unitsOfRank_whole (by omega) (by omega)]
  by_cases negative : s < 0
  · by_cases first : s = -2 ^ 52
    · -- the magnitudes below this one are halves
      have halves : s * unitsPerOne + unitsPerHalf = (2 * s + 1) * (unitsPerHalf : Int) := by
        rw [whole]
        ring
      rw [nearestUnits_self (halves ▸ representable_halves (by omega)), div_unitsPerOne]
      omega
    · obtain ⟨k, rfl⟩ : ∃ k : Nat, s = -(k + 1 : Int) := ⟨s.natAbs - 1, by omega⟩
      have sum : -(k + 1 : Int) * unitsPerOne + unitsPerHalf =
          -((k * unitsPerOne + unitsPerHalf : Nat) : Int) := by
        push_cast
        rw [whole]
        ring
      have below : -((k * unitsPerOne + unitsPerHalf : Nat) : Int) < 0 := by omega
      rw [sum, nearestUnits, if_pos below, Int.natAbs_neg, Int.natAbs_natCast,
        rounded (by omega) (by omega), Nat.cast_mul, ← Int.neg_mul, quotient]
      omega
  · obtain ⟨k, rfl⟩ : ∃ k : Nat, s = k := ⟨s.natAbs, by omega⟩
    have sum : (k : Int) * unitsPerOne + unitsPerHalf =
        ((k * unitsPerOne + unitsPerHalf : Nat) : Int) := by
      push_cast
      rfl
    rw [Int.natAbs_natCast] at low high
    rw [sum, nearestUnits, if_neg (by omega), Int.natAbs_natCast, rounded low high,
      Nat.cast_mul, quotient]
    omega

/-- A whole number with more bits is nearer to the sum than any other magnitude. -/
theorem nearestRank_beside {f e num : Nat} (low : 2 ^ 52 ≤ f) (high : f < 2 ^ 53) (he : 1074 ≤ e)
    (room : (e + 1) * 2 ^ 52 + f < Nat.pow 2 63)
    (lower : 2 * (f * 2 ^ (e + 1)) ≤ 2 * num + unitsPerOne)
    (upper : 2 * num ≤ 2 * (f * 2 ^ (e + 1)) + unitsPerOne) :
    nearestRank num 1 = (e + 1) * 2 ^ 52 + f := by
  have wide := unitsPerOne_le_pow he
  have positive := unitsPerOne_pos
  have step : 2 ^ (e + 1) = 2 * 2 ^ e := Nat.pow_succ'
  have here := unitsOfRank_scaled low high.le (e + 1)
  have next : unitsOfRank ((e + 1) * 2 ^ 52 + f + 1) = f * 2 ^ (e + 1) + 2 ^ (e + 1) := by
    rw [Nat.add_assoc, unitsOfRank_scaled (f := f + 1) (by omega) high (e + 1), Nat.succ_mul]
  have even : ((e + 1) * 2 ^ 52 + f) % 2 = f % 2 := by omega
  apply nearestRank_eq room Nat.one_pos
  · rintro q hq
    have before := unitsOfRank_before low high hq
    rw [Nat.mul_one, here, even]
    generalize f * 2 ^ (e + 1) = units at *
    omega
  · rw [Nat.mul_one, here, next]
    generalize f * 2 ^ (e + 1) = units at *
    left
    omega

namespace FiniteDouble

variable {x : FiniteDouble}

theorem nearestUnits_beside {f e : Nat} (low : 2 ^ 52 ≤ f) (high : f < 2 ^ 53) (he : 1074 ≤ e)
    (rank : x.rank = (e + 1) * 2 ^ 52 + f) : nearestUnits (x.units + unitsPerHalf) = x.units := by
  have whole := unitsPerOne_eq_two_mul
  have magnitude : unitsOfRank x.rank = f * 2 ^ (e + 1) := by
    rw [rank, unitsOfRank_scaled low high.le]
  have size : x.units.natAbs = unitsOfRank x.rank := x.natAbs_units
  have large : unitsPerOne < unitsOfRank x.rank := by
    have wide : unitsPerOne < 2 ^ (e + 1) :=
      Nat.lt_of_le_of_lt (unitsPerOne_le_pow he) (Nat.pow_lt_pow_right (by decide) (by omega))
    rw [magnitude]
    exact Nat.lt_of_lt_of_le wide (Nat.le_mul_of_pos_left _ (by omega))
  have nearest : nearestRank (x.units + unitsPerHalf).natAbs 1 = x.rank := by
    have room := Nat.lt_trans x.rank_lt rankLimit_lt
    rw [rank] at room ⊢
    apply nearestRank_beside low high he room
    · rw [← magnitude]
      omega
    · rw [← magnitude]
      omega
  unfold nearestUnits
  rw [nearest]
  by_cases negative : x.units < 0
  · rw [if_pos (by omega)]
    omega
  · rw [if_neg (by omega)]
    omega

/-! ## Where rounding goes wrong -/

/-- The values of which one half more is rounded across a whole number: the last one below one half,
and the odd numbers of 53 bits. -/
def Misrounds (x : FiniteDouble) : Prop :=
  x.value = 1 / 2 - 1 / 2 ^ 54 ∨ ∃ n : Int, x.value = n ∧ n % 2 = 1 ∧ 2 ^ 52 < n.natAbs ∧
    n.natAbs < 2 ^ 53

theorem value_eq_below_half : x.value = 1 / 2 - 1 / 2 ^ 54 ↔
    x.units = (2 ^ 53 - 1) * (Nat.pow 2 1020 : Nat) := by
  generalize same : 1020 = g
  have whole : unitsPerOne = 2 ^ 54 * Nat.pow 2 g := by
    rw [unitsPerOne_eq (show g ≤ 1074 by omega), show 1074 - g = 54 by omega, Nat.pow_eq]
  have units : (1 / 2 - 1 / 2 ^ 54 : ℚ) * (unitsPerOne : ℚ) =
      (((2 ^ 53 - 1) * (Nat.pow 2 g : Nat) : Int) : ℚ) := by
    rw [whole]
    push_cast
    ring
  rw [value, div_eq_iff unitsPerOne_ne_zero, units]
  exact Int.cast_inj

theorem value_eq_of_units {n : Int} (h : x.units = n * unitsPerOne) {k : Int} :
    x.value = k ↔ k = n := by
  have positive : (unitsPerOne : Int) ≠ 0 := Int.natCast_ne_zero.mpr unitsPerOne_pos.ne'
  rw [value_eq_intCast, h, Int.mul_eq_mul_right_iff positive]
  exact eq_comm

instance : Decidable x.Misrounds :=
  decidable_of_iff (x.units = (2 ^ 53 - 1) * (Nat.pow 2 1020 : Nat) ∨
    ∃ n ∈ x.toInt?, n % 2 = 1 ∧ 2 ^ 52 < n.natAbs ∧ n.natAbs < 2 ^ 53)
    (or_congr value_eq_below_half.symm (exists_congr fun _ => and_congr_left' toInt?_eq_some))

theorem units_split (x : FiniteDouble) :
    ∃ (s : Int) (g : Nat), x.units = s * 2 ^ g ∧ s.natAbs < 2 ^ 53 ∧
    (g = 0 ∨ 2 ^ 52 ≤ s.natAbs ∧ x.rank = g * 2 ^ 52 + s.natAbs) := by
  obtain ⟨f, g, scaled, high, low⟩ := unitsOfRank_split x.rank
  have magnitude : (x.magnitude : Int) = f * 2 ^ g := by exact_mod_cast scaled
  have low : g = 0 ∨ 2 ^ 52 ≤ f ∧ x.rank = g * 2 ^ 52 + f := low.imp_left And.left
  unfold units
  rw [magnitude]
  by_cases negative : x.negative = true
  · exact ⟨-f, g, by rw [if_pos negative, Int.neg_mul],
      by rwa [Int.natAbs_neg], by rwa [Int.natAbs_neg]⟩
  · exact ⟨f, g, if_neg negative, high, low⟩

section
variable {s : Int} {g : Nat}

theorem natAbs_le_of_small (units : x.units = s * 2 ^ g) (room : s.natAbs < 2 ^ 53)
    (small : g ≤ 1073) {n : Int} (value : x.value = n) : n.natAbs ≤ 2 ^ 52 := by
  have sizes : s.natAbs * 2 ^ g = n.natAbs * unitsPerOne := by
    have natAbs := congrArg Int.natAbs (units.symm.trans (value_eq_intCast.mp value))
    rwa [Int.natAbs_mul, Int.natAbs_pow, Int.natAbs_mul, Int.natAbs_natCast] at natAbs
  have wide : 2 * 2 ^ g ≤ unitsPerOne := by
    rw [unitsPerOne_eq (show g + 1 ≤ 1074 by omega), ← Nat.pow_succ']
    exact Nat.le_mul_of_pos_left _ (Nat.two_pow_pos _)
  have twice : n.natAbs * 2 * 2 ^ g ≤ s.natAbs * 2 ^ g := by
    rw [sizes, Nat.mul_assoc]
    exact Nat.mul_le_mul_left _ wide
  have := Nat.le_of_mul_le_mul_right twice (Nat.two_pow_pos g)
  omega

theorem roundHalfUp_small (units : x.units = s * 2 ^ g) (room : s.natAbs < 2 ^ 53)
    (small : g ≤ 1073) :
    (Double.finite x).roundHalfUp = ⌊x.value + 1 / 2⌋ + if x.Misrounds then 1 else 0 := by
  rw [roundHalfUp_eq, floor_value_add_half]
  by_cases below : x.value = 1 / 2 - 1 / 2 ^ 54
  · have crosses : nearestUnits ((2 ^ 53 - 1) * (Nat.pow 2 1020 : Nat) + unitsPerHalf) /
        unitsPerOne =
        ((2 ^ 53 - 1) * (Nat.pow 2 1020 : Nat) + unitsPerHalf) / unitsPerOne + 1 := by
          decide +kernel
    have misrounds : x.Misrounds := .inl below
    rw [value_eq_below_half.mp below, if_pos misrounds]
    exact crosses
  · have other : ¬ (g = 1020 ∧ s = 2 ^ 53 - 1) := by
      rintro ⟨power, rfl⟩
      apply below
      rw [value_eq_below_half, units, ← power, Nat.pow_eq, Nat.cast_pow, Nat.cast_ofNat]
    have regular : ¬ x.Misrounds := by
      rintro (half | ⟨n, value, -, large, -⟩)
      · exact below half
      · have := natAbs_le_of_small units room small value
        omega
    rw [units, div_nearestUnits_small room small other, if_neg regular, Int.add_zero]

theorem misrounds_whole {n : Int} (units : x.units = n * unitsPerOne) :
    x.Misrounds ↔ n % 2 = 1 ∧ 2 ^ 52 < n.natAbs ∧ n.natAbs < 2 ^ 53 := by
  have whole {k : Int} : x.value = k ↔ k = n := value_eq_of_units units
  have below : x.value ≠ 1 / 2 - 1 / 2 ^ 54 := by
    intro half
    rw [whole.mpr rfl] at half
    have positive : (0 : ℚ) < n := by
      rw [half]
      norm_num
    have small : (n : ℚ) < 1 := by
      rw [half]
      norm_num
    norm_cast at positive small
    omega
  unfold Misrounds
  rw [or_iff_right below]
  simp only [whole, exists_eq_left]

end

/-- **Adding one half as a double and rounding down is rounding half up, except where the sum goes
wrong: there the result is one more.** -/
theorem roundHalfUp_finite (x : FiniteDouble) :
    (Double.finite x).roundHalfUp = ⌊x.value + 1 / 2⌋ + if x.Misrounds then 1 else 0 := by
  obtain ⟨s, g, units, high, low⟩ := x.units_split
  by_cases small : g ≤ 1073
  · exact roundHalfUp_small units high small
  obtain ⟨least, rank⟩ := low.resolve_left (by omega)
  rw [roundHalfUp_eq, floor_value_add_half]
  by_cases single : g = 1074
  · -- the factor is the value
    have factor : x.units = s * unitsPerOne := by
      rw [units, two_pow_eq (by omega), single, Nat.sub_self, Int.pow_zero, Int.one_mul]
    rw [factor, div_nearestUnits_whole least high, div_unitsPerOne]
    simp only [misrounds_whole factor]
    split_ifs <;> omega
  · -- the value is even
    have factor : x.units = 2 * (s * 2 ^ (g - 1075)) * unitsPerOne := by
      rw [units, two_pow_eq (by omega), show g - 1074 = g - 1075 + 1 by omega, Int.pow_succ]
      ring
    have regular : ¬ x.Misrounds := by
      rw [misrounds_whole factor, Int.mul_emod_right]
      rintro ⟨odd, -⟩
      cases odd
    have near : nearestUnits (x.units + unitsPerHalf) = x.units := by
      obtain ⟨e, rfl⟩ : ∃ e, g = e + 1 := ⟨g - 1, by omega⟩
      exact nearestUnits_beside least high (by omega) rank
    have whole : (unitsPerOne : Int) ≠ 0 := Int.natCast_ne_zero.mpr unitsPerOne_pos.ne'
    rw [near, factor, div_unitsPerOne, Int.mul_ediv_cancel _ whole, if_neg regular, Int.add_zero]

end FiniteDouble

end SceneSketch
