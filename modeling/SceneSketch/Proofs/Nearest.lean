import Mathlib.Tactic.Ring
import SceneSketch.Proofs.Rounding

/-!
# The nearest magnitude

Rounding leaves magnitudes as they are, keeps their order, and depends on nothing but the ratio that
is rounded. A multiple of a power of two is a magnitude if the factor has at most 53 bits
(`exists_unitsOfRank`), and each magnitude is of this form (`unitsOfRank_split`).
-/

namespace SceneSketch

section
variable {num den r : Nat}

theorem le_nearestRank (hr : r < Nat.pow 2 63) (h : unitsOfRank r * den ≤ num) :
    r ≤ nearestRank num den := by
  obtain ⟨below, -, largest, nearest⟩ := nearestRank_cases num den
  have hbelow := largest r hr h
  rw [nearest]
  split_ifs <;> omega

theorem nearestRank_le (hden : 0 < den) (h : num ≤ unitsOfRank r * den) :
    nearestRank num den ≤ r := by
  obtain ⟨below, passes, -, nearest⟩ := nearestRank_cases num den
  rw [nearest]
  rcases Nat.lt_trichotomy below r with lower | rfl | higher
  · split_ifs <;> omega
  · -- the ratio is this magnitude
    have step : unitsOfRank below * den < unitsOfRank (below + 1) * den :=
      Nat.mul_lt_mul_of_pos_right (unitsOfRank_strictMono (Nat.lt_succ_self below)) hden
    rw [if_pos (by rw [Nat.add_mul]; omega)]
  · have step : unitsOfRank r * den < unitsOfRank below * den :=
      Nat.mul_lt_mul_of_pos_right (unitsOfRank_strictMono higher) hden
    omega

/-- **A magnitude is rounded to itself.** -/
theorem nearestRank_self (hr : r < Nat.pow 2 63) (hden : 0 < den) :
    nearestRank (unitsOfRank r * den) den = r :=
  Nat.le_antisymm (nearestRank_le hden (Nat.le_refl _)) (le_nearestRank hr (Nat.le_refl _))

/-- **A number is rounded to a magnitude if it lies between the middles on both sides**, of which an
even rank includes the ends. -/
theorem nearestRank_eq (hr : r < Nat.pow 2 63) (hden : 0 < den)
    (lower : ∀ q, q + 1 = r → (unitsOfRank q + unitsOfRank r) * den < 2 * num ∨
      (unitsOfRank q + unitsOfRank r) * den = 2 * num ∧ r % 2 = 0)
    (upper : 2 * num < (unitsOfRank r + unitsOfRank (r + 1)) * den ∨
      2 * num = (unitsOfRank r + unitsOfRank (r + 1)) * den ∧ r % 2 = 0) :
      nearestRank num den = r := by
  have step (q : Nat) : unitsOfRank q * den < unitsOfRank (q + 1) * den :=
    Nat.mul_lt_mul_of_pos_right (unitsOfRank_strictMono (Nat.lt_succ_self q)) hden
  obtain ⟨below, passes, largest, nearest⟩ := nearestRank_cases num den
  rw [Nat.add_mul] at upper nearest
  have next := step r
  by_cases reached : unitsOfRank r * den ≤ num
  · have hbelow : below = r := by
      have least := largest r hr reached
      by_contra other
      have beyond : unitsOfRank (r + 1) * den ≤ unitsOfRank below * den :=
        Nat.mul_le_mul_right den (unitsOfRank_strictMono.monotone (by omega))
      omega
    subst hbelow
    rw [nearest]
    split_ifs <;> omega
  · cases r with
    | zero =>
      have zero : unitsOfRank 0 * den = 0 := Nat.zero_mul den
      omega
    | succ q =>
      have before := lower q rfl
      rw [Nat.add_mul] at before
      have hbelow : below = q := by
        have least := largest q (by omega) (by have := step q; omega)
        by_contra other
        have beyond : unitsOfRank (q + 1) * den ≤ unitsOfRank below * den :=
          Nat.mul_le_mul_right den (unitsOfRank_strictMono.monotone (by omega))
        omega
      subst hbelow
      rw [nearest]
      split_ifs <;> omega

theorem nearestRank_congr {num' den' : Nat} (hden : 0 < den) (hden' : 0 < den')
    (h : num * den' = num' * den) :
    nearestRank num den = nearestRank num' den' := by
  have scaled (a b : Nat) : a * den * den' = a * den' * den ∧ b * num * den' = b * num' * den := by
    refine ⟨Nat.mul_right_comm a den den', ?_⟩
    rw [Nat.mul_assoc, h, Nat.mul_assoc]
  have below (a b : Nat) : a * den ≤ b * num ↔ a * den' ≤ b * num' := by
    rw [← Nat.mul_le_mul_right_iff hden', (scaled a b).1, (scaled a b).2,
      Nat.mul_le_mul_right_iff hden]
  have above (a b : Nat) : b * num ≤ a * den ↔ b * num' ≤ a * den' := by
    rw [← Nat.mul_le_mul_right_iff hden', (scaled a b).1, (scaled a b).2,
      Nat.mul_le_mul_right_iff hden]
  have passes : (fun r => decide (unitsOfRank r * den ≤ num)) = fun r =>
      decide (unitsOfRank r * den' ≤ num') := by
    funext r
    have same := below (unitsOfRank r) 1
    rw [Nat.one_mul, Nat.one_mul] at same
    rw [decide_eq_decide]
    exact same
  unfold nearestRank
  simp only [passes, ← Nat.not_le, below, above]

end

/-! ## Factors of 53 bits -/

theorem unitsOfRank_small {f : Nat} (h : f ≤ 2 ^ 53) : unitsOfRank f = f := by
  have binade : Nat.pow 2 52 = 2 ^ 52 := rfl
  unfold unitsOfRank
  simp only [binade]
  by_cases small : f < 2 ^ 52
  · rw [if_pos small]
  rw [if_neg small]
  by_cases last : f = 2 ^ 53
  · subst last
    rfl
  · have quotient : f / 2 ^ 52 = 1 := by omega
    have remainder : f % 2 ^ 52 = f - 2 ^ 52 := by omega
    have one : Nat.pow 2 0 = 1 := rfl
    rw [quotient, remainder, Nat.sub_self, one]
    omega

/-- The magnitudes of one binade have equal steps, up to the first one of the next binade. -/
theorem unitsOfRank_scaled {f : Nat} (low : 2 ^ 52 ≤ f) (high : f ≤ 2 ^ 53) (g : Nat) :
    unitsOfRank (g * 2 ^ 52 + f) = f * 2 ^ g := by
  have binade : Nat.pow 2 52 = 2 ^ 52 := rfl
  have large : ¬ g * 2 ^ 52 + f < 2 ^ 52 := by omega
  unfold unitsOfRank
  simp only [binade]
  rw [if_neg large]
  by_cases last : f = 2 ^ 53
  · have quotient : (g * 2 ^ 52 + f) / 2 ^ 52 = g + 2 := by omega
    have remainder : (g * 2 ^ 52 + f) % 2 ^ 52 = 0 := by omega
    rw [quotient, remainder, last]
    change (2 ^ 52 + 0) * 2 ^ (g + 1) = 2 ^ 53 * 2 ^ g
    ring
  · have quotient : (g * 2 ^ 52 + f) / 2 ^ 52 = g + 1 := by omega
    have remainder : (g * 2 ^ 52 + f) % 2 ^ 52 = f - 2 ^ 52 := by omega
    rw [quotient, remainder, Nat.add_sub_cancel' low]
    rfl

/-- Below a power of two the steps are half as wide. -/
theorem unitsOfRank_before {f e q : Nat} (low : 2 ^ 52 ≤ f) (high : f < 2 ^ 53)
    (hq : q + 1 = (e + 1) * 2 ^ 52 + f) :
    unitsOfRank q + 2 ^ e < f * 2 ^ (e + 1) ∨ unitsOfRank q + 2 ^ e = f * 2 ^ (e + 1) ∧
      f % 2 = 0 := by
  have step : 2 ^ (e + 1) = 2 * 2 ^ e := Nat.pow_succ'
  by_cases first : f = 2 ^ 52
  · have before := unitsOfRank_scaled (f := 2 ^ 53 - 1) (by decide) (by decide) e
    have here : q = e * 2 ^ 52 + (2 ^ 53 - 1) := by omega
    rw [here, before, first, step]
    generalize 2 ^ e = p
    omega
  · have before := unitsOfRank_scaled (f := f - 1) (by omega) (by omega) (e + 1)
    have here : q = (e + 1) * 2 ^ 52 + (f - 1) := by omega
    have least : 2 ^ (e + 1) ≤ f * 2 ^ (e + 1) := Nat.le_mul_of_pos_left _ (by omega)
    have positive := Nat.two_pow_pos e
    rw [here, before, Nat.sub_mul, Nat.one_mul]
    generalize f * 2 ^ (e + 1) = F at *
    left
    omega

theorem unitsOfRank_split (r : Nat) : ∃ f g, unitsOfRank r = f * 2 ^ g ∧ f < 2 ^ 53 ∧
    (g = 0 ∧ r = f ∨ 2 ^ 52 ≤ f ∧ r = g * 2 ^ 52 + f) := by
  by_cases small : r < 2 ^ 53
  · exact ⟨r, 0, by rw [unitsOfRank_small small.le, Nat.pow_zero, Nat.mul_one],
      small, .inl ⟨rfl, rfl⟩⟩
  · have low : 2 ^ 52 ≤ 2 ^ 52 + r % 2 ^ 52 := Nat.le_add_right _ _
    have rank : r = (r / 2 ^ 52 - 1) * 2 ^ 52 + (2 ^ 52 + r % 2 ^ 52) := by omega
    refine ⟨2 ^ 52 + r % 2 ^ 52, r / 2 ^ 52 - 1, ?_, by omega, .inr ⟨low, rank⟩⟩
    conv_lhs => rw [rank]
    exact unitsOfRank_scaled low (by omega) _

/-- **A factor of at most 53 bits times a power of two is a magnitude.** -/
theorem exists_unitsOfRank {f : Nat} (h : f ≤ 2 ^ 53) (g : Nat) :
    ∃ r ≤ g * 2 ^ 52 + 2 ^ 53, unitsOfRank r = f * 2 ^ g := by
  induction g generalizing f with
  | zero => exact ⟨f, by omega, by rw [unitsOfRank_small h, Nat.pow_zero, Nat.mul_one]⟩
  | succ g ih =>
    by_cases low : 2 ^ 52 ≤ f
    · exact ⟨(g + 1) * 2 ^ 52 + f, by omega, unitsOfRank_scaled low h (g + 1)⟩
    · -- a shorter factor is doubled
      obtain ⟨r, bound, hr⟩ := ih (f := 2 * f) (by omega)
      refine ⟨r, bound.trans (Nat.add_le_add_right (Nat.mul_le_mul_right _ (Nat.le_succ g)) _), ?_⟩
      rw [hr, Nat.pow_succ]
      ring

end SceneSketch
