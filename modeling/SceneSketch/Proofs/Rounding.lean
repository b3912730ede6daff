import Mathlib.Order.Monotone.Basic
import Mathlib.Tactic.SplitIfs
import SceneSketch.Number.Double

/-!
# When a result is too large

The search for the nearest magnitude finds the largest rank that is not above it
(`nearestRank_lt_rankLimit`). So a result is finite exactly if it is below the middle between the
greatest finite magnitude and the one that would follow it, since the middle itself is rounded to
the even rank (`isFinite_ofUnits`).
-/

namespace SceneSketch

/-! ## Magnitudes -/

theorem unitsOfRank_strictMono : StrictMono unitsOfRank := by
  refine strictMono_nat_of_lt_succ fun rank => ?_
  have binade : Nat.pow 2 52 = 4503599627370496 := rfl
  unfold unitsOfRank
  simp only [binade]
  by_cases small : rank + 1 < 4503599627370496
  · rw [if_pos small, if_pos (Nat.lt_of_succ_lt small)]
    exact Nat.lt_succ_self rank
  rw [if_neg small]
  by_cases last : rank < 4503599627370496
  · obtain rfl : rank = 4503599627370495 := by omega
    decide
  rw [if_neg last]
  by_cases carries : rank % 4503599627370496 = 4503599627370495
  · -- the rank is the last one of its binade, so the next one doubles the step
    obtain ⟨e, he⟩ : ∃ e, rank / 4503599627370496 = e + 1 := ⟨rank / 4503599627370496 - 1, by omega⟩
    have quotient : (rank + 1) / 4503599627370496 = e + 2 := by omega
    have remainder : (rank + 1) % 4503599627370496 = 0 := by omega
    have step : 0 < Nat.pow 2 e := Nat.pow_pos (by decide)
    have double : Nat.pow 2 (e + 1) = 2 * Nat.pow 2 e := Nat.pow_succ'
    rw [he, quotient, remainder, carries, Nat.add_sub_cancel,
      show e + 2 - 1 = e + 1 from rfl, double]
    omega
  · have quotient : (rank + 1) / 4503599627370496 = rank / 4503599627370496 := by omega
    have remainder : (rank + 1) % 4503599627370496 = rank % 4503599627370496 + 1 := by omega
    rw [quotient, remainder]
    exact Nat.mul_lt_mul_of_pos_right (by omega) (Nat.pow_pos (by decide))

/-! ## The search -/

theorem largestPassing_spec {p : Nat → Bool}
    (closed : ∀ {a b : Nat}, a ≤ b → p b = true → p a = true) :
    ∀ (bits r : Nat), p r = true →
      let found := largestPassing p bits r
      p found = true ∧ ∀ x < r + Nat.pow 2 bits, p x = true → x ≤ found
  | 0, r, hr => ⟨hr, fun x hx _ => Nat.le_of_lt_succ hx⟩
  | bits + 1, r, hr => by
    have double : Nat.pow 2 (bits + 1) = 2 * Nat.pow 2 bits := Nat.pow_succ'
    rw [largestPassing]
    dsimp only
    by_cases next : p (r + Nat.pow 2 bits) = true
    · rw [if_pos next]
      obtain ⟨passes, largest⟩ := largestPassing_spec closed bits _ next
      exact ⟨passes, fun x hx => largest x (by omega)⟩
    · rw [if_neg next]
      obtain ⟨passes, largest⟩ := largestPassing_spec closed bits r hr
      refine ⟨passes, fun x _ hp => largest x ?_ hp⟩
      by_contra beyond
      exact next (closed (by omega) hp)

/-- The search ends at the largest rank that is not above, and a tie goes to the even rank. -/
theorem nearestRank_cases (num den : Nat) : ∃ below, unitsOfRank below * den ≤ num ∧
    (∀ r < Nat.pow 2 63, unitsOfRank r * den ≤ num → r ≤ below) ∧
    nearestRank num den =
      if 2 * num < (unitsOfRank below + unitsOfRank (below + 1)) * den then below
      else if (unitsOfRank below + unitsOfRank (below + 1)) * den < 2 * num then below + 1
      else below + below % 2 := by
  have closed {a b : Nat} (h : a ≤ b) (hb : decide (unitsOfRank b * den ≤ num) = true) :
      decide (unitsOfRank a * den ≤ num) = true := by
    have grows : unitsOfRank a * den ≤ unitsOfRank b * den :=
      Nat.mul_le_mul_right den (unitsOfRank_strictMono.monotone h)
    exact decide_eq_true (grows.trans (of_decide_eq_true hb))
  have start : decide (unitsOfRank 0 * den ≤ num) = true :=
    decide_eq_true ((Nat.zero_mul den).trans_le num.zero_le)
  obtain ⟨passes, largest⟩ := largestPassing_spec closed 63 0 start
  refine ⟨_, of_decide_eq_true passes, ?_, rfl⟩
  intro r hr h
  rw [Nat.zero_add] at largest
  exact largest r hr (decide_eq_true h)

/-! ## Overflow -/

/-- The least number of units that is too large for a finite number, `2 ^ 1024 - 2 ^ 970`. -/
def leastOverflow : Nat :=
  (Nat.pow 2 54 - 1) * Nat.pow 2 970 * unitsPerOne

theorem unitsOfRank_limit :
    unitsOfRank (rankLimit - 1) + unitsOfRank rankLimit = 2 * leastOverflow := by
  decide +kernel

/-- **A rounded magnitude is finite exactly if it was below the least overflow.** -/
theorem nearestRank_lt_rankLimit {num den : Nat} :
    nearestRank num den < rankLimit ↔ num < leastOverflow * den := by
  have grows {a b : Nat} (h : a ≤ b) : unitsOfRank a * den ≤ unitsOfRank b * den :=
    Nat.mul_le_mul_right den (unitsOfRank_strictMono.monotone h)
  have middle : unitsOfRank (rankLimit - 1) * den + unitsOfRank rankLimit * den =
      2 * (leastOverflow * den) := by
    rw [← Nat.add_mul, unitsOfRank_limit, Nat.mul_assoc]
  have order : unitsOfRank (rankLimit - 1) * den ≤ unitsOfRank rankLimit * den :=
    grows (Nat.sub_le rankLimit 1)
  have last : rankLimit - 1 + 1 = rankLimit ∧ (rankLimit - 1) % 2 = 1 := by decide
  obtain ⟨below, passes, largest, nearest⟩ := nearestRank_cases num den
  rw [nearest, Nat.add_mul]
  rcases Nat.lt_trichotomy below (rankLimit - 1) with lower | rfl | higher
  · have room : rankLimit < Nat.pow 2 63 := by decide
    have under : num < unitsOfRank (below + 1) * den := by
      by_contra reached
      have := largest (below + 1) (by omega) (Nat.le_of_not_lt reached)
      omega
    have bound : unitsOfRank (below + 1) * den ≤ unitsOfRank (rankLimit - 1) * den := grows lower
    refine iff_of_true ?_ (by omega)
    split_ifs <;> omega
  · rw [last.1, middle]
    split_ifs <;> omega
  · have bound : unitsOfRank rankLimit * den ≤ unitsOfRank below * den := grows (by omega)
    refine iff_of_false ?_ (by omega)
    split_ifs <;> omega

/-! ## Results -/

theorem FiniteDouble.units_negated (x : FiniteDouble) :
    units ⟨!x.negative, x.rank, x.rank_lt⟩ = -x.units := by
  change (if !x.negative then -(x.magnitude : Int) else x.magnitude) =
    -(if x.negative then -(x.magnitude : Int) else x.magnitude)
  cases x.negative <;> simp

namespace Double

theorem isFinite_ofUnits {negative : Bool} {num den : Nat} :
    (ofUnits negative num den).isFinite = true ↔ num < leastOverflow * den := by
  rw [← nearestRank_lt_rankLimit]
  unfold ofUnits
  dsimp only
  split
  · next h => exact iff_of_true rfl h
  · next h => exact iff_of_false Bool.false_ne_true h

theorem sub_finite (x y : FiniteDouble) :
    finite x - finite y = addFinite x ⟨!y.negative, y.rank, y.rank_lt⟩ := by
  change Double.sub (finite x) (finite y) = _
  rw [sub, neg, add]

/-- **A difference is finite exactly if it is less than the least overflow.** -/
theorem isFinite_sub (x y : FiniteDouble) :
    (finite x - finite y).isFinite = true ↔ (x.units - y.units).natAbs < leastOverflow := by
  rw [sub_finite, addFinite, FiniteDouble.units_negated, ← Int.sub_eq_add_neg]
  dsimp only
  rw [isFinite_ofUnits, Nat.mul_one]

end Double

end SceneSketch
