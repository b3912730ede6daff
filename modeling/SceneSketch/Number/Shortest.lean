import SceneSketch.Number.Decimal

/-!
# Shortest decimals

The decimal of a finite value is the one with the fewest digits that reads back as the value,
and of those the nearest.
-/

namespace SceneSketch

namespace FiniteDouble

/-- The least `k` with the value below `10 ^ k`. -/
def decimalOrder (x : FiniteDouble) : Int :=
  if unitsPerOne ≤ x.magnitude then (decimalDigits (x.magnitude / unitsPerOne)).length
  else 1 - (decimalDigits ((unitsPerOne - 1) / x.magnitude)).length

/-- The two neighbours of the value on the grid of step `10 ^ exponent`, the nearer first and
the even one first when both are equally near. -/
def gridNeighbours (x : FiniteDouble) (exponent : Int) : List Decimal :=
  let num := x.magnitude * Nat.pow 10 (-exponent).toNat
  let den := unitsPerOne * Nat.pow 10 exponent.toNat
  let below := num / den
  let twice := 2 * (num % den)
  let low : Decimal := ⟨x.negative, below, exponent⟩
  let high : Decimal := ⟨x.negative, below + 1, exponent⟩
  if twice < den ∨ (twice = den ∧ below % 2 = 0) then [low, high] else [high, low]

def exactDecimal (x : FiniteDouble) : Decimal :=
  ⟨x.negative, x.magnitude * Nat.pow 5 1074, -1074⟩

def shortest (x : FiniteDouble) : Decimal :=
  let candidates := (List.range 17).flatMap fun n : Nat =>
    x.gridNeighbours (x.decimalOrder - (n + 1))
  (candidates.find? fun d => d.toDouble = .finite x).getD x.exactDecimal

end FiniteDouble

end SceneSketch
