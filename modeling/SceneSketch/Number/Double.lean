/-!
# Double-precision numbers

Every number of a scene is a binary64 value. Finite magnitudes are numbered in increasing order
by their *rank*, and each is a whole number of *units*, the smallest positive magnitude
`2 ^ (-1074)`. Arithmetic is exact on units and then rounds once, to the nearest magnitude and
on a tie to the one of even rank.
-/

namespace SceneSketch

/-! ## Ranks and units -/

/-- The rank of the first magnitude that is too large for a finite number. -/
abbrev rankLimit : Nat := 2047 * Nat.pow 2 52

def unitsPerOne : Nat := Nat.pow 2 1074

/-- The magnitude of a rank in units; it grows strictly with the rank. -/
def unitsOfRank (rank : Nat) : Nat :=
  let binade := Nat.pow 2 52
  if rank < binade then rank else (binade + rank % binade) * Nat.pow 2 (rank / binade - 1)

/-- The largest number below `r + 2 ^ bits` that passes `p`, when `p` holds of `r` and is closed
downwards. -/
def largestPassing (p : Nat → Bool) : Nat → Nat → Nat
  | 0, r => r
  | bits + 1, r =>
    let next := r + Nat.pow 2 bits
    largestPassing p bits (if p next then next else r)

/-- The rank whose magnitude is nearest to `num / den` units, of two the even one. -/
def nearestRank (num den : Nat) : Nat :=
  let below := largestPassing (fun r => unitsOfRank r * den ≤ num) 63 0
  let sum := (unitsOfRank below + unitsOfRank (below + 1)) * den
  if 2 * num < sum then below
  else if sum < 2 * num then below + 1
  else below + below % 2

/-! ## Values -/

/-- A finite binary64 value; zero has a sign. -/
structure FiniteDouble where
  negative : Bool
  rank : Nat
  rank_lt : rank < rankLimit
deriving DecidableEq

inductive Double
  | nan
  | infinite (negative : Bool)
  | finite (value : FiniteDouble)
deriving DecidableEq

namespace FiniteDouble

def magnitude (x : FiniteDouble) : Nat :=
  unitsOfRank x.rank

/-- The value in units, zero of either sign being zero. -/
def units (x : FiniteDouble) : Int :=
  if x.negative then -(x.magnitude : Int) else x.magnitude

def toInt? (x : FiniteDouble) : Option Int :=
  if x.magnitude % unitsPerOne = 0 then
    some (if x.negative then -((x.magnitude / unitsPerOne : Nat) : Int)
      else ((x.magnitude / unitsPerOne : Nat) : Int))
  else none

end FiniteDouble

namespace Double

/-- The value of that sign nearest to `num / den` units. -/
def ofUnits (negative : Bool) (num den : Nat) : Double :=
  let rank := nearestRank num den
  if h : rank < rankLimit then .finite ⟨negative, rank, h⟩ else .infinite negative

def ofInt (n : Int) : Double :=
  ofUnits (decide (n < 0)) (n.natAbs * unitsPerOne) 1

instance (n : Nat) : OfNat Double n := ⟨ofInt n⟩

def isFinite : Double → Bool
  | finite _ => true
  | _ => false

def ofInt? (n : Int) : Option Double :=
  let x := ofInt n
  if x.isFinite then some x else none

def isZero : Double → Bool
  | finite x => x.rank = 0
  | _ => false

def toInt? : Double → Option Int
  | finite x => x.toInt?
  | _ => none

def isPositive : Double → Bool
  | nan => false
  | infinite negative => !negative
  | finite x => !x.negative && 0 < x.rank

/-- At most zero; what is no number is neither that nor positive. -/
def isNonpositive : Double → Bool
  | nan => false
  | infinite negative => negative
  | finite x => x.negative || x.rank = 0

def neg : Double → Double
  | nan => nan
  | infinite negative => infinite !negative
  | finite x => finite { x with negative := !x.negative }

def abs : Double → Double
  | nan => nan
  | infinite _ => infinite false
  | finite x => finite { x with negative := false }

/-- A sum of finite values that is exactly zero is negative only if both are. -/
def addFinite (x y : FiniteDouble) : Double :=
  let sum := x.units + y.units
  let negative := if sum = 0 then x.negative && y.negative else decide (sum < 0)
  ofUnits negative sum.natAbs 1

def add : Double → Double → Double
  | finite x, finite y => addFinite x y
  | infinite a, infinite b => if a = b then infinite a else nan
  | infinite a, finite _ => infinite a
  | finite _, infinite b => infinite b
  | _, _ => nan

def sub (a b : Double) : Double :=
  a.add b.neg

def mul : Double → Double → Double
  | finite x, finite y =>
    ofUnits (x.negative != y.negative) (x.magnitude * y.magnitude) unitsPerOne
  | infinite a, finite y => if y.rank = 0 then nan else infinite (a != y.negative)
  | finite x, infinite b => if x.rank = 0 then nan else infinite (x.negative != b)
  | infinite a, infinite b => infinite (a != b)
  | _, _ => nan

instance : Neg Double := ⟨neg⟩
instance : Add Double := ⟨add⟩
instance : Sub Double := ⟨sub⟩
instance : Mul Double := ⟨mul⟩

def floor? : Double → Option Int
  | finite x => some (x.units.fdiv unitsPerOne)
  | _ => none

end Double

end SceneSketch
