import SceneSketch.Number.Double

/-!
# Decimal numbers

A decimal is a sign, a coefficient and a power of ten; its double is the nearest one. The
second half reads the numeral grammar that is shared by number strings and documents.
-/

namespace SceneSketch

/-- The number `coefficient * 10 ^ exponent` with a sign. -/
structure Decimal where
  negative : Bool
  coefficient : Nat
  exponent : Int
deriving DecidableEq

def decimalDigits (n : Nat) : List Char :=
  Nat.toDigits 10 n

namespace Decimal

/-- The nearest double. Beyond `10 ^ 400` on either side the answer is infinity or zero, and no
power of ten is computed. -/
def toDouble (d : Decimal) : Double :=
  let size := ((decimalDigits d.coefficient).length : Int) + d.exponent
  if d.coefficient = 0 || size < -400 then Double.ofUnits d.negative 0 1
  else if 400 < size then .infinite d.negative
  else Double.ofUnits d.negative
    (d.coefficient * Nat.pow 10 d.exponent.toNat * unitsPerOne) (Nat.pow 10 (-d.exponent).toNat)

/-! ## Numerals -/

def takeSign : List Char → Bool × List Char
  | '-' :: rest => (true, rest)
  | '+' :: rest => (false, rest)
  | rest => (false, rest)

/-- A nonempty run of digits that makes up the whole text. -/
def wholeNat? (cs : List Char) : Option Nat :=
  if cs ≠ [] ∧ cs.all Char.isDigit then some (Nat.ofDigitChars 10 cs 0) else none

/-- An exponent part that makes up the whole text: nothing, or `e` and a signed number. -/
def exponentPart? : List Char → Option Int
  | [] => some 0
  | c :: rest =>
    if c = 'e' ∨ c = 'E' then
      let (negative, digits) := takeSign rest
      (wholeNat? digits).map fun n => if negative then -(n : Int) else n
    else none

/-- A numeral: digits, optionally a point and digits with at least one digit in all, optionally
an exponent. -/
def unsigned? (negative : Bool) (cs : List Char) : Option Decimal :=
  let whole := cs.takeWhile Char.isDigit
  let rest := cs.dropWhile Char.isDigit
  let (fraction, rest) := match rest with
    | '.' :: r => (r.takeWhile Char.isDigit, r.dropWhile Char.isDigit)
    | r => ([], r)
  if whole = [] ∧ fraction = [] then none
  else (exponentPart? rest).map fun e =>
    ⟨negative, Nat.ofDigitChars 10 (whole ++ fraction) 0, e - fraction.length⟩

end Decimal

namespace Double

instance : OfScientific Double where
  ofScientific m down e := Decimal.toDouble ⟨false, m, if down then -(e : Int) else e⟩

/-- The names of the values that have no numeral, in small letters. -/
def named? (negative : Bool) (word : List Char) : Option Double :=
  if word = ['i', 'n', 'f'] ∨ word = ['i', 'n', 'f', 'i', 'n', 'i', 't', 'y'] then
    some (.infinite negative)
  else if word = ['n', 'a', 'n'] then some .nan
  else none

/-- A numeral or a name in any case, with an optional sign. -/
def parse? (cs : List Char) : Option Double :=
  let (negative, rest) := Decimal.takeSign cs
  match named? negative (rest.map Char.toLower) with
  | some x => some x
  | none => (Decimal.unsigned? negative rest).map Decimal.toDouble

end Double

end SceneSketch
