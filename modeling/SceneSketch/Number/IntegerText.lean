import SceneSketch.Number.Decimal
import SceneSketch.Text.Blank

/-!
# Integer text

An integer stands between white space: a sign, digits with single underscores between them, and
maybe a point with one or more zeros after it. Zeros in front and the underscores among them are
dropped first; what stands behind such zeros may begin with a minus sign, as long as there is none
before them. An integer has a greatest number of digits; a text that begins with more of them, with
nothing to drop before, is told apart from one that is malformed.
-/

namespace SceneSketch.IntegerText

inductive Fault
  | malformed
  | tooLong
deriving DecidableEq

def maxDigits : Nat := 4300

/-- What follows zeros and underscores, of which `latest` comes last. Before a point it stays, and
at the end of the text, where an underscore is no integer. -/
def behindZeros? (latest : Char) : List Char → Option (List Char)
  | [] => some [latest]
  | c :: rest =>
    if c = '0' ∨ c = '_' then behindZeros? c rest
    else if c = '.' then some (latest :: c :: rest)
    else if c.isDigit ∨ c = '-' then some (c :: rest)
    else none

/-- A text that begins with a digit, without the zeros in front of it. -/
def dropZeros? : List Char → Option (List Char)
  | [] => none
  | c :: rest =>
    if c = '0' then behindZeros? c rest
    else if c.isDigit then some (c :: rest)
    else none

/-- Drops a point with nothing but zeros, at least one, after it. -/
def dropFraction (cs : List Char) : List Char :=
  let fraction := (cs.dropWhile (· ≠ '.')).drop 1
  if fraction ≠ [] ∧ fraction.all (· = '0') then cs.takeWhile (· ≠ '.') else cs

def dropUnderscores? (cs : List Char) : Option (List Char) :=
  let groups := cs.splitOn '_'
  if groups.all (· ≠ []) then some groups.flatten else none

def takeMinus : List Char → Bool × List Char
  | '-' :: rest => (true, rest)
  | cs => (false, cs)

/-- A text begins with too many digits, the first of which is not zero, behind a minus sign or
none. -/
def beginsTooLong (cs : List Char) : Bool :=
  let digits := (takeMinus cs).2.takeWhile Char.isDigit
  digits.head? ≠ some '0' && maxDigits < digits.length

/-- An integer with a minus sign or none, not too many digits and no superfluous zero. -/
def ofDigits? (cs : List Char) : Option Int :=
  let (negative, digits) := takeMinus cs
  if digits = [] ∨ ¬ digits.all Char.isDigit ∨ maxDigits < digits.length
      ∨ (digits.head? = some '0' ∧ digits.length ≠ 1) then none
  else
    let n : Int := Nat.ofDigitChars 10 digits 0
    some (if negative then -n else n)

/-- The integer of a text after everything is dropped that may be dropped. -/
def clean? (cs : List Char) : Option Int :=
  let (negative, cs) := Decimal.takeSign (trimEnds isSpaceChar cs)
  ((dropZeros? cs).bind fun cs => dropUnderscores? (dropFraction cs)).bind fun cs =>
    ofDigits? (if negative then '-' :: cs else cs)

def parse (s : String) : Except Fault Int :=
  if beginsTooLong s.toList then .error .tooLong
  else
    match clean? s.toList with
    | some n => .ok n
    | none => .error .malformed

end SceneSketch.IntegerText
