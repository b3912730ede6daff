import SceneSketch.Number.Shortest

/-!
# Number text

`Double.plainText` is the shortest text that reads back, with `.0` after a whole number and an
exponent outside `10 ^ (-4)` to `10 ^ 16`. `Double.codeText` is the text of a number in sketch
code: a whole number is written out in full, any other number is written as plain text.
-/

namespace SceneSketch

def natText (n : Nat) : String :=
  String.ofList (decimalDigits n)

def signText (negative : Bool) : String :=
  if negative then "-" else ""

def intText (n : Int) : String :=
  signText (decide (n < 0)) ++ natText n.natAbs

namespace Decimal

def significantDigits (d : Decimal) : List Char :=
  ((decimalDigits d.coefficient).reverse.dropWhile (· = '0')).reverse

def pointPosition (d : Decimal) : Int :=
  (decimalDigits d.coefficient).length + d.exponent

def exponentText (e : Int) : String :=
  let digits := decimalDigits e.natAbs
  (if e < 0 then "e-" else "e+") ++
    String.ofList (if digits.length < 2 then '0' :: digits else digits)

/-- Digits with the point after position `p`, which lies between -3 and 16. -/
def positional (digits : List Char) (p : Int) : List Char :=
  if p ≤ 0 then '0' :: '.' :: (List.replicate (-p).toNat '0' ++ digits)
  else
    let whole := digits.take p.toNat ++ List.replicate (p.toNat - digits.length) '0'
    let fraction := digits.drop p.toNat
    whole ++ '.' :: (if fraction = [] then ['0'] else fraction)

/-- Digits with the point after the first one, if there are more. -/
def scientific (digits : List Char) : List Char :=
  match digits with
  | [] => ['0']
  | [d] => [d]
  | d :: rest => d :: '.' :: rest

def text (d : Decimal) : String :=
  let digits := d.significantDigits
  let p := d.pointPosition
  signText d.negative ++
    if p < -3 ∨ 16 < p then String.ofList (scientific digits) ++ exponentText (p - 1)
    else String.ofList (positional digits p)

end Decimal

namespace FiniteDouble

def plainText (x : FiniteDouble) : String :=
  if x.rank = 0 then signText x.negative ++ "0.0" else x.shortest.text

def codeText (x : FiniteDouble) : String :=
  match x.toInt? with
  | some n => intText n
  | none => x.plainText

end FiniteDouble

namespace Double

def plainText : Double → String
  | nan => "nan"
  | infinite negative => signText negative ++ "inf"
  | finite x => x.plainText

def codeText : Double → String
  | finite x => x.codeText
  | x => x.plainText

end Double

end SceneSketch
