import SceneSketch.Json.Basic

/-!
# Writing document text

Text on one line without blanks, or with one item on a line and two more blanks for each level.
All characters outside printable ASCII are escaped, and so are lone surrogates.
-/

namespace SceneSketch.Json

def escapedChar (c : Char) : List Char :=
  if c = '"' then ['\\', '"']
  else if c = '\\' then ['\\', '\\']
  else if c = '\n' then ['\\', 'n']
  else if c = '\r' then ['\\', 'r']
  else if c = '\t' then ['\\', 't']
  else if c.toNat = 8 then ['\\', 'b']
  else if c.toNat = 12 then ['\\', 'f']
  else if 0x20 ≤ c.toNat ∧ c.toNat < 0x7F then [c]
  else (unitsOfChar c).flatMap escapedUnit

def textLiteral (text : Text) : String :=
  String.ofList ('"' :: (text.spell escapedChar (escapedUnit ·.unit) ++ ['"']))

def numberLiteral : Double → String
  | .nan => "NaN"
  | .infinite negative => signText negative ++ "Infinity"
  | .finite x => x.plainText

/-- Items between brackets: side by side, or one on a line at `depth + 1`. -/
def bracketed (depth : Option Nat) (left right : String) (items : List String) : String :=
  match depth, items with
  | _, [] => left ++ right
  | none, items => left ++ String.intercalate "," items ++ right
  | some d, items =>
    let line (n : Nat) := "\n" ++ String.ofList (List.replicate (2 * n) ' ')
    left ++ line (d + 1) ++ String.intercalate ("," ++ line (d + 1)) items ++ line d ++ right

mutual

/-- The text of a value at a depth, or on one line if there is none. -/
def textAt (depth : Option Nat) : Json → String
  | null => "null"
  | bool true => "true"
  | bool false => "false"
  | int n => intText n
  | num x => numberLiteral x
  | str s => textLiteral s
  | arr items => bracketed depth "[" "]" (itemTexts (depth.map (· + 1)) items)
  | obj members => bracketed depth "\x7b" "\x7d" (memberTexts (depth.map (· + 1)) members)

def itemTexts (depth : Option Nat) : List Json → List String
  | [] => []
  | item :: items => textAt depth item :: itemTexts depth items

def memberTexts (depth : Option Nat) : List (Text × Json) → List String
  | [] => []
  | (key, value) :: members =>
    (textLiteral key ++ (if depth.isSome then ": " else ":") ++ textAt depth value)
      :: memberTexts depth members

end

def compact (value : Json) : String :=
  textAt none value

def indented (value : Json) : String :=
  textAt (some 0) value

end SceneSketch.Json
