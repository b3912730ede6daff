import SceneSketch.Text.Units

/-!
# Text

The text of a document. Most of it is Unicode, but an escape can also put a surrogate there without
the other half of its pair. Such a text is no Unicode text: it can be compared, kept and written
back, but nothing can encode it.
-/

namespace SceneSketch

/-- Half of a pair of UTF-16 units. -/
structure Surrogate where
  unit : Nat
  isSurrogate : 0xD800 ≤ unit ∧ unit ≤ 0xDFFF
deriving DecidableEq

/-- Characters, or characters before a lone surrogate and the text behind it. -/
inductive Text
  | unicode (chars : String)
  | broken (chars : String) (surrogate : Surrogate) (rest : Text)
deriving DecidableEq

instance : Coe String Text := ⟨.unicode⟩

namespace Text

def isUnicode : Text → Bool
  | unicode _ => true
  | broken .. => false

/-- The number of characters and surrogates. -/
def length : Text → Nat
  | unicode s => s.length
  | broken s _ rest => s.length + 1 + rest.length

/-! ## Joining texts -/

def append : Text → Text → Text
  | unicode s, unicode t => unicode (s ++ t)
  | unicode s, broken t surrogate rest => broken (s ++ t) surrogate rest
  | broken s surrogate rest, t => broken s surrogate (rest.append t)

instance : Append Text := ⟨append⟩

/-- The texts one after the other with a separator between neighbours. -/
def intercalate (separator : String) : List Text → Text
  | [] => ""
  | [t] => t
  | t :: rest => t ++ separator ++ intercalate separator rest

/-! ## Writing texts -/

/-- The letters that a text is written with, given those of a character and of a surrogate. -/
def spell (char : Char → List Char) (half : Surrogate → List Char) : Text → List Char
  | unicode s => s.toList.flatMap char
  | broken s surrogate rest => s.toList.flatMap char ++ half surrogate ++ rest.spell char half

def escaped : Text → String
  | unicode s => s
  | broken s surrogate rest => s ++ String.ofList (escapedUnit surrogate.unit) ++ rest.escaped

/-- The text with a replacement character for each of the three bytes of a surrogate. -/
def lossy : Text → String
  | unicode s => s
  | broken s _ rest => s ++ String.ofList (List.replicate 3 '\ufffd') ++ rest.lossy

/-! ## Reading units -/

/-- The text of UTF-16 units and code points, behind the characters `seen`, of which the latest
comes first. A high and a low surrogate that stand side by side make one character. -/
def ofUnits (seen : List Char) : List Nat → Text
  | [] => unicode (String.ofList seen.reverse)
  | [n] =>
    if h : 0xD800 ≤ n ∧ n ≤ 0xDFFF then broken (String.ofList seen.reverse) ⟨n, h⟩ ""
    else unicode (String.ofList (Char.ofNat n :: seen).reverse)
  | n :: m :: rest =>
    if h : 0xD800 ≤ n ∧ n ≤ 0xDFFF then
      if n ≤ 0xDBFF ∧ 0xDC00 ≤ m ∧ m ≤ 0xDFFF then ofUnits (charOfPair n m :: seen) rest
      else broken (String.ofList seen.reverse) ⟨n, h⟩ (ofUnits [] (m :: rest))
    else ofUnits (Char.ofNat n :: seen) (m :: rest)

end Text

end SceneSketch
