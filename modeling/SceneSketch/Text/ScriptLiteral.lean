import SceneSketch.Number.Text
import SceneSketch.Text.Basic

/-!
# String literals of sketch code

A text enters sketch code with every character escaped as its UTF-16 units, four hexadecimal
digits each, so that no word of it can be read as code. A lone surrogate cannot be encoded.
-/

namespace SceneSketch

def scriptLiteral (text : String) : String :=
  String.ofList ('"' :: ((text.toList.flatMap unitsOfChar).flatMap escapedUnit ++ ['"']))

/-- The first lone surrogate of a text, and where it stands. -/
structure Unencodable where
  surrogate : Surrogate
  position : Nat
deriving DecidableEq

def Unencodable.message (fault : Unencodable) : String :=
  "'utf-16-be' codec can't encode character '" ++
    String.ofList (escapedUnit fault.surrogate.unit) ++ "' in position " ++
    natText fault.position ++ ": surrogates not allowed"

def Text.fault? : Text → Option Unencodable
  | unicode _ => none
  | broken s surrogate _ => some ⟨surrogate, s.length⟩

end SceneSketch
