import SceneSketch.Number.Text
import SceneSketch.Text.Quoted

/-!
# Document values

The values of a JSON document. Whole numbers are kept apart from other numbers, since they may
be larger than any double. `Json.display` is how a value is shown in a message.
-/

namespace SceneSketch

inductive Json
  | null
  | bool (value : Bool)
  | int (value : Int)
  | num (value : Double)
  | str (value : Text)
  | arr (items : List Json)
  | obj (members : List (Text × Json))

/-- The members of an object, each key once. -/
abbrev Members := List (Text × Json)

namespace Members

def get? (members : Members) (key : Text) : Option Json :=
  members.lookup key

/-- Replaces the value of a key in its place, or adds the key at the end. -/
def set : Members → Text → Json → Members
  | [], key, value => [(key, value)]
  | (k, v) :: rest, key, value =>
    if k = key then (k, value) :: rest else (k, v) :: set rest key value

end Members

namespace Json

def isNull : Json → Bool
  | null => true
  | _ => false

mutual

/-- A value as it stands inside a list or an object of a message, where texts are quoted. -/
def displayNested : Json → String
  | null => "None"
  | bool true => "True"
  | bool false => "False"
  | int n => intText n
  | num x => x.plainText
  | str s => quoted s
  | arr items => "[" ++ String.intercalate ", " (displayItems items) ++ "]"
  | obj members => "\x7b" ++ String.intercalate ", " (displayMembers members) ++ "\x7d"

def displayItems : List Json → List String
  | [] => []
  | item :: items => displayNested item :: displayItems items

def displayMembers : List (Text × Json) → List String
  | [] => []
  | (key, value) :: members =>
    (quoted key ++ ": " ++ displayNested value) :: displayMembers members

end

/-- A value in a message; a text stands as it is. -/
def display : Json → Text
  | str s => s
  | value => value.displayNested

end Json

end SceneSketch
