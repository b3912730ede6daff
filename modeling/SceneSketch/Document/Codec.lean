import SceneSketch.Document.Issue
import SceneSketch.Json.Basic
import SceneSketch.Text.Blank

/-!
# Codecs

A codec reads a type from a document value and writes it back. Reading reports all faults in the
order of the document. One fault is of another kind and ends the reading at once: a list or an
object where a name is looked up in a table.
-/

namespace SceneSketch

/-- A value that holds other values and so cannot be looked up in a table. -/
inductive Container
  | list
  | object
deriving DecidableEq

namespace Container

def name : Container → String
  | list => "list"
  | object => "dict"

def message (c : Container) : String :=
  "unhashable type: " ++ quotedChoice c.name

end Container

/-- What reading a value gives: a value, faults, or a container where a name is looked up. -/
inductive Outcome (α : Type)
  | accepted (value : α)
  | rejected (issues : List Issue)
  | containerKey (container : Container)

namespace Outcome

variable {α β : Type}

def map (f : α → β) : Outcome α → Outcome β
  | accepted a => accepted (f a)
  | rejected issues => rejected issues
  | containerKey c => containerKey c

/-- Faults of both sides are reported together; what cannot be looked up ends the reading. -/
def ap : Outcome (α → β) → Outcome α → Outcome β
  | containerKey c, _ => containerKey c
  | accepted f, x => x.map f
  | rejected _, containerKey c => containerKey c
  | rejected issues, accepted _ => rejected issues
  | rejected issues, rejected more => rejected (issues ++ more)

def bind (x : Outcome α) (f : α → Outcome β) : Outcome β :=
  match x with
  | accepted a => f a
  | rejected issues => rejected issues
  | containerKey c => containerKey c

instance : Functor Outcome where
  map := map

instance : Seq Outcome where
  seq f x := ap f (x ())

def under (step : Step) : Outcome α → Outcome α
  | accepted a => accepted a
  | rejected issues => rejected (issues.map fun i => { i with path := step :: i.path })
  | containerKey c => containerKey c

def fault (problem : Problem) : Outcome α :=
  rejected [⟨[], problem⟩]

def ofOption (problem : Problem) : Option α → Outcome α
  | some a => accepted a
  | none => fault problem

end Outcome

structure Codec (α : Type) where
  read : Json → Outcome α
  dump : α → Json

namespace Codec

variable {α : Type}

/-! ## Numbers -/

/-- A number string: a numeral or a name between white space; failing that, a numeral with
underscores between its characters, which come neither first nor last nor in pairs. -/
def numberOfText? (s : String) : Option Double :=
  let cs := s.toList
  match Double.parse? (trimEnds isSpaceChar cs) with
  | some x => some x
  | none =>
    let doubled := (cs.zip (cs.drop 1)).contains ('_', '_')
    if cs.head? = some '_' || cs.getLast? = some '_' || doubled then none
    else Double.parse? (cs.filter (· ≠ '_'))

def readFinite (x : Double) : Outcome Double :=
  if x.isFinite then .accepted x else .fault .notFinite

/-- Reads a text that has to be Unicode to be looked at. -/
def readUnicode (read : String → Outcome α) : Text → Outcome α
  | .unicode s => read s
  | .broken .. => .fault .notUnicode

/-- A number, a truth value or a number string, as long as it is finite. -/
def readNumber : Json → Outcome Double
  | .num x => readFinite x
  | .int n => .ofOption .notNumber (Double.ofInt? n)
  | .bool b => .accepted (if b then 1 else 0)
  | .str s =>
    readUnicode (fun s => (Outcome.ofOption .unreadableNumber (numberOfText? s)).bind readFinite) s
  | _ => .fault .notNumber

def number : Codec Double where
  read := readNumber
  dump := .num

def positiveNumber : Codec Double where
  read j := (readNumber j).bind fun x => if x.isPositive then .accepted x else .fault .notPositive
  dump := .num

/-! ## Truth values, texts, choices and lists -/

def truthOfText? (s : String) : Option Bool :=
  let word := String.ofList (s.toList.map Char.toLower)
  if ["true", "t", "yes", "y", "on", "1"].contains word then some true
  else if ["false", "f", "no", "n", "off", "0"].contains word then some false
  else none

/-- Zero or one as a truth value. Other numbers of 64 bits are counted among the values that cannot
be read, larger ones among the wrong kinds of value. -/
def truthOfInt (least n : Int) : Outcome Bool :=
  if n = 0 then .accepted false
  else if n = 1 then .accepted true
  else if least ≤ n ∧ n < 0x8000000000000000 then .fault .unreadableBool
  else .fault .notBool

/-- A truth value, zero or one, or a word for one of them. A number with a point that is whole is
read as an integer, the least one of 64 bits excepted. -/
def readTruth : Json → Outcome Bool
  | .bool b => .accepted b
  | .int n => truthOfInt (-0x8000000000000000) n
  | .num x =>
    match x.toInt? with
    | some n => truthOfInt (-0x7fffffffffffffff) n
    | none => .fault .notBool
  | .str s => readUnicode (fun s => .ofOption .unreadableBool (truthOfText? s)) s
  | _ => .fault .notBool

def truth : Codec Bool where
  read := readTruth
  dump := .bool

def text : Codec Text where
  read
    | .str s => .accepted s
    | _ => .fault .notText
  dump := .str

def choice (choices : List α) (name : α → String) : Codec α where
  read
    | .str s =>
      readUnicode (fun s =>
        .ofOption (.notChoice (choices.map name)) (choices.find? (name · = s))) s
    | _ => .fault (.notChoice (choices.map name))
  dump a := .str (name a)

def readItems {β : Type} (read : β → Outcome α) : Nat → List β → Outcome (List α)
  | _, [] => .accepted []
  | position, item :: items =>
    (((read item).under (.index position)).map List.cons).ap (readItems read (position + 1) items)

def list (c : Codec α) : Codec (List α) where
  read
    | .arr items => readItems c.read 0 items
    | _ => .fault .notList
  dump as := .arr (as.map c.dump)

end Codec

end SceneSketch
