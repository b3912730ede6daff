import SceneSketch.Document.Codec

/-!
# Records and tagged unions

A record reads the members of an object and writes them back, field by field; each field names
its key and the part of the value that it writes. A key may have a second spelling, and the first
one counts if both are there. A union picks the record by the value of a tag key.
-/

namespace SceneSketch

structure Key where
  name : String
  other : String

instance : Coe String Key := ⟨fun name => ⟨name, name⟩⟩

/-- The member of a field and the spelling that was found. -/
def Members.find? (members : Members) (key : Key) : Option (String × Json) :=
  match members.get? key.name with
  | some value => some (key.name, value)
  | none => (members.get? key.other).map (key.other, ·)

/-- Reads `α` from an object and writes it as a part of `σ`. -/
structure Record (σ α : Type) where
  keys : List Key
  read : Members → Outcome α
  dump : σ → Members

namespace Record

variable {σ α β : Type}

def pure (a : α) : Record σ α where
  keys := []
  read _ := .accepted a
  dump _ := []

def map (f : α → β) (r : Record σ α) : Record σ β where
  keys := r.keys
  read members := (r.read members).map f
  dump := r.dump

def ap (r : Record σ (α → β)) (s : Record σ α) : Record σ β where
  keys := r.keys ++ s.keys
  read members := (r.read members).ap (s.read members)
  dump whole := r.dump whole ++ s.dump whole

instance : Functor (Record σ) where
  map := map

instance : Seq (Record σ) where
  seq r s := ap r (s ())

/-! ## Fields -/

def required (key : Key) (c : Codec α) (part : σ → α) : Record σ α where
  keys := [key]
  read members :=
    match members.find? key with
    | some (used, value) => (c.read value).under (.key used)
    | none => .rejected [⟨[.key key.name], .missing⟩]
  dump whole := [(key.name, c.dump (part whole))]

def defaulted (key : Key) (c : Codec α) (default : α) (part : σ → α) : Record σ α where
  keys := [key]
  read members :=
    match members.find? key with
    | some (used, value) => (c.read value).under (.key used)
    | none => .accepted default
  dump whole := [(key.name, c.dump (part whole))]

/-- A field that may be left out or null. -/
def optional (key : Key) (c : Codec α) (part : σ → Option α) : Record σ (Option α) where
  keys := [key]
  read members :=
    match members.find? key with
    | some (_, .null) => .accepted none
    | some (used, value) => ((c.read value).under (.key used)).map some
    | none => .accepted none
  dump whole :=
    match part whole with
    | some a => [(key.name, c.dump a)]
    | none => []

/-- A field that holds any value; null is not written. -/
def freeForm (key : Key) (part : σ → Json) : Record σ Json where
  keys := [key]
  read members :=
    match members.find? key with
    | some (_, value) => .accepted value
    | none => .accepted .null
  dump whole :=
    match part whole with
    | .null => []
    | value => [(key.name, value)]

/-- The same fields of objects all of whose keys have to be Unicode. Any other key ends the reading
of the object. -/
def unicodeKeys (r : Record σ α) : Record σ α where
  keys := r.keys
  read members :=
    if members.all fun m => m.1.isUnicode then r.read members else .fault .notUnicode
  dump := r.dump

/-- The codec of objects with these fields; `name` is what messages call them. -/
def codec (name : String) (r : Record α α) : Codec α where
  read
    | .obj members => r.read members
    | _ => .fault (.notModel name)
  dump a := .obj (r.dump a)

end Record

/-! ## Tagged unions -/

/-- A variant of a union: its tag, and how its members are read. -/
structure Variant (α : Type) where
  tag : String
  read : Members → Outcome α

def Record.variant {α β : Type} (tag : String) (r : Record β β) (make : β → α) : Variant α where
  tag := tag
  read members := (r.read members).map make

/-- Objects whose variant is named by the value of `key`. Faults inside a variant are reported
under its tag. -/
def Codec.union {α : Type} (key : String) (variants : List (Variant α)) (dump : α → Members) :
    Codec α where
  read
    | .obj members =>
      match Members.get? members key with
      | none => .fault (.tagMissing key)
      | some value =>
        let found : Option (Variant α) := match value with
          | .str (.unicode tag) => variants.find? fun v => v.tag = tag
          | _ => none
        match found with
        | some v => (v.read members).under (.key v.tag)
        | none => .fault (.tagUnknown key value.display.lossy (variants.map Variant.tag))
    | _ => .fault .notTagged
  dump a := .obj (dump a)

end SceneSketch
