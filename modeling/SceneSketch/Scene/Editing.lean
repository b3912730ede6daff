import SceneSketch.Scene.Dump
import SceneSketch.Settings

/-!
# Editing scenes

Every edit gives a new scene and leaves the old one as it was, so that a history can keep all of
them. An update writes an element out, puts in what it says, and reads the whole again. Values of
documents are read like any others, but a value that is built already is taken as it is.
-/

namespace SceneSketch

/-! ## Updates -/

/-- What an update gives for a field: a value of a document, or one that is built. A built value has
fields of their types, but nothing else was checked of it. A document value with built values inside
stands for the value that is built of them. -/
inductive Given (α : Type)
  | document (value : Json)
  | built (value : α)

def Given.read {α : Type} (c : Codec α) : Given α → Outcome α
  | document value => c.read value
  | built a => .accepted a

/-- Of built blocks each is looked at for its kind. -/
def Given.readBlocks : Given (List Block) → Outcome (List PlacedBlock)
  | document value => (Codec.list PlacedBlock.codec).read value
  | built blocks => Codec.readItems Block.toPlaced 0 blocks

/-- The fields that an update names. Other names in it are passed over. -/
structure Updates where
  id : Option Json := none
  shape : Option (Given Shape) := none
  style : Option (Given Style) := none
  behavior : Option (Given Behavior) := none
  blocks : Option (Given (List Block)) := none

def Updates.ofMembers (members : Members) : Updates where
  id := members.get? "id"
  shape := (members.get? "type").map .document
  style := (members.get? "style").map .document
  behavior := (members.get? "behavior").map .document
  blocks := (members.get? "blocks").map .document

instance : Coe Members Updates := ⟨Updates.ofMembers⟩

/-- An element that is written out and read again, with other values for the fields that are
named. -/
def Element.rebuild (updates : Updates) (element : Element) : Outcome Element :=
  let shape := updates.shape.getD (.document (.obj element.shape.members))
  let style := updates.style.getD (.document (.obj element.style.members))
  let behavior := updates.behavior.getD (.document (.obj element.behavior.members))
  let blocks := updates.blocks.getD (.document (.arr (element.blocks.map Block.object)))
  Element.mk <$> (Codec.text.read (updates.id.getD (.str element.id))).under (.key "id")
    <*> (shape.read Shape.codec).under (.key "type")
    <*> (style.read Style.codec).under (.key "style")
    <*> (behavior.read Behavior.codec).under (.key "behavior")
    <*> blocks.readBlocks.under (.key "blocks")

namespace Scene

/-- A scene without elements; a size that is not given comes from the settings. -/
def create (settings : Settings) (width height : Json) : Outcome Scene :=
  let size (given : Json) (default : Int) : Json := if given.isNull then .int default else given
  (Canvas.record.read
    [("width", size width settings.canvasWidth),
      ("height", size height settings.canvasHeight)]).map fun canvas => { canvas }

def add (scene : Scene) (element : Element) : Scene :=
  { scene with elements := scene.elements ++ [element] }

def remove (scene : Scene) (id : Text) : Scene :=
  { scene with elements := scene.elements.filter fun e => e.id ≠ id }

/-- Changes all elements of that name; the first fault ends the change. -/
def changeElements (id : Text) (change : Element → Outcome Element) :
    List Element → Outcome (List Element)
  | [] => .accepted []
  | element :: rest =>
    (if element.id = id then change element else .accepted element).bind fun changed =>
      (changeElements id change rest).map (changed :: ·)

def rebuild (scene : Scene) (id : Text) (updates : Updates) : Outcome Scene :=
  (changeElements id (·.rebuild updates) scene.elements).map fun elements =>
    { scene with elements }

end Scene

/-! ## Histories -/

inductive Edit
  | add (element : Element)
  | remove (id : Text)
  | update (id : Text) (updates : Updates)

def Edit.apply (scene : Scene) : Edit → Outcome Scene
  | add element => .accepted (scene.add element)
  | remove id => .accepted (scene.remove id)
  | update id updates => scene.rebuild id updates

end SceneSketch
