import SceneSketch.Proofs.Soundness
import SceneSketch.Scene.Editing

/-!
# What an update gives

A field of an element that is updated takes a value that is built already, or it is read from a
document: from the one that the update gives, or else from what was written out for the element. So
a property of all that documents give can only be missed by what is built (`Given.holds_iff`). An
element is sound after an update exactly if the values that were built for it are
(`Element.sound_iff_of_rebuild`).
-/

namespace SceneSketch

open Codec Outcome Record

/-! ## Documents -/

/-- Some document is read as the value. -/
def Codec.Gives {α : Type} (c : Codec α) (a : α) : Prop :=
  ∃ j, c.read j = .accepted a

namespace Element

theorem read_eq_accepted {m : Members} {e : Element} : Element.record.read m = .accepted e ↔
    (Record.required "id" .text id).read m = .accepted e.id ∧
    (Record.required "type" Shape.codec shape).read m = .accepted e.shape ∧
    (Record.defaulted "style" Style.codec {} style).read m = .accepted e.style ∧
    (Record.defaulted "behavior" Behavior.codec .static behavior).read m = .accepted e.behavior ∧
    (Record.defaulted "blocks" (.list PlacedBlock.codec) [] placed).read m =
      .accepted e.placed := by
  cases e
  simp [Element.record, read_map, read_seq, and_assoc]

end Element

/-! ## Values that are built -/

namespace Given

variable {α : Type}

def IfBuilt (p : α → Prop) : Given α → Prop
  | document _ => True
  | built a => p a

/-- **What a field is read as has a property of all that documents give, unless it was built
without it.** -/
theorem holds_iff {c : Codec α} {p : α → Prop} (documents : ∀ j a, c.read j = .accepted a → p a)
    {given : Option (Given α)} {j : Json} {a : α}
    (h : (given.getD (.document j)).read c = .accepted a) : p a ↔ ∀ g ∈ given, g.IfBuilt p := by
  rcases given with _ | value | b
  · simp [documents _ _ h]
  · simp [documents _ _ h, IfBuilt]
  · obtain rfl : b = a := accepted.inj h
    simp [IfBuilt]

theorem holds_blocks_iff {p : Block → Prop}
    (documents : ∀ j b, Block.codec.read j = .accepted b → p b)
    {given : Option (Given (List Block))} {j : Json} {placed : List PlacedBlock}
    (h : (given.getD (.document j)).readBlocks = .accepted placed) :
    (∀ b ∈ placed.map Subtype.val, p b) ↔ ∀ g ∈ given, g.IfBuilt fun blocks =>
    ∀ b ∈ blocks, p b := by
  have read {j : Json} (hj : (Codec.list PlacedBlock.codec).read j = .accepted placed) :
      ∀ b ∈ placed.map Subtype.val, p b := by
    obtain ⟨items, -, each⟩ := list_eq_accepted.mp hj
    exact List.forall_mem_map.mpr <| forall_of_forall₂ each fun item _ b hb =>
      documents item b.val (PlacedBlock.read_eq_accepted.mp hb)
  rcases given with _ | value | blocks
  · simpa using read h
  · simpa [IfBuilt] using read h
  · -- the blocks that were built are the ones that were taken
    have same : blocks = placed.map Subtype.val := by
      have each := readItems_eq_accepted.mp h
      simp only [Block.toPlaced_eq_accepted] at each
      rw [← List.forall₂_eq_eq_eq, List.forall₂_map_right_iff]
      exact each
    simp [IfBuilt, same]

end Given

namespace Updates

/-- What is built has finite numbers and positive stroke weights. -/
structure Sound (updates : Updates) : Prop where
  shape : ∀ g ∈ updates.shape, g.IfBuilt fun shape => AllFinite shape.numbers
  style : ∀ g ∈ updates.style, g.IfBuilt Style.Sound
  behavior : ∀ g ∈ updates.behavior, g.IfBuilt fun behavior => AllFinite behavior.numbers
  blocks : ∀ g ∈ updates.blocks, g.IfBuilt fun blocks => ∀ b ∈ blocks, AllFinite b.numbers

end Updates

/-! ## Elements -/

/-- Only finite numbers can be missing from a block that an element holds: its axis is one of two by
its type, and its kind was looked at. -/
theorem Block.sound_iff {b : Block} (tagged : b.isTagged = true) :
    b.Sound ↔ AllFinite b.numbers := by
  refine ⟨Sound.finite, fun finite => ⟨finite, fun taken => ?_, ?_⟩⟩
  · cases b with
    | oscillate b | bounce b | perlinNoise b => simpa [axis] using Axis.name_eq b.axis
    | _ => cases taken
  · rintro u rfl
    simpa [isTagged] using tagged

namespace Element

variable {updates : Updates} {e e' : Element}

theorem rebuild_eq_accepted : e.rebuild updates = .accepted e' ↔
    Codec.text.read (updates.id.getD (.str e.id)) = .accepted e'.id ∧
    (updates.shape.getD (.document (.obj e.shape.members))).read Shape.codec = .accepted e'.shape ∧
    (updates.style.getD (.document (.obj e.style.members))).read Style.codec = .accepted e'.style ∧
    (updates.behavior.getD (.document (.obj e.behavior.members))).read Behavior.codec =
      .accepted e'.behavior ∧
    (updates.blocks.getD (.document (.arr (e.blocks.map Block.object)))).readBlocks =
      .accepted e'.placed := by
  cases e'
  simp [rebuild, fmap_eq_accepted, seq_eq_accepted, and_assoc]

/-- **After an update an element is sound exactly if what was built for it is.** -/
theorem sound_iff_of_rebuild (h : e.rebuild updates = .accepted e') : e'.Sound ↔ updates.Sound := by
  obtain ⟨-, shape, style, behavior, blocks⟩ := rebuild_eq_accepted.mp h
  have shape := Given.holds_iff (fun j _ => (Shape.yields j).of_accepted) shape
  have style := Given.holds_iff (fun j _ => (Style.yields j).of_accepted) style
  have behavior := Given.holds_iff (fun j _ => (Behavior.yields j).of_accepted) behavior
  have finite := Given.holds_blocks_iff (p := fun b => AllFinite b.numbers)
    (fun j _ read => ((Block.read_comesTo j).of_accepted read).finite) blocks
  have blocks : (∀ b ∈ e'.blocks, b.Sound) ↔ ∀ b ∈ e'.blocks, AllFinite b.numbers :=
    forall₂_congr fun b hb => Block.sound_iff (isTagged_of_mem hb)
  constructor
  · exact fun sound => ⟨shape.mp sound.shape, style.mp sound.style, behavior.mp sound.behavior,
      finite.mp (blocks.mp sound.blocks)⟩
  · exact fun sound => ⟨shape.mpr sound.shape, style.mpr sound.style, behavior.mpr sound.behavior,
      blocks.mpr (finite.mpr sound.blocks)⟩

end Element

end SceneSketch
