import SceneSketch.Proofs.Rebuilding

/-!
# What an update changes

An update is accepted if each value that it gives for a field can be read, whatever the elements are
(`Element.exists_update`), so what it does to a scene is to change each element of the name on its
own (`Scene.update_eq_accepted`). A field that is not named stays as it is, and so does all of the
scene but these elements.
-/

namespace SceneSketch

open Codec Outcome

/-! ## Fields -/

section
variable {α : Type} {updates : Members} {key : String} {c : Codec α}

/-- A field that is named has what its new value is read as; another one is as it was. -/
def Takes (updates : Members) (key : String) (c : Codec α) (old new : α) : Prop :=
  match updates.get? key with
  | some value => c.read value = .accepted new
  | none => new = old

def Readable (updates : Members) (key : String) (c : Codec α) : Prop :=
  ∀ value, updates.get? key = some value → ∃ a, c.read value = .accepted a

theorem updatedField_eq_accepted {old new : α} :
    updatedField updates key c old = .accepted new ↔ Takes updates key c old new := by
  unfold updatedField Takes
  cases updates.get? key with
  | some value => exact under_eq_accepted
  | none => exact ⟨fun h => (accepted.inj h).symm, fun h => congrArg accepted h.symm⟩

theorem exists_takes {old : α} : (∃ new, Takes updates key c old new) ↔ Readable updates key c := by
  unfold Takes Readable
  cases updates.get? key with
  | some value => simp
  | none => simp

end

/-! ## Elements -/

theorem read_placedBlocks {j : Json} {placed : List PlacedBlock} :
    (Codec.list PlacedBlock.codec).read j = .accepted placed ↔
      (Codec.list Block.codec).read j = .accepted (placed.map Subtype.val) := by
  simp only [list_eq_accepted, PlacedBlock.read_eq_accepted, List.forall₂_map_right_iff]

theorem exists_placedBlocks {j : Json} {blocks : List Block}
    (h : (Codec.list Block.codec).read j = .accepted blocks) :
    ∃ placed : List PlacedBlock, placed.map Subtype.val = blocks := by
  obtain ⟨items, -, each⟩ := list_eq_accepted.mp h
  have tagged : ∀ b ∈ blocks, b.isTagged = true := forall_of_forall₂ each fun item _ b hb =>
    ((Block.read_comesTo item).of_accepted hb).isTagged
  exact ⟨blocks.attachWith _ tagged, List.attachWith_map_subtype_val tagged⟩

namespace Element

structure Changed (updates : Members) (e e' : Element) : Prop where
  id : Takes updates "id" .text e.id e'.id
  shape : Takes updates "type" Shape.codec e.shape e'.shape
  style : Takes updates "style" Style.codec e.style e'.style
  behavior : Takes updates "behavior" Behavior.codec e.behavior e'.behavior
  blocks : Takes updates "blocks" (.list Block.codec) e.blocks e'.blocks

structure Accepts (updates : Members) : Prop where
  id : Readable updates "id" .text
  shape : Readable updates "type" Shape.codec
  style : Readable updates "style" Style.codec
  behavior : Readable updates "behavior" Behavior.codec
  blocks : Readable updates "blocks" (.list Block.codec)

theorem update_eq_accepted {updates : Members} {e e' : Element} :
    e.update updates = .accepted e' ↔
      updatedField updates "id" .text e.id = .accepted e'.id ∧
      updatedField updates "type" Shape.codec e.shape = .accepted e'.shape ∧
      updatedField updates "style" Style.codec e.style = .accepted e'.style ∧
      updatedField updates "behavior" Behavior.codec e.behavior = .accepted e'.behavior ∧
      updatedField updates "blocks" (.list PlacedBlock.codec) e.placed = .accepted e'.placed := by
  cases e'
  simp [update, fmap_eq_accepted, seq_eq_accepted, and_assoc]

theorem takes_blocks {updates : Members} {e e' : Element} :
    Takes updates "blocks" (.list PlacedBlock.codec) e.placed e'.placed ↔
      Takes updates "blocks" (.list Block.codec) e.blocks e'.blocks := by
  unfold Takes
  cases updates.get? "blocks" with
  | some value => exact read_placedBlocks
  | none => exact (List.map_injective_iff.mpr Subtype.val_injective).eq_iff.symm

theorem readable_blocks {updates : Members} :
    Readable updates "blocks" (.list PlacedBlock.codec) ↔
      Readable updates "blocks" (.list Block.codec) := by
  refine forall₂_congr fun value _ => ⟨?_, ?_⟩
  · rintro ⟨placed, read⟩
    exact ⟨_, read_placedBlocks.mp read⟩
  · rintro ⟨blocks, read⟩
    obtain ⟨placed, rfl⟩ := exists_placedBlocks read
    exact ⟨placed, read_placedBlocks.mpr read⟩

theorem changed_iff {updates : Members} {e e' : Element} :
    e.update updates = .accepted e' ↔ e.Changed updates e' := by
  simp only [update_eq_accepted, updatedField_eq_accepted, takes_blocks]
  exact ⟨fun ⟨id, shape, style, behavior, blocks⟩ => ⟨id, shape, style, behavior, blocks⟩,
    fun h => ⟨h.id, h.shape, h.style, h.behavior, h.blocks⟩⟩

/-- **An update is accepted if its values can be read, whatever the element is.** -/
theorem exists_update {updates : Members} {e : Element} :
    (∃ e', e.update updates = .accepted e') ↔ Accepts updates := by
  simp only [changed_iff]
  constructor
  · rintro ⟨e', h⟩
    exact ⟨exists_takes.mp ⟨_, h.id⟩, exists_takes.mp ⟨_, h.shape⟩, exists_takes.mp ⟨_, h.style⟩,
      exists_takes.mp ⟨_, h.behavior⟩, exists_takes.mp ⟨_, h.blocks⟩⟩
  · intro h
    obtain ⟨id, hid⟩ := exists_takes.mpr h.id
    obtain ⟨shape, hshape⟩ := exists_takes.mpr h.shape
    obtain ⟨style, hstyle⟩ := exists_takes.mpr h.style
    obtain ⟨behavior, hbehavior⟩ := exists_takes.mpr h.behavior
    obtain ⟨placed, hblocks⟩ := exists_takes.mpr (readable_blocks.mpr h.blocks)
    exact ⟨⟨id, shape, style, behavior, placed⟩, hid, hshape, hstyle, hbehavior,
      takes_blocks.mp hblocks⟩

/-- The element after updates; if they are not accepted it stays as it is. -/
def after (updates : Members) (e : Element) : Element :=
  match e.update updates with
  | .accepted e' => e'
  | _ => e

theorem update_eq_accepted_after {updates : Members} {e e' : Element} :
    e.update updates = .accepted e' ↔ Accepts updates ∧ e.after updates = e' := by
  rw [← exists_update (e := e)]
  unfold after
  cases e.update updates <;> simp

theorem update_nil (e : Element) : e.update [] = .accepted e := rfl

end Element

/-! ## Scenes -/

namespace Scene

def after (scene : Scene) (id : Text) (updates : Members) : Scene :=
  { scene with elements := scene.elements.map fun e => if e.id = id then e.after updates else e }

theorem changeElements_eq_map {id : Text} {updates : Members} {es es' : List Element} :
    changeElements id (·.update updates) es = .accepted es' ↔
      (∀ e ∈ es, e.id = id → Element.Accepts updates) ∧
      (es.map fun e => if e.id = id then e.after updates else e) = es' := by
  have each (e e' : Element) : (if e.id = id then e.update updates = .accepted e' else e = e') ↔
      (e.id = id → Element.Accepts updates) ∧ (if e.id = id then e.after updates else e) = e' := by
    by_cases own : e.id = id
    · simp only [own, if_true, true_implies, Element.update_eq_accepted_after]
    · simp only [own, if_false, false_implies, true_and]
  -- whether updates are accepted does not depend on the element, so the condition leaves the list
  simp only [changeElements_eq_accepted, each, List.forall₂_and_left]
  rw [← List.forall₂_eq_eq_eq, List.forall₂_map_left_iff]

/-- **An accepted update changes each element of the name on its own.** -/
theorem update_eq_accepted {scene t : Scene} {id : Text} {updates : Members} :
    scene.update id updates = .accepted t ↔
      (id ∈ scene.names → Element.Accepts updates) ∧ scene.after id updates = t := by
  have names : (∀ e ∈ scene.elements, e.id = id → Element.Accepts updates) ↔
      (id ∈ scene.names → Element.Accepts updates) := by
    simp [Scene.names]
  simp only [update, map_eq_accepted, changeElements_eq_map, names]
  constructor
  · rintro ⟨_, ⟨accepts, rfl⟩, same⟩
    exact ⟨accepts, same⟩
  · rintro ⟨accepts, same⟩
    exact ⟨_, ⟨accepts, rfl⟩, same⟩

theorem forall₂_after {scene : Scene} {id : Text} {updates : Members}
    (accepts : id ∈ scene.names → Element.Accepts updates) :
    List.Forall₂ (fun e e' => if e.id = id then e.Changed updates e' else e' = e) scene.elements
      (scene.after id updates).elements := by
  refine List.forall₂_map_right_iff.mpr (List.forall₂_same.mpr fun e he => ?_)
  by_cases own : e.id = id
  · have named : id ∈ scene.names := own ▸ List.mem_map_of_mem he
    simp only [own, if_true]
    exact Element.changed_iff.mp (Element.update_eq_accepted_after.mpr ⟨accepts named, rfl⟩)
  · simp only [own, if_false]

theorem after_eq_self {scene : Scene} {id : Text} {updates : Members}
    (h : ∀ e ∈ scene.elements, e.id = id → e.after updates = e) :
    scene.after id updates = scene := by
  have same : (scene.elements.map fun e => if e.id = id then e.after updates else e) =
      scene.elements := by
    conv_rhs => rw [← List.map_id scene.elements]
    refine List.map_congr_left fun e he => ?_
    by_cases own : e.id = id
    · rw [if_pos own, h e he own, id_eq]
    · rw [if_neg own, id_eq]
  rw [after, same]

theorem update_of_not_mem {scene : Scene} {id : Text} (h : id ∉ scene.names) (updates : Members) :
    scene.update id updates = .accepted scene := by
  refine update_eq_accepted.mpr ⟨fun named => absurd named h, after_eq_self fun e he own => ?_⟩
  exact absurd (own ▸ List.mem_map_of_mem he) h

theorem update_nil (scene : Scene) (id : Text) : scene.update id [] = .accepted scene := by
  have nothing (e : Element) := Element.update_eq_accepted_after.mp (Element.update_nil e)
  refine update_eq_accepted.mpr ⟨fun named => ?_, after_eq_self fun e _ _ => (nothing e).2⟩
  obtain ⟨e, _, _⟩ := List.mem_map.mp named
  exact (nothing e).1

/-- **An update keeps the scene but for the elements of the name, and of these all fields that are
not named; a field that is named gets what its value is read as.** -/
theorem update_changes {scene : Scene} (parsed : Scene.codec.Gives scene) (id : Text)
    {updates : Members} (once : updates.Distinct) :
    scene.rebuild id updates = scene.update id updates ∧
      (∀ e ∈ scene.elements,
        e.rebuild updates = Element.codec.read (.obj (e.members.updated updates))) ∧
      ((∃ t, scene.update id updates = .accepted t) ↔
        (id ∈ scene.names → Element.Accepts updates)) ∧
      (∀ t, scene.update id updates = .accepted t →
        (t.canvas = scene.canvas ∧ t.colorMode = scene.colorMode ∧ t.frameRate = scene.frameRate ∧
          t.effects = scene.effects) ∧
        List.Forall₂ (fun e e' => if e.id = id then e.Changed updates e' else e' = e) scene.elements
          t.elements) ∧
      (updates = [] ∨ id ∉ scene.names → scene.update id updates = .accepted scene) := by
  refine ⟨rebuild_eq_update parsed id updates, fun e _ => e.rebuild_eq_read once, ?_, ?_, ?_⟩
  · simp only [update_eq_accepted, exists_and_left, exists_eq', and_true]
  · intro t h
    obtain ⟨accepts, rfl⟩ := update_eq_accepted.mp h
    exact ⟨⟨rfl, rfl, rfl, rfl⟩, forall₂_after accepts⟩
  · rintro (rfl | absent)
    · exact update_nil scene id
    · exact update_of_not_mem absent updates

/-- Two elements of one name, one of them with a block of unknown kind that has null members, and a
third one. -/
def twins : Json :=
  let two : Json := .num (.finite ⟨false, 2, by decide⟩)
  let dot (id : String) (blocks : List Json) : Json := .obj [("id", .str id),
    ("type", .obj [("kind", .str "circle"), ("x", two), ("y", two), ("diameter", two)]),
    ("blocks", .arr blocks)]
  .obj [("canvas", .obj [("width", two), ("height", two)]),
    ("elements", .arr [dot "a"
      [.obj [("type", .str "glow"), ("color", .null), ("levels", .arr [.null])]],
      dot "b" [], dot "a" []])]

def chasing : Members :=
  [("behavior", .obj [("kind", .str "followMouse"), ("property", .str "y")])]

theorem accepts_chasing : Element.Accepts chasing :=
  ⟨nofun, nofun, nofun, fun value h => ⟨.followMouse .y, by cases h; rfl⟩, nofun⟩

theorem update_changes_twins : ∃ scene t, Scene.codec.read twins = .accepted scene ∧
    scene.rebuild "a" chasing = .accepted t ∧ t.names = ["a", "b", "a"] ∧
    t.elements.map Element.behavior = [.followMouse .y, .static, .followMouse .y] ∧
    t.elements.map Element.blocks = scene.elements.map Element.blocks := by
  obtain ⟨scene, read, three⟩ : ∃ scene, Scene.codec.read twins = .accepted scene ∧
      ∃ e f g : Element, scene.elements = [e, f, g] ∧ e.id = "a" ∧ f.id = "b" ∧ g.id = "a" ∧
        f.behavior = .static :=
    ⟨_, rfl, _, _, _, rfl, rfl, rfl, rfl, rfl⟩
  obtain ⟨e, f, g, elements, he, hf, hg, still⟩ := three
  obtain ⟨rebuilt, -, runs, frame, -⟩ :=
    @update_changes scene ⟨twins, read⟩ "a" chasing (List.nodup_singleton _)
  obtain ⟨t, updated⟩ := runs.mpr fun _ => accepts_chasing
  have changed := (frame t updated).2
  simp only [elements, List.forall₂_cons_left_iff, List.forall₂_nil_left_iff, he, hf, hg,
    if_true] at changed
  obtain ⟨e', _, first, ⟨f', _, other, ⟨g', _, last, rfl, rfl⟩, rfl⟩, same⟩ := changed
  obtain rfl : f' = f := by simpa using other
  have kept : e'.id = e.id ∧ g'.id = g.id ∧ e'.blocks = e.blocks ∧ g'.blocks = g.blocks :=
    ⟨first.id, last.id, first.blocks, last.blocks⟩
  have moved : e'.behavior = .followMouse .y ∧ g'.behavior = .followMouse .y :=
    ⟨(accepted.inj first.behavior).symm, (accepted.inj last.behavior).symm⟩
  refine ⟨scene, t, read, rebuilt.trans updated, ?_, ?_, ?_⟩
  · simp [names, same, kept, he, hf, hg]
  · simp [same, moved, still]
  · simp [same, elements, kept]

end Scene

end SceneSketch
