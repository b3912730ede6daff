import SceneSketch.Proofs.Emission
import SceneSketch.Proofs.Survival

/-!
# What the code does not depend on

The essence of a scene is what remains of it without ids, the names that behaviors and effects
carry, the paint and blocks of backgrounds, backgrounds that another one hides, blocks that are
never written and disabled effects. The code of a scene is the code of its essence, so two scenes of
one essence have the same code (`compile_congr`).
-/

namespace SceneSketch

/-! ## Essence -/

def Block.isSilent : Block → Bool
  | clickToChange _ | unknown _ => true
  | _ => false

def Behavior.essence : Behavior → Behavior
  | animated a => .animated { a with property := "" }
  | random _ => .random ⟨"", 0, 0⟩
  | behavior => behavior

namespace Element

def essence (element : Element) : Element where
  id := ""
  shape := element.shape
  style := if element.isBackground then {} else element.style
  behavior := element.behavior.essence
  placed := if element.isBackground then [] else element.placed.filter fun b => !b.val.isSilent

/-- The elements without the backgrounds that come after another one of their kind; `seen` are the
kinds that came before. -/
def unhidden : List Bool → List Element → List Element
  | _, [] => []
  | seen, e :: es =>
    if e.isBackground then
      if e.isStatic ∈ seen then unhidden seen es else e :: unhidden (e.isStatic :: seen) es
    else e :: unhidden seen es

end Element

def Effect.essence (effect : Effect) : Effect :=
  { effect with id := "", name := "", description := "" }

def Scene.essence (scene : Scene) : Scene :=
  { scene with
    elements := (Element.unhidden [] scene.elements).map Element.essence
    effects := some (((scene.effects.getD []).filter Effect.enabled).map Effect.essence) }

/-! ## Silent blocks -/

namespace Block

theorem statements_of_isSilent {b : Block} (h : b.isSilent = true) (shape : Shape) :
    b.statements shape = [] := by
  cases b <;> first | rfl | cases h

theorem free_of_isSilent {b : Block} (tagged : b.isTagged = true) (h : b.isSilent = true)
    (known : b.priority ≠ .unknown) : b.axisClaim = .free := by
  cases b with
  | unknown u => exact absurd ((priority_eq_unknown tagged).mpr ⟨u, rfl⟩) known
  | clickToChange c => rfl
  | _ => cases h

theorem comparable_of_not_isSilent {b : Block} (h : b.isSilent = false) : Comparable b := by
  intro container
  have text : ∀ s : String, (Json.str s).axisClaim ≠ .containerKey container := by
    intro s
    by_cases h : s = "" <;> simp [Json.axisClaim, h]
  cases b with
  | oscillate b => exact text b.axis.name
  | bounce b => exact text b.axis.name
  | perlinNoise b => exact text b.axis.name
  | unknown b => cases h
  | _ => exact nofun

theorem isSilent_of_unknown {b : Block} (tagged : b.isTagged = true) (h : b.priority = .unknown) :
    b.isSilent = true := by
  obtain ⟨u, rfl⟩ := (priority_eq_unknown tagged).mp h
  rfl

end Block

theorem byPriority_filter (p : Block → Bool) (blocks : List Block) :
    byPriority (blocks.filter p) = (byPriority blocks).filter p := by
  unfold byPriority
  rw [List.filter_flatMap]
  simp only [List.filter_filter, Bool.and_comm]

theorem survivors_filter {p : Block → Bool} {blocks : List Block}
    (h : ∀ b ∈ blocks, p b = false → b.axisClaim = .free) (claimed : List AxisLabel) :
    survivors claimed (blocks.filter p) = (survivors claimed blocks).filter p := by
  induction blocks generalizing claimed with
  | nil => rfl
  | cons b bs ih =>
    obtain ⟨hb, hbs⟩ := List.forall_mem_cons.mp h
    cases hp : p b with
    | false => simp [survivors, hp, hb hp, ih hbs]
    | true =>
      rw [List.filter_cons_of_pos hp, survivors, survivors]
      cases b.axisClaim with
      | free => simp [hp, ih hbs]
      | claims label => by_cases hl : label ∈ claimed <;> simp [hl, hp, ih hbs]
      | containerKey c => rfl

theorem flatMap_filter_isSilent (shape : Shape) (blocks : List Block) :
    (blocks.filter fun b => !b.isSilent).flatMap (fun b => b.statements shape) =
      blocks.flatMap fun b => b.statements shape := by
  induction blocks with
  | nil => rfl
  | cons b bs ih =>
    by_cases h : b.isSilent = true
    · simp [h, ih, b.statements_of_isSilent h]
    · simp [h, ih]

/-- **Blocks that are never written do not change what is written for the others.** -/
theorem blockStatements_filter (shape : Shape) {blocks : List Block}
    (tagged : ∀ b ∈ blocks, b.isTagged = true) :
    blockStatements shape (blocks.filter fun b => !b.isSilent) = blockStatements shape blocks := by
  obtain ⟨known, others, he, hknown, hothers⟩ := byPriority_split blocks
  have own : ∀ b ∈ known ++ others, b.isTagged = true := fun b hb =>
    tagged b ((byPriority_perm blocks).mem_iff.mp (he ▸ hb))
  -- unknown blocks may claim an axis, but come when all others have claimed theirs
  obtain ⟨rest, hrest, hs⟩ := survivors_append known others []
  have silent : ∀ b ∈ others, b.isSilent = true := fun b hb =>
    Block.isSilent_of_unknown (own b (List.mem_append_right _ hb)) (hothers b hb)
  have dropped : (others.filter fun b => !b.isSilent) = [] :=
    List.filter_eq_nil_iff.mpr fun b hb => by simp [silent b hb]
  have unwritten : rest.flatMap (fun b => b.statements shape) = [] :=
    List.flatMap_eq_nil_iff.mpr fun b hb =>
      b.statements_of_isSilent (silent b (hrest.subset hb)) shape
  have free : ∀ b ∈ known, (!b.isSilent) = false → b.axisClaim = .free := fun b hb h =>
    Block.free_of_isSilent (own b (List.mem_append_left _ hb)) (by simpa using h) (hknown b hb)
  unfold blockStatements
  rw [keptBlocks_eq, keptBlocks_eq, byPriority_filter, he, List.filter_append, dropped,
    List.append_nil,
    survivors_filter free, flatMap_filter_isSilent, hs, List.flatMap_append, unwritten,
    List.append_nil]

/-! ## Elements -/

theorem Behavior.isStatic_essence (b : Behavior) : b.essence.isStatic = b.isStatic := by
  cases b <;> rfl

namespace Element

theorem isStatic_essence (e : Element) : e.essence.isStatic = e.isStatic :=
  e.behavior.isStatic_essence

theorem position_essence (e : Element) : e.essence.position = e.position := by
  unfold position essence
  cases e.shape.anchor? with
  | none => rfl
  | some anchor =>
    cases e.behavior with
    | animated a =>
      obtain ⟨_, motion⟩ := a
      cases motion <;> rfl
    | _ => rfl

theorem blocks_essence {e : Element} (h : e.isBackground = false) :
    e.essence.blocks = e.blocks.filter fun b => !b.isSilent := by
  rw [blocks, blocks, List.filter_map]
  simp [essence, h, Function.comp_def]

theorem statements_essence {e : Element} (h : e.isBackground = false) :
    e.essence.statements = e.statements := by
  have style : e.essence.style = e.style := by simp [essence, h]
  have shape : e.essence.shapeStatements = e.shapeStatements := by
    unfold shapeStatements
    rw [position_essence, style]
    rfl
  have closing : e.essence.closing = e.closing := by
    have rotates : ∀ b : Block, (b.isRotate && !b.isSilent) = b.isRotate := by
      intro b
      cases b <;> rfl
    rw [closing, blocks_essence h, List.filter_filter]
    simp only [rotates, Element.closing]
  rw [statements, statements, shape, closing, blocks_essence h]
  exact congrArg (· ++ _ ++ _) (blockStatements_filter e.shape fun b => isTagged_of_mem)

theorem filter_unhidden (seen : List Bool) (es : List Element) :
    (unhidden seen es).filter (fun e => !e.isBackground) = es.filter fun e => !e.isBackground := by
  induction es generalizing seen with
  | nil => rfl
  | cons e es ih =>
    rw [unhidden]
    by_cases h : e.isBackground = true
    · by_cases hs : e.isStatic ∈ seen <;> simp [h, hs, ih]
    · simp [h, ih]

theorem paint?_essence (static : Bool) (e : Element) :
    e.essence.paint? static = e.paint? static := by
  unfold paint?
  rw [isStatic_essence]
  rfl

theorem isSome_paint? {e : Element} (h : e.isBackground = true) :
    (e.paint? e.isStatic).isSome = true := by
  unfold isBackground at h
  unfold paint?
  cases hs : e.shape with
  | background color => simp
  | _ =>
    rw [hs] at h
    cases h

/-- **A hidden background does not count.** -/
theorem findSome?_unhidden {static : Bool} {seen : List Bool} (h : static ∉ seen)
    (es : List Element) :
    (unhidden seen es).findSome? (paint? static) = es.findSome? (paint? static) := by
  induction es generalizing seen with
  | nil => rfl
  | cons e es ih =>
    rw [unhidden]
    by_cases background : e.isBackground = true
    · by_cases hidden : e.isStatic ∈ seen
      · have other : e.paint? static = none := paint?_eq_none fun _ same => h (same ▸ hidden)
        simp [background, hidden, other, ih h]
      · by_cases same : e.isStatic = static
        · -- the search ends here, so nothing behind it matters
          obtain ⟨color, found⟩ := Option.isSome_iff_exists.mp (same ▸ isSome_paint? background)
          simp [background, same ▸ hidden, same, found]
        · have later : static ∉ e.isStatic :: seen := by simp [h, Ne.symm same]
          simp only [background, hidden, if_true, if_false, List.findSome?_cons, ih later]
    · simp only [background, Bool.false_eq_true, if_false, List.findSome?_cons, ih h]

end Element

/-! ## Scenes -/

theorem effectLines_essence (effects : List Effect) :
    effectLines ((effects.filter Effect.enabled).map Effect.essence) = effectLines effects := by
  have enabled : ((effects.filter Effect.enabled).map Effect.essence).filter Effect.enabled =
      (effects.filter Effect.enabled).map Effect.essence := by
    simp only [List.filter_eq_self, List.forall_mem_map, List.mem_filter]
    exact fun e he => he.2
  simp only [effectLines, enabled, List.isEmpty_map, List.flatMap_map]
  rfl

namespace Scene

theorem backgroundColor?_essence (scene : Scene) (static : Bool) :
    scene.essence.backgroundColor? static = scene.backgroundColor? static := by
  rw [backgroundColor?_eq, backgroundColor?_eq, essence, List.findSome?_map,
    ← Element.findSome?_unhidden List.not_mem_nil scene.elements]
  exact congrArg (fun f => List.findSome? f _) (funext (Element.paint?_essence static))

theorem drawnElements_essence (scene : Scene) :
    scene.essence.drawnElements = scene.drawnElements.map Element.essence := by
  unfold drawnElements
  rw [← Element.filter_unhidden [] scene.elements]
  exact List.filter_map

theorem flatMap_essence (scene : Scene) :
    scene.essence.drawnElements.flatMap Element.statements =
      scene.drawnElements.flatMap Element.statements := by
  rw [drawnElements_essence, List.flatMap_map]
  exact List.flatMap_congr fun e he => Element.statements_essence (mem_drawnElements he)

theorem sketch_essence (scene : Scene) : scene.essence.sketch = scene.sketch := by
  have setup : scene.essence.setupStatements = scene.setupStatements := by
    unfold setupStatements
    rw [backgroundColor?_essence]
    rfl
  have draw : scene.essence.drawStatements = scene.drawStatements := by
    unfold drawStatements
    rw [backgroundColor?_essence, flatMap_essence]
  have effects : scene.essence.effectSection = scene.effectSection := by
    unfold effectSection
    rw [essence, Option.getD_some, effectLines_essence]
  simp only [sketch, setupLines, drawLines, setup, draw, effects]

theorem fault?_essence {scene : Scene} (h : scene.fault? = none) : scene.essence.fault? = none := by
  unfold fault? at h ⊢
  rw [drawnElements_essence, List.findSome?_eq_none_iff, List.forall_mem_map]
  intro e he
  obtain ⟨-, shape⟩ := Element.fault?_eq_none.mp (List.findSome?_eq_none_iff.mp h e he)
  refine Element.fault?_eq_none.mpr ⟨axisFault?_eq_none.mpr fun b hb => ?_, shape⟩
  rw [Element.blocks_essence (mem_drawnElements he), List.mem_filter] at hb
  exact b.comparable_of_not_isSilent (by simpa using hb.2)

/-- **The code of a scene is that of its essence.** -/
theorem compile_essence {scene : Scene} {code : String} (h : scene.compile = .ok code) :
    scene.essence.compile = .ok code := by
  obtain ⟨clear, code⟩ := compile_eq_ok.mp h
  refine compile_eq_ok.mpr ⟨fault?_essence clear, ?_⟩
  rw [Scene.code, sketch_essence]
  exact code

/-- **Scenes of one essence have the same code.** -/
theorem compile_congr {s t : Scene} {c d : String} (hs : s.compile = .ok c) (ht : t.compile = .ok d)
    (h : s.essence = t.essence) : c = d := by
  have same := compile_essence hs
  rw [h, compile_essence ht] at same
  exact (Except.ok.inj same).symm

def swinging : Scene where
  canvas := ⟨800, 600⟩
  elements :=
    [{ id := "sky", shape := .background (.gray ⟨220, none⟩) },
      { id := "ball", shape := .circle ⟨400, 300, 50⟩, behavior := .animated ⟨"x", .linear 1⟩,
        placed := [⟨.oscillate ⟨.x, 0.05, 80⟩, rfl⟩] }]

/-- The same ball under other names, with a hidden background, a disabled effect, and blocks that
are not written, one of which claims the axis of the ball. -/
def swingingCluttered : Scene where
  canvas := ⟨800, 600⟩
  elements :=
    [{ id := "a", shape := .background (.gray ⟨220, none⟩), style := { noFill := true },
        placed := [⟨.rotate ⟨0.1⟩, rfl⟩] },
      { id := "b", shape := .circle ⟨400, 300, 50⟩, behavior := .animated ⟨"width", .linear 1⟩,
        placed := [⟨.unknown ⟨"drift", [("axis", .str "x")]⟩, rfl⟩,
          ⟨.clickToChange ⟨"fill", .null⟩, rfl⟩, ⟨.oscillate ⟨.x, 0.05, 80⟩, rfl⟩] },
      { id := "c", shape := .background (.gray ⟨0, none⟩) }]
  effects := some [⟨"d", "Blur", "", false, .blur 4⟩]

theorem compile_congr_swinging : swinging.code = swingingCluttered.code :=
  compile_congr (s := swinging) (t := swingingCluttered) rfl rfl rfl

end Scene

end SceneSketch
