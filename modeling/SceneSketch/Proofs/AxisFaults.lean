import SceneSketch.Proofs.Emission
import SceneSketch.Proofs.Sequences
import SceneSketch.Proofs.Survival

/-!
# Scenes that do not compile

A block of a known kind claims an axis by its name, or claims none. A block of an unknown kind may
have anything under `axis`, and a list or an object that is not empty cannot be compared with the
claims; this ends the compilation, although unknown blocks have no code. So does a text with a lone
surrogate, which cannot be encoded (`compile_ok_iff`).
-/

namespace SceneSketch

/-! ## Blocks -/

def Json.filled? : Json → Option Container
  | arr (_ :: _) => some .list
  | obj (_ :: _) => some .object
  | _ => none

/-- The container that a block of an unknown kind has for its axis, unless it is empty. -/
def Block.axisContainer? : Block → Option Container
  | unknown block => (Members.get? block.extras "axis").bind Json.filled?
  | _ => none

theorem Json.container?_axisClaim (j : Json) : j.axisClaim.container? = j.filled? := by
  cases j with
  | null => rfl
  | bool b => cases b <;> rfl
  | int n =>
    rw [axisClaim]
    split <;> rfl
  | num x =>
    cases x with
    | finite x =>
      rw [axisClaim]
      split <;> rfl
    | _ => rfl
  | str s =>
    rw [axisClaim]
    split <;> rfl
  | arr items => cases items <;> rfl
  | obj members => cases members <;> rfl

namespace Block

theorem container?_axisClaim (b : Block) : b.axisClaim.container? = b.axisContainer? := by
  rw [axisClaim, Json.container?_axisClaim]
  cases b with
  | unknown block =>
    rw [axis, axisContainer?]
    cases Members.get? block.extras "axis" <;> rfl
  | _ => rfl

theorem axisContainer?_of_known {b : Block} (tagged : b.isTagged = true)
    (known : b.priority ≠ .unknown) : b.axisContainer? = none := by
  cases b with
  | unknown u => exact absurd ((priority_eq_unknown tagged).mpr ⟨u, rfl⟩) known
  | _ => rfl

end Block

/-- **Of the blocks of an element the first one with a container for its axis ends the walk.** -/
theorem axisFault?_eq_findSome? {blocks : List Block} (tagged : ∀ b ∈ blocks, b.isTagged = true) :
    axisFault? blocks = blocks.findSome? Block.axisContainer? := by
  have known : ∀ p ∈ Priority.all.dropLast,
      (blocks.filter fun b => b.priority = p).findSome? Block.axisContainer? = none := by
    refine fun p hp => List.findSome?_eq_none_iff.mpr fun b hb => ?_
    obtain ⟨listed, here⟩ := List.mem_filter.mp hb
    have priority : b.priority = p := by simpa using here
    refine Block.axisContainer?_of_known (tagged b listed) fun unknown => ?_
    rw [← priority, unknown] at hp
    exact absurd hp (by decide)
  have last : Priority.all = Priority.all.dropLast ++ [.unknown] := rfl
  rw [axisFault?_eq]
  simp only [Block.container?_axisClaim]
  -- blocks of unknown kind come last, in the order in which they are given
  rw [byPriority, findSome?_flatMap, last, List.findSome?_append,
    List.findSome?_eq_none_iff.mpr known, Option.none_or, List.findSome?_singleton]
  exact findSome?_filter fun b hb other =>
    Block.axisContainer?_of_known (tagged b hb) (by simpa using other)

/-! ## Texts and scenes -/

theorem Text.fault?_eq_none {t : Text} : t.fault? = none ↔ t.isUnicode = true := by
  cases t <;> simp [fault?, isUnicode]

theorem Shape.fault?_eq_none {shape : Shape} :
    shape.fault? = none ↔ ∀ s, shape = .text s → s.content.isUnicode = true := by
  cases shape <;> simp [fault?, Text.fault?_eq_none]

/-- All that keeps an element from being written: its blocks with a container for their axes, in
order, and the text that it shows. -/
def Element.obstacles (element : Element) : List CompileFault :=
  (element.blocks.filterMap Block.axisContainer?).map .containerKey ++
    (element.shape.fault?.map .unencodable).toList

theorem Element.fault?_eq_head? (e : Element) : e.fault? = e.obstacles.head? := by
  rw [fault?, axisFault?_eq_findSome? fun b => isTagged_of_mem, obstacles, List.head?_append,
    List.head?_map, List.head?_filterMap, Option.head?_toList]

namespace Scene

theorem fault?_eq_head? (scene : Scene) :
    scene.fault? = (scene.drawnElements.flatMap Element.obstacles).head? := by
  rw [fault?, List.head?_flatMap]
  exact congrArg (List.findSome? · _) (funext Element.fault?_eq_head?)

/-- **A scene has code exactly if no drawn block has a container that is not empty for its axis and
no drawn text has a lone surrogate; otherwise the first of these is what ends the compilation.** -/
theorem compile_ok_iff (scene : Scene) :
    ((∃ code, scene.compile = .ok code) ↔ ∀ e ∈ scene.drawnElements,
        (∀ b ∈ e.blocks, b.axisContainer? = none) ∧
          ∀ s, e.shape = .text s → s.content.isUnicode = true) ∧
      ∀ fault, scene.compile = .error fault ↔
        (scene.drawnElements.flatMap Element.obstacles).head? = some fault := by
  have clear : scene.fault? = none ↔ ∀ e ∈ scene.drawnElements,
      (∀ b ∈ e.blocks, b.axisContainer? = none) ∧
        ∀ s, e.shape = .text s → s.content.isUnicode = true := by
    simp only [fault?, List.findSome?_eq_none_iff, Element.fault?_eq_none, Shape.fault?_eq_none,
      axisFault?_eq_findSome? fun b => Element.isTagged_of_mem]
  rw [← clear, ← fault?_eq_head?, compile]
  cases scene.fault? <;> simp

end Scene

/-- A scene with one circle, the only block of which is of an unknown kind and has a list for its
axis. -/
def drifting (size : FiniteDouble) : Json :=
  .obj [("canvas", .obj [("width", .num (.finite size)), ("height", .num (.finite size))]),
    ("elements", .arr [.obj [("id", .str "a"),
      ("type", .obj [("kind", .str "circle"), ("x", .num (.finite size)),
        ("y", .num (.finite size)),
        ("diameter", .num (.finite size))]),
      ("blocks", .arr [.obj [("type", .str "drift"), ("axis", .arr [.str "x"])]])]])]

def fourHundred : FiniteDouble :=
  ⟨false, 0x4079000000000000, by decide⟩

example : (400 : Double) = .finite fourHundred := by decide +kernel

theorem Scene.drifting_stops : ¬ ∀ document scene, Scene.codec.read document = .accepted scene →
    ∃ code, scene.compile = .ok code := by
  intro compiles
  have stopped (size : FiniteDouble) : ∃ scene, Scene.codec.read (drifting size) = .accepted scene ∧
      scene.compile = .error (.containerKey .list) :=
    ⟨_, rfl, rfl⟩
  obtain ⟨scene, read, stops⟩ := stopped fourHundred
  obtain ⟨code, ok⟩ := compiles _ scene read
  cases ok.symm.trans stops

end SceneSketch
