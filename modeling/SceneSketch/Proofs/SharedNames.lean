import SceneSketch.Proofs.Containment
import SceneSketch.Proofs.Declarations

/-!
# Names that a frame declares

All elements and effects are written into one function body, where a name may be declared once. Each
of them takes its names from the same few, whatever the others do: two elements that move along one
axis declare it twice, and so do two pixelate effects with their buffer. So the names of a frame are
distinct exactly under the condition of `frame_names_distinct_iff`.
-/

namespace SceneSketch

/-! ## Names of an element -/

namespace Element

def declares (element : Element) (v : Variable) : Bool :=
  element.blocks.any (Block.declares element.shape v) || element.waves && (v = .x || v = .y)

def declared (element : Element) : List Variable :=
  declaredVariables element.statements

theorem declared_eq (e : Element) :
    e.declared = declaredVariables (blockStatements e.shape e.blocks ++ e.shapeStatements) := by
  have closing : declaredVariables e.closing = [] := by
    apply List.filterMap_eq_nil_iff.mpr
    intro s hs
    obtain ⟨b, _, rfl⟩ := List.mem_map.mp hs
    rfl
  rw [declared, statements, declaredVariables_append, closing, List.append_nil]

section
variable {e : Element} (h : axisFault? e.blocks = none)
include h

theorem axis_mem_declared (axis : Axis) :
    axis.toVariable ∈ e.declared ↔ e.declares axis.toVariable = true := by
  have block : Block.declares e.shape axis.toVariable = fun b =>
      b.movesAlong axis || b.movesFreely e.shape := by
    cases axis <;> rfl
  have position : (axis.toVariable = .x || axis.toVariable = .y) = true := by cases axis <;> rfl
  have moved : 0 < e.blocks.countP (Block.declares e.shape axis.toVariable) ↔
      e.blocks.any (Block.declares e.shape axis.toVariable) = true := by
    rw [List.countP_pos_iff, List.any_eq_true]
  rw [block, countP_or fun b => Block.not_movesFreely_of_movesAlong] at moved
  rw [declared_eq, ← List.count_pos_iff, count_axis h,
    countP_keptBlocks_movesAlong h (fun b => isTagged_of_mem), declares, position, block,
    Bool.or_eq_true, ← moved, freeMoves]
  cases e.waves <;> simp

theorem other_mem_declared {v u : Variable} (hv : (v = .x || v = .y) = false)
    (hd : Block.declares e.shape v = fun b => decide (b.sets? = some u)) :
    v ∈ e.declared ↔ e.declares v = true := by
  rw [declared_eq, ← List.count_pos_iff, count_other h hv hd, declares, hv, hd, Bool.and_false,
    Bool.or_false, List.countP_pos_iff, List.any_eq_true]

theorem mem_declared (v : Variable) : v ∈ e.declared ↔ e.declares v = true := by
  cases v with
  | x => exact axis_mem_declared h .x
  | y => exact axis_mem_declared h .y
  | jitterX => exact other_mem_declared h (u := .jitterX) rfl rfl
  | jitterY => exact other_mem_declared h (u := .jitterX) rfl rfl
  | alpha => exact other_mem_declared h (u := .alpha) rfl rfl
  | hue => exact other_mem_declared h (u := .hue) rfl rfl
  | buffer =>
    have effects : ∀ b ∈ keptBlocks e.blocks, ¬ b.declares e.shape .buffer = true :=
      fun b _ => Bool.false_ne_true
    rw [declared_eq, ← List.count_pos_iff, count_declared, List.countP_eq_zero.mpr effects]
    simp [declares, Block.declares]

end

end Element

/-! ## Names of the effects -/

def Filter.isPixelate : Filter → Bool
  | pixelate _ => true
  | _ => false

theorem Filter.declared_lines (filter : Filter) :
    filter.lines.filterMap Line.declared? = if filter.isPixelate then [.buffer] else [] := by
  cases filter with
  | colorShift c =>
    rw [lines]
    split <;> rfl
  | _ => rfl

/-- The effect is applied and draws through a buffer. -/
def Effect.buffers (effect : Effect) : Bool :=
  effect.enabled && effect.filter.isPixelate

theorem declared_effectLines (effects : List Effect) :
    (effectLines effects).filterMap Line.declared? =
      List.replicate (effects.countP Effect.buffers) .buffer := by
  have each : ∀ es : List Effect, (es.flatMap fun e => e.filter.lines).filterMap Line.declared? =
      List.replicate (es.countP fun e => e.filter.isPixelate) .buffer := by
    intro es
    induction es with
    | nil => rfl
    | cons e es ih =>
      rw [List.flatMap_cons, List.filterMap_append, ih, Filter.declared_lines, List.countP_cons]
      by_cases h : e.filter.isPixelate = true <;> simp [h, List.replicate_succ]
  have enabled : (effects.filter Effect.enabled).countP (fun e => e.filter.isPixelate) =
      effects.countP Effect.buffers := by
    rw [List.countP_filter]
    exact List.countP_congr fun e _ => by simp [Effect.buffers, and_comm]
  rw [← enabled, ← each]
  simp only [effectLines]
  split
  · next h => rw [List.isEmpty_iff.mp h]; rfl
  · rfl

/-! ## Names of a frame -/

namespace Scene

def frameNames (scene : Scene) : List String :=
  declaredNames (textLines scene.sketch.draw)

def alone (scene : Scene) (element : Element) : Scene :=
  { scene with elements := [element], effects := none }

def aloneEffect (scene : Scene) (effect : Effect) : Scene :=
  { scene with elements := [], effects := some [effect] }

def bufferCount (scene : Scene) : Nat :=
  (scene.effects.getD []).countP Effect.buffers

theorem frameNames_eq (scene : Scene) : scene.frameNames =
    (scene.drawnElements.flatMap Element.declared ++
      List.replicate scene.bufferCount Variable.buffer).map Variable.name := by
  have effects : scene.effectSection.filterMap Line.declared? =
      List.replicate scene.bufferCount .buffer := by
    rw [bufferCount, ← declared_effectLines, effectSection]
    split
    · next h => rw [h]
    · rfl
  have background : declaredVariables
      ((scene.backgroundColor? false).map Statement.background).toList = [] := by
    cases scene.backgroundColor? false <;> rfl
  have statements : (scene.drawStatements.map Line.code).filterMap Line.declared? =
      scene.drawnElements.flatMap Element.declared := by
    rw [List.filterMap_map]
    change declaredVariables scene.drawStatements = _
    rw [drawStatements, declaredVariables_append, background]
    exact List.filterMap_flatMap ..
  rw [frameNames, sketch, declaredNames, filterMap_textLines (by decide) declaredName?_text,
    ← List.map_filterMap, drawLines, List.filterMap_append, effects, statements]

section
variable {scene : Scene} (h : scene.fault? = none)
include h

theorem nodup_frameNames : scene.frameNames.Nodup ↔
    (∀ e ∈ scene.drawnElements, e.declared.Nodup) ∧
      (scene.drawnElements.Pairwise fun e f => ∀ v, e.declares v = true → f.declares v = false) ∧
      scene.bufferCount ≤ 1 := by
  have declared : ∀ e ∈ scene.drawnElements, ∀ v, v ∈ e.declared ↔
    e.declares v = true := fun e he =>
    Element.mem_declared (fault?_eq_none h e he)
  have apart : (scene.drawnElements.flatMap Element.declared).Disjoint
      (List.replicate scene.bufferCount Variable.buffer) := by
    intro v hv hb
    obtain ⟨e, he, hv⟩ := List.mem_flatMap.mp hv
    rw [declared e he, List.eq_of_mem_replicate hb] at hv
    simp [Element.declares, Block.declares] at hv
  have pairs : scene.drawnElements.Pairwise (Function.onFun List.Disjoint Element.declared) ↔
      scene.drawnElements.Pairwise fun e f => ∀ v, e.declares v = true → f.declares v = false := by
    refine List.Pairwise.iff_of_mem fun {e f} he hf => ?_
    simp only [Function.onFun, List.Disjoint, declared e he, declared f hf]
    simp
  rw [frameNames_eq, List.nodup_map_iff Variable.name_injective, List.nodup_append',
    List.nodup_flatMap, List.nodup_replicate, pairs]
  tauto

end

theorem nodup_alone (scene : Scene) : (∀ e ∈ scene.elements, (scene.alone e).frameNames.Nodup) ↔
    ∀ e ∈ scene.drawnElements, e.declared.Nodup := by
  have frame : ∀ e, (scene.alone e).frameNames.Nodup ↔
      (e.isBackground = false → e.declared.Nodup) := by
    intro e
    have effects : (scene.alone e).bufferCount = 0 := rfl
    rw [frameNames_eq, List.nodup_map_iff Variable.name_injective, effects]
    cases h : e.isBackground <;> simp [alone, drawnElements, h]
  simp [frame, drawnElements]

theorem nodup_aloneEffect (scene : Scene) (f : Effect) :
    (scene.aloneEffect f).frameNames.Nodup := by
  have buffers : (scene.aloneEffect f).bufferCount ≤ 1 := List.countP_le_length
  rw [frameNames_eq, List.nodup_map_iff Variable.name_injective]
  exact List.nodup_replicate.mpr buffers

/-- **The names of a frame are distinct exactly if each element declares its own once, no two
elements share one, and at most one effect draws through a buffer.** -/
theorem frame_names_distinct_iff {scene : Scene} {code : String} (h : scene.compile = .ok code) :
    scene.frameNames.Nodup ↔
      (∀ e ∈ scene.elements, (scene.alone e).frameNames.Nodup) ∧
        (scene.drawnElements.Pairwise fun e f => ∀ v, e.declares v = true → f.declares v = false) ∧
        scene.bufferCount ≤ 1 := by
  rw [nodup_frameNames (compile_eq_ok.mp h).1, nodup_alone]

def circles (blocks : List (List PlacedBlock)) : Scene where
  canvas := ⟨800, 600⟩
  elements := blocks.map fun bs => { id := "circle", shape := .circle ⟨400, 300, 50⟩, placed := bs }

theorem frame_names_distinct_crossing :
    (circles [[⟨.oscillate ⟨.x, 0.05, 100⟩, rfl⟩],
      [⟨.oscillate ⟨.y, 0.05, 100⟩, rfl⟩]]).frameNames.Nodup := by
  refine (frame_names_distinct_iff rfl).mpr ⟨?_, ?_, by decide⟩
  · rw [nodup_alone]
    decide
  · refine List.pairwise_pair.mpr fun v => ?_
    cases v <;> decide

/-- Two circles that swing along the horizontal axis declare `x` twice, each of them once. -/
theorem names_collide : ¬ ∀ scene : Scene,
    (∀ e ∈ scene.elements, (∃ code, (scene.alone e).compile = .ok code) ∧
      (scene.alone e).frameNames.Nodup) →
    (∀ f ∈ scene.effects.getD [], f.enabled = true →
      (∃ code, (scene.aloneEffect f).compile = .ok code) ∧ (scene.aloneEffect f).frameNames.Nodup) →
    scene.frameNames.Nodup := by
  intro distinct
  let pair : Scene := circles
    [[⟨.oscillate ⟨.x, 0.05, 100⟩, rfl⟩], [⟨.oscillate ⟨.x, 0.05, 100⟩, rfl⟩]]
  have compiles : ∀ e ∈ pair.elements, ∃ code, (pair.alone e).compile = .ok code := by
    simp only [pair, circles, List.map_cons, List.map_nil, List.forall_mem_cons]
    exact ⟨⟨_, rfl⟩, ⟨_, rfl⟩, List.forall_mem_nil _⟩
  have once : ∀ e ∈ pair.elements, (pair.alone e).frameNames.Nodup := by
    rw [nodup_alone]
    decide
  have := distinct pair (fun e he => ⟨compiles e he, once e he⟩) (List.forall_mem_nil _)
  rw [frameNames_eq, List.nodup_map_iff Variable.name_injective] at this
  exact absurd this (by decide)

end Scene

end SceneSketch
