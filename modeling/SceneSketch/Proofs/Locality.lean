import SceneSketch.Proofs.SharedNames
import SceneSketch.Scene.Editing

/-!
# Edits are local

The lines of a frame are those of the background that moves, those of each element that is drawn and
those of the effects (`Scene.frameLines_eq`). What an element contributes is what it compiles to
alone, so an element that is added brings its own lines in and one that is removed takes its own
lines away; all others stay as they are (`Scene.edits_local`).
-/

namespace SceneSketch

/-! ## Lines of a body -/

def bodyLines (text : String) : List String :=
  if text = "" then [] else textLines text

theorem Line.text_eq_empty {line : Line} : line.text = "" ↔ line = .blank := by
  rw [← String.toList_eq_nil_iff, toList_text]
  cases line <;> simp [content]

theorem linesText_eq_empty {lines : List Line} (h : lines ≠ [.blank]) :
    linesText lines = "" ↔ lines = [] := by
  constructor
  · intro he
    match lines with
    | [] => rfl
    | [line] =>
      have single : linesText [line] = line.text := by simp [linesText]
      rw [single, Line.text_eq_empty] at he
      exact absurd (congrArg (fun l => [l]) he) h
    | line :: next :: rest =>
      rw [← String.toList_eq_nil_iff, linesText, String.toList_intercalate] at he
      simp [List.intercalate_cons_cons] at he
  · rintro rfl
    rfl

theorem bodyLines_linesText {lines : List Line} (h : lines ≠ [.blank]) :
    bodyLines (linesText lines) = lines.map Line.text := by
  rw [bodyLines]
  split
  · next he =>
    rw [(linesText_eq_empty h).mp he]
    rfl
  · next he => exact textLines_lines fun empty => he ((linesText_eq_empty h).mpr empty)

namespace Scene

/-! ## Parts of a scene -/

def bare (scene : Scene) : Scene :=
  { scene with effects := none }

def backdrop (scene : Scene) : Scene :=
  { scene with elements := scene.elements.filter Element.isBackground, effects := none }

def overlay (scene : Scene) : Scene :=
  { scene with elements := [] }

def frameLines (scene : Scene) : List String :=
  bodyLines scene.sketch.draw

section
variable (scene : Scene)

theorem frameLines_eq_map : scene.frameLines = scene.drawLines.map Line.text := by
  refine bodyLines_linesText ?_
  rw [drawLines]
  cases scene.drawStatements with
  | cons s statements => simp
  | nil =>
    rw [effectSection]
    split
    · simp
    · next none => simpa using none

theorem frameLines_overlay : scene.overlay.frameLines = scene.effectSection.map Line.text := by
  rw [frameLines_eq_map]
  rfl

theorem frameLines_bare :
    scene.bare.frameLines = (scene.drawStatements.map Line.code).map Line.text := by
  rw [frameLines_eq_map]
  exact congrArg _ (List.append_nil _)

theorem backgroundColor?_backdrop (static : Bool) :
    scene.backdrop.backgroundColor? static = scene.backgroundColor? static := by
  rw [backgroundColor?_eq, backgroundColor?_eq]
  refine findSome?_filter fun e _ other => Element.paint?_eq_none fun background => ?_
  exact absurd (other.symm.trans background) Bool.false_ne_true

theorem drawnElements_backdrop : scene.backdrop.drawnElements = [] := by
  simp [drawnElements, backdrop]

theorem frameLines_alone {e : Element} (h : e.isBackground = false) :
    (scene.alone e).frameLines = (e.statements.map Line.code).map Line.text := by
  have drawn : (scene.alone e).drawnElements = [e] := by simp [drawnElements, alone, h]
  have unpainted : (scene.alone e).backgroundColor? false = none := by
    rw [backgroundColor?_eq, alone, List.findSome?_singleton]
    exact Element.paint?_eq_none fun background =>
      absurd (h.symm.trans background) Bool.false_ne_true
  rw [frameLines_eq_map, drawLines, drawStatements, drawn, unpainted]
  simp [effectSection, alone, effectLines]

theorem frameLines_split :
    scene.frameLines = scene.bare.frameLines ++ scene.overlay.frameLines := by
  rw [frameLines_bare, frameLines_overlay, frameLines_eq_map, drawLines, List.map_append]

/-- **The code of an element does not depend on the others.** -/
theorem frameLines_bare_eq : scene.bare.frameLines =
    scene.backdrop.frameLines ++ scene.drawnElements.flatMap fun e =>
    (scene.alone e).frameLines := by
  have backdrop : scene.backdrop.frameLines =
      (((scene.backgroundColor? false).map Statement.background).toList.map Line.code).map
      Line.text := by
    have bare : scene.backdrop.bare = scene.backdrop := rfl
    rw [← bare, frameLines_bare, drawStatements, backgroundColor?_backdrop, drawnElements_backdrop,
      List.flatMap_nil, List.append_nil]
  have elements : scene.drawnElements.flatMap (fun e => (scene.alone e).frameLines) =
      ((scene.drawnElements.flatMap Element.statements).map Line.code).map Line.text := by
    rw [List.map_flatMap, List.map_flatMap]
    exact List.flatMap_congr fun e he => scene.frameLines_alone (mem_drawnElements he)
  rw [frameLines_bare, drawStatements, List.map_append, List.map_append, backdrop, elements]

/-- **The lines of a frame are those of its parts in a row.** -/
theorem frameLines_eq : scene.frameLines =
    scene.backdrop.frameLines ++
      scene.drawnElements.flatMap (fun e => (scene.alone e).frameLines) ++
      scene.overlay.frameLines := by
  rw [frameLines_split, frameLines_bare_eq]

theorem setup_backdrop : scene.backdrop.sketch.setup = scene.sketch.setup := by
  have painted := scene.backgroundColor?_backdrop true
  simp only [sketch, setupLines, setupStatements, painted]
  rfl

end

/-! ## Edits -/

theorem compiles_iff {scene : Scene} :
    (∃ code, scene.compile = .ok code) ↔ ∀ e ∈ scene.drawnElements, e.fault? = none := by
  simp [compile_eq_ok, fault?, List.findSome?_eq_none_iff]

section
variable (scene : Scene) {e : Element} (h : e.isBackground = false)
include h

theorem backdrop_add : (scene.add e).backdrop = scene.backdrop := by
  simp [backdrop, add, h]

theorem drawnElements_add : (scene.add e).drawnElements = scene.drawnElements ++ [e] := by
  simp [drawnElements, add, h]

theorem frameLines_add : (scene.add e).frameLines =
    scene.bare.frameLines ++ (scene.alone e).frameLines ++ scene.overlay.frameLines := by
  rw [frameLines_eq, backdrop_add scene h, drawnElements_add scene h, List.flatMap_append,
    List.flatMap_singleton, ← List.append_assoc, frameLines_bare_eq]
  rfl

end

theorem drawnElements_remove (scene : Scene) (id : Text) :
    (scene.remove id).drawnElements = scene.drawnElements.filter fun e => e.id ≠ id := by
  simp only [drawnElements, remove, List.filter_filter, Bool.and_comm]

section
variable {scene : Scene} {id : Text} (h : ∀ e ∈ scene.elements, e.id = id → e.isBackground = false)
include h

theorem backdrop_remove : (scene.remove id).backdrop = scene.backdrop := by
  have kept : (scene.elements.filter fun e => e.id ≠ id).filter Element.isBackground =
      scene.elements.filter Element.isBackground := by
    rw [List.filter_filter]
    refine List.filter_congr fun e he => ?_
    by_cases removed : e.id = id
    · simp [h e he removed]
    · simp [removed]
  simp only [backdrop, remove, kept]

theorem frameLines_remove : (scene.remove id).frameLines =
    scene.backdrop.frameLines ++
      (scene.drawnElements.filter fun e => e.id ≠ id).flatMap
      (fun e => (scene.alone e).frameLines) ++ scene.overlay.frameLines := by
  rw [frameLines_eq, backdrop_remove h, drawnElements_remove]
  rfl

end

/-- **An element that is added inserts the lines that it compiles to alone behind those of the
others and in front of those of the effects; elements that are removed delete their own lines only.
Neither changes the setup.** -/
theorem edits_local {scene : Scene} {code : String} (ok : scene.compile = .ok code) :
    (∀ e, e.isBackground = false →
      ((∃ added, (scene.add e).compile = .ok added) ↔ ∃ own, (scene.alone e).compile = .ok own) ∧
      (scene.add e).sketch.setup = scene.sketch.setup ∧
      scene.frameLines = scene.bare.frameLines ++ scene.overlay.frameLines ∧
      (scene.add e).frameLines =
        scene.bare.frameLines ++ (scene.alone e).frameLines ++ scene.overlay.frameLines) ∧
    ∀ id, (∀ e ∈ scene.elements, e.id = id → e.isBackground = false) →
      let own := fun e => (scene.alone e).frameLines
      (∃ removed, (scene.remove id).compile = .ok removed) ∧
      (scene.remove id).sketch.setup = scene.sketch.setup ∧
      scene.frameLines =
        scene.backdrop.frameLines ++ scene.drawnElements.flatMap own ++ scene.overlay.frameLines ∧
      (scene.remove id).frameLines = scene.backdrop.frameLines ++
        (scene.drawnElements.filter fun e => e.id ≠ id).flatMap own ++
        scene.overlay.frameLines := by
  have compiles := compiles_iff.mp ⟨code, ok⟩
  have setup_eq {edited : Scene} (h : edited.backdrop = scene.backdrop) :
      edited.sketch.setup = scene.sketch.setup := by
    rw [← edited.setup_backdrop, h, scene.setup_backdrop]
  refine ⟨fun e he => ⟨?_, setup_eq (backdrop_add scene he), scene.frameLines_split,
    frameLines_add scene he⟩,
    fun id hid => ⟨?_, setup_eq (backdrop_remove hid), scene.frameLines_eq, frameLines_remove hid⟩⟩
  · have drawn : (scene.alone e).drawnElements = [e] := by simp [drawnElements, alone, he]
    rw [compiles_iff, compiles_iff, drawnElements_add scene he, drawn, List.forall_mem_append]
    exact and_iff_right compiles
  · rw [compiles_iff, drawnElements_remove]
    exact fun e he => compiles e (List.mem_of_mem_filter he)

theorem edits_local_inverted :
    let scene : Scene :=
      { Gallery.simpleShapes with effects := some [⟨"invert", "Invert", "", true, .invert⟩] }
    let dot : Element :=
      { id := "dot", shape := .circle ⟨10, 20, 30⟩, placed := [⟨.rotate ⟨0.1⟩, rfl⟩] }
    (scene.add dot).frameLines =
        scene.bare.frameLines ++ (scene.alone dot).frameLines ++ scene.overlay.frameLines ∧
      (scene.remove "circle-1").sketch.setup = scene.sketch.setup := by
  intro scene dot
  obtain ⟨add, remove⟩ := @edits_local scene _ rfl
  exact ⟨(add dot rfl).2.2.2, (remove "circle-1" (by decide)).2.1⟩

end Scene

end SceneSketch
