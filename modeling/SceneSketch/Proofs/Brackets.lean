import SceneSketch.Gallery.Scenes
import SceneSketch.Proofs.Containment
import SceneSketch.Proofs.LeadingWord
import SceneSketch.Proofs.Survival

/-!
# Transformations are closed

A rotation opens a transformation before the shape of its element and the element closes it after
the shape. What is opened comes from the blocks that are written, what is closed is counted on all
blocks of the element; both agree because no rotation claims an axis (`Element.balanced_lines`).
-/

namespace SceneSketch

/-! ## Lines that open, close and draw -/

def bracketWeight (line : String) : Int :=
  if line = "  push();" then 1 else if line = "  pop();" then -1 else 0

def callsShape (line : String) : Bool :=
  ["ellipse", "rect", "line", "text"].any fun w =>
    (' ' :: ' ' :: (w.toList ++ ['('])).isPrefixOf line.toList

namespace Statement

def bracket : Statement → Int
  | push => 1
  | pop => -1
  | _ => 0

def drawsShape : Statement → Bool
  | ellipse _ _ _ | rect _ _ _ _ | line _ | text _ _ _ => true
  | _ => false

def Neutral (s : Statement) : Prop := s.bracket = 0 ∧ s.drawsShape = false

end Statement

/-- A line that is a call without arguments, of a function that only one statement begins with. -/
theorem Line.eq_of_call {line : Line} {s : Statement} {w : String}
    (hw : ∀ c ∈ w.toList, c.isAlpha = true)
    (hne : w ≠ "") (hs : ∀ t : Statement, t.keyword = w → t = s)
    (h : line.text.toList = ' ' :: ' ' :: (w.toList ++ ['(', ')', ';'])) : line = .code s := by
  have head : ' ' :: ' ' :: (w.toList ++ ['(']) <+: line.text.toList := ⟨[')', ';'], by simp [h]⟩
  obtain ⟨t, rfl, ht⟩ := code_of_head hw (by decide) head hne
  rw [hs t ht]

theorem Line.eq_push_of_text {line : Line} (h : line.text = "  push();") : line = .code .push :=
  eq_of_call (by simp) (by decide) (fun _ => Statement.keyword_eq_push) (by simp [h])

theorem Line.eq_pop_of_text {line : Line} (h : line.text = "  pop();") : line = .code .pop :=
  eq_of_call (by simp) (by decide) (fun _ => Statement.keyword_eq_pop) (by simp [h])

theorem Line.bracketWeight_text (line : Line) :
    bracketWeight line.text = match line with | code s => s.bracket | _ => 0 := by
  rw [bracketWeight]
  split
  · next h => rw [eq_push_of_text h]; rfl
  · next hpush =>
    split
    · next h => rw [eq_pop_of_text h]; rfl
    · next hpop =>
      cases line with
      | blank => rfl
      | remark r => rfl
      | code s =>
        cases s with
        | push => exact absurd rfl hpush
        | pop => exact absurd rfl hpop
        | _ => rfl

theorem Statement.drawsShape_of_keyword {s : Statement}
    (h : s.keyword ∈ ["ellipse", "rect", "line", "text"]) : s.drawsShape = true := by
  cases s <;> simp [keyword, drawsShape] at h ⊢

theorem callsShape_code (s : Statement) : callsShape (Line.code s).text = s.drawsShape := by
  refine Bool.eq_iff_iff.mpr ⟨fun h => ?_, fun h => ?_⟩
  · obtain ⟨w, hw, h⟩ := List.any_eq_true.mp h
    have letters : ∀ c ∈ w.toList, c.isAlpha = true := by
      revert w
      simp
    have keyword : s.keyword = w :=
      Line.keyword_of_head letters (by decide) (List.isPrefixOf_iff_prefix.mp h)
    exact Statement.drawsShape_of_keyword (keyword ▸ hw)
  · cases s <;> simp only [Statement.drawsShape, Bool.false_eq_true] at h <;>
      simp [callsShape, Line.toList_text, Line.content, Statement.pieces, callPieces, Piece.text]

/-! ## Lines of an element -/

theorem Block.bracket_statements (shape : Shape) (b : Block) :
    level Statement.bracket (b.statements shape) = if b.isRotate then 1 else 0 := by
  cases b with
  | followMouse b =>
    rw [statements]
    cases shape.anchor? <;> rfl
  | _ => rfl

theorem Block.rising (shape : Shape) (b : Block) :
    ∀ s ∈ b.statements shape, 0 ≤ s.bracket ∧ s.drawsShape = false := by
  apply forall_statements <;> intros <;> simp [Statement.bracket, Statement.drawsShape]

theorem Style.neutral (style : Style) : ∀ s ∈ style.statements, s.Neutral := by
  apply forall_statements <;> intros <;> exact ⟨rfl, rfl⟩

namespace Element

theorem neutral_declarations (e : Element) : ∀ s ∈ e.position.declarations, s.Neutral :=
  e.forall_declarations fun _ _ => ⟨rfl, rfl⟩

theorem shapeStatements_eq {e : Element} (h : e.isBackground = false) :
    ∃ before call, e.shapeStatements = before ++ [call] ∧ call.bracket = 0 ∧
      call.drawsShape = true ∧
      ∀ s ∈ before, s.Neutral := by
  obtain ⟨before, he, hbefore⟩ := e.shapeStatements_split
  refine ⟨before, e.shapeCall, he, ?_, ?_, fun s hs => ?_⟩
  · unfold shapeCall
    cases e.shape <;> rfl
  · unfold isBackground at h
    unfold shapeCall
    cases hs : e.shape with
    | background color =>
      rw [hs] at h
      cases h
    | _ => rfl
  · rcases hbefore s hs with hs | hs | ⟨size, rfl⟩
    · exact e.style.neutral s hs
    · exact e.neutral_declarations s hs
    · exact ⟨rfl, rfl⟩

theorem level_closing (e : Element) :
    level Statement.bracket e.closing = -(e.blocks.countP Block.isRotate : Int) := by
  rw [closing, List.countP_eq_length_filter]
  induction e.blocks.filter Block.isRotate with
  | nil => rfl
  | cons b bs ih =>
    rw [List.map_cons, level_cons, ih, Statement.bracket, List.length_cons]
    push_cast
    omega

end Element

/-- **No rotation is displaced, so as many transformations are opened as there are rotations.** -/
theorem level_blockStatements {blocks : List Block} (h : axisFault? blocks = none) (shape : Shape) :
    level Statement.bracket (blockStatements shape blocks) = blocks.countP Block.isRotate := by
  have free : ∀ b : Block, b.isRotate = true → b.axisClaim = .free := by
    intro b hb
    cases b <;> first | rfl | cases hb
  rw [blockStatements, level_flatMap]
  simp only [Block.bracket_statements]
  rw [level_indicator, countP_keptBlocks_free h free]

namespace Element

variable {e : Element} (hb : e.isBackground = false) (hf : axisFault? e.blocks = none)
include hb hf

theorem statements_eq : ∃ head call tail, e.statements = head ++ call :: tail ∧
    call.drawsShape = true ∧
    (∀ s ∈ head ++ tail, s.drawsShape = false) ∧
    level Statement.bracket head = e.blocks.countP Block.isRotate := by
  obtain ⟨before, call, he, _, hcall, hbefore⟩ := shapeStatements_eq hb
  refine ⟨blockStatements e.shape e.blocks ++ before, call, e.closing, ?_, hcall, ?_, ?_⟩
  · rw [statements, he]
    simp
  · simp only [List.forall_mem_append]
    refine ⟨⟨fun s hs => ?_, fun s hs => (hbefore s hs).2⟩, fun s hs => ?_⟩
    · obtain ⟨b, _, hs⟩ := List.mem_flatMap.mp hs
      exact (b.rising e.shape s hs).2
    · obtain ⟨b, _, rfl⟩ := List.mem_map.mp hs
      rfl
  · rw [level_append, level_blockStatements hf, level_eq_zero fun s hs =>
      (hbefore s hs).1, add_zero]

/-- **An element closes what it opens.** -/
theorem balanced_statements : Balanced Statement.bracket e.statements := by
  obtain ⟨before, call, he, hcall, _, hbefore⟩ := shapeStatements_eq hb
  have shape : ∀ s ∈ e.shapeStatements, s.bracket = 0 := by
    rw [he, List.forall_mem_append]
    exact ⟨fun s hs => (hbefore s hs).1, by simpa using hcall⟩
  -- up to the shape nothing closes, after it nothing opens
  refine balanced_of_rise_fall ?_ ?_ ?_
  · simp only [List.forall_mem_append]
    refine ⟨fun s hs => ?_, fun s hs => (shape s hs).ge⟩
    obtain ⟨b, _, hs⟩ := List.mem_flatMap.mp hs
    exact (b.rising e.shape s hs).1
  · intro s hs
    obtain ⟨b, _, rfl⟩ := List.mem_map.mp hs
    decide
  · rw [level_append, level_append, level_blockStatements hf, level_eq_zero shape, level_closing]
    omega

end Element

/-! ## Lines of a frame -/

theorem bracketWeight_comp : (bracketWeight ∘ fun s => (Line.code s).text) = Statement.bracket :=
  funext fun s => Line.bracketWeight_text (.code s)

theorem level_statementLines (ss : List Statement) :
    level bracketWeight (statementLines ss) = level Statement.bracket ss := by
  rw [statementLines, level_map, bracketWeight_comp]

theorem balanced_statementLines {ss : List Statement} (h : Balanced Statement.bracket ss) :
    Balanced bracketWeight (statementLines ss) := by
  rw [← bracketWeight_comp] at h
  exact h.map

theorem Filter.weight_lines (filter : Filter) :
    ∀ line ∈ filter.lines, bracketWeight line.text = 0 := by
  simp only [Line.bracketWeight_text]
  cases filter with
  | colorShift c =>
    rw [lines]
    split <;> simp [Statement.bracket]
  | _ => simp [lines, Statement.bracket]

namespace Scene

/-- The lines of a frame up to the effects if only these elements are drawn. -/
def drawnLines (scene : Scene) (elements : List Element) : List String :=
  statementLines (((scene.backgroundColor? false).map Statement.background).toList ++
    elements.flatMap Element.statements)

theorem weight_effectSection (scene : Scene) :
    ∀ line ∈ scene.effectSection, bracketWeight line.text = 0 :=
  forall_effectSection rfl (Line.bracketWeight_text _) fun e _ => e.filter.weight_lines

theorem map_drawLines (scene : Scene) : scene.drawLines.map Line.text =
    scene.drawnLines scene.drawnElements ++ scene.effectSection.map Line.text := by
  rw [drawLines, List.map_append, List.map_map]
  rfl

section
variable {scene : Scene} (h : scene.fault? = none)
include h

theorem balanced_drawnLines {elements : List Element}
    (he : ∀ e ∈ elements, e ∈ scene.drawnElements) :
    Balanced bracketWeight (scene.drawnLines elements) := by
  refine balanced_statementLines (Balanced.append (balanced_of_flat ?_) (balanced_flatMap ?_))
  · cases scene.backgroundColor? false <;> simp [Statement.bracket]
  · intro e hmem
    exact Element.balanced_statements (mem_drawnElements (he e hmem))
      (fault?_eq_none h e (he e hmem))

theorem balanced_draw : Balanced bracketWeight (textLines scene.sketch.draw) := by
  rw [sketch, textLines_body]
  split
  · exact balanced_of_flat (by decide)
  · rw [map_drawLines]
    refine (balanced_drawnLines h fun e he => he).append (balanced_of_flat ?_)
    simpa using scene.weight_effectSection

end

/-- **Transformation brackets balance.** -/
theorem compile_brackets {scene : Scene} {code : String} (h : scene.compile = .ok code) :
    Balanced bracketWeight (textLines scene.sketch.draw) ∧
    (level bracketWeight (scene.drawnLines scene.drawnElements) = 0 ∧
      (scene.effectSection ≠ [] → textLines scene.sketch.draw =
        scene.drawnLines scene.drawnElements ++ scene.effectSection.map Line.text)) ∧
    ∀ before e after, scene.drawnElements = before ++ e :: after →
      level bracketWeight (scene.drawnLines before) = 0 ∧
      ∃ head call tail rest,
        textLines scene.sketch.draw = scene.drawnLines before ++ (head ++ call :: tail) ++ rest ∧
        statementLines e.statements = head ++ call :: tail ∧
        callsShape call = true ∧ (∀ l ∈ head ++ tail, callsShape l = false) ∧
        level bracketWeight (scene.drawnLines before ++ head) = e.blocks.countP Block.isRotate := by
  have fault := (compile_eq_ok.mp h).1
  refine ⟨balanced_draw fault,
    ⟨(balanced_drawnLines fault fun e he => he).settled, fun hne => ?_⟩, ?_⟩
  · rw [sketch, textLines_lines (by simp [drawLines, hne]), map_drawLines]
  · intro before e after hsplit
    have drawn : e ∈ scene.drawnElements := by simp [hsplit]
    have balanced : Balanced bracketWeight (scene.drawnLines before) :=
      balanced_drawnLines fault fun e he => by simp [hsplit, he]
    obtain ⟨head, call, tail, hs, hcall, hother, hdepth⟩ :=
      Element.statements_eq (mem_drawnElements drawn) (fault?_eq_none fault e drawn)
    refine ⟨balanced.settled, statementLines head, (Line.code call).text, statementLines tail,
      statementLines (after.flatMap Element.statements) ++ scene.effectSection.map Line.text,
      ?_, ?_, ?_, ?_, ?_⟩
    · have hne : scene.drawLines ≠ [] := by simp [drawLines, drawStatements, hsplit, hs]
      rw [sketch, textLines_lines hne, map_drawLines, hsplit]
      simp [drawnLines, statementLines, hs]
    · simp [hs, statementLines]
    · rw [callsShape_code, hcall]
    · rw [statementLines, statementLines, ← List.map_append, List.forall_mem_map]
      exact fun s hmem => (callsShape_code s).trans (hother s hmem)
    · rw [level_append, balanced.settled, level_statementLines, hdepth, zero_add]

theorem compile_brackets_rotations :
    let scene := Gallery.blockScene none Gallery.black 50 ["fastRotate", "slowRotate"]
    Balanced bracketWeight (textLines scene.sketch.draw) ∧
    ∃ head call tail, textLines scene.sketch.draw = head ++ call :: tail ∧ callsShape call = true ∧
      level bracketWeight head = 2 := by
  intro scene
  obtain ⟨balanced, _, elements⟩ := @compile_brackets scene _ rfl
  obtain ⟨_, head, call, tail, rest, lines, _, hcall, _, depth⟩ := elements [] _ [] rfl
  exact ⟨balanced, scene.drawnLines [] ++ head, call, tail ++ rest, by simp [lines], hcall, depth⟩

end Scene

end SceneSketch
