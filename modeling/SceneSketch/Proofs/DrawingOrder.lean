import SceneSketch.Proofs.Containment
import SceneSketch.Proofs.LeadingWord

/-!
# Elements are drawn once and in order

What a line draws is read off its text: it begins to call a drawing function. No style, block,
position, bracket or effect begins like that, so the calls in a frame are those of the elements, one
for each in their order, and a background is painted only where the scene has one.
-/

namespace SceneSketch

/-! ## Reading lines -/

def beginsCall (function line : String) : Bool :=
  (' ' :: ' ' :: (function.toList ++ ['('])).isPrefixOf line.toList

def shapeFunctions : List String := ["ellipse", "rect", "line", "text"]

def calledShape? (line : String) : Option String :=
  shapeFunctions.find? fun function => beginsCall function line

def paintsBackground (line : String) : Bool := beginsCall "background" line

/-! ## What statements draw -/

/-- The function that draws a shape; a background is painted and not drawn. -/
def Shape.function? : Shape → Option String
  | circle _ => some "ellipse"
  | rectangle _ => some "rect"
  | line _ => some "line"
  | text _ => some "text"
  | background _ => none

namespace Statement

def figure? : Statement → Option String
  | ellipse _ _ _ => some "ellipse"
  | rect _ _ _ _ => some "rect"
  | line _ => some "line"
  | text _ _ _ => some "text"
  | _ => none

def paints : Statement → Bool
  | background _ => true
  | _ => false

def Plain (s : Statement) : Prop := s.figure? = none ∧ s.paints = false

theorem figure?_eq_some {s : Statement} {w : String} (hw : w ∈ shapeFunctions) :
    s.figure? = some w ↔ s.keyword = w := by
  have other : ∀ v, v ∉ shapeFunctions → v ≠ w := fun v hv e => hv (e ▸ hw)
  cases s <;> simp [figure?, keyword] <;> exact other _ (by decide)

theorem paints_iff {s : Statement} : s.paints = true ↔ s.keyword = "background" := by
  cases s <;> simp [paints, keyword]

theorem pieces_of_drawing {s : Statement} (h : ¬ s.Plain) :
    ∃ arguments, s.pieces = callPieces s.keyword arguments := by
  cases s <;> simp [Plain, figure?, paints] at h <;> exact ⟨_, rfl⟩

end Statement

namespace Line

def figure? : Line → Option String
  | code s => s.figure?
  | _ => none

def paints : Line → Bool
  | code s => s.paints
  | _ => false

theorem beginsCall_of_keyword {s : Statement} (h : ¬ s.Plain) :
    beginsCall s.keyword (code s).text = true := by
  obtain ⟨arguments, he⟩ := Statement.pieces_of_drawing h
  apply List.isPrefixOf_iff_prefix.mpr
  refine ⟨pieceChars ([.fixed ", "].intercalate arguments) ++ [')', ';'], ?_⟩
  simp [toList_text, content, he, callPieces, Piece.text]

theorem keyword_of_beginsCall {w : String} {line : Line} (hw : ∀ c ∈ w.toList, c.isAlpha = true)
    (hne : w ≠ "") (h : beginsCall w line.text = true) : ∃ s, line = code s ∧ s.keyword = w :=
  code_of_head hw (by decide) (List.isPrefixOf_iff_prefix.mp h) hne

theorem paintsBackground_text (line : Line) : paintsBackground line.text = line.paints := by
  apply Bool.eq_iff_iff.mpr
  constructor
  · intro h
    obtain ⟨s, rfl, hk⟩ := keyword_of_beginsCall (by simp) (by decide) h
    exact Statement.paints_iff.mpr hk
  · intro h
    cases line with
    | code s =>
      have keyword := Statement.paints_iff.mp h
      rw [paintsBackground, ← keyword]
      exact beginsCall_of_keyword fun plain => Bool.false_ne_true (plain.2.symm.trans h)
    | _ => cases h

theorem beginsCall_text {w : String} (hw : w ∈ shapeFunctions) (line : Line) :
    beginsCall w line.text = decide (line.figure? = some w) := by
  have letters : ∀ w ∈ shapeFunctions, (∀ c ∈ w.toList, c.isAlpha = true) ∧ w ≠ "" := by
    simp [shapeFunctions]
  apply Bool.eq_iff_iff.mpr
  rw [decide_eq_true_iff]
  constructor
  · intro h
    obtain ⟨s, rfl, hk⟩ := keyword_of_beginsCall (letters w hw).1 (letters w hw).2 h
    exact (Statement.figure?_eq_some hw).mpr hk
  · intro h
    cases line with
    | code s =>
      rw [← (Statement.figure?_eq_some hw).mp h]
      refine beginsCall_of_keyword fun plain => ?_
      rw [show (code s).figure? = none from plain.1] at h
      cases h
    | _ => cases h

end Line

theorem find?_of_forall {p : String → Bool} {o : Option String} : ∀ {l : List String},
    (∀ w ∈ l, p w = decide (o = some w)) → l.find? p = o.filter (· ∈ l)
  | [], _ => by cases o <;> rfl
  | v :: l, h => by
    obtain ⟨hv, hl⟩ := List.forall_mem_cons.mp h
    rw [List.find?_cons, hv, find?_of_forall hl]
    cases o with
    | none => rfl
    | some w => by_cases hw : w = v <;> simp [hw, Option.filter]

/-- **The shape that is read off a line is the one that it draws.** -/
theorem Line.calledShape?_text (line : Line) : calledShape? line.text = line.figure? := by
  unfold calledShape?
  rw [find?_of_forall fun w hw => line.beginsCall_text hw]
  cases line with
  | code s => cases s <;> rfl
  | _ => rfl

/-! ## Statements of an element -/

theorem Style.plain (style : Style) : ∀ s ∈ style.statements, s.Plain := by
  apply forall_statements <;> intros <;> exact ⟨rfl, rfl⟩

theorem Block.plain (shape : Shape) (b : Block) : ∀ s ∈ b.statements shape, s.Plain := by
  apply forall_statements <;> intros <;> exact ⟨rfl, rfl⟩

namespace Element

theorem plain_declarations (e : Element) : ∀ s ∈ e.position.declarations, s.Plain :=
  e.forall_declarations fun _ _ => ⟨rfl, rfl⟩

theorem statements_split (e : Element) :
    ∃ before after, e.statements = before ++ e.shapeCall :: after ∧
    ∀ s ∈ before ++ after, s.Plain := by
  obtain ⟨before, he, hbefore⟩ := e.shapeStatements_split
  refine ⟨blockStatements e.shape e.blocks ++ before, e.closing, ?_, ?_⟩
  · rw [statements, he]
    simp
  · simp only [List.forall_mem_append]
    refine ⟨⟨fun s hs => ?_, fun s hs => ?_⟩, fun s hs => ?_⟩
    · obtain ⟨b, _, hs⟩ := List.mem_flatMap.mp hs
      exact b.plain e.shape s hs
    · rcases hbefore s hs with hs | hs | ⟨size, rfl⟩
      · exact e.style.plain s hs
      · exact e.plain_declarations s hs
      · exact ⟨rfl, rfl⟩
    · obtain ⟨b, _, rfl⟩ := List.mem_map.mp hs
      exact ⟨rfl, rfl⟩

theorem figure?_shapeCall (e : Element) : e.shapeCall.figure? = e.shape.function? := by
  unfold shapeCall
  cases e.shape <;> rfl

theorem filterMap_figure? (e : Element) :
    e.statements.filterMap Statement.figure? = e.shape.function?.toList := by
  obtain ⟨before, after, he, plain⟩ := e.statements_split
  obtain ⟨hbefore, hafter⟩ := List.forall_mem_append.mp plain
  rw [he, List.filterMap_append, List.filterMap_cons, figure?_shapeCall,
    List.filterMap_eq_nil_iff.mpr fun s hs => (hbefore s hs).1,
    List.filterMap_eq_nil_iff.mpr fun s hs => (hafter s hs).1]
  cases e.shape.function? <;> rfl

theorem function?_background {e : Element} (h : e.isBackground = true) :
    e.shape.function? = none := by
  unfold isBackground at h
  cases hs : e.shape with
  | background color => rfl
  | _ =>
    rw [hs] at h
    cases h

theorem filterMap_drawn (es : List Element) :
    ((es.filter fun e => !e.isBackground).flatMap statements).filterMap Statement.figure? =
      es.filterMap fun e => e.shape.function? := by
  induction es with
  | nil => rfl
  | cons e es ih =>
    by_cases h : e.isBackground = true
    · simp [h, ih, function?_background h]
    · simp only [h, List.filter_cons, List.flatMap_cons, List.filterMap_append, List.filterMap_cons,
        filterMap_figure?, Bool.not_false, if_true, ih]
      cases e.shape.function? <;> simp

end Element

/-! ## Backgrounds -/

def backgroundLine (color : Color) : String := "  background(" ++ color.code ++ ");"

theorem pieceChars_numbers : ∀ xs : List Double,
    pieceChars ([.fixed ", "].intercalate (numberArguments xs)) =
      (String.intercalate ", " (xs.map Double.codeText)).toList
  | [] => rfl
  | [x] => by simp [numberArguments, Piece.text]
  | x :: y :: xs => by
    have ih := pieceChars_numbers (y :: xs)
    rw [String.toList_intercalate] at ih ⊢
    simp only [numberArguments, List.map_cons, List.intercalate_cons_cons,
      pieceChars_append] at ih ⊢
    rw [ih]
    simp [Piece.text]

theorem Line.text_background (color : Color) :
    (code (.background color)).text = backgroundLine color := by
  apply String.toList_inj.mp
  have channels := pieceChars_numbers color.channels
  simp [toList_text, content, Statement.pieces, callPieces, Piece.text,
    Statement.colorArguments, channels, backgroundLine, Color.code]

theorem paintsBackground_textLines {lines : List Line} (h : ∀ line ∈ lines, line.paints = false) :
    ∀ l ∈ textLines (linesText lines), paintsBackground l = false := by
  intro l hl
  rw [textLines_body] at hl
  split at hl
  · rw [List.mem_singleton.mp hl]
    decide
  · obtain ⟨line, hline, rfl⟩ := List.mem_map.mp hl
    rw [Line.paintsBackground_text, h line hline]

theorem Filter.plain (filter : Filter) :
    ∀ line ∈ filter.lines, line.figure? = none ∧ line.paints = false := by
  cases filter with
  | colorShift c =>
    rw [lines]
    split <;> simp [Line.figure?, Line.paints, Statement.figure?, Statement.paints]
  | _ => simp [lines, Line.figure?, Line.paints, Statement.figure?, Statement.paints]

namespace Scene

def backgrounds (scene : Scene) (static : Bool) : List Color :=
  scene.elements.filterMap (Element.paint? static)

theorem toList_backgroundColor? {α : Type} (scene : Scene) (static : Bool) (f : Color → α) :
    ((scene.backgroundColor? static).map f).toList = ((scene.backgrounds static).take 1).map f := by
  rw [backgroundColor?_eq, ← List.head?_filterMap, ← backgrounds]
  cases scene.backgrounds static <;> rfl

theorem plain_effectSection (scene : Scene) :
    ∀ line ∈ scene.effectSection, line.figure? = none ∧ line.paints = false :=
  forall_effectSection ⟨rfl, rfl⟩ ⟨rfl, rfl⟩ fun e _ => e.filter.plain

theorem paints_drawn {scene : Scene} {e : Element} (he : e ∈ scene.drawnElements) :
    ∀ s ∈ e.statements, s.paints = false := by
  obtain ⟨before, after, parts, plain⟩ := e.statements_split
  have call : e.shapeCall.paints = false := by
    have drawn := mem_drawnElements he
    unfold Element.isBackground at drawn
    unfold Element.shapeCall
    cases hs : e.shape with
    | background color =>
      rw [hs] at drawn
      cases drawn
    | _ => rfl
  rw [parts]
  simp only [List.forall_mem_append, List.forall_mem_cons] at plain ⊢
  exact ⟨fun s hs => (plain.1 s hs).2, call, fun s hs => (plain.2 s hs).2⟩

def foreground (scene : Scene) : List Line :=
  (scene.drawnElements.flatMap Element.statements).map Line.code ++ scene.effectSection

theorem paints_foreground (scene : Scene) : ∀ line ∈ scene.foreground, line.paints = false := by
  simp only [foreground, List.forall_mem_append, List.forall_mem_map, List.forall_mem_flatMap]
  exact ⟨fun e he s hs => paints_drawn he s hs, fun line hline =>
    (scene.plain_effectSection line hline).2⟩

theorem drawLines_eq (scene : Scene) : scene.drawLines =
    ((scene.backgrounds false).take 1).map (fun color => Line.code (.background color)) ++
    scene.foreground := by
  rw [← toList_backgroundColor?, drawLines, drawStatements, foreground]
  cases scene.backgroundColor? false <;> simp

theorem filterMap_drawLines (scene : Scene) : scene.drawLines.filterMap Line.figure? =
    scene.elements.filterMap fun e => e.shape.function? := by
  have background : (((scene.backgrounds false).take 1).map fun color =>
      Line.code (.background color)).filterMap Line.figure? = [] := by
    rw [List.filterMap_eq_nil_iff, List.forall_mem_map]
    exact fun _ _ => rfl
  have effects : scene.effectSection.filterMap Line.figure? = [] :=
    List.filterMap_eq_nil_iff.mpr fun line hline => (scene.plain_effectSection line hline).1
  rw [drawLines_eq, foreground, List.filterMap_append, background, List.filterMap_append, effects,
    List.filterMap_map, List.append_nil, List.nil_append]
  exact Element.filterMap_drawn scene.elements

theorem textLines_draw (scene : Scene) : ∃ rest, textLines scene.sketch.draw =
    ((scene.backgrounds false).take 1).map backgroundLine ++ rest ∧ ∀ l ∈ rest,
    paintsBackground l = false := by
  cases hb : scene.backgrounds false with
  | nil =>
    refine ⟨textLines scene.sketch.draw, (List.nil_append _).symm, ?_⟩
    rw [sketch, drawLines_eq, hb]
    exact paintsBackground_textLines scene.paints_foreground
  | cons color others =>
    refine ⟨scene.foreground.map Line.text, ?_, ?_⟩
    · rw [sketch, drawLines_eq, hb, textLines_lines (by simp)]
      simp [Line.text_background]
    · rw [List.forall_mem_map]
      exact fun line hline => line.paintsBackground_text.trans (scene.paints_foreground line hline)

theorem textLines_setup (scene : Scene) : ∃ front, textLines scene.sketch.setup =
    front ++ ((scene.backgrounds true).take 1).map backgroundLine ∧ ∀ l ∈ front,
    paintsBackground l = false := by
  let front : List Statement :=
    .createCanvas scene.canvas :: ((scene.colorMode.map Statement.colorMode).toList ++
    ((scene.frameRate.filter fun r => !r.isZero).map Statement.frameRate).toList)
  have plain : ∀ s ∈ front, s.paints = false := by
    simp only [front, List.forall_mem_cons, List.forall_mem_append]
    refine ⟨rfl, ?_, ?_⟩
    · cases scene.colorMode <;> simp [Statement.paints]
    · cases scene.frameRate.filter fun r => !r.isZero <;> simp [Statement.paints]
  refine ⟨statementLines front, ?_, ?_⟩
  · have background : backgroundLine = fun color => (Line.code (.background color)).text :=
      funext fun color => (Line.text_background color).symm
    rw [sketch, textLines_lines (by simp [setupLines, setupStatements]), setupLines,
      setupStatements, toList_backgroundColor?, background]
    simp [statementLines, front, Function.comp_def]
  · intro l hl
    obtain ⟨s, hs, rfl⟩ := List.mem_map.mp hl
    exact (Line.paintsBackground_text (.code s)).trans (plain s hs)

/-- **Every element is drawn once, in the order of the scene and by the function of its kind; a
background is painted as the first line of a frame or as the last line of the setup, and only the
first one of its kind.** -/
theorem draws_in_order (scene : Scene) :
    (textLines scene.sketch.draw).filterMap calledShape? =
        scene.elements.filterMap (fun e => e.shape.function?) ∧
      (∃ rest, textLines scene.sketch.draw =
        ((scene.backgrounds false).take 1).map backgroundLine ++ rest ∧
        ∀ l ∈ rest, paintsBackground l = false) ∧
      ∃ front, textLines scene.sketch.setup =
        front ++ ((scene.backgrounds true).take 1).map backgroundLine ∧
        ∀ l ∈ front, paintsBackground l = false := by
  refine ⟨?_, scene.textLines_draw, scene.textLines_setup⟩
  rw [sketch, filterMap_textLines (by decide) Line.calledShape?_text]
  exact scene.filterMap_drawLines

end Scene

end SceneSketch
