import Mathlib.Algebra.BigOperators.Group.List.Basic
import SceneSketch.Gallery.Scenes
import SceneSketch.Proofs.Balance
import SceneSketch.Proofs.Emission
import SceneSketch.Proofs.Grammar
import SceneSketch.Proofs.LiteralText

/-!
# Scenes stay inside their functions

A statement is written in one line, with its parentheses closed and its double quotes around
literals, and with no mark that ends a line, a statement or a body (`Statement.enclosed`). So the
lines of a program are the fixed lines around the lines of the two bodies, and the only braces are
those of the two functions.
-/

namespace SceneSketch

/-! ## Enclosed text -/

def parenWeight (c : Char) : Int :=
  if c = '(' then 1 else if c = ')' then -1 else 0

/-- Every double quote belongs to one literal that is made of escapes. -/
inductive Quoted : List Char → Prop
  | nil : Quoted []
  | char {c : Char} {cs : List Char} : c ≠ '"' → Quoted cs → Quoted (c :: cs)
  | literal {body cs : List Char} : Escapes body → Quoted cs → Quoted ('"' :: (body ++ '"' :: cs))

def endMarks : List Char := ['\n', ';', '\x7b', '\x7d']

/-- Text that nothing around it is affected by. -/
structure Enclosed (cs : List Char) : Prop where
  balanced : Balanced parenWeight cs
  quoted : Quoted cs
  unmarked : ∀ c ∈ cs, c ∉ endMarks

theorem Quoted.append {a b : List Char} (ha : Quoted a) (hb : Quoted b) : Quoted (a ++ b) := by
  induction ha with
  | nil => exact hb
  | char hc _ ih => exact .char hc ih
  | literal he _ ih =>
    rw [List.cons_append, List.append_assoc, List.cons_append]
    exact .literal he ih

theorem quoted_of_forall : ∀ {cs : List Char}, (∀ c ∈ cs, c ≠ '"') → Quoted cs
  | [], _ => .nil
  | c :: cs, h =>
    .char (h c (by simp)) (quoted_of_forall fun d hd => h d (List.mem_cons_of_mem c hd))

def isPlain (c : Char) : Bool :=
  !(['(', ')', '"'] ++ endMarks).contains c

namespace Enclosed

variable {a b c : List Char}

theorem append (ha : Enclosed a) (hb : Enclosed b) : Enclosed (a ++ b) where
  balanced := ha.balanced.append hb.balanced
  quoted := ha.quoted.append hb.quoted
  unmarked := List.forall_mem_append.mpr ⟨ha.unmarked, hb.unmarked⟩

theorem of_plain (h : ∀ c ∈ a, isPlain c = true) : Enclosed a := by
  have other : ∀ c ∈ a, c ∉ ['(', ')', '"'] ++ endMarks :=
    fun c hc => by simpa [isPlain] using h c hc
  refine ⟨balanced_of_flat fun c hc => ?_, quoted_of_forall fun c hc => ?_, fun c hc hm => ?_⟩
  · have := other c hc
    simp only [List.mem_append, List.mem_cons, not_or] at this
    rw [parenWeight, if_neg this.1.1, if_neg this.1.2.1]
  · rintro rfl
    exact other _ hc (by simp)
  · exact other c hc (List.mem_append_right _ hm)

theorem wrap (hb : Enclosed b) : Enclosed ('(' :: (b ++ [')'])) where
  balanced := hb.balanced.wrap rfl rfl
  quoted := .char (by decide) (hb.quoted.append (.char (by decide) .nil))
  unmarked := by
    simp only [List.forall_mem_cons, List.forall_mem_append]
    exact ⟨by decide, hb.unmarked, by decide, List.forall_mem_nil _⟩

theorem literal (content : String) : Enclosed (scriptLiteral content).toList := by
  have all : (literalChars.all fun c => parenWeight c = 0 ∧ c ∉ endMarks) = true := by decide
  have letters : ∀ c ∈ (scriptLiteral content).toList, parenWeight c = 0 ∧
    c ∉ endMarks := fun c hc =>
    of_decide_eq_true (List.all_eq_true.mp all c (mem_literalChars c hc))
  refine ⟨balanced_of_flat fun c hc => (letters c hc).1, ?_, fun c hc => (letters c hc).2⟩
  obtain ⟨body, he, hb⟩ := scriptLiteral_eq content
  rw [he]
  exact .literal hb .nil

end Enclosed

/-- **Every expression is enclosed.** -/
theorem Expression.enclosed {cs : List Char} (h : Expression cs) : Enclosed cs := by
  induction h with
  | empty => exact .of_plain (List.forall_mem_nil _)
  | word w hw =>
    have letters : ∀ w ∈ vocabulary, w.toList.all isPlain = true := by decide +kernel
    exact .of_plain (List.all_eq_true.mp (letters w hw))
  | number hn =>
    have letters : numberChars.all isPlain = true := by decide
    exact .of_plain fun c hc => List.all_eq_true.mp letters c (hn c hc)
  | literal content => exact .literal content
  | join d hd _ _ iha ihb =>
    have all : separators.all isPlain = true := by decide
    have plain : isPlain d = true := List.all_eq_true.mp all d hd
    rw [List.append_cons]
    exact (iha.append (.of_plain (by simpa using plain))).append ihb
  | @group a b c _ _ _ iha ihb ihc =>
    -- only here parentheses come in, and always as a pair
    have := (iha.append ihb.wrap).append ihc
    simpa using this

theorem Statement.enclosed (s : Statement) : Enclosed (pieceChars s.pieces) :=
  s.derived.enclosed

/-! ## Lines of a body -/

inductive BodyLine : List Char → Prop
  | empty : BodyLine []
  | comment (cs : List Char) : BodyLine (' ' :: ' ' :: '/' :: '/' :: cs)
  | statement {cs : List Char} : Enclosed cs → BodyLine (' ' :: ' ' :: (cs ++ [';']))

theorem Line.bodyLine (line : Line) : BodyLine line.text.toList := by
  rw [toList_text]
  cases line with
  | blank => exact .empty
  | remark r => exact .comment _
  | code s =>
    rw [if_neg (by simp [content])]
    exact .statement s.enclosed

theorem Line.unmarked (line : Line) : ∀ c ∈ line.text.toList, c ∈ endMarks → c = ';' := by
  have content_unmarked : ∀ c ∈ line.content, c ∈ endMarks → c = ';' := by
    cases line with
    | blank => exact List.forall_mem_nil _
    | remark r =>
      simp only [content, List.forall_mem_cons]
      exact ⟨by decide, by decide, by decide,
        fun c hc hm => absurd hm (r.expression.enclosed.unmarked c hc)⟩
    | code s =>
      simp only [content, List.forall_mem_append]
      exact ⟨fun c hc hm => absurd hm (s.enclosed.unmarked c hc), by simp⟩
  rw [toList_text]
  split
  · exact List.forall_mem_nil _
  · simp only [List.forall_mem_cons]
    exact ⟨by decide, by decide, content_unmarked⟩

/-! ## Lines of a text -/

def textLines (text : String) : List String :=
  (text.toList.splitOn '\n').map String.ofList

theorem textLines_of_single {text : String} (h : '\n' ∉ text.toList) : textLines text = [text] := by
  rw [textLines, List.splitOn, List.splitOnP_eq_singleton]
  · simp
  · rintro c hc
    exact beq_eq_false_iff_ne.mpr fun e => h (e ▸ hc)

theorem textLines_intercalate : ∀ {ls : List String}, ls ≠ [] →
    textLines (String.intercalate "\n" ls) = ls.flatMap textLines
  | [], h => absurd rfl h
  | [l], _ => by simp
  | l :: k :: ls, _ => by
    have ih : textLines (String.intercalate "\n" (k :: ls)) = (k :: ls).flatMap textLines :=
      textLines_intercalate (by simp)
    rw [List.flatMap_cons, ← ih]
    simp only [textLines, String.toList_intercalate, List.map_cons]
    rw [show "\n".toList = ['\n'] from rfl, List.intercalate_cons_cons, List.append_assoc,
      List.singleton_append, List.splitOn_append_cons_self, List.map_append]

theorem flatMap_textLines {ls : List String} (h : ∀ l ∈ ls, '\n' ∉ l.toList) :
    ls.flatMap textLines = ls := by
  induction ls with
  | nil => rfl
  | cons l ls ih =>
    rw [List.flatMap_cons, textLines_of_single (h l (by simp)), ih fun k hk =>
      h k (List.mem_cons_of_mem l hk)]
    rfl

theorem textLines_banner {title : String} (h : '\n' ∉ title.toList) :
    (banner title).flatMap textLines = banner title := by
  refine flatMap_textLines ?_
  simp [banner, bannerRule, h]

theorem textLines_function {signature : String} (h : '\n' ∉ signature.toList) (body : String) :
    (functionLines signature body).flatMap textLines =
      (signature ++ " \x7b") :: (textLines body ++ ["\x7d"]) := by
  have first : textLines (signature ++ " \x7b") = [signature ++ " \x7b"] :=
    textLines_of_single (by simp [h])
  have last : textLines "\x7d" = ["\x7d"] := textLines_of_single (by simp)
  simp [functionLines, first, last]

theorem count_intercalate {c d : Char} (h : c ≠ d) : ∀ ls : List (List Char),
    ([d].intercalate ls).count c = (ls.map (List.count c)).sum
  | [] => rfl
  | [l] => by simp
  | l :: k :: ls => by
    rw [List.intercalate_cons_cons, List.count_append, List.count_append,
      count_intercalate h (k :: ls)]
    simp [List.count_cons_of_ne h.symm]

theorem textLines_lines {lines : List Line} (h : lines ≠ []) :
    textLines (linesText lines) = lines.map Line.text := by
  have single : ∀ line : Line, textLines line.text = [line.text] := fun line =>
    textLines_of_single fun hc => absurd (line.unmarked _ hc (by decide)) (by decide)
  rw [linesText, textLines_intercalate (by simpa using h), List.flatMap_map]
  simp only [single, List.map_eq_flatMap]

theorem textLines_body (lines : List Line) :
    textLines (linesText lines) = if lines = [] then [""] else lines.map Line.text := by
  split
  · next h => rw [h]; rfl
  · next h => exact textLines_lines h

theorem filterMap_textLines {α : Type} {f : String → Option α} {g : Line → Option α}
    (empty : f "" = none) (text : ∀ line : Line, f line.text = g line) (lines : List Line) :
    (textLines (linesText lines)).filterMap f = lines.filterMap g := by
  rw [textLines_body]
  split
  · next h => simp [h, empty]
  · rw [List.filterMap_map]
    exact List.filterMap_congr fun line _ => text line

theorem forall_textLines_body {p : String → Prop} (empty : p "") (lines : List Line) :
    (∀ l ∈ textLines (linesText lines), p l) ↔ ∀ line ∈ lines, p line.text := by
  rw [textLines_body]
  split
  · next h =>
    rw [h]
    exact iff_of_true (List.forall_mem_singleton.mpr empty) (List.forall_mem_nil _)
  · exact List.forall_mem_map

theorem count_body {c : Char} (hc : c ∈ endMarks) (hl : c ≠ '\n') (hs : c ≠ ';')
    (lines : List Line) :
    (linesText lines).toList.count c = 0 := by
  rw [linesText, String.toList_intercalate, show "\n".toList = ['\n'] from rfl,
    count_intercalate hl]
  refine List.sum_eq_zero fun n hn => ?_
  simp only [List.map_map, List.mem_map, Function.comp_apply] at hn
  obtain ⟨line, _, rfl⟩ := hn
  exact List.count_eq_zero.mpr fun hm => hs (line.unmarked c hm hc)

/-! ## Compiled scenes -/

def fixedLines : List String :=
  banner "SETUP" ++ banner "DRAW" ++ ["function setup() \x7b", "function draw() \x7b", "\x7d", ""]

namespace Scene

theorem lines_sketch (scene : Scene) : scene.sketch.lines =
    banner "SETUP" ++ functionLines setupHeader scene.sketch.setup ++ [""] ++
      (banner "DRAW" ++ functionLines drawHeader scene.sketch.draw) := by
  simp [Sketch.lines, sketch, Sketch.preloadLines, Sketch.trailingLines]

theorem textLines_code (scene : Scene) : textLines scene.code =
    banner "SETUP" ++ ["function setup() \x7b"] ++ textLines scene.sketch.setup ++ ["\x7d", ""] ++
      (banner "DRAW" ++ ["function draw() \x7b"] ++ textLines scene.sketch.draw ++ ["\x7d"]) := by
  rw [code, Sketch.code, lines_sketch, textLines_intercalate (by simp [banner])]
  simp only [List.flatMap_append]
  rw [textLines_banner (by simp), textLines_banner (by simp),
    textLines_function (by simp [setupHeader]), textLines_function (by simp [drawHeader])]
  have gap : [""].flatMap textLines = [""] := rfl
  simp [gap, setupHeader, drawHeader]

/-- The lines of a program are fixed ones besides those of the two bodies. -/
theorem forall_textLines_code {p : String → Prop} (fixed : ∀ l ∈ fixedLines, p l) (scene : Scene) :
    (∀ l ∈ textLines scene.code, p l) ↔ ∀ line ∈ scene.setupLines ++ scene.drawLines,
    p line.text := by
  simp only [fixedLines, List.forall_mem_append, List.forall_mem_cons] at fixed
  obtain ⟨⟨setupBanner, drawBanner⟩, setupHead, drawHead, brace, gap, -⟩ := fixed
  rw [textLines_code]
  simp only [sketch, List.forall_mem_append, List.forall_mem_cons, forall_textLines_body gap]
  constructor
  · rintro ⟨⟨⟨-, setup⟩, -⟩, ⟨-, draw⟩, -⟩
    exact ⟨setup, draw⟩
  · rintro ⟨setup, draw⟩
    exact ⟨⟨⟨⟨setupBanner, setupHead, List.forall_mem_nil _⟩, setup⟩, brace, gap,
      List.forall_mem_nil _⟩,
      ⟨⟨drawBanner, drawHead, List.forall_mem_nil _⟩, draw⟩, brace, List.forall_mem_nil _⟩

theorem count_code (scene : Scene) {c : Char} (hc : c = '\x7b' ∨ c = '\x7d') :
    scene.code.toList.count c = 2 := by
  have setup : scene.sketch.setup.toList.count c = 0 := by
    rcases hc with rfl | rfl <;> exact count_body (by decide) (by decide) (by decide) _
  have draw : scene.sketch.draw.toList.count c = 0 := by
    rcases hc with rfl | rfl <;> exact count_body (by decide) (by decide) (by decide) _
  have other : c ≠ '\n' := by rcases hc with rfl | rfl <;> decide
  rw [code, Sketch.code, lines_sketch, String.toList_intercalate,
    show "\n".toList = ['\n'] from rfl, count_intercalate other]
  rcases hc with rfl | rfl <;>
    simp [banner, bannerRule, functionLines, setupHeader, drawHeader, setup, draw]

theorem bodyLine_of_mem {lines : List Line} {l : String} (h : l ∈ textLines (linesText lines)) :
    BodyLine l.toList ∧ '\x7b' ∉ l.toList ∧ '\x7d' ∉ l.toList := by
  rw [textLines_body] at h
  split at h
  · rw [List.mem_singleton.mp h]
    exact ⟨.empty, by simp, by simp⟩
  · obtain ⟨line, _, rfl⟩ := List.mem_map.mp h
    exact ⟨line.bodyLine, fun hc => absurd (line.unmarked _ hc (by decide)) (by decide),
      fun hc => absurd (line.unmarked _ hc (by decide)) (by decide)⟩

/-- **The data of a scene stays in the body it is written to.** -/
theorem compile_contained {scene : Scene} {code : String} (h : scene.compile = .ok code) :
    textLines code =
      banner "SETUP" ++ ["function setup() \x7b"] ++ textLines scene.sketch.setup ++ ["\x7d", ""] ++
        (banner "DRAW" ++ ["function draw() \x7b"] ++ textLines scene.sketch.draw ++ ["\x7d"]) ∧
      (∀ l ∈ textLines scene.sketch.setup ++ textLines scene.sketch.draw,
        BodyLine l.toList ∧ '\x7b' ∉ l.toList ∧ '\x7d' ∉ l.toList) ∧
      code.toList.count '\x7b' = 2 ∧ code.toList.count '\x7d' = 2 := by
  obtain ⟨_, rfl⟩ := compile_eq_ok.mp h
  refine ⟨scene.textLines_code, ?_, scene.count_code (.inl rfl), scene.count_code (.inr rfl)⟩
  intro l hl
  rcases List.mem_append.mp hl with hl | hl
  · exact bodyLine_of_mem hl
  · exact bodyLine_of_mem hl

theorem compile_contained_bouncingBall :
    (∀ l ∈ textLines Gallery.bouncingBall.sketch.setup ++
      textLines Gallery.bouncingBall.sketch.draw,
      BodyLine l.toList ∧ '\x7b' ∉ l.toList ∧ '\x7d' ∉ l.toList) ∧
    Gallery.bouncingBall.code.toList.count '\x7b' = 2 ∧
    Gallery.bouncingBall.code.toList.count '\x7d' = 2 :=
  (@compile_contained Gallery.bouncingBall _ rfl).2

end Scene

end SceneSketch
