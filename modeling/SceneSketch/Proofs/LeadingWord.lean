import SceneSketch.Proofs.Grammar
import SceneSketch.Proofs.Search

/-!
# The word that a line begins with

A line of code is told by its first word. Every statement begins with its keyword, a word of
letters with no letter after it, so that the first word of a line is the keyword of what was written
(`Line.leadingWord_text`).
-/

namespace SceneSketch

/-- The letters of a line after its indentation. -/
def leadingWord (line : String) : List Char :=
  (line.toList.drop 2).takeWhile Char.isAlpha

theorem takeWhile_append_cons {p : Char → Bool} {w rest : List Char} {d : Char}
    (hw : ∀ c ∈ w, p c = true) (hd : p d = false) : (w ++ d :: rest).takeWhile p = w := by
  rw [List.takeWhile_append_of_pos hw, List.takeWhile_cons_of_neg (by simp [hd]), List.append_nil]

def Statement.keyword : Statement → String
  | createCanvas _ => "createCanvas"
  | colorMode _ => "colorMode"
  | frameRate _ => "frameRate"
  | background _ => "background"
  | noFill => "noFill"
  | fill _ => "fill"
  | noStroke => "noStroke"
  | stroke _ => "stroke"
  | strokeWeight _ => "strokeWeight"
  | declare _ _ => "let"
  | ellipse _ _ _ => "ellipse"
  | rect _ _ _ _ => "rect"
  | line _ => "line"
  | textSize _ => "textSize"
  | text _ _ _ => "text"
  | push => "push"
  | pop => "pop"
  | toMiddle => "translate"
  | rotate _ => "rotate"
  | fromMiddle => "translate"
  | blur _ => "filter"
  | threshold _ => "filter"
  | invert => "filter"
  | shadowBlur _ => "drawingContext"
  | shadowColor _ => "drawingContext"
  | loadPixels => "loadPixels"
  | updatePixels => "updatePixels"
  | copyToBuffer => "pg"
  | drawBuffer => "image"

namespace Statement

theorem keyword_letters (s : Statement) : ∀ c ∈ s.keyword.toList, c.isAlpha = true := by
  cases s <;> simp [keyword]

theorem keyword_eq_let {s : Statement} (h : s.keyword = "let") :
    ∃ v signal, s = declare v signal := by
  cases s <;> simp [keyword] at h
  exact ⟨_, _, rfl⟩

theorem keyword_eq_push {s : Statement} (h : s.keyword = "push") : s = push := by
  cases s <;> simp [keyword] at h
  rfl

theorem keyword_eq_pop {s : Statement} (h : s.keyword = "pop") : s = pop := by
  cases s <;> simp [keyword] at h
  rfl

end Statement

/-- `cs` begins with the word, and the word ends there. -/
def Leads (word : String) (cs : List Char) : Prop :=
  ∃ d rest, d.isAlpha = false ∧ cs = word.toList ++ d :: rest

theorem leads_call (function : String) (args : List (List Piece)) :
    Leads function (pieceChars (callPieces function args)) :=
  ⟨'(', pieceChars ([.fixed ", "].intercalate args) ++ [')'],
    by decide, by simp [callPieces, Piece.text]⟩

theorem Statement.leads (s : Statement) : Leads s.keyword (pieceChars s.pieces) := by
  cases s with
  | declare v signal =>
    refine ⟨' ', v.name.toList ++ (" = ".toList ++ pieceChars signal.pieces), by decide, ?_⟩
    simp [pieces, keyword, Piece.text]
  | shadowBlur intensity =>
    refine ⟨'.', "shadowBlur = ".toList ++ intensity.codeText.toList, by decide, ?_⟩
    simp [pieces, keyword, Piece.text]
  | shadowColor color =>
    cases color with
    | none =>
      refine ⟨'.', "shadowColor = 'rgba(255, 255, 255, 0.8)'".toList, by decide, ?_⟩
      simp [pieces, keyword, Piece.text]
    | some color =>
      refine ⟨'.', "shadowColor = ".toList ++
        (pieceChars (callPieces "color" (colorArguments color)) ++ ".toString()".toList),
        by decide, ?_⟩
      simp [pieces, keyword, Piece.text]
  | copyToBuffer =>
    refine ⟨'.', "copy(get(), 0, 0, width, height, 0, 0, pg.width, pg.height)".toList,
      by decide, ?_⟩
    simp [pieces, keyword, Piece.text]
  | drawBuffer =>
    refine ⟨'(', "pg, 0, 0, width, height)".toList, by decide, ?_⟩
    simp [pieces, keyword, Piece.text]
  | _ => exact leads_call _ _

theorem Statement.begins_with_letter (s : Statement) :
    ∃ c cs, pieceChars s.pieces = c :: cs ∧ c.isAlpha = true := by
  obtain ⟨d, rest, -, he⟩ := s.leads
  cases hk : s.keyword.toList with
  | nil => cases s <;> simp [keyword] at hk
  | cons c cs =>
    exact ⟨c, cs ++ d :: rest, by rw [he, hk, List.cons_append], s.keyword_letters c (by simp [hk])⟩

/-! ## Lines -/

def statementLines (statements : List Statement) : List String :=
  statements.map fun s => (Line.code s).text

def Line.keyword : Line → String
  | code s => s.keyword
  | _ => ""

/-- **The first word of a line is its keyword.** -/
theorem Line.leadingWord_text (line : Line) : leadingWord line.text = line.keyword.toList := by
  rw [leadingWord, toList_text]
  cases line with
  | blank => rfl
  | remark r => rfl
  | code s =>
    obtain ⟨d, rest, hd, he⟩ := s.leads
    rw [if_neg (by simp [content])]
    rw [List.drop_succ_cons, List.drop_succ_cons, List.drop_zero, content, he, List.append_assoc,
      List.cons_append]
    exact takeWhile_append_cons s.keyword_letters hd

section
variable {line : Line} {word : String} {d : Char} (hw : ∀ c ∈ word.toList, c.isAlpha = true)
  (hd : d.isAlpha = false) (h : ' ' :: ' ' :: (word.toList ++ [d]) <+: line.text.toList)
include hw hd h

theorem Line.keyword_of_head : line.keyword = word := by
  obtain ⟨rest, he⟩ := h
  have := line.leadingWord_text
  rw [leadingWord, ← he] at this
  rw [List.cons_append, List.cons_append, List.drop_succ_cons, List.drop_succ_cons, List.drop_zero,
    List.append_assoc, List.singleton_append, takeWhile_append_cons hw hd] at this
  exact (String.toList_inj.mp this).symm

theorem Line.code_of_head (hne : word ≠ "") : ∃ s, line = code s ∧ s.keyword = word := by
  have := keyword_of_head hw hd h
  cases line with
  | blank => exact absurd this.symm hne
  | remark r => exact absurd this.symm hne
  | code s => exact ⟨s, rfl, this⟩

end

end SceneSketch
