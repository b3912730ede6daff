import SceneSketch.Proofs.DecimalLiterals
import SceneSketch.Proofs.LeadingWord
import SceneSketch.Proofs.Seams
import SceneSketch.Proofs.Soundness

/-!
# The numbers in a program

The operands of a program are the numbers of its statements. Comments aside, its lines are free from
the names of numbers exactly if all its operands are finite (`Scene.quiet_iff`).
-/

namespace SceneSketch

/-! ## Operands -/

def Piece.operand? : Piece → Option Double
  | number x => some x
  | _ => none

section
variable (pieces : List Piece)

@[simp]
theorem operands_fixed (text : String) :
    (Piece.fixed text :: pieces).filterMap Piece.operand? = pieces.filterMap Piece.operand? := rfl

@[simp]
theorem operands_literal (content : String) :
    (Piece.literal content :: pieces).filterMap Piece.operand? =
      pieces.filterMap Piece.operand? := rfl

@[simp]
theorem operands_number (x : Double) :
    (Piece.number x :: pieces).filterMap Piece.operand? =
      x :: pieces.filterMap Piece.operand? := rfl

end

namespace Statement

def operands (s : Statement) : List Double :=
  s.pieces.filterMap Piece.operand?

theorem operands_arguments : ∀ args : List (List Piece),
    (List.intercalate [.fixed ", "] args).filterMap Piece.operand? =
      args.flatMap (·.filterMap Piece.operand?)
  | [] => rfl
  | [a] => by simp
  | a :: b :: args => by
    have ih := operands_arguments (b :: args)
    rw [List.intercalate_cons_cons, List.append_assoc, List.filterMap_append,
      List.flatMap_cons, ← ih]
    rfl

@[simp]
theorem operands_call (function : String) (args : List (List Piece)) :
    (callPieces function args).filterMap Piece.operand? =
      args.flatMap (·.filterMap Piece.operand?) := by
  rw [callPieces, List.filterMap_cons_none rfl, List.filterMap_append, operands_arguments]
  exact List.append_nil _

@[simp]
theorem operands_numberArguments (xs : List Double) :
    (numberArguments xs).flatMap (·.filterMap Piece.operand?) = xs := by
  rw [numberArguments, List.flatMap_map]
  exact List.flatMap_singleton' xs

theorem mem_operands {s : Statement} {x : Double} : x ∈ s.operands ↔ .number x ∈ s.pieces := by
  rw [operands, List.mem_filterMap]
  constructor
  · rintro ⟨p, hp, hx⟩
    cases p with
    | number y =>
      obtain rfl : y = x := Option.some.inj hx
      exact hp
    | _ => cases hx
  · exact fun h => ⟨.number x, h, rfl⟩

end Statement

def Line.operands : Line → List Double
  | code s => s.operands
  | _ => []

def Scene.operands (scene : Scene) : List Double :=
  (scene.setupLines ++ scene.drawLines).flatMap Line.operands

/-! ## Names of numbers -/

/-- The name of a number that is not finite stands in the text. -/
def Named (cs : List Char) : Prop :=
  ∃ name ∈ numberNames, name.toList <:+: cs

instance (cs : List Char) : Decidable (Named cs) :=
  inferInstanceAs (Decidable (∃ name ∈ numberNames, name.toList <:+: cs))

theorem not_named_of_not_mem {cs : List Char} (h : 'n' ∉ cs) : ¬ Named cs := by
  have letter : ∀ name ∈ numberNames, 'n' ∈ name.toList := by decide
  rintro ⟨name, hname, hi⟩
  exact h (hi.subset (letter name hname))

theorem Double.named_codeText (x : Double) : Named x.codeText.toList ↔ ¬ x.isFinite = true := by
  cases x with
  | nan => exact iff_of_true (by decide) Bool.false_ne_true
  | infinite negative => exact iff_of_true (by cases negative <;> decide) Bool.false_ne_true
  | finite x =>
    refine iff_of_false (not_named_of_not_mem fun h => ?_) (not_not_intro rfl)
    exact absurd (x.literal_codeText.mem 'n' h) (by decide)

namespace Statement

variable {s : Statement}

theorem text_infix_of_operand {x : Double} (h : x ∈ s.operands) :
    x.codeText.toList <:+: pieceChars s.pieces := by
  rw [pieceChars, List.flatMap_def]
  exact List.infix_of_mem_flatten
    (List.mem_map_of_mem (f := fun p : Piece => p.text.toList) (mem_operands.mp h))

theorem not_named_of_finite (h : AllFinite s.operands) : ¬ Named (pieceChars s.pieces) := by
  rintro ⟨name, hname, hi⟩
  have letters : ∀ name ∈ numberNames, name.toList ≠ [] ∧ ∀ c ∈ name.toList,
      c ∉ '-' :: seamMarks := by
    simp [numberNames, seamMarks]
  obtain ⟨nonempty, unmarked⟩ := letters name hname
  obtain ⟨seams, nameless⟩ := tidy_iff.mp s.tidy_pieces
  have free : ∀ c ∈ name.toList, c ∉ if s.negates then '-' :: seamMarks else seamMarks := by
    intro c hc hm
    split at hm
    · exact unmarked c hc hm
    · exact unmarked c hc (List.mem_cons_of_mem '-' hm)
  obtain ⟨p, hp, hi⟩ := exists_piece_of_infix nonempty free seams hi
  cases p with
  | fixed text =>
    have absent := List.all_eq_true.mp (nameless _ hp) name hname
    rw [Bool.not_eq_true', ← Bool.not_eq_true, containsWord_iff] at absent
    exact absent hi
  | number x => exact x.named_codeText.mp ⟨name, hname, hi⟩ (h x (mem_operands.mpr hp))
  | literal content =>
    exact not_named_of_not_mem (fun hn => absurd (mem_literalChars 'n' hn) (by decide))
      ⟨name, hname, hi⟩

/-- **The text of a statement has a name in it exactly if an operand is not finite.** -/
theorem named_iff (s : Statement) : Named (pieceChars s.pieces) ↔ ¬ AllFinite s.operands := by
  constructor
  · exact fun named finite => not_named_of_finite finite named
  · intro h
    simp only [AllFinite, not_forall] at h
    obtain ⟨x, hx, infinite⟩ := h
    obtain ⟨name, hname, hi⟩ := x.named_codeText.mpr infinite
    exact ⟨name, hname, hi.trans (text_infix_of_operand hx)⟩

end Statement

/-! ## Lines -/

/-- The line is a comment: it begins with two slashes, maybe after spaces. -/
def Commented (cs : List Char) : Prop :=
  ['/', '/'] <+: cs.dropWhile (· = ' ')

instance (cs : List Char) : Decidable (Commented cs) :=
  inferInstanceAs (Decidable (['/', '/'] <+: cs.dropWhile (· = ' ')))

theorem not_named_nil : ¬ Named [] := not_named_of_not_mem List.not_mem_nil

theorem named_append_cons {a b : List Char} {d : Char}
    (hd : ∀ name ∈ numberNames, d ∉ name.toList) :
    Named (a ++ d :: b) ↔ Named a ∨ Named b := by
  constructor
  · rintro ⟨name, hname, hi⟩
    exact (infix_append_cons (hd name hname) hi).imp (⟨name, hname, ·⟩) (⟨name, hname, ·⟩)
  · rintro (⟨name, hname, hi⟩ | ⟨name, hname, hi⟩)
    · exact ⟨name, hname, hi.trans (List.prefix_append a _).isInfix⟩
    · exact ⟨name, hname, hi.trans ((List.suffix_cons d b).trans (List.suffix_append a _)).isInfix⟩

namespace Line

theorem commented_remark (remark : Remark) : Commented (Line.remark remark).text.toList := by
  rw [toList_text]
  exact List.prefix_append ['/', '/'] _

theorem not_commented_code (s : Statement) : ¬ Commented (Line.code s).text.toList := by
  obtain ⟨c, cs, he, letter⟩ := s.begins_with_letter
  have space : c ≠ ' ' := fun e => absurd (e ▸ letter) (by decide)
  have slash : c ≠ '/' := fun e => absurd (e ▸ letter) (by decide)
  rw [toList_text, if_neg (by simp [content]), content, he]
  simp [Commented, space, slash.symm]

theorem named_code (s : Statement) : Named (Line.code s).text.toList ↔ ¬ AllFinite s.operands := by
  have space : ∀ name ∈ numberNames, ' ' ∉ name.toList := by decide
  have semicolon : ∀ name ∈ numberNames, ';' ∉ name.toList := by decide
  have indented (cs : List Char) : Named (' ' :: cs) ↔ Named cs := by
    rw [← List.nil_append (' ' :: cs), named_append_cons space]
    exact or_iff_right not_named_nil
  rw [toList_text, if_neg (by simp [content]), indented, indented, content,
    named_append_cons semicolon, or_iff_left not_named_nil]
  exact s.named_iff

/-- **A line is a comment or free from names exactly if its operands are finite.** -/
theorem quiet_iff (line : Line) :
    (Commented line.text.toList ∨ ¬ Named line.text.toList) ↔ AllFinite line.operands := by
  cases line with
  | blank => exact iff_of_true (.inr not_named_nil) allFinite_nil
  | remark r => exact iff_of_true (.inl (commented_remark r)) allFinite_nil
  | code s =>
    rw [or_iff_right (not_commented_code s), named_code]
    exact not_not

end Line

namespace Scene

theorem quiet_iff (scene : Scene) :
    (∀ l ∈ textLines scene.code, Commented l.toList ∨ ¬ Named l.toList) ↔
    AllFinite scene.operands := by
  have fixed : ∀ l ∈ fixedLines, Commented l.toList ∨ ¬ Named l.toList := by decide +kernel
  rw [forall_textLines_code fixed, operands, allFinite_flatMap]
  exact forall₂_congr fun line _ => line.quiet_iff

end Scene

end SceneSketch
