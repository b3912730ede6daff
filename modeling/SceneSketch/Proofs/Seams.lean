import SceneSketch.Proofs.Containment
import SceneSketch.Proofs.Search

/-!
# Words in statements

Where two pieces of a statement meet, one of them is fixed text that ends or begins with a mark
there, and no fixed text has the name of a number in it (`Statement.tidy_pieces`). So a word without
such marks stands in a statement only if it stands in one of its pieces (`exists_piece_of_infix`).
-/

namespace SceneSketch

/-! ## Seams -/

namespace Piece

def endsWith (marks : List Char) : Piece → Bool
  | fixed text => text.toList.getLast?.any marks.contains
  | _ => false

def beginsWith (marks : List Char) : Piece → Bool
  | fixed text => text.toList.head?.any marks.contains
  | _ => false

variable {marks : List Char} {p : Piece}

theorem getLast?_text (h : p.endsWith marks = true) :
    ∃ c ∈ marks, p.text.toList.getLast? = some c := by
  cases p with
  | fixed text =>
    obtain ⟨c, hc, marked⟩ := (Option.any_eq_true _ _).mp h
    exact ⟨c, by simpa using marked, hc⟩
  | _ => cases h

theorem head?_text (h : p.beginsWith marks = true) : ∃ c ∈ marks, p.text.toList.head? = some c := by
  cases p with
  | fixed text =>
    obtain ⟨c, hc, marked⟩ := (Option.any_eq_true _ _).mp h
    exact ⟨c, by simpa using marked, hc⟩
  | _ => cases h

end Piece

/-- Where two pieces meet, one of them is fixed text with a mark there. -/
def separated (marks : List Char) : List Piece → Bool
  | p :: q :: rest => (p.endsWith marks || q.beginsWith marks) && separated marks (q :: rest)
  | _ => true

/-- **A word without marks stands in one piece.** -/
theorem exists_piece_of_infix {marks w : List Char} (hw : w ≠ []) (hm : ∀ c ∈ w, c ∉ marks) :
    ∀ {pieces : List Piece}, separated marks pieces = true → w <:+: pieceChars pieces →
      ∃ p ∈ pieces, w <:+: p.text.toList
  | [], _, h => absurd (List.infix_nil.mp h) hw
  | [p], _, h => ⟨p, by simp, by simpa using h⟩
  | p :: q :: rest, hs, h => by
    obtain ⟨seam, hrest⟩ := (Bool.and_eq_true _ _).mp hs
    have later (hi : w <:+: pieceChars (q :: rest)) : ∃ r ∈ p :: q :: rest,
        w <:+: r.text.toList := by
      obtain ⟨r, hr, hi⟩ := exists_piece_of_infix hw hm hrest hi
      exact ⟨r, List.mem_cons_of_mem p hr, hi⟩
    rw [pieceChars_cons, List.infix_append_iff] at h
    rcases h with h | h | ⟨front, back, rfl, hfront, hback⟩
    · exact ⟨p, by simp, h⟩
    · exact later h
    by_cases hf : front = []
    · subst hf
      exact later hback.isInfix
    by_cases hb : back = []
    · subst hb
      exact ⟨p, by simp, by simpa using hfront.isInfix⟩
    -- the word goes on across the seam, so it has the mark that stands there
    exfalso
    rcases (Bool.or_eq_true _ _).mp seam with seam | seam
    · obtain ⟨c, marked, last⟩ := Piece.getLast?_text seam
      obtain ⟨t, ht⟩ := hfront
      rw [← ht, List.getLast?_append_of_ne_nil t hf] at last
      exact hm c (List.mem_append_left back (List.mem_of_getLast? last)) marked
    · obtain ⟨c, marked, first⟩ := Piece.head?_text seam
      obtain ⟨t, ht⟩ := hback
      have first : (pieceChars (q :: rest)).head? = some c := by
        rw [pieceChars_cons, List.head?_append, first, Option.some_or]
      rw [← ht, List.head?_append_of_ne_nil back hb] at first
      exact hm c (List.mem_append_right front (List.mem_of_mem_head? first)) marked

/-! ## Statements -/

def seamMarks : List Char := ['(', ')', ' ', ',', '.']

def numberNames : List String := ["inf", "nan"]

def Piece.nameless : Piece → Bool
  | fixed text => numberNames.all fun name => !containsWord name text
  | _ => true

def tidy (marks : List Char) (pieces : List Piece) : Bool :=
  separated marks pieces && pieces.all Piece.nameless

section
variable {marks : List Char} {p : Piece} {a b : List Piece}

theorem tidy_iff : tidy marks a = true ↔ separated marks a = true ∧ ∀ p ∈ a, p.nameless = true := by
  rw [tidy, Bool.and_eq_true, List.all_eq_true]

theorem tidy_cons (hn : p.nameless = true) (hp : p.endsWith marks = true)
    (h : tidy marks a = true) :
    tidy marks (p :: a) = true := by
  obtain ⟨hs, ha⟩ := tidy_iff.mp h
  refine tidy_iff.mpr ⟨?_, List.forall_mem_cons.mpr ⟨hn, ha⟩⟩
  cases a with
  | nil => rfl
  | cons q rest => simp [separated, hp, hs]

theorem tidy_append (ha : tidy marks a = true) (hp : p.beginsWith marks = true)
    (h : tidy marks (p :: b) = true) :
    tidy marks (a ++ p :: b) = true := by
  induction a with
  | nil => exact h
  | cons q a ih =>
    obtain ⟨hs, hn⟩ := tidy_iff.mp ha
    obtain ⟨hq, hn⟩ := List.forall_mem_cons.mp hn
    cases a with
    | nil =>
      obtain ⟨hs, ha⟩ := tidy_iff.mp h
      exact tidy_iff.mpr ⟨by simp [separated, hp, hs], List.forall_mem_cons.mpr ⟨hq, ha⟩⟩
    | cons r a =>
      obtain ⟨seam, hs⟩ := (Bool.and_eq_true _ _).mp hs
      obtain ⟨hs', ha⟩ := tidy_iff.mp (ih (tidy_iff.mpr ⟨hs, hn⟩))
      refine tidy_iff.mpr ⟨?_, List.forall_mem_cons.mpr ⟨hq, ha⟩⟩
      exact (Bool.and_eq_true _ _).mpr ⟨seam, hs'⟩

end

theorem tidy_arguments : ∀ {args : List (List Piece)}, (∀ a ∈ args, tidy seamMarks a = true) →
    tidy seamMarks (List.intercalate [.fixed ", "] args ++ [.fixed ")"]) = true
  | [], _ => rfl
  | [a], h => by
    rw [List.intercalate_singleton]
    exact tidy_append (h a (by simp)) rfl rfl
  | a :: b :: args, h => by
    obtain ⟨ha, hrest⟩ := List.forall_mem_cons.mp h
    rw [List.intercalate_cons_cons, List.append_assoc, List.append_assoc]
    exact tidy_append ha rfl (tidy_cons rfl rfl (tidy_arguments hrest))

theorem tidy_call {function : String} (hf : (Piece.fixed (function ++ "(")).nameless = true)
    {args : List (List Piece)} (h : ∀ a ∈ args, tidy seamMarks a = true) :
    tidy seamMarks (callPieces function args) = true := by
  have opens : (Piece.fixed (function ++ "(")).endsWith seamMarks = true := by
    simp [Piece.endsWith, seamMarks]
  exact tidy_cons hf opens (tidy_arguments h)

theorem tidy_numbers {function : String} (hf : (Piece.fixed (function ++ "(")).nameless = true)
    (xs : List Double) :
    tidy seamMarks (callPieces function (numberArguments xs)) = true := by
  refine tidy_call hf fun a ha => ?_
  obtain ⟨x, _, rfl⟩ := List.mem_map.mp ha
  rfl

theorem Coordinate.tidy_piece (c : Coordinate) : tidy seamMarks [c.piece] = true := by
  rcases c with x | ⟨⟨⟩⟩ | ⟨⟨⟩⟩ <;> rfl

def Signal.negates : Signal → Bool
  | random _ => true
  | _ => false

theorem Signal.tidy_pieces (signal : Signal) :
    tidy (if signal.negates then '-' :: seamMarks else seamMarks) signal.pieces = true := by
  cases signal with
  | around origin cycle speed factor =>
    rcases origin with x | ⟨⟨⟩⟩ <;> rcases cycle with ⟨⟨⟩⟩ | _ | _ <;> rfl
  | offset origin distance => rcases origin with x | ⟨⟨⟩⟩ <;> rfl
  | towards start axis speed => cases axis <;> rfl
  | _ => rfl

namespace Statement

def negates : Statement → Bool
  | declare _ signal => signal.negates
  | _ => false

/-- **The seams and the fixed text of every statement are tidy.** -/
theorem tidy_pieces (s : Statement) :
    tidy (if s.negates then '-' :: seamMarks else seamMarks) s.pieces = true := by
  have arguments {x y : Coordinate} {v w : Double} :
      ∀ a ∈ [[x.piece], [y.piece], [.number v], [.number w]], tidy seamMarks a = true := by
    simp only [List.forall_mem_cons]
    exact ⟨x.tidy_piece, y.tidy_piece, rfl, rfl, List.forall_mem_nil _⟩
  cases s with
  | createCanvas c => exact tidy_numbers rfl _
  | colorMode mode => cases mode <;> rfl
  | background color => exact tidy_numbers rfl _
  | fill color => exact tidy_numbers rfl _
  | stroke color => exact tidy_numbers rfl _
  | declare v signal =>
    have opens : (Piece.fixed ("let " ++ v.name ++ " = ")).endsWith
        (if signal.negates then '-' :: seamMarks else seamMarks) = true := by
      cases signal.negates <;> cases v <;> rfl
    exact tidy_cons (by cases v <;> rfl) opens signal.tidy_pieces
  | ellipse x y diameter => exact tidy_call rfl arguments
  | rect x y width height => exact tidy_call rfl arguments
  | shadowColor color =>
    cases color with
    | none => rfl
    | some color => exact tidy_cons rfl rfl (tidy_append (tidy_numbers rfl _) rfl rfl)
  | _ => rfl

end Statement

end SceneSketch
