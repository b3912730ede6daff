import SceneSketch.Proofs.DecimalReading
import SceneSketch.Proofs.HalfUp
import SceneSketch.Proofs.Requests

/-!
# The measures in a description

A shape is described by fixed pieces of text with whole numbers between them, which can be read off
again. So a description names the measures rounded half up exactly if none of them is rounded
wrongly (`DrawnShape.describe_rounded`).
-/

namespace SceneSketch

/-! ## Texts between numbers -/

/-- Pieces of text with numbers in turn after them. -/
def interleave : List String → List String → String
  | piece :: pieces, text :: texts => piece ++ text ++ interleave pieces texts
  | pieces, _ => String.join pieces

def Stops (piece : String) : Prop :=
  ∃ c, piece.toList.head? = some c ∧ c.isDigit = false

theorem head?_interleave {piece : String} (h : Stops piece) (pieces texts : List String) :
    ∀ c, (interleave (piece :: pieces) texts).toList.head? = some c → c.isDigit = false := by
  obtain ⟨d, head, stop⟩ := h
  have front : ∃ rest, interleave (piece :: pieces) texts = piece ++ rest := by
    cases texts with
    | nil => exact ⟨String.join pieces, by simp [interleave, String.join_cons]⟩
    | cons text texts =>
      exact ⟨text ++ interleave pieces texts, by rw [interleave, String.append_assoc]⟩
  obtain ⟨rest, parts⟩ := front
  intro c hc
  rw [parts, String.toList_append, List.head?_append, head, Option.some_or, Option.some_inj] at hc
  rwa [← hc]

/-- **Numbers can be read off the text they stand in.** -/
theorem interleave_inj {pieces : List String} (stops : ∀ piece ∈ pieces.tail, Stops piece)
    {as bs : List Int} (length : as.length = bs.length) (room : as.length ≤ pieces.length)
    (h : interleave pieces (as.map intText) = interleave pieces (bs.map intText)) : as = bs := by
  induction pieces generalizing as bs with
  | nil =>
    rw [List.length_nil, Nat.le_zero] at room
    rw [List.length_eq_zero_iff.mp room, List.length_eq_zero_iff.mp (length.symm.trans room)]
  | cons piece pieces ih =>
    cases as with
    | nil => exact (List.length_eq_zero_iff.mp length.symm).symm
    | cons a as =>
      cases bs with
      | nil => cases length
      | cons b bs =>
        have stop (texts : List String) :
            ∀ c, (interleave pieces texts).toList.head? = some c → c.isDigit = false := by
          cases pieces with
          | nil => simp [interleave, String.join_nil]
          | cons next pieces => exact head?_interleave (stops next List.mem_cons_self) pieces texts
        rw [List.map_cons, List.map_cons, interleave, interleave] at h
        have letters := congrArg String.toList h
        simp only [String.toList_append, List.append_assoc] at letters
        obtain ⟨rfl, rest⟩ := intText_append_inj (stop _) (stop _) (List.append_cancel_left letters)
        have stops' : ∀ piece ∈ pieces.tail, Stops piece := fun p hp =>
          stops p (List.mem_of_mem_tail hp)
        rw [ih stops' (Nat.succ.inj length) (Nat.le_of_succ_le_succ room)
          (String.toList_inj.mp rest)]

/-! ## Descriptions of shapes -/

def DrawnKind.pieces : DrawnKind → List String
  | circle => ["a circle centered at position (", ", ", ") with radius "]
  | rectangle => ["a rectangle at position (", ", ", ") with width ", " and height "]
  | line => ["a line from point (", ", ", ") to point (", ", ", ")"]

def DrawnKind.worded (kind : DrawnKind) (numbers : List Int) : String :=
  interleave kind.pieces (numbers.map intText)

theorem DrawnKind.stops (kind : DrawnKind) : ∀ piece ∈ kind.pieces.tail, Stops piece := by
  have comma : Stops ", " := ⟨',', rfl, rfl⟩
  have close (rest : List Char) : Stops (String.ofList (')' :: rest)) := ⟨')', by simp, rfl⟩
  have blank (rest : List Char) : Stops (String.ofList (' ' :: rest)) := ⟨' ', by simp, rfl⟩
  cases kind with
  | circle => simpa [pieces] using ⟨comma, close _⟩
  | rectangle => simpa [pieces] using ⟨comma, close _, blank _⟩
  | line => simpa [pieces] using ⟨comma, close _, comma, close _⟩

theorem DrawnKind.worded_inj {kind : DrawnKind} {as bs : List Int} (length : as.length = bs.length)
    (room : as.length ≤ kind.pieces.length) : kind.worded as = kind.worded bs ↔ as = bs := by
  constructor
  · exact interleave_inj kind.stops length room
  · intro h
    rw [h]

namespace DrawnShape

theorem describe_eq (shape : DrawnShape) :
    shape.describe = shape.kind.worded (shape.measures.map Double.roundHalfUp) := by
  unfold DrawnKind.worded
  rw [List.map_map]
  change shape.describe = interleave shape.kind.pieces (shape.measures.map roundedText)
  cases shape with
  | circle s =>
    have words (x y r : String) :
      "a circle centered at position " ++ ("(" ++ x ++ ", " ++ y ++ ")") ++
        " with radius " ++ r = interleave (DrawnKind.pieces .circle) [x, y, r] := by
      apply String.toList_inj.mp
      simp [interleave, DrawnKind.pieces, String.join_nil]
    exact words (roundedText s.x) (roundedText s.y) (roundedText s.radius)
  | rectangle s =>
    have words (x y w h : String) : "a rectangle at position " ++ ("(" ++ x ++ ", " ++ y ++ ")") ++
        " with width " ++ w ++ " and height " ++ h =
          interleave (DrawnKind.pieces .rectangle) [x, y, w, h] := by
      apply String.toList_inj.mp
      simp [interleave, DrawnKind.pieces, String.join_nil]
    exact words (roundedText s.x) (roundedText s.y) (roundedText s.width.abs)
      (roundedText s.height.abs)
  | line s =>
    have words (x y w h : String) : "a line from point " ++ ("(" ++ x ++ ", " ++ y ++ ")") ++
        " to point " ++ ("(" ++ w ++ ", " ++ h ++ ")") =
          interleave (DrawnKind.pieces .line) [x, y, w, h] := by
      apply String.toList_inj.mp
      simp [interleave, DrawnKind.pieces, String.join_cons, String.join_nil]
    exact words (roundedText s.x1) (roundedText s.y1) (roundedText s.x2) (roundedText s.y2)

theorem length_measures_le (shape : DrawnShape) :
    shape.measures.length ≤ shape.kind.pieces.length := by
  cases shape <;> simp [measures, kind, DrawnKind.pieces]

/-- **A description names each measure rounded half up, and one more where the rounding goes
wrong**; so it is exact if and only if this happens nowhere. -/
theorem describe_rounded {shape : DrawnShape} {xs : List FiniteDouble}
    (finite : shape.measures = xs.map .finite) :
    shape.describe =
        shape.kind.worded (xs.map fun x => ⌊x.value + 1 / 2⌋ + if x.Misrounds then 1 else 0) ∧
      (shape.describe = shape.kind.worded (xs.map fun x => ⌊x.value + 1 / 2⌋) ↔
        ∀ x ∈ xs, ¬ x.Misrounds) := by
  have printed : shape.describe =
      shape.kind.worded (xs.map fun x => ⌊x.value + 1 / 2⌋ + if x.Misrounds then 1 else 0) := by
    have numbers : (xs.map .finite).map Double.roundHalfUp =
        xs.map fun x => ⌊x.value + 1 / 2⌋ + if x.Misrounds then 1 else 0 := by
      simp only [List.map_map, Function.comp_def, FiniteDouble.roundHalfUp_finite]
    rw [describe_eq, finite, numbers]
  have room : xs.length ≤ shape.kind.pieces.length := by
    have := shape.length_measures_le
    rwa [finite, List.length_map] at this
  refine ⟨printed, ?_⟩
  rw [printed, DrawnKind.worded_inj (by simp) (by simpa using room), List.map_inj_left]
  apply forall₂_congr
  intro x _
  split_ifs with wrong
  · exact iff_of_false (by omega) (not_not.mpr wrong)
  · exact iff_of_true (Int.add_zero _) wrong

/-- A description with a tie above zero, one below and a whole number. -/
theorem describe_rounded_ties :
    let shape := circle ⟨2.5, -0.5, 400, none⟩
    let xs : List FiniteDouble := [⟨false, 1024 * Nat.pow 2 52 + Nat.pow 2 50, by decide⟩,
      ⟨true, 1022 * Nat.pow 2 52, by decide⟩,
      ⟨false, 1031 * Nat.pow 2 52 + 9 * Nat.pow 2 48, by decide⟩]
    shape.measures = xs.map .finite ∧
      shape.describe = shape.kind.worded (xs.map fun x => ⌊x.value + 1 / 2⌋) := by
  intro shape xs
  have finite : shape.measures = xs.map .finite := by decide +kernel
  exact ⟨finite, (describe_rounded finite).2.mpr (by decide +kernel)⟩

/-- The last number below one half is described as one, and an odd number of 53 bits as the next
one. -/
theorem describe_misrounded :
    let shape := circle ⟨0.49999999999999994, 4503599627370497, 1, none⟩
    let xs : List FiniteDouble := [⟨false, 1022 * Nat.pow 2 52 - 1, by decide⟩,
      ⟨false, 1075 * Nat.pow 2 52 + 1, by decide⟩, ⟨false, 1023 * Nat.pow 2 52, by decide⟩]
    shape.measures = xs.map .finite ∧
      shape.describe = "a circle centered at position (1, 4503599627370498) with radius 1" ∧
      shape.kind.worded (xs.map fun x => ⌊x.value + 1 / 2⌋) =
        "a circle centered at position (0, 4503599627370497) with radius 1" := by
  intro shape xs
  refine ⟨by decide +kernel, by decide +kernel, ?_⟩
  simp only [FiniteDouble.floor_value_add_half]
  decide +kernel

end DrawnShape

end SceneSketch
