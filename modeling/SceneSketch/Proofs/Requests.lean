import Mathlib.Algebra.Group.Action.Defs
import Mathlib.Algebra.Order.BigOperators.Group.List
import Mathlib.Algebra.Order.Ring.Nat
import SceneSketch.Drawing.Description
import SceneSketch.Prompt.Basic
import SceneSketch.Proofs.AxisFaults
import SceneSketch.Settings

/-!
# Descriptions as requests

The description of a drawing is a request for a sketch. It is never blank, so that only its length
can be held against it: it is refused exactly if it has more letters than the limit
(`Drawing.describe_reenters`). The letters are those of fixed words and of the numbers that are
named, and few shapes stay below the usual limit while ten shapes never do.
-/

namespace SceneSketch

section
variable {α : Type} {f : α → Nat} {bound : Nat} {l : List α}

theorem sum_map_le (h : ∀ a ∈ l, f a ≤ bound) : (l.map f).sum ≤ l.length * bound := by
  have sum := List.sum_le_card_nsmul (l.map f) bound (List.forall_mem_map.mpr h)
  rwa [List.length_map, smul_eq_mul] at sum

theorem le_sum_map (h : ∀ a ∈ l, bound ≤ f a) : l.length * bound ≤ (l.map f).sum := by
  have sum := List.card_nsmul_le_sum (l.map f) bound (List.forall_mem_map.mpr h)
  rwa [List.length_map, smul_eq_mul] at sum

end

/-! ## Letters of a shape -/

namespace DrawnShape

def measures : DrawnShape → List Double
  | circle s => [s.x, s.y, s.radius]
  | rectangle s => [s.x, s.y, s.width.abs, s.height.abs]
  | line s => [s.x1, s.y1, s.x2, s.y2]

end DrawnShape

def DrawnKind.wording : DrawnKind → Nat
  | circle => 47
  | rectangle => 52
  | line => 36

namespace DrawnShape

def letters (shape : DrawnShape) : Nat :=
  shape.kind.wording + (shape.measures.map fun x => (roundedText x).length).sum

theorem length_describe (shape : DrawnShape) : shape.describe.length = shape.letters := by
  cases shape with
  | circle s =>
    have words (x y r : String) :
      ("a circle centered at position " ++ ("(" ++ x ++ ", " ++ y ++ ")") ++
        " with radius " ++ r).length = 47 + (x.length + (y.length + (r.length + 0))) := by
      simp [← String.length_toList]
      omega
    exact words (roundedText s.x) (roundedText s.y) (roundedText s.radius)
  | rectangle s =>
    have words (x y w h : String) : ("a rectangle at position " ++ ("(" ++ x ++ ", " ++ y ++ ")") ++
        " with width " ++ w ++ " and height " ++ h).length =
          52 + (x.length + (y.length + (w.length + (h.length + 0)))) := by
      simp [← String.length_toList]
      omega
    exact words (roundedText s.x) (roundedText s.y) (roundedText s.width.abs)
      (roundedText s.height.abs)
  | line s =>
    have words (x y w h : String) : ("a line from point " ++ ("(" ++ x ++ ", " ++ y ++ ")") ++
        " to point " ++ ("(" ++ w ++ ", " ++ h ++ ")")).length =
          36 + (x.length + (y.length + (w.length + (h.length + 0)))) := by
      simp [← String.length_toList]
      omega
    exact words (roundedText s.x1) (roundedText s.y1) (roundedText s.x2) (roundedText s.y2)

theorem one_le_length_roundedText (x : Double) : 1 ≤ (roundedText x).length := by
  unfold roundedText
  generalize x.roundHalfUp = n
  have digits : 0 < (decimalDigits n.natAbs).length := List.length_pos_iff.mpr Nat.toDigits_ne_nil
  rw [intText, natText, String.length_append, String.length_ofList]
  omega

theorem forty_le_letters (shape : DrawnShape) : 40 ≤ shape.letters := by
  have each : shape.measures.length * 1 ≤
      (shape.measures.map fun x => (roundedText x).length).sum :=
    le_sum_map fun x _ => one_le_length_roundedText x
  unfold letters
  generalize (shape.measures.map fun x => (roundedText x).length).sum = numbers at each ⊢
  cases shape <;>
    simp only [measures, kind, DrawnKind.wording, List.length_cons,
      List.length_nil] at each ⊢ <;> omega

theorem letters_le_of_short {shape : DrawnShape}
    (short : ∀ x ∈ shape.measures, (roundedText x).length ≤ 4) :
    shape.letters ≤ 68 := by
  have each : (shape.measures.map fun x => (roundedText x).length).sum ≤
      shape.measures.length * 4 :=
    sum_map_le short
  unfold letters
  generalize (shape.measures.map fun x => (roundedText x).length).sum = numbers at each ⊢
  cases shape <;>
    simp only [measures, kind, DrawnKind.wording, List.length_cons,
      List.length_nil] at each ⊢ <;> omega

end DrawnShape

/-! ## Letters of a drawing -/

theorem length_intercalate (separator : String) : ∀ texts : List String,
    (String.intercalate separator texts).length =
      (texts.map String.length).sum + separator.length * (texts.length - 1)
  | [] => by simp
  | [text] => by simp
  | text :: next :: texts => by
    have ih := length_intercalate separator (next :: texts)
    rw [String.intercalate_cons_cons, String.length_append, String.length_append, ih]
    simp only [List.map_cons, List.sum_cons, List.length_cons, Nat.add_sub_cancel, Nat.mul_add,
      Nat.mul_one]
    omega

namespace Drawing

def letters (drawing : Drawing) : Nat :=
  if drawing.shapes = [] then 56
  else 103 + drawing.width.codeText.length + drawing.height.codeText.length +
    (drawing.shapes.map DrawnShape.letters).sum + 2 * (drawing.shapes.length - 1)

theorem length_describe (drawing : Drawing) : drawing.describe.length = drawing.letters := by
  have words (w h shapes : String) :
      ("Create a p5.js sketch on a canvas of " ++ w ++ "x" ++ h ++ " with " ++
      shapes ++ ". Use a light gray background and make the shapes colorful.").length =
        103 + w.length + h.length + shapes.length := by
    simp [← String.length_toList]
    omega
  have shapes : (String.intercalate ", " (drawing.shapes.map DrawnShape.describe)).length =
      (drawing.shapes.map DrawnShape.letters).sum + 2 * (drawing.shapes.length - 1) := by
    have lengths : (drawing.shapes.map DrawnShape.describe).map String.length =
        drawing.shapes.map DrawnShape.letters := by
      rw [List.map_map]
      exact List.map_congr_left fun shape _ => shape.length_describe
    rw [length_intercalate, lengths, List.length_map]
    rfl
  unfold describe letters
  split
  · next undrawn =>
    rw [if_pos (List.isEmpty_iff.mp undrawn)]
    decide
  · next drawn =>
    rw [if_neg fun undrawn => drawn (List.isEmpty_iff.mpr undrawn), words, shapes,
      Nat.add_assoc _ _ (2 * _)]

theorem letters_le_of_few {drawing : Drawing} (few : drawing.shapes.length ≤ 5)
    (width : drawing.width.codeText.length ≤ 4) (height : drawing.height.codeText.length ≤ 4)
    (short : ∀ shape ∈ drawing.shapes, ∀ x ∈ shape.measures, (roundedText x).length ≤ 4) :
    drawing.letters ≤ 500 := by
  have shapes : (drawing.shapes.map DrawnShape.letters).sum ≤ drawing.shapes.length * 68 :=
    sum_map_le fun shape hs => DrawnShape.letters_le_of_short (short shape hs)
  unfold letters
  split
  · decide
  · omega

theorem lt_letters_of_many {drawing : Drawing} (many : 10 ≤ drawing.shapes.length) :
    500 < drawing.letters := by
  have shapes : drawing.shapes.length * 40 ≤ (drawing.shapes.map DrawnShape.letters).sum :=
    le_sum_map fun shape _ => shape.forty_le_letters
  have drawn : drawing.shapes ≠ [] := by
    intro undrawn
    rw [undrawn] at many
    exact absurd many (by decide)
  rw [letters, if_neg drawn]
  omega

theorem describe_filled (drawing : Drawing) : drawing.describe.toList.all isBlankChar = false := by
  have word : "Create a p5.js sketch on a canvas of ".toList.all isBlankChar = false := by decide
  unfold describe
  split
  · decide
  · simp only [String.toList_append, List.all_append, word, Bool.false_and]

end Drawing

/-! ## Requests -/

theorem checkPrompt_str {limit : Int} {request : String}
    (filled : request.toList.all isBlankChar = false) :
    checkPrompt limit (.str request) = if request.length ≤ limit then .ok request
      else .error (.tooLong limit) := by
  have shown : ¬ isBlankText request = true := by simp [isBlankText, filled]
  rw [checkPrompt, if_neg shown]
  change (if limit < (request.length : Int) then _ else _) = _
  by_cases short : (request.length : Int) ≤ limit
  · rw [if_pos short, if_neg (Int.not_lt.mpr short)]
  · rw [if_neg short, if_pos (Int.not_le.mp short)]

section
variable (limit : Int) (drawing : Drawing)

theorem checkPrompt_describe : checkPrompt limit (.str drawing.describe) =
    if drawing.letters ≤ limit then .ok drawing.describe else .error (.tooLong limit) := by
  rw [checkPrompt_str drawing.describe_filled, drawing.length_describe]

theorem fullPrompt_describe : fullPrompt limit (.str drawing.describe) =
    if drawing.letters ≤ limit then .ok (instructions ++ "\n\n" ++ requestText drawing.describe)
    else .error (.tooLong limit) := by
  rw [fullPrompt, checkPrompt_describe]
  split <;> rfl

end

theorem few_accepted {drawing : Drawing} (few : drawing.shapes.length ≤ 5)
    (width : drawing.width.codeText.length ≤ 4) (height : drawing.height.codeText.length ≤ 4)
    (short : ∀ shape ∈ drawing.shapes, ∀ x ∈ shape.measures, (roundedText x).length ≤ 4) :
    fullPrompt (Settings.maxPromptLength {}) (.str drawing.describe) =
      .ok (instructions ++ "\n\n" ++ requestText drawing.describe) := by
  have within : (drawing.letters : Int) ≤ Settings.maxPromptLength {} :=
    Int.ofNat_le.mpr (Drawing.letters_le_of_few few width height short)
  rw [fullPrompt_describe, if_pos within]

theorem many_refused {drawing : Drawing} (many : 10 ≤ drawing.shapes.length) :
    fullPrompt (Settings.maxPromptLength {}) (.str drawing.describe) = .error (.tooLong 500) := by
  have long : ¬ (drawing.letters : Int) ≤ Settings.maxPromptLength {} :=
    Int.not_le.mpr (Int.ofNat_lt.mpr (Drawing.lt_letters_of_many many))
  rw [fullPrompt_describe, if_neg long]

/-- **The description of a drawing is a request exactly if it has no more letters than the limit,
and too many letters are all that is ever wrong with it.** -/
theorem Drawing.describe_reenters (settings : Settings) (drawing : Drawing) :
    let limit := settings.maxPromptLength
    let request := drawing.describe
    request.length = drawing.letters ∧
      checkPrompt limit (.str request) =
        (if drawing.letters ≤ limit then .ok request else .error (.tooLong limit)) ∧
      fullPrompt limit (.str request) =
        if drawing.letters ≤ limit then .ok (instructions ++ "\n\n" ++ requestText request)
        else .error (.tooLong limit) :=
  ⟨drawing.length_describe, checkPrompt_describe _ drawing, fullPrompt_describe _ drawing⟩

def tenLines (start finish : FiniteDouble) : Json :=
  .obj [("shapes", .arr
    (List.replicate 10 (.obj [("type", .str "line"), ("x1", .num (.finite start)),
      ("y1", .num (.finite start)), ("x2", .num (.finite finish)),
      ("y2", .num (.finite finish))]))),
    ("canvasWidth", .num (.finite finish)), ("canvasHeight", .num (.finite finish))]

theorem Drawing.lines_refused :
    ¬ ∀ document drawing, Drawing.codec.read document = .accepted drawing →
    ∃ prompt, fullPrompt (Settings.maxPromptLength {}) (.str drawing.describe) = .ok prompt := by
  intro passes
  have read (start finish : FiniteDouble) : ∃ drawing,
      Drawing.codec.read (tenLines start finish) = .accepted drawing ∧ drawing.shapes.length = 10 :=
    ⟨_, rfl, rfl⟩
  obtain ⟨drawing, accepted, ten⟩ := read ⟨false, 0, by decide⟩ fourHundred
  obtain ⟨prompt, ok⟩ := passes _ drawing accepted
  cases ok.symm.trans (many_refused ten.ge)

end SceneSketch
