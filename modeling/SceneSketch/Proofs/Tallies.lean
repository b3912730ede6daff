import Mathlib.Data.List.Perm.Basic
import SceneSketch.Drawing.Description
import SceneSketch.Proofs.ArgumentLists

/-!
# Tallies

The summary of a drawing lists how many shapes there are of each kind, kinds without a shape left
out. The numbers and the kinds can be read off the list, so that drawings have the same summary
exactly if they have the same number of shapes of each kind (`Drawing.summary_faithful`).
-/

namespace SceneSketch

/-! ## Numbers in a text -/

/-- The numbers that the runs of digits in a text stand for. -/
def numbersIn (cs : List Char) : List Nat :=
  ((cs.splitOnP fun c => !c.isDigit).filter (· ≠ [])).map (Nat.ofDigitChars 10 · 0)

theorem numbersIn_words {words : List Char} (h : ∀ c ∈ words, c.isDigit = false) (cs : List Char) :
    numbersIn (words ++ cs) = numbersIn cs := by
  induction words with
  | nil => rfl
  | cons c words ih =>
    obtain ⟨hc, hwords⟩ := List.forall_mem_cons.mp h
    rw [← ih hwords, List.cons_append, numbersIn, List.splitOnP_cons_eq_if_modifyHead,
      if_pos (by simp [hc])]
    rfl

theorem numbersIn_digits (n : Nat) {c : Char} (hc : c.isDigit = false) (cs : List Char) :
    numbersIn (decimalDigits n ++ c :: cs) = n :: numbersIn cs := by
  have digits := digits_decimalDigits n
  have number : Nat.ofDigitChars 10 (decimalDigits n) 0 = n := Nat.ofDigitChars_ten_toDigits
  rw [numbersIn, List.splitOnP_append_cons_of_forall_mem (by simpa using digits.digits) c
    (by simp [hc]), List.filter_cons_of_pos (by simpa using digits.nonempty), List.map_cons, number]
  rfl

/-! ## Entries -/

def entryText (entry : DrawnKind × Nat) : String :=
  natText entry.2 ++ " " ++ entry.1.name ++ if 1 < entry.2 then "s" else ""

def entryWords (entry : DrawnKind × Nat) : List Char :=
  entry.1.name.toList ++ if 1 < entry.2 then ['s'] else []

theorem toList_entryText (entry : DrawnKind × Nat) :
    (entryText entry).toList = decimalDigits entry.2 ++ ' ' :: entryWords entry := by
  unfold entryText entryWords
  split <;> simp [natText]

theorem entryWords_letters (entry : DrawnKind × Nat) :
    ∀ c ∈ entryWords entry, c ≠ ',' ∧ c.isDigit = false := by
  have plural : ∀ c ∈ if 1 < entry.2 then ['s'] else [], c ≠ ',' ∧ c.isDigit = false := by
    split <;> simp
  have name : ∀ c ∈ entry.1.name.toList, c ≠ ',' ∧ c.isDigit = false := by
    cases entry.1 <;> simp [DrawnKind.name]
  exact List.forall_mem_append.mpr ⟨name, plural⟩

theorem comma_not_mem_entryText (entry : DrawnKind × Nat) : ',' ∉ (entryText entry).toList := by
  have digits : ',' ∉ decimalDigits entry.2 := fun h =>
    absurd ((digits_decimalDigits entry.2).digits _ h) (by decide)
  have words : ',' ∉ entryWords entry := fun h => (entryWords_letters entry _ h).1 rfl
  rw [toList_entryText]
  simp [digits, words]

theorem numbersIn_entryText (entry : DrawnKind × Nat) (cs : List Char) :
    numbersIn ((entryText entry).toList ++ cs) = entry.2 :: numbersIn cs := by
  rw [toList_entryText, List.append_assoc, List.cons_append, numbersIn_digits entry.2 (by decide),
    numbersIn_words fun c hc => (entryWords_letters entry c hc).2]

theorem DrawnKind.name_injective : Function.Injective name := by
  intro kind other h
  cases kind <;> cases other <;> first | rfl | exact absurd h (by decide)

theorem entryText_injective : Function.Injective entryText := by
  rintro ⟨kind, n⟩ ⟨other, m⟩ h
  have letters := congrArg String.toList h
  rw [toList_entryText, toList_entryText] at letters
  have numbers := congrArg numbersIn letters
  rw [numbersIn_digits _ (by decide), numbersIn_digits _ (by decide)] at numbers
  obtain rfl := (List.cons.inj numbers).1
  have words := (List.cons.inj (List.append_cancel_left letters)).2
  have same : kind = other :=
    DrawnKind.name_injective (String.toList_inj.mp (List.append_cancel_right words))
  rw [same]

theorem numbersIn_entries : ∀ entries : List (DrawnKind × Nat),
    numbersIn (String.intercalate ", " (entries.map entryText)).toList = entries.map Prod.snd
  | [] => rfl
  | [entry] => by
    have alone := numbersIn_entryText entry []
    rwa [List.append_nil] at alone
  | entry :: next :: entries => by
    rw [List.map_cons, List.map_cons, String.intercalate_cons_cons, String.toList_append,
      String.toList_append,
      List.append_assoc, numbersIn_entryText, numbersIn_words (by simp), ← List.map_cons,
      numbersIn_entries (next :: entries)]
    rfl

/-! ## Drawings -/

def DrawnKind.all : List DrawnKind :=
  [circle, rectangle, line]

theorem DrawnKind.mem_all (kind : DrawnKind) : kind ∈ all := by
  cases kind <;> simp [all]

namespace Drawing

def tally (drawing : Drawing) : List (DrawnKind × Nat) :=
  (DrawnKind.all.map fun kind => (kind, drawing.count kind)).filter fun entry => 0 < entry.2

section
variable (drawing : Drawing)

theorem countTexts_eq (kinds : List DrawnKind) :
    (kinds.flatMap fun kind => countText (drawing.count kind) kind) =
    ((kinds.map fun kind => (kind, drawing.count kind)).filter fun entry => 0 < entry.2).map
    entryText := by
  induction kinds with
  | nil => rfl
  | cons kind kinds ih =>
    rw [List.flatMap_cons, ih, List.map_cons, List.filter_cons, countText]
    by_cases none : drawing.count kind = 0
    · simp [none]
    · simp [none, Nat.pos_of_ne_zero none, entryText]

theorem summary_eq : drawing.summary =
    if drawing.tally = [] then "empty sketch"
    else String.intercalate ", " (drawing.tally.map entryText) := by
  have parts := drawing.countTexts_eq DrawnKind.all
  rw [DrawnKind.all] at parts
  simp only [summary, parts, List.isEmpty_iff, List.map_eq_nil_iff]
  rfl

theorem mem_tally {kind : DrawnKind} {n : Nat} :
    (kind, n) ∈ drawing.tally ↔ 0 < n ∧ n = drawing.count kind := by
  simp only [tally, List.mem_filter, List.mem_map, Prod.mk.injEq, decide_eq_true_eq]
  constructor
  · rintro ⟨⟨kind, -, rfl, rfl⟩, counted⟩
    exact ⟨counted, rfl⟩
  · rintro ⟨counted, rfl⟩
    exact ⟨⟨kind, kind.mem_all, rfl, rfl⟩, counted⟩

theorem numbersIn_summary : numbersIn drawing.summary.toList = drawing.tally.map Prod.snd := by
  rw [summary_eq]
  split
  · next empty =>
    rw [empty]
    decide
  · exact numbersIn_entries _

theorem commaParts_summary (drawn : drawing.tally ≠ []) :
    commaParts drawing.summary = drawing.tally.map entryText := by
  rw [summary_eq, if_neg drawn]
  apply commaParts_intercalate
  · simpa using drawn
  · exact List.forall_mem_map.mpr fun entry _ => comma_not_mem_entryText entry

theorem sum_tally : (drawing.tally.map Prod.snd).sum = drawing.shapes.length := by
  have entries (l : List (DrawnKind × Nat)) :
      ((l.filter fun entry => 0 < entry.2).map Prod.snd).sum =
      (l.map Prod.snd).sum := by
    induction l with
    | nil => rfl
    | cons entry l ih =>
      rw [List.filter_cons, List.map_cons, List.sum_cons, ← ih]
      by_cases counted : 0 < entry.2
      · simp [counted]
      · simp [Nat.eq_zero_of_not_pos counted]
  rw [tally, entries, List.map_map]
  unfold count
  induction drawing.shapes with
  | nil => rfl
  | cons shape shapes ih =>
    rw [List.length_cons, ← ih]
    cases shape <;> simp [DrawnKind.all, DrawnShape.kind, List.countP_cons] <;> omega

theorem count_kinds (kind : DrawnKind) :
    (drawing.shapes.map DrawnShape.kind).count kind = drawing.count kind := by
  rw [List.count, List.countP_map]
  rfl

end

theorem tally_eq_iff {drawing other : Drawing} :
    drawing.tally = other.tally ↔ ∀ kind, drawing.count kind = other.count kind := by
  constructor
  · intro h kind
    have carried {a b : Drawing} (h : a.tally = b.tally) (counted : 0 < a.count kind) :
        a.count kind = b.count kind := by
      have entry := a.mem_tally.mpr ⟨counted, rfl⟩
      rw [h] at entry
      exact (b.mem_tally.mp entry).2
    rcases Nat.eq_zero_or_pos (drawing.count kind) with zero | counted
    · rcases Nat.eq_zero_or_pos (other.count kind) with zero' | counted
      · rw [zero, zero']
      · exact (carried h.symm counted).symm
    · exact carried h counted
  · intro h
    rw [tally, tally, funext h]

theorem summary_eq_iff {drawing other : Drawing} :
    drawing.summary = other.summary ↔ drawing.tally = other.tally := by
  constructor
  · intro h
    have numbers : drawing.tally.map Prod.snd = other.tally.map Prod.snd := by
      rw [← numbersIn_summary, h, numbersIn_summary]
    by_cases empty : drawing.tally = []
    · rw [empty] at numbers ⊢
      exact (List.map_eq_nil_iff.mp numbers.symm).symm
    · have drawn : other.tally ≠ [] := by
        intro empty'
        rw [empty'] at numbers
        exact empty (List.map_eq_nil_iff.mp numbers)
      have entries := drawing.commaParts_summary empty
      rw [h, other.commaParts_summary drawn] at entries
      exact (List.map_injective_iff.mpr entryText_injective entries).symm
  · intro h
    rw [summary_eq, summary_eq, h]

/-- **The summary is a faithful count.** Two drawings have the same one exactly if they have the
same number of shapes of each kind, that is if the kinds of one are those of the other in some
order, whatever the shapes and the canvas are besides; and the numbers in it add up to the number of
shapes. -/
theorem summary_faithful (drawing other : Drawing) :
    (drawing.summary = other.summary ↔ ∀ kind, drawing.count kind = other.count kind) ∧
      (drawing.summary = other.summary ↔
        (drawing.shapes.map DrawnShape.kind).Perm (other.shapes.map DrawnShape.kind)) ∧
      (numbersIn drawing.summary.toList).sum = drawing.shapes.length := by
  have counts : drawing.summary = other.summary ↔ ∀ kind, drawing.count kind = other.count kind :=
    summary_eq_iff.trans tally_eq_iff
  refine ⟨counts, ?_, ?_⟩
  · rw [counts, List.perm_iff_count]
    simp only [count_kinds]
  · rw [numbersIn_summary, sum_tally]

end Drawing

end SceneSketch
