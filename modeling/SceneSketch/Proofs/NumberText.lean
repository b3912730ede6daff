import Mathlib.Tactic.IntervalCases
import SceneSketch.Number.Text

/-!
# The letters of number text

Whatever its value, a number is written with digits, signs, a point, the exponent mark and the
letters of the two names of values that have no digits (`numeral_codeText`).
-/

namespace SceneSketch

def numberChars : List Char :=
  ['0', '1', '2', '3', '4', '5', '6', '7', '8', '9', '-', '+', '.', 'e', 'i', 'n', 'f', 'a']

def Numeral (cs : List Char) : Prop := ∀ c ∈ cs, c ∈ numberChars

instance (cs : List Char) : Decidable (Numeral cs) := List.decidableBAll (· ∈ numberChars) cs

theorem mem_numberChars_of_isDigit {c : Char} (h : c.isDigit = true) : c ∈ numberChars := by
  simp only [Char.isDigit, Bool.and_eq_true, decide_eq_true_eq, ge_iff_le] at h
  have lower : 48 ≤ c.toNat := h.1
  have upper : c.toNat ≤ 57 := h.2
  rw [← Char.ofNat_toNat c]
  interval_cases c.toNat <;> decide

theorem numeral_nil : Numeral [] := fun _ h => by cases h

theorem numeral_cons {c : Char} {cs : List Char} :
    Numeral (c :: cs) ↔ c ∈ numberChars ∧ Numeral cs := by
  simp [Numeral]

theorem numeral_append {a b : List Char} : Numeral (a ++ b) ↔ Numeral a ∧ Numeral b := by
  simp only [Numeral, List.mem_append, or_imp, forall_and]

theorem Numeral.sublist {a b : List Char} (h : Numeral b) (hs : a.Sublist b) : Numeral a :=
  fun c hc => h c (hs.subset hc)

theorem numeral_replicate {c : Char} (hc : c ∈ numberChars) (n : Nat) :
    Numeral (List.replicate n c) :=
  fun d hd => by rw [List.eq_of_mem_replicate hd]; exact hc

theorem numeral_digits (n : Nat) : Numeral (decimalDigits n) := fun _ hc =>
  mem_numberChars_of_isDigit (Nat.isDigit_of_mem_toDigits (by decide) (by decide) hc)

theorem numeral_signText (negative : Bool) : Numeral (signText negative).toList := by
  cases negative
  · exact numeral_nil
  · simp [signText, Numeral, numberChars]

theorem numeral_intText (n : Int) : Numeral (intText n).toList := by
  rw [intText, natText, String.toList_append, String.toList_ofList]
  exact numeral_append.mpr ⟨numeral_signText _, numeral_digits _⟩

/-! ## Decimals -/

namespace Decimal

theorem numeral_significantDigits (d : Decimal) : Numeral d.significantDigits := by
  intro c hc
  have hc := List.mem_reverse.mp hc
  exact numeral_digits _ c (List.mem_reverse.mp ((List.dropWhile_suffix _).subset hc))

theorem numeral_exponentText (e : Int) : Numeral (exponentText e).toList := by
  have mark : Numeral (if e < 0 then "e-" else "e+").toList := by
    split <;> simp [Numeral, numberChars]
  have digits : Numeral (if (decimalDigits e.natAbs).length < 2 then '0' :: decimalDigits e.natAbs
      else decimalDigits e.natAbs) := by
    split
    · exact numeral_cons.mpr ⟨by decide, numeral_digits _⟩
    · exact numeral_digits _
  rw [exponentText, String.toList_append, String.toList_ofList]
  exact numeral_append.mpr ⟨mark, digits⟩

theorem numeral_positional {digits : List Char} (h : Numeral digits) (p : Int) :
    Numeral (positional digits p) := by
  unfold positional
  split
  · have zeros : Numeral (List.replicate (-p).toNat '0') := numeral_replicate (by decide) _
    exact numeral_cons.mpr ⟨by decide, numeral_cons.mpr ⟨by decide, numeral_append.mpr ⟨zeros, h⟩⟩⟩
  · have whole : Numeral (digits.take p.toNat ++ List.replicate (p.toNat - digits.length) '0') :=
      numeral_append.mpr ⟨h.sublist (List.take_sublist _ _), numeral_replicate (by decide) _⟩
    refine numeral_append.mpr ⟨whole, numeral_cons.mpr ⟨by decide, ?_⟩⟩
    split
    · exact numeral_cons.mpr ⟨by decide, numeral_nil⟩
    · exact h.sublist (List.drop_sublist _ _)

theorem numeral_scientific {digits : List Char} (h : Numeral digits) :
    Numeral (scientific digits) := by
  unfold scientific
  split
  · exact numeral_cons.mpr ⟨by decide, numeral_nil⟩
  · exact h
  · obtain ⟨first, rest⟩ := numeral_cons.mp h
    exact numeral_cons.mpr ⟨first, numeral_cons.mpr ⟨by decide, rest⟩⟩

theorem numeral_text (d : Decimal) : Numeral d.text.toList := by
  have digits := d.numeral_significantDigits
  rw [text, String.toList_append]
  refine numeral_append.mpr ⟨numeral_signText _, ?_⟩
  split
  · rw [String.toList_append, String.toList_ofList]
    exact numeral_append.mpr ⟨numeral_scientific digits, numeral_exponentText _⟩
  · rw [String.toList_ofList]
    exact numeral_positional digits _

end Decimal

/-! ## Values -/

theorem FiniteDouble.numeral_plainText (x : FiniteDouble) : Numeral x.plainText.toList := by
  unfold plainText
  split
  · rw [String.toList_append]
    exact numeral_append.mpr ⟨numeral_signText _, by simp [Numeral, numberChars]⟩
  · exact x.shortest.numeral_text

theorem FiniteDouble.numeral_codeText (x : FiniteDouble) : Numeral x.codeText.toList := by
  unfold codeText
  split
  · exact numeral_intText _
  · exact x.numeral_plainText

theorem Double.numeral_codeText (x : Double) : Numeral x.codeText.toList := by
  cases x with
  | nan => simp [codeText, plainText, Numeral, numberChars]
  | infinite negative =>
    simp only [codeText, plainText, String.toList_append]
    exact numeral_append.mpr ⟨numeral_signText _, by simp [Numeral, numberChars]⟩
  | finite x => exact x.numeral_codeText

end SceneSketch
