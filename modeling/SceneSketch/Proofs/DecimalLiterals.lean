import Mathlib.Algebra.Group.Nat.Defs
import Mathlib.Data.List.DropRight
import SceneSketch.Number.Text
import SceneSketch.Proofs.Rounding

/-!
# Numbers as decimal literals

A finite double is written as a decimal literal, behind a minus sign if it is negative
(`Double.literal_codeText`). The values that are not finite are written as the names `inf` and
`nan`, and no letter of these stands in a literal.
-/

namespace SceneSketch

/-! ## The grammar of literals -/

structure Digits (cs : List Char) : Prop where
  nonempty : cs ≠ []
  digits : ∀ c ∈ cs, c.isDigit = true

/-- The digits before the point. With a zero in front of other digits they would not be decimal. -/
structure WholePart (cs : List Char) : Prop extends Digits cs where
  leads : cs.head? = some '0' → cs = ['0']

inductive FractionPart : List Char → Prop
  | none : FractionPart []
  | point {cs : List Char} : Digits cs → FractionPart ('.' :: cs)

inductive ExponentPart : List Char → Prop
  | none : ExponentPart []
  | mark {sign : Char} {cs : List Char} : sign ∈ ['+', '-'] → Digits cs →
      ExponentPart ('e' :: sign :: cs)

inductive UnsignedLiteral : List Char → Prop
  | parts {whole fraction exponent : List Char} : WholePart whole → FractionPart fraction →
    ExponentPart exponent → UnsignedLiteral (whole ++ fraction ++ exponent)

/-- A number in code: a literal, or a minus sign and a literal. -/
inductive DecimalLiteral : List Char → Prop
  | unsigned {cs : List Char} : UnsignedLiteral cs → DecimalLiteral cs
  | negative {cs : List Char} : UnsignedLiteral cs → DecimalLiteral ('-' :: cs)

inductive SignedLiteral (negative : Bool) : List Char → Prop
  | behind {cs : List Char} : UnsignedLiteral cs →
      SignedLiteral negative ((signText negative).toList ++ cs)

theorem Digits.prepend {a b : List Char} (hb : Digits b) (ha : ∀ c ∈ a, c.isDigit = true) :
    Digits (a ++ b) where
  nonempty := List.append_ne_nil_of_right_ne_nil a hb.nonempty
  digits := List.forall_mem_append.mpr ⟨ha, hb.digits⟩

theorem isDigit_of_mem_zeros {n : Nat} : ∀ c ∈ List.replicate n '0', c.isDigit = true :=
    fun c h => by
  rw [List.eq_of_mem_replicate h]
  rfl

theorem wholePart_zero : WholePart ['0'] where
  nonempty := List.cons_ne_nil '0' []
  digits := by simp
  leads _ := rfl

namespace UnsignedLiteral

variable {whole fraction exponent : List Char}

theorem of_whole (h : WholePart whole) : UnsignedLiteral whole := by
  simpa using parts h .none .none

theorem head {cs : List Char} (h : UnsignedLiteral cs) :
    ∃ c rest, cs = c :: rest ∧ c.isDigit = true := by
  obtain @⟨whole, _, _, digits, -, -⟩ := h
  cases whole with
  | nil => exact absurd rfl digits.nonempty
  | cons c rest => exact ⟨c, _, rfl, digits.digits c List.mem_cons_self⟩

end UnsignedLiteral

theorem SignedLiteral.decimal {negative : Bool} {cs : List Char} (h : SignedLiteral negative cs) :
    DecimalLiteral cs := by
  obtain ⟨h⟩ := h
  cases negative with
  | false => exact .unsigned h
  | true => exact .negative h

/-! ## The letters of literals -/

def literalMarks : List Char := ['.', 'e', '+', '-']

theorem DecimalLiteral.mem {cs : List Char} (h : DecimalLiteral cs) :
    ∀ c ∈ cs, c.isDigit = true ∨ c ∈ literalMarks := by
  have digits {cs : List Char} (h : Digits cs) : ∀ c ∈ cs, c.isDigit = true ∨ c ∈ literalMarks :=
    fun c hc => .inl (h.digits c hc)
  have unsigned {cs : List Char} (h : UnsignedLiteral cs) : ∀ c ∈ cs, c.isDigit = true ∨
      c ∈ literalMarks := by
    obtain ⟨whole, fraction, exponent⟩ := h
    rw [List.forall_mem_append, List.forall_mem_append]
    refine ⟨⟨digits whole.toDigits, ?_⟩, ?_⟩
    · cases fraction with
      | none => exact List.forall_mem_nil _
      | point h => exact List.forall_mem_cons.mpr ⟨.inr (by decide), digits h⟩
    · cases exponent with
      | none => exact List.forall_mem_nil _
      | mark hs h =>
        have sign : ∀ c ∈ ['+', '-'], c ∈ literalMarks := by simp [literalMarks]
        exact List.forall_mem_cons.mpr
          ⟨.inr (by decide), List.forall_mem_cons.mpr ⟨.inr (sign _ hs), digits h⟩⟩
  cases h with
  | unsigned h => exact unsigned h
  | negative h => exact List.forall_mem_cons.mpr ⟨.inr (by decide), unsigned h⟩

/-! ## Digits of numbers -/

theorem digits_decimalDigits (n : Nat) : Digits (decimalDigits n) where
  nonempty := Nat.toDigits_ne_nil
  digits _ h := Nat.isDigit_of_mem_toDigits (by decide) (by decide) h

theorem head?_decimalDigits {n : Nat} (h : n ≠ 0) : (decimalDigits n).head? ≠ some '0' := by
  induction n using Nat.strong_induction_on with
  | _ n ih =>
    by_cases small : n < 10
    · have single : ∀ n < 10, n ≠ 0 → n.digitChar ≠ '0' := by decide
      rw [decimalDigits, Nat.toDigits_of_lt_base small]
      simpa using single n small h
    · -- the last digit is not the first one
      have front : (decimalDigits n).head? = (decimalDigits (n / 10)).head? := by
        rw [decimalDigits, Nat.toDigits_of_base_le (by decide) (by omega),
          List.head?_append_of_ne_nil _ Nat.toDigits_ne_nil]
        rfl
      rw [front]
      exact ih (n / 10) (by omega) (by omega)

theorem wholePart_decimalDigits (n : Nat) : WholePart (decimalDigits n) where
  toDigits := digits_decimalDigits n
  leads h := by
    by_cases zero : n = 0
    · subst zero
      rfl
    · exact absurd h (head?_decimalDigits zero)

theorem signed_intText (n : Int) : SignedLiteral (decide (n < 0)) (intText n).toList := by
  rw [intText, natText, String.toList_append, String.toList_ofList]
  exact .behind (.of_whole (wholePart_decimalDigits _))

/-! ## Decimals -/

structure Significant (cs : List Char) : Prop extends Digits cs where
  leads : cs.head? ≠ some '0'

theorem Significant.wholePart {cs zeros : List Char} (h : Significant cs) {n : Nat} (hn : n ≠ 0)
    (hz : ∀ c ∈ zeros, c.isDigit = true) : WholePart (cs.take n ++ zeros) where
  nonempty := by simp [hn, h.nonempty]
  digits := List.forall_mem_append.mpr ⟨fun c hc => h.digits c (List.mem_of_mem_take hc), hz⟩
  leads hzero := by
    have front : cs.take n ≠ [] := by simp [hn, h.nonempty]
    rw [List.head?_append_of_ne_nil _ front, List.head?_take, if_neg hn] at hzero
    exact absurd hzero h.leads

namespace Decimal

theorem significant_digits {d : Decimal} (h : d.coefficient ≠ 0) :
    Significant d.significantDigits := by
  have kept : d.significantDigits <+: decimalDigits d.coefficient := List.rdropWhile_prefix _ _
  have leads := head?_decimalDigits h
  have nonempty : d.significantDigits ≠ [] := by
    intro nothing
    have zeros := List.rdropWhile_eq_nil_iff.mp nothing
    cases digits : decimalDigits d.coefficient with
    | nil => exact (digits_decimalDigits d.coefficient).nonempty digits
    | cons c cs =>
      rw [digits] at zeros leads
      simpa using leads (by simpa using zeros c (by simp))
  obtain ⟨rest, digits⟩ := kept
  refine ⟨⟨nonempty, fun c hc => ?_⟩, ?_⟩
  · refine (digits_decimalDigits d.coefficient).digits c ?_
    rw [← digits]
    exact List.mem_append_left rest hc
  · rwa [← digits, List.head?_append_of_ne_nil _ nonempty] at leads

/-- Text that shows digits with the point behind the first `p` of them, and zeros where there are
none. -/
inductive Shows (digits : List Char) (p : Int) : List Char → Prop
  | parts {whole fraction : List Char} (zeros : Nat) : WholePart whole → FractionPart fraction →
    Nat.ofDigitChars 10 (whole ++ fraction.tail) 0 = Nat.ofDigitChars 10 digits 0 * 10 ^ zeros →
    digits.length + zeros = p + fraction.tail.length → Shows digits p (whole ++ fraction)

theorem shows_positional {digits : List Char} (h : Significant digits) (p : Int) :
    Shows digits p (positional digits p) := by
  unfold positional
  split
  · have decimals : Digits (List.replicate (-p).toNat '0' ++ digits) :=
      h.toDigits.prepend isDigit_of_mem_zeros
    refine .parts 0 wholePart_zero (.point decimals) ?_ ?_
    · rw [List.tail_cons, List.singleton_append, Nat.ofDigitChars_cons, Nat.ofDigitChars_append,
        Nat.ofDigitChars_replicate_zero, Nat.pow_zero, Nat.mul_one]
      rfl
    · rw [List.tail_cons, List.length_append, List.length_replicate]
      omega
  · have whole : WholePart (digits.take p.toNat ++ List.replicate (p.toNat - digits.length) '0') :=
      h.wholePart (by omega) isDigit_of_mem_zeros
    dsimp only
    by_cases padded : digits.length ≤ p.toNat
    · rw [List.drop_of_length_le padded, if_pos rfl]
      refine .parts (p.toNat - digits.length + 1) whole (.point wholePart_zero.toDigits) ?_ ?_
      · have zeros (n : Nat) : List.replicate n '0' ++ ['0'] = List.replicate (n + 1) '0' :=
          List.replicate_succ'.symm
        rw [List.tail_cons, List.append_assoc, zeros, List.take_of_length_le padded,
          Nat.ofDigitChars_append, Nat.ofDigitChars_replicate_zero, Nat.mul_comm]
      · rw [List.tail_cons, List.length_singleton]
        omega
    · have more : digits.drop p.toNat ≠ [] := by simpa using padded
      have decimals : Digits (digits.drop p.toNat) :=
        ⟨more, fun c hc => h.digits c (List.mem_of_mem_drop hc)⟩
      rw [if_neg more]
      refine .parts 0 whole (.point decimals) ?_ ?_
      · rw [List.tail_cons, Nat.sub_eq_zero_of_le (Nat.le_of_not_le padded), List.replicate_zero,
          List.append_nil, List.take_append_drop, Nat.pow_zero, Nat.mul_one]
      · rw [List.tail_cons, List.length_drop]
        omega

theorem shows_scientific {digits : List Char} (h : Significant digits) :
    Shows digits 1 (scientific digits) := by
  cases digits with
  | nil => exact absurd rfl h.nonempty
  | cons d rest =>
    have single : WholePart [d] := h.wholePart Nat.one_ne_zero (List.forall_mem_nil _)
    cases rest with
    | nil =>
      have whole : Shows [d] 1 ([d] ++ []) := .parts 0 single .none (by simp) rfl
      simpa [scientific] using whole
    | cons c cs =>
      have decimals : Digits (c :: cs) :=
        ⟨List.cons_ne_nil c cs, fun k hk => h.digits k (List.mem_cons_of_mem d hk)⟩
      refine Shows.parts 0 single (.point decimals) (by simp) ?_
      simp only [List.length_cons, List.tail_cons]
      omega

/-- Text that shows an exponent, which is left out if there is none. -/
inductive ShowsExponent : Int → List Char → Prop
  | none : ShowsExponent 0 []
  | mark {e : Int} : e ≠ 0 → ShowsExponent e (exponentText e).toList

def exponentDigits (e : Int) : List Char :=
  if (decimalDigits e.natAbs).length < 2 then '0' :: decimalDigits e.natAbs
    else decimalDigits e.natAbs

theorem digits_exponentDigits (e : Int) : Digits (exponentDigits e) := by
  unfold exponentDigits
  split
  · exact (digits_decimalDigits _).prepend (isDigit_of_mem_zeros (n := 1))
  · exact digits_decimalDigits _

theorem toList_exponentText (e : Int) :
    (exponentText e).toList = 'e' :: (if e < 0 then '-' else '+') :: exponentDigits e := by
  rw [exponentText, String.toList_append, String.toList_ofList]
  split <;> rfl

theorem ShowsExponent.part {e : Int} {cs : List Char} (h : ShowsExponent e cs) :
    ExponentPart cs := by
  cases h with
  | none => exact .none
  | mark _ =>
    rw [toList_exponentText]
    refine .mark ?_ (digits_exponentDigits e)
    split <;> simp

theorem Shows.literal {digits cs exponent : List Char} {p e : Int} (h : Shows digits p cs)
    (he : ShowsExponent e exponent) : UnsignedLiteral (cs ++ exponent) := by
  obtain ⟨zeros, whole, fraction, -, -⟩ := h
  exact .parts whole fraction he.part

/-- **The text of a decimal shows its digits**, and an exponent above zero only if the point lies
far behind them. -/
theorem text_shows {d : Decimal} (h : d.coefficient ≠ 0) : ∃ p e cs exponent,
    d.text.toList = (signText d.negative).toList ++ (cs ++ exponent) ∧
    Shows d.significantDigits p cs ∧
      ShowsExponent e exponent ∧ p + e = d.pointPosition ∧ (0 < e → 16 < d.pointPosition) := by
  have digits := significant_digits h
  rw [text, String.toList_append]
  split
  · next far =>
    rw [String.toList_append, String.toList_ofList]
    refine ⟨1, _, _, _, rfl, shows_scientific digits, .mark ?_, ?_, ?_⟩ <;> omega
  · rw [String.toList_ofList]
    refine ⟨_, 0, _, [], ?_, shows_positional digits _, .none, Int.add_zero _, ?_⟩
    · rw [List.append_nil]
    · omega

theorem signed_text {d : Decimal} (h : d.coefficient ≠ 0) :
    SignedLiteral d.negative d.text.toList := by
  obtain ⟨p, e, cs, exponent, text, shows, exponentShows, -, -⟩ := text_shows h
  rw [text]
  exact .behind (shows.literal exponentShows)

end Decimal

/-! ## Values -/

theorem Decimal.toDouble_of_zero {d : Decimal} (h : d.coefficient = 0) :
    d.toDouble = .finite ⟨d.negative, 0, by decide⟩ := by
  have zero : Double.ofUnits d.negative 0 1 = .finite ⟨d.negative, 0, by decide⟩ := by
    cases d.negative <;> decide +kernel
  simp [toDouble, h, zero]

namespace FiniteDouble

theorem coefficient_ne_zero {x : FiniteDouble} (h : x.rank ≠ 0) : x.shortest.coefficient ≠ 0 := by
  have full : x.exactDecimal.coefficient ≠ 0 := by
    have least : unitsOfRank 0 < unitsOfRank x.rank := unitsOfRank_strictMono (Nat.pos_of_ne_zero h)
    exact Nat.mul_ne_zero (Nat.ne_zero_of_lt least) (by decide +kernel)
  have readable {d : Decimal} (hd : decide (d.toDouble = .finite x) = true) :
      d.coefficient ≠ 0 := by
    intro zero
    have reads := (Decimal.toDouble_of_zero zero).symm.trans (of_decide_eq_true hd)
    rw [Double.finite.injEq] at reads
    exact h (congrArg rank reads).symm
  unfold shortest
  dsimp only
  cases found : List.find? (fun d : Decimal => decide (d.toDouble = .finite x))
      ((List.range 17).flatMap fun n : Nat => x.gridNeighbours (x.decimalOrder - (n + 1))) with
  | none =>
    rw [Option.getD_none]
    exact full
  | some d =>
    rw [Option.getD_some]
    have passes := List.find?_some found
    exact readable passes

theorem negative_shortest (x : FiniteDouble) : x.shortest.negative = x.negative := by
  have grid {e : Int} : ∀ d ∈ x.gridNeighbours e, d.negative = x.negative := by
    unfold gridNeighbours
    dsimp only
    split <;> simp
  unfold shortest
  dsimp only
  cases found : List.find? (fun d : Decimal => decide (d.toDouble = .finite x))
      ((List.range 17).flatMap fun n : Nat => x.gridNeighbours (x.decimalOrder - (n + 1))) with
  | none => rfl
  | some d =>
    obtain ⟨_, _, candidate⟩ := List.mem_flatMap.mp (List.mem_of_find?_eq_some found)
    exact grid d candidate

/-- Less than zero; a zero of either sign is not. -/
def isBelowZero (x : FiniteDouble) : Bool :=
  x.negative && 0 < x.rank

theorem magnitude_eq_zero {x : FiniteDouble} : x.magnitude = 0 ↔ x.rank = 0 :=
  unitsOfRank_strictMono.injective.eq_iff (b := 0)

theorem toInt?_neg_iff {x : FiniteDouble} {n : Int} (h : x.toInt? = some n) :
    decide (n < 0) = x.isBelowZero := by
  obtain ⟨divides, h⟩ := Option.ite_none_right_eq_some.mp h
  obtain rfl := Option.some.inj h
  have positive : 0 < x.magnitude / unitsPerOne ↔ 0 < x.rank := by
    rw [Nat.pos_iff_ne_zero, Nat.pos_iff_ne_zero,
      Nat.div_ne_zero_iff_of_dvd (Nat.dvd_of_mod_eq_zero divides)]
    exact (and_iff_left (by decide +kernel)).trans (not_congr magnitude_eq_zero)
  generalize x.magnitude / unitsPerOne = whole at positive
  cases hn : x.negative <;> simp [isBelowZero, hn, ← positive]

theorem isBelowZero_of_ne_zero {x : FiniteDouble} (h : x.rank ≠ 0) :
    x.isBelowZero = x.negative := by
  simp [isBelowZero, Nat.pos_of_ne_zero h]

theorem rank_ne_zero_of_toInt? {x : FiniteDouble} (h : x.toInt? = none) : x.rank ≠ 0 := by
  intro zero
  rw [toInt?, magnitude_eq_zero.mpr zero, Nat.zero_mod, if_pos rfl] at h
  cases h

theorem codeText_of_whole {x : FiniteDouble} {n : Int} (h : x.toInt? = some n) :
    x.codeText = intText n := by
  unfold codeText
  rw [h]

theorem codeText_of_not_whole {x : FiniteDouble} (h : x.toInt? = none) :
    x.codeText = x.shortest.text := by
  unfold codeText plainText
  rw [h]
  exact if_neg (rank_ne_zero_of_toInt? h)

/-- **The text of a number has a minus sign at its head exactly if the number is below zero.** -/
theorem signed_codeText (x : FiniteDouble) : SignedLiteral x.isBelowZero x.codeText.toList := by
  cases whole : x.toInt? with
  | some n =>
    rw [← toInt?_neg_iff whole, codeText_of_whole whole]
    exact signed_intText n
  | none =>
    have more := rank_ne_zero_of_toInt? whole
    rw [isBelowZero_of_ne_zero more, ← x.negative_shortest, codeText_of_not_whole whole]
    exact Decimal.signed_text (coefficient_ne_zero more)

theorem literal_codeText (x : FiniteDouble) : DecimalLiteral x.codeText.toList :=
  x.signed_codeText.decimal

end FiniteDouble

/-- **A number is written as a decimal literal exactly if it is finite.** -/
theorem Double.literal_codeText (x : Double) : DecimalLiteral x.codeText.toList ↔
    x.isFinite = true := by
  have named {cs : List Char} (h : 'n' ∈ cs) : ¬ DecimalLiteral cs := fun literal =>
    absurd (literal.mem 'n' h) (by decide)
  cases x with
  | nan => exact iff_of_false (named (by decide)) Bool.false_ne_true
  | infinite negative =>
    exact iff_of_false (named (by cases negative <;> decide)) Bool.false_ne_true
  | finite x => exact iff_of_true x.literal_codeText rfl

end SceneSketch
