import SceneSketch.Document.Codec
import SceneSketch.Proofs.DecimalReading
import SceneSketch.Proofs.Fences
import SceneSketch.Proofs.NumberText

/-!
# Faithful number text

The text of a number in sketch code says exactly which number it is
(`FiniteDouble.codeText_faithful`). The shortest decimal reads back as its value, and a value whose
point lies far behind its digits is so large that it is whole, so no exponent with a plus sign is
written.
-/

namespace SceneSketch

/-! ## The form -/

inductive SmallExponent : List Char → Prop
  | none : SmallExponent []
  | mark {cs : List Char} : Digits cs → 2 ≤ cs.length → SmallExponent ('e' :: '-' :: cs)

/-- A number in sketch code: a minus sign if it is below zero, and a literal without large
exponents. -/
inductive CodeNumber (belowZero : Bool) : List Char → Prop
  | parts {whole fraction exponent : List Char} : WholePart whole → FractionPart fraction →
    SmallExponent exponent →
    CodeNumber belowZero ((signText belowZero).toList ++ (whole ++ fraction ++ exponent))

namespace Decimal

theorem two_le_length_exponentDigits (e : Int) : 2 ≤ (exponentDigits e).length := by
  have positive := length_decimalDigits_pos e.natAbs
  unfold exponentDigits
  split
  · rw [List.length_cons]
    omega
  · omega

theorem ShowsExponent.small {e : Int} {cs : List Char} (h : ShowsExponent e cs) (he : e ≤ 0) :
    SmallExponent cs := by
  cases h with
  | none => exact .none
  | mark ne =>
    rw [toList_exponentText, if_pos (by omega)]
    exact .mark (digits_exponentDigits e) (two_le_length_exponentDigits e)

end Decimal

/-! ## Shortest decimals -/

namespace Double

theorem ofUnits_eq_finite {negative : Bool} {num den : Nat} {x : FiniteDouble}
    (h : ofUnits negative num den = .finite x) : nearestRank num den = x.rank := by
  unfold ofUnits at h
  dsimp only at h
  split at h
  · exact congrArg FiniteDouble.rank (finite.inj h)
  · cases h

end Double

theorem Decimal.large_of_pointPosition {d : Decimal} {x : FiniteDouble} (h : d.coefficient ≠ 0)
    (far : 16 < d.pointPosition) (reads : d.toDouble = .finite x) :
    2 ^ 52 * unitsPerOne ≤ x.magnitude := by
  have limit : unitsOfRank (1075 * Nat.pow 2 52) = 2 ^ 52 * unitsPerOne := by decide +kernel
  unfold pointPosition at far
  have nearest : nearestRank (d.coefficient * 10 ^ d.exponent.toNat * unitsPerOne)
      (10 ^ (-d.exponent).toNat) =
      x.rank := by
    have size : ¬ ((decimalDigits d.coefficient).length : Int) + d.exponent < -400 := by omega
    unfold toDouble at reads
    simp only [h, size, decide_false, Bool.or_false, Bool.false_eq_true, if_false] at reads
    split at reads
    · cases reads
    · exact Double.ofUnits_eq_finite reads
  have bound : unitsOfRank (1075 * Nat.pow 2 52) * 10 ^ (-d.exponent).toNat ≤
      d.coefficient * 10 ^ d.exponent.toNat * unitsPerOne := by
    have powers : 2 ^ 52 * 10 ^ (-d.exponent).toNat ≤ d.coefficient * 10 ^ d.exponent.toNat := calc
      _ ≤ 10 ^ 16 * 10 ^ (-d.exponent).toNat := Nat.mul_le_mul_right _ (by decide)
      _ = 10 ^ (16 + (-d.exponent).toNat) := (Nat.pow_add _ _ _).symm
      _ ≤ 10 ^ ((decimalDigits d.coefficient).length - 1 + d.exponent.toNat) :=
        Nat.pow_le_pow_right (by decide) (by omega)
      _ = 10 ^ ((decimalDigits d.coefficient).length - 1) * 10 ^ d.exponent.toNat :=
        Nat.pow_add _ _ _
      _ ≤ _ := Nat.mul_le_mul_right _ (ten_pow_le h)
    rw [limit, Nat.mul_right_comm]
    exact Nat.mul_le_mul_right _ powers
  rw [← limit, FiniteDouble.magnitude, ← nearest]
  exact unitsOfRank_strictMono.monotone (le_nearestRank (by decide) bound)

namespace FiniteDouble

variable {x : FiniteDouble}

theorem toDouble_exactDecimal (x : FiniteDouble) : x.exactDecimal.toDouble = .finite x := by
  have powers (m n : Nat) : m * Nat.pow 5 n * 10 ^ 0 * 2 ^ n = m * 10 ^ n := by
    have ten : Nat.pow 5 n * 2 ^ n = 10 ^ n := (Nat.mul_pow 5 2 n).symm
    rw [← ten, Nat.pow_zero, Nat.mul_one, Nat.mul_assoc]
  have before : (-1074 : Int).toNat = 0 := rfl
  have behind : (-(-1074) : Int).toNat = 1074 := rfl
  apply Decimal.toDouble_of_exact rfl
  simp only [exactDecimal, before, behind]
  generalize same : 1074 = n
  rw [unitsPerOne_eq_pow same]
  exact powers x.magnitude n

/-- **The shortest decimal reads back.** -/
theorem toDouble_shortest (x : FiniteDouble) : x.shortest.toDouble = .finite x := by
  unfold shortest
  dsimp only
  cases found : List.find? (fun d : Decimal => decide (d.toDouble = .finite x))
      ((List.range 17).flatMap fun n : Nat => x.gridNeighbours (x.decimalOrder - (n + 1))) with
  | none =>
    rw [Option.getD_none]
    exact x.toDouble_exactDecimal
  | some d =>
    rw [Option.getD_some]
    have passes := List.find?_some found
    exact of_decide_eq_true passes

/-! ## Whole numbers and other numbers -/

theorem codeText_of_value {n : Int} (h : x.value = n) : x.codeText = intText n :=
  codeText_of_whole (toInt?_eq_some.mpr h)

theorem unsignedZero_eq_self (h : x.rank ≠ 0) : x.unsignedZero = x := by
  unfold unsignedZero
  simp only [isBelowZero_of_ne_zero h]

theorem codeNumber_codeText (x : FiniteDouble) : CodeNumber x.isBelowZero x.codeText.toList := by
  cases whole : x.toInt? with
  | some n =>
    have digits : CodeNumber (decide (n < 0))
        ((signText (decide (n < 0))).toList ++ (decimalDigits n.natAbs ++ [] ++ [])) :=
      .parts (wholePart_decimalDigits n.natAbs) .none .none
    rw [← toInt?_neg_iff whole, codeText_of_whole whole, intText, natText, String.toList_append,
      String.toList_ofList]
    simpa using digits
  | none =>
    have more := rank_ne_zero_of_toInt? whole
    have significant := coefficient_ne_zero more
    obtain ⟨p, e, cs, exponent, text, shows, exponentShows, position, large⟩ :=
      Decimal.text_shows significant
    have small : e ≤ 0 := by
      by_contra positive
      obtain ⟨n, integer⟩ := whole_of_large
        (Decimal.large_of_pointPosition significant (large (by omega)) x.toDouble_shortest)
      rw [whole] at integer
      cases integer
    obtain ⟨zeros, digits, fraction, -, -⟩ := shows
    rw [codeText_of_not_whole whole, text, isBelowZero_of_ne_zero more, x.negative_shortest]
    exact .parts digits fraction (exponentShows.small small)

/-! ## Reading back -/

theorem parse?_codeText (x : FiniteDouble) :
    Double.parse? x.codeText.toList = some (.finite x.unsignedZero) := by
  cases whole : x.toInt? with
  | some n =>
    have value := toInt?_eq_some.mp whole
    rw [codeText_of_whole whole, Double.parse?_intText, Option.some_inj]
    apply Decimal.toDouble_of_exact (toInt?_neg_iff whole)
    have units := congrArg Int.natAbs (value_eq_intCast.mp value)
    rw [natAbs_units, Int.natAbs_mul, Int.natAbs_natCast] at units
    change n.natAbs * 10 ^ 0 * unitsPerOne = x.magnitude * 10 ^ 0
    rw [units, Nat.pow_zero, Nat.mul_one, Nat.mul_one]
  | none =>
    have more := rank_ne_zero_of_toInt? whole
    rw [codeText_of_not_whole whole, Double.parse?_text (coefficient_ne_zero more),
      x.toDouble_shortest, unsignedZero_eq_self more]

theorem numberOfText?_codeText (x : FiniteDouble) :
    Codec.numberOfText? x.codeText = some (.finite x.unsignedZero) := by
  have blank : (numberChars.all fun c => !isSpaceChar c) = true := by decide
  have visible : ∀ c ∈ x.codeText.toList, isSpaceChar c = false := by
    intro c hc
    simpa using List.all_eq_true.mp blank c (x.numeral_codeText c hc)
  have bare : Bare isSpaceChar x.codeText.toList :=
    ⟨fun c hc => visible c (List.mem_of_mem_head? hc), fun c hc =>
      visible c (List.mem_of_mem_getLast? hc)⟩
  unfold Codec.numberOfText?
  simp only [bare.trimEnds_eq, x.parse?_codeText]

theorem read_codeText (x : FiniteDouble) :
    Codec.number.read (.str x.codeText) = .accepted (.finite x.unsignedZero) := by
  simp only [Codec.number, Codec.readNumber, Codec.readUnicode, x.numberOfText?_codeText]
  rfl

theorem codeText_inj {x y : FiniteDouble} : x.codeText = y.codeText ↔ x.value = y.value := by
  constructor
  · intro h
    have read := x.parse?_codeText
    rw [h, y.parse?_codeText, Option.some_inj, Double.finite.injEq] at read
    exact unsignedZero_inj.mp read.symm
  · intro h
    cases whole : x.toInt? with
    | some n =>
      have value := toInt?_eq_some.mp whole
      rw [codeText_of_value value, codeText_of_value (h.symm.trans value)]
    | none =>
      have whole' : y.toInt? = none := by
        refine Option.eq_none_iff_forall_ne_some.mpr fun n integer => ?_
        rw [toInt?_eq_some.mpr (h.trans (toInt?_eq_some.mp integer))] at whole
        cases whole
      have same := unsignedZero_inj.mpr h
      rw [unsignedZero_eq_self (rank_ne_zero_of_toInt? whole),
        unsignedZero_eq_self (rank_ne_zero_of_toInt? whole')]
        at same
      rw [same]

theorem codeText_not_mem_names (x : FiniteDouble) : x.codeText ∉ ["-0", "inf", "-inf", "nan"] := by
  have named {s : String} (h : 'n' ∈ s.toList) : x.codeText ≠ s := by
    rintro rfl
    exact absurd (x.literal_codeText.mem 'n' h) (by decide)
  have minusZero : x.codeText ≠ "-0" := by
    intro h
    have zero : Double.parse? "-0".toList = some (.finite ⟨true, 0, by decide⟩) := by decide +kernel
    have read := x.parse?_codeText
    rw [h, zero, Option.some_inj, Double.finite.injEq] at read
    have below : x.isBelowZero = true := (congrArg negative read).symm
    have least : x.rank = 0 := (congrArg rank read).symm
    rw [isBelowZero, least] at below
    simp at below
  simp only [List.mem_cons, List.not_mem_nil, or_false, not_or]
  exact ⟨minusZero, named (by decide), named (by decide), named (by decide)⟩

/-- **The text of a number in sketch code is faithful.** It is a literal without a large exponent
and none of the names; it is the decimal integer if the value is whole; and it is read as the same
value, so different values have different texts. -/
theorem codeText_faithful (x : FiniteDouble) :
    CodeNumber x.isBelowZero x.codeText.toList ∧ x.codeText ∉ ["-0", "inf", "-inf", "nan"] ∧
      (∀ n : Int, x.value = n → x.codeText = intText n) ∧
      Codec.number.read (.str x.codeText) = .accepted (.finite x.unsignedZero) ∧
      ∀ y : FiniteDouble, x.codeText = y.codeText ↔ x.value = y.value :=
  ⟨x.codeNumber_codeText, x.codeText_not_mem_names, fun _ => codeText_of_value, x.read_codeText,
    fun _ => codeText_inj⟩

theorem codeText_greatest_power :
    value ⟨false, 2046 * Nat.pow 2 52, by decide⟩ = ((Nat.pow 2 1023 : Nat) : Int) ∧
      codeText ⟨false, 2046 * Nat.pow 2 52, by decide⟩ = intText (Nat.pow 2 1023 : Nat) := by
  have power : value ⟨false, 2046 * Nat.pow 2 52, by decide⟩ = ((Nat.pow 2 1023 : Nat) : Int) :=
    value_eq_intCast.mpr (by decide +kernel)
  exact ⟨power, (codeText_faithful _).2.2.1 _ power⟩

end FiniteDouble

end SceneSketch
