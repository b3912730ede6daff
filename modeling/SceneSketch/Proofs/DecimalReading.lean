import SceneSketch.Proofs.Values

/-!
# Reading decimals

A decimal that is equal to a finite double is read as that double (`Decimal.toDouble_of_exact`), and
zeros may be moved from the coefficient into the exponent (`Decimal.toDouble_shift`). So the text of
a decimal, which leaves out its last zeros and may add others, is read as the decimal itself
(`Double.parse?_text`).
-/

namespace SceneSketch

/-! ## Numbers of digits -/

theorem length_decimalDigits_le {n k : Nat} (hk : 0 < k) : (decimalDigits n).length ≤ k ↔
    n < 10 ^ k :=
  Nat.length_toDigits_le_iff (by decide) hk

theorem length_decimalDigits_pos (n : Nat) : 0 < (decimalDigits n).length :=
  List.length_pos_iff.mpr (digits_decimalDigits n).nonempty

theorem lt_ten_pow (n : Nat) : n < 10 ^ (decimalDigits n).length :=
  (length_decimalDigits_le (length_decimalDigits_pos n)).mp (Nat.le_refl _)

theorem ten_pow_le {n : Nat} (h : n ≠ 0) : 10 ^ ((decimalDigits n).length - 1) ≤ n := by
  by_cases single : (decimalDigits n).length - 1 = 0
  · rw [single]
    exact Nat.one_le_iff_ne_zero.mpr h
  · by_contra fewer
    have := (length_decimalDigits_le (Nat.pos_of_ne_zero single)).mpr (Nat.lt_of_not_le fewer)
    omega

theorem length_decimalDigits_shift {c : Nat} (h : c ≠ 0) (k : Nat) :
    (decimalDigits (c * 10 ^ k)).length = (decimalDigits c).length + k := by
  have positive := length_decimalDigits_pos c
  have power : 0 < 10 ^ k := Nat.pow_pos (by decide)
  apply Nat.le_antisymm
  · rw [length_decimalDigits_le (by omega), Nat.pow_add]
    exact Nat.mul_lt_mul_of_pos_right (lt_ten_pow c) power
  · by_contra fewer
    have bound : (decimalDigits (c * 10 ^ k)).length ≤ (decimalDigits c).length - 1 + k := by omega
    have room : 0 < (decimalDigits c).length - 1 + k :=
      Nat.lt_of_lt_of_le (length_decimalDigits_pos (c * 10 ^ k)) bound
    rw [length_decimalDigits_le room, Nat.pow_add, Nat.mul_lt_mul_right power] at bound
    exact absurd (ten_pow_le h) (Nat.not_le.mpr bound)

theorem Double.ofUnits_congr {num den num' den' : Nat} (hden : 0 < den) (hden' : 0 < den')
    (h : num * den' = num' * den) (negative : Bool) :
    ofUnits negative num den = ofUnits negative num' den' := by
  unfold ofUnits
  simp only [nearestRank_congr hden hden' h]

namespace Decimal

/-! ## Doubles of decimals -/

/-- The point of a decimal that is equal to a finite double is not far from its digits. -/
theorem size_bounds {c m a b : Nat} (hc : c ≠ 0) (hm : m < Nat.pow 2 1024 * unitsPerOne)
    (equal : c * 10 ^ a * unitsPerOne = m * 10 ^ b) :
    (decimalDigits c).length + a ≤ 309 + b ∧ b < (decimalDigits c).length + a + 324 := by
  have positive := length_decimalDigits_pos c
  have ten {i j : Nat} : 10 ^ i < 10 ^ j ↔ i < j := Nat.pow_lt_pow_iff_right (by decide)
  have power (i : Nat) : 0 < 10 ^ i := Nat.pow_pos (by decide)
  constructor
  · have room : Nat.pow 2 1024 ≤ 10 ^ 309 := by decide +kernel
    generalize Nat.pow 2 1024 = limit at hm room
    have bound : 10 ^ ((decimalDigits c).length - 1 + a) * unitsPerOne <
      10 ^ (309 + b) * unitsPerOne := calc
      10 ^ ((decimalDigits c).length - 1 + a) * unitsPerOne
      _ = 10 ^ ((decimalDigits c).length - 1) * 10 ^ a * unitsPerOne := by rw [Nat.pow_add]
      _ ≤ c * 10 ^ a * unitsPerOne :=
        Nat.mul_le_mul_right _ (Nat.mul_le_mul_right _ (ten_pow_le hc))
      _ = m * 10 ^ b := equal
      _ < limit * unitsPerOne * 10 ^ b := (Nat.mul_lt_mul_right (power b)).mpr hm
      _ = limit * 10 ^ b * unitsPerOne := Nat.mul_right_comm _ _ _
      _ ≤ 10 ^ 309 * 10 ^ b * unitsPerOne := Nat.mul_le_mul_right _ (Nat.mul_le_mul_right _ room)
      _ = _ := by rw [Nat.pow_add]
    have := ten.mp (Nat.lt_of_mul_lt_mul_right bound)
    omega
  · have room : unitsPerOne ≤ 10 ^ 324 := by decide +kernel
    have least : m ≠ 0 := by
      rintro rfl
      rw [Nat.zero_mul] at equal
      exact Nat.mul_ne_zero (Nat.mul_ne_zero hc (power a).ne') unitsPerOne_pos.ne' equal
    have bound : 10 ^ b < 10 ^ ((decimalDigits c).length + a + 324) := calc
      _ ≤ m * 10 ^ b := Nat.le_mul_of_pos_left _ (Nat.pos_of_ne_zero least)
      _ = c * 10 ^ a * unitsPerOne := equal.symm
      _ < 10 ^ (decimalDigits c).length * 10 ^ a * unitsPerOne :=
        Nat.mul_lt_mul_of_pos_right (Nat.mul_lt_mul_of_pos_right (lt_ten_pow c) (power a))
          unitsPerOne_pos
      _ ≤ 10 ^ (decimalDigits c).length * 10 ^ a * 10 ^ 324 := Nat.mul_le_mul_left _ room
      _ = _ := by rw [Nat.pow_add, Nat.pow_add]
    exact ten.mp bound

/-- **A decimal that is equal to a finite double is read as it.** -/
theorem toDouble_of_exact {d : Decimal} {x : FiniteDouble} (sign : d.negative = x.negative)
    (equal : d.coefficient * 10 ^ d.exponent.toNat * unitsPerOne =
      x.magnitude * 10 ^ (-d.exponent).toNat) :
    d.toDouble = .finite x := by
  have power (i : Nat) : 0 < 10 ^ i := Nat.pow_pos (by decide)
  by_cases zero : d.coefficient = 0
  · have least : x.rank = 0 := by
      rw [zero, Nat.zero_mul, Nat.zero_mul] at equal
      rw [← FiniteDouble.magnitude_eq_zero]
      exact (Nat.mul_eq_zero.mp equal.symm).resolve_right (power _).ne'
    rw [toDouble_of_zero zero]
    simp only [sign, ← least]
  · obtain ⟨upper, lower⟩ := size_bounds zero x.magnitude_lt equal
    have near : ¬ ((decimalDigits d.coefficient).length : Int) + d.exponent < -400 := by omega
    have near' : ¬ 400 < ((decimalDigits d.coefficient).length : Int) + d.exponent := by omega
    unfold toDouble
    simp only [zero, near, near', decide_false, Bool.or_false, Bool.false_eq_true, if_false]
    change Double.ofUnits d.negative (d.coefficient * 10 ^ d.exponent.toNat * unitsPerOne)
      (10 ^ (-d.exponent).toNat) = _
    rw [equal, sign]
    exact x.ofUnits_magnitude (power _)

/-- **Zeros at the end of the coefficient count as an exponent.** -/
theorem toDouble_shift (negative : Bool) (c k : Nat) (e : Int) :
    toDouble ⟨negative, c * 10 ^ k, e⟩ = toDouble ⟨negative, c, e + k⟩ := by
  have power (i : Nat) : 0 < 10 ^ i := Nat.pow_pos (by decide)
  by_cases zero : c = 0
  · rw [toDouble_of_zero (by simp [zero]), toDouble_of_zero (by simp [zero])]
  · have zero' : c * 10 ^ k ≠ 0 := Nat.mul_ne_zero zero (power k).ne'
    have size : ((decimalDigits (c * 10 ^ k)).length : Int) + e =
        (decimalDigits c).length + (e + k) := by
      rw [length_decimalDigits_shift zero]
      omega
    have ratio : Double.ofUnits negative (c * 10 ^ k * 10 ^ e.toNat * unitsPerOne)
        (10 ^ (-e).toNat) =
        Double.ofUnits negative (c * 10 ^ (e + k).toNat * unitsPerOne) (10 ^ (-(e + k)).toNat) := by
      apply Double.ofUnits_congr (power _) (power _)
      have powers : 10 ^ k * 10 ^ e.toNat * 10 ^ (-(e + k)).toNat =
          10 ^ (e + k).toNat * 10 ^ (-e).toNat := by
        rw [← Nat.pow_add, ← Nat.pow_add, ← Nat.pow_add]
        congr 1
        omega
      calc
        _ = c * unitsPerOne * (10 ^ k * 10 ^ e.toNat * 10 ^ (-(e + k)).toNat) := by ring
        _ = c * unitsPerOne * (10 ^ (e + k).toNat * 10 ^ (-e).toNat) := by rw [powers]
        _ = _ := by ring
    unfold toDouble
    simp only [size, zero, zero']
    split_ifs
    · rfl
    · rfl
    · exact ratio

/-! ## Reading literals -/

section
variable {digits rest : List Char}

theorem span_digits (h : ∀ c ∈ digits, c.isDigit = true)
    (stop : ∀ c, rest.head? = some c → c.isDigit = false) :
    (digits ++ rest).takeWhile Char.isDigit = digits ∧
    (digits ++ rest).dropWhile Char.isDigit = rest := by
  rw [List.takeWhile_append_of_pos h, List.dropWhile_append_of_pos h]
  cases rest with
  | nil => simp
  | cons c rest =>
    have other := stop c rfl
    simp [other]

end

theorem ExponentPart.stops {cs : List Char} (h : ExponentPart cs) :
    (∀ c, cs.head? = some c → c.isDigit = false) ∧ cs.head? ≠ some '.' := by
  cases h with
  | none => simp
  | mark _ _ => simp

theorem unsigned?_parts {whole fraction exponent : List Char} (hw : WholePart whole)
    (hf : FractionPart fraction) (he : ExponentPart exponent) (negative : Bool) :
    unsigned? negative (whole ++ fraction ++ exponent) = (exponentPart? exponent).map fun e =>
      ⟨negative, Nat.ofDigitChars 10 (whole ++ fraction.tail) 0, e - fraction.tail.length⟩ := by
  obtain ⟨stop, noPoint⟩ := ExponentPart.stops he
  unfold unsigned?
  cases hf with
  | none =>
    obtain ⟨front, back⟩ := span_digits hw.digits stop
    simp only [List.append_nil, front, back, hw.nonempty, false_and, if_false]
    cases he with
    | none => simp
    | mark _ _ => simp
  | @point decimals hd =>
    have point : ∀ c, ('.' :: (decimals ++ exponent)).head? = some c → c.isDigit = false := by simp
    obtain ⟨front, back⟩ := span_digits hw.digits point
    obtain ⟨front', back'⟩ := span_digits hd.digits stop
    rw [List.append_assoc, List.cons_append]
    simp only [front, back, front', back', hw.nonempty, false_and, if_false]
    rfl

theorem wholeNat?_exponentDigits (e : Int) : wholeNat? (exponentDigits e) = some e.natAbs := by
  have digits := digits_exponentDigits e
  have number : Nat.ofDigitChars 10 (exponentDigits e) 0 = e.natAbs := by
    unfold exponentDigits
    split
    · rw [Nat.ofDigitChars_cons]
      exact Nat.ofDigitChars_ten_toDigits
    · exact Nat.ofDigitChars_ten_toDigits
  unfold wholeNat?
  rw [if_pos ⟨digits.nonempty, List.all_eq_true.mpr digits.digits⟩, number]

theorem ShowsExponent.read {e : Int} {cs : List Char} (h : ShowsExponent e cs) :
    exponentPart? cs = some e := by
  cases h with
  | none => rfl
  | mark _ =>
    rw [toList_exponentText]
    by_cases negative : e < 0
    · have signed : exponentPart? ('e' :: '-' :: exponentDigits e) = some (-(e.natAbs : Int)) := by
        simp [exponentPart?, takeSign, wholeNat?_exponentDigits]
      rw [if_pos negative, signed, Option.some_inj]
      omega
    · have unsigned : exponentPart? ('e' :: '+' :: exponentDigits e) = some (e.natAbs : Int) := by
        simp [exponentPart?, takeSign, wholeNat?_exponentDigits]
      rw [if_neg negative, unsigned, Option.some_inj]
      omega

theorem Shows.read {digits cs exponent : List Char} {p e : Int} (h : Shows digits p cs)
    (he : ShowsExponent e exponent) (negative : Bool) :
    (unsigned? negative (cs ++ exponent)).map toDouble =
      some (toDouble ⟨negative, Nat.ofDigitChars 10 digits 0, p + e - digits.length⟩) := by
  obtain ⟨zeros, whole, fraction, number, length⟩ := h
  rw [unsigned?_parts whole fraction he.part, he.read, Option.map_some, Option.map_some, number,
    toDouble_shift]
  congr 3
  omega

theorem significantDigits_number (d : Decimal) : ∃ zeros,
    d.coefficient = Nat.ofDigitChars 10 d.significantDigits 0 * 10 ^ zeros ∧
      (decimalDigits d.coefficient).length = d.significantDigits.length + zeros := by
  have number : Nat.ofDigitChars 10 (decimalDigits d.coefficient) 0 = d.coefficient :=
    Nat.ofDigitChars_ten_toDigits
  have digits : d.significantDigits ++ List.rtakeWhile (· = '0') (decimalDigits d.coefficient) =
      decimalDigits d.coefficient := List.rdropWhile_append_rtakeWhile
  have zeros : ∀ c ∈ List.rtakeWhile (fun c => decide (c = '0')) (decimalDigits d.coefficient),
      c = '0' := by
    intro c hc
    simpa using List.mem_rtakeWhile_imp hc
  generalize List.rtakeWhile (fun c => decide (c = '0')) (decimalDigits d.coefficient) =
    back at digits zeros
  rw [List.eq_replicate_of_mem zeros] at digits
  refine ⟨back.length, ?_, ?_⟩
  · rw [← digits, Nat.ofDigitChars_append, Nat.ofDigitChars_replicate_zero, Nat.mul_comm] at number
    exact number.symm
  · have length := congrArg List.length digits
    rw [List.length_append, List.length_replicate] at length
    exact length.symm

end Decimal

namespace Double

theorem toLower_of_isDigit {c : Char} (h : c.isDigit = true) : c.toLower = c := by
  simp only [Char.isDigit, Bool.and_eq_true, decide_eq_true_eq, ge_iff_le] at h
  have upper : c.toNat ≤ 57 := h.2
  have capital : ¬ (c.val ≥ 'A'.val ∧ c.val ≤ 'Z'.val) := by
    rintro ⟨lower, -⟩
    have lower : 65 ≤ c.toNat := lower
    omega
  unfold Char.toLower
  rw [dif_neg capital]

theorem named?_of_isDigit {c : Char} (h : c.isDigit = true) (rest : List Char) (negative : Bool) :
    named? negative ((c :: rest).map Char.toLower) = none := by
  have word (d : Char) (cs : List Char) (hd : d.isDigit = false) :
      (c :: rest).map Char.toLower ≠ d :: cs := by
    rintro spelled
    rw [List.map_cons, toLower_of_isDigit h, List.cons_eq_cons] at spelled
    rw [spelled.1, hd] at h
    cases h
  unfold named?
  rw [if_neg (not_or.mpr ⟨word _ _ rfl, word _ _ rfl⟩), if_neg (word _ _ rfl)]

theorem parse?_signed {cs : List Char} (h : UnsignedLiteral cs) (negative : Bool) :
    parse? ((signText negative).toList ++ cs) =
      (Decimal.unsigned? negative cs).map Decimal.toDouble := by
  obtain ⟨c, rest, rfl, digit⟩ := h.head
  have plain : ∀ sign ∈ ['-', '+'], c ≠ sign := by
    rintro sign hs rfl
    revert digit
    simp only [List.mem_cons, List.not_mem_nil, or_false] at hs
    rcases hs with rfl | rfl <;> decide
  have taken : Decimal.takeSign ((signText negative).toList ++ c :: rest) =
      (negative, c :: rest) := by
    cases negative with
    | true => rfl
    | false =>
      change Decimal.takeSign (c :: rest) = _
      unfold Decimal.takeSign
      split
      · next same => exact absurd (List.cons_eq_cons.mp same).1 (plain '-' (by simp))
      · next same => exact absurd (List.cons_eq_cons.mp same).1 (plain '+' (by simp))
      · rfl
  unfold parse?
  simp only [taken, named?_of_isDigit digit]

/-- **The text of a decimal is read as the decimal.** -/
theorem parse?_text {d : Decimal} (h : d.coefficient ≠ 0) :
    parse? d.text.toList = some d.toDouble := by
  obtain ⟨p, e, cs, exponent, text, shows, exponentShows, position, -⟩ := Decimal.text_shows h
  obtain ⟨zeros, number, length⟩ := d.significantDigits_number
  have shifted : p + e - d.significantDigits.length = d.exponent + zeros := by
    rw [position, Decimal.pointPosition]
    omega
  rw [text, parse?_signed (shows.literal exponentShows), shows.read exponentShows, shifted,
    ← Decimal.toDouble_shift, ← number]

theorem parse?_intText (n : Int) :
    parse? (intText n).toList = some (Decimal.toDouble ⟨decide (n < 0), n.natAbs, 0⟩) := by
  have whole := wholePart_decimalDigits n.natAbs
  have read := Decimal.unsigned?_parts whole .none .none (decide (n < 0))
  have number : Nat.ofDigitChars 10 (decimalDigits n.natAbs) 0 = n.natAbs :=
    Nat.ofDigitChars_ten_toDigits
  rw [List.append_nil, List.append_nil, List.tail_nil, List.append_nil, number] at read
  rw [intText, natText, String.toList_append, String.toList_ofList,
    parse?_signed (.of_whole whole), read]
  rfl

end Double

/-- The text of an integer ends where the digits end, so it is read off whatever follows. -/
theorem intText_append_inj {a b : Int} {s t : List Char}
    (hs : ∀ c, s.head? = some c → c.isDigit = false)
    (ht : ∀ c, t.head? = some c → c.isDigit = false)
    (h : (intText a).toList ++ s = (intText b).toList ++ t) : a = b ∧ s = t := by
  have unsigned {m n : Nat} (h : decimalDigits m ++ s = decimalDigits n ++ t) : m = n ∧ s = t := by
    obtain ⟨front, back⟩ := Decimal.span_digits (digits_decimalDigits m).digits hs
    obtain ⟨front', back'⟩ := Decimal.span_digits (digits_decimalDigits n).digits ht
    rw [h, front'] at front
    rw [h, back'] at back
    have number := congrArg (Nat.ofDigitChars 10 · 0) front
    simp only [decimalDigits, Nat.ofDigitChars_ten_toDigits] at number
    exact ⟨number.symm, back.symm⟩
  have mixed {s t : List Char} (m n : Nat) :
      decimalDigits m ++ s ≠ '-' :: (decimalDigits n ++ t) := by
    intro same
    obtain ⟨c, rest, digits, digit⟩ := (UnsignedLiteral.of_whole (wholePart_decimalDigits m)).head
    rw [digits, List.cons_append, List.cons_eq_cons] at same
    rw [same.1] at digit
    cases digit
  simp only [intText, natText, String.toList_append, String.toList_ofList, List.append_assoc] at h
  by_cases ha : a < 0 <;> by_cases hb : b < 0
  · simp only [ha, hb, decide_true] at h
    obtain ⟨same, rest⟩ := unsigned (List.append_cancel_left h)
    exact ⟨by omega, rest⟩
  · simp only [ha, hb, decide_true, decide_false] at h
    exact absurd h.symm (mixed _ _)
  · simp only [ha, hb, decide_true, decide_false] at h
    exact absurd h (mixed _ _)
  · simp only [ha, hb, decide_false] at h
    obtain ⟨same, rest⟩ := unsigned (List.append_cancel_left h)
    exact ⟨by omega, rest⟩

end SceneSketch
