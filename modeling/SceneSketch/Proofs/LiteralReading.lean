import SceneSketch.Proofs.LiteralText

/-!
# Reading literals

A literal is read as a script reads it: each escape is a unit of sixteen bits, and the units are
UTF-16, in which two surrogates make one character. What is read is the text that was written
(`scriptLiteral_decodes`), so different texts have different literals.
-/

namespace SceneSketch

def hexNumber? (digits : List Char) : Option Nat :=
  digits.foldlM (fun n c => (hexValue? c).map (16 * n + ·)) 0

def unitsOfEscapes? : List Char → Option (List Nat)
  | [] => some []
  | '\\' :: 'u' :: a :: b :: c :: d :: rest =>
    (hexNumber? [a, b, c, d]).bind fun unit => (unitsOfEscapes? rest).map (unit :: ·)
  | _ => none

/-! ## Units of escapes -/

theorem hexValue?_hexDigit {n : Nat} (h : n < 16) : hexValue? (hexDigit n) = some n := by
  interval_cases n <;> rfl

theorem hexNumber?_snoc (digits : List Char) (c : Char) :
    hexNumber? (digits ++ [c]) = (hexNumber? digits).bind fun n =>
      (hexValue? c).map (16 * n + ·) := by
  simp [hexNumber?, List.foldlM_append]

theorem hexNumber?_hexDigits (width n : Nat) :
    hexNumber? (hexDigits width n) = some (n % 16 ^ width) := by
  induction width generalizing n with
  | zero => simp [hexDigits, hexNumber?, Nat.mod_one]
  | succ width ih =>
    have digit : hexValue? (hexDigit (n % 16)) = some (n % 16) :=
      hexValue?_hexDigit (Nat.mod_lt n (by decide))
    have value : 16 * (n / 16 % 16 ^ width) + n % 16 = n % 16 ^ (width + 1) := by
      rw [Nat.pow_succ', Nat.mod_mul, Nat.add_comm]
    rw [hexDigits, hexNumber?_snoc, ih, digit, Option.bind_some, Option.map_some, value]

theorem unitsOfEscapes?_escapedUnit {unit : Nat} (h : unit < 0x10000) (rest : List Char) :
    unitsOfEscapes? (escapedUnit unit ++ rest) = (unitsOfEscapes? rest).map (unit :: ·) := by
  have number : hexNumber? (hexDigits 4 unit) = some unit := by
    rw [hexNumber?_hexDigits, Nat.mod_eq_of_lt (show unit < 16 ^ 4 from h)]
  have step : unitsOfEscapes? (escapedUnit unit ++ rest) =
      (hexNumber? (hexDigits 4 unit)).bind fun unit => (unitsOfEscapes? rest).map (unit :: ·) := rfl
  rw [step, number, Option.bind_some]

theorem unitsOfEscapes?_units (units : List Nat) (h : ∀ unit ∈ units, unit < 0x10000) :
    unitsOfEscapes? (units.flatMap escapedUnit) = some units := by
  induction units with
  | nil => rfl
  | cons unit units ih =>
    obtain ⟨here, rest⟩ := List.forall_mem_cons.mp h
    rw [List.flatMap_cons, unitsOfEscapes?_escapedUnit here, ih rest, Option.map_some]

/-! ## Characters of units -/

theorem toNat_scalar (c : Char) : c.toNat < 0xD800 ∨ 0xDFFF < c.toNat ∧ c.toNat < 0x110000 :=
  c.valid

theorem unit_lt {c : Char} : ∀ unit ∈ unitsOfChar c, unit < 0x10000 := by
  intro unit h
  have scalar := toNat_scalar c
  unfold unitsOfChar at h
  by_cases hlow : c.toNat < 0x10000
  · simp only [hlow, if_true, List.mem_singleton] at h
    omega
  · simp only [hlow, if_false, List.mem_cons, List.not_mem_nil, or_false] at h
    omega

/-- **The units of a character are read as this character, whatever follows them.** -/
theorem ofUnits_unitsOfChar (seen : List Char) (c : Char) (rest : List Nat) :
    Text.ofUnits seen (unitsOfChar c ++ rest) = Text.ofUnits (c :: seen) rest := by
  have scalar := toNat_scalar c
  unfold unitsOfChar
  by_cases hlow : c.toNat < 0x10000
  · have single : ¬ (0xD800 ≤ c.toNat ∧ c.toNat ≤ 0xDFFF) := by omega
    cases rest with
    | nil => simp [Text.ofUnits, hlow, single]
    | cons unit rest => simp [Text.ofUnits, hlow, single]
  · -- the high surrogate carries the upper ten bits, the low one the lower ten
    have high : 0xD800 ≤ 0xD800 + (c.toNat - 0x10000) / 0x400 ∧
        0xD800 + (c.toNat - 0x10000) / 0x400 ≤ 0xDFFF := by
      omega
    have pair : 0xD800 + (c.toNat - 0x10000) / 0x400 ≤ 0xDBFF ∧
        0xDC00 ≤ 0xDC00 + (c.toNat - 0x10000) % 0x400 ∧
        0xDC00 + (c.toNat - 0x10000) % 0x400 ≤ 0xDFFF := by
      omega
    have value : 0x10000 + (0xD800 + (c.toNat - 0x10000) / 0x400 - 0xD800) * 0x400 +
        (0xDC00 + (c.toNat - 0x10000) % 0x400 - 0xDC00) = c.toNat := by
      omega
    have char : charOfPair (0xD800 + (c.toNat - 0x10000) / 0x400)
        (0xDC00 + (c.toNat - 0x10000) % 0x400) = c := by
      rw [charOfPair, value, Char.ofNat_toNat]
    simp only [hlow, if_false, List.cons_append, List.nil_append]
    rw [Text.ofUnits, dif_pos high, if_pos pair, char]

theorem ofUnits_text (seen cs : List Char) :
    Text.ofUnits seen (cs.flatMap unitsOfChar) = String.ofList (seen.reverse ++ cs) := by
  induction cs generalizing seen with
  | nil => simp [Text.ofUnits]
  | cons c cs ih => rw [List.flatMap_cons, ofUnits_unitsOfChar, ih]; simp

/-! ## Literals -/

def readEscapes? (body : List Char) : Option Text :=
  (unitsOfEscapes? body).map (Text.ofUnits [])

theorem readEscapes?_text (text : String) :
    readEscapes? ((text.toList.flatMap unitsOfChar).flatMap escapedUnit) = some ↑text := by
  have bounded : ∀ unit ∈ text.toList.flatMap unitsOfChar, unit < 0x10000 := by
    intro unit h
    obtain ⟨c, _, hc⟩ := List.mem_flatMap.mp h
    exact unit_lt unit hc
  rw [readEscapes?, unitsOfEscapes?_units _ bounded, Option.map_some, ofUnits_text]
  simp

theorem scriptLiteral_injective {text other : String}
    (h : scriptLiteral text = scriptLiteral other) :
    text = other := by
  have literals := congrArg String.toList h
  rw [scriptLiteral, scriptLiteral, String.toList_ofList, String.toList_ofList, List.cons_inj_right,
    List.append_left_inj] at literals
  have texts := congrArg readEscapes? literals
  rw [readEscapes?_text, readEscapes?_text] at texts
  exact Text.unicode.inj (Option.some.inj texts)

/-- **A literal is read back as the text that it was written for.** Between its quotes there is
nothing but escapes, so that no letter of the text stands in it by itself. -/
theorem scriptLiteral_decodes (text : String) :
    (∃ body, (scriptLiteral text).toList = '"' :: (body ++ ['"']) ∧ Escapes body ∧
        readEscapes? body = some ↑text) ∧
      (∀ other, scriptLiteral other = scriptLiteral text ↔ other = text) ∧
      (scriptLiteral text).toList ⊆ literalChars := by
  refine ⟨⟨_, String.toList_ofList, escapes_of_units _, readEscapes?_text text⟩, ?_, fun c =>
    mem_literalChars c⟩
  intro other
  constructor
  · exact scriptLiteral_injective
  · intro h
    rw [h]

/-- Beyond the basic plane a character takes two escapes. -/
example : scriptLiteral (String.singleton (Char.ofNat 0x1F600)) = "\"\\ud83d\\ude00\"" := by
  decide +kernel

end SceneSketch
