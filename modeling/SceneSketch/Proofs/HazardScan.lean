import Mathlib.Data.List.Nodup
import SceneSketch.Check.Verdict
import SceneSketch.Proofs.Patterns

/-!
# The scan for hazards

What the scan looks for is said without the scan: a word, each of its letters in one of its forms
(`letterForms`), and behind it what makes the word a hazard (`Sequel`). The scan finds the hazards
that appear somewhere in the code and no others, in the order of all hazards (`hazards_exact`).
Neither more text around the code nor letters of the other case hide one.
-/

namespace SceneSketch

/-! ## Forms of a letter -/

theorem toNat_toUpper (c : Char) :
    c.toUpper.toNat = if 97 ≤ c.toNat ∧ c.toNat ≤ 122 then c.toNat - 32 else c.toNat := by
  unfold Char.toUpper
  by_cases h : 97 ≤ c.toNat ∧ c.toNat ≤ 122
  · have lower : 'a'.val ≤ c.val ∧ c.val ≤ 'z'.val := h
    have sum : (c.val + ('A'.val - 'a'.val)).toNat = (c.toNat + 4294967264) % 4294967296 :=
      UInt32.toNat_add _ _
    rw [dif_pos lower, if_pos h]
    change (c.val + ('A'.val - 'a'.val)).toNat = c.toNat - 32
    omega
  · have other : ¬ ('a'.val ≤ c.val ∧ c.val ≤ 'z'.val) := h
    rw [dif_neg other, if_neg h]

/-- The characters that a letter of a word stands for: both its cases, and further forms of `i`, `s`
and `k`. -/
def letterForms (l : Char) : List Char :=
  [l.toLower, l.toUpper] ++
    if l.toLower = 'i' then [Char.ofNat 0x130, Char.ofNat 0x131]
    else if l.toLower = 's' then [Char.ofNat 0x17F]
    else if l.toLower = 'k' then [Char.ofNat 0x212A]
    else []

theorem toList_toLower (s : String) : s.toLower.toList = s.toList.map Char.toLower :=
    String.toList_map

theorem toLower_eq_iff {l c : Char} : l.toLower = c.toLower ↔ c = l.toLower ∨ c = l.toUpper := by
  simp only [← Char.toNat_inj, toNat_toLower, toNat_toUpper]
  split <;> split <;> split <;> omega

theorem sameLetter_iff {l c : Char} : sameLetter l c = true ↔ c ∈ letterForms l := by
  have further (n : Nat) (hn : (Char.ofNat n).toNat = n) : c.toNat = n ↔ c = Char.ofNat n := by
    rw [← Char.toNat_inj, hn]
  simp only [sameLetter, Bool.or_eq_true, Bool.and_eq_true, decide_eq_true_eq, toLower_eq_iff,
    letterForms]
  rw [further 0x130 (by decide), further 0x131 (by decide), further 0x17F (by decide),
    further 0x212A (by decide)]
  by_cases hi : l.toLower = 'i'
  · simp [hi, or_assoc]
  · by_cases hs : l.toLower = 's'
    · simp [hs, or_assoc]
    · by_cases hk : l.toLower = 'k'
      · simp [hk, or_assoc]
      · simp [hi, hs, hk]

/-! ## Hazards without the scan -/

/-- What makes a word a hazard: the word alone, the parenthesis of a call, or blanks. -/
inductive Sequel
  | none
  | call
  | blanks

def Sequel.Holds : Sequel → List Char → Prop
  | none, tail => tail = []
  | call, tail => ∃ gap, (∀ c ∈ gap, isBlankChar c = true) ∧ tail = gap ++ ['(']
  | blanks, tail => tail ≠ [] ∧ ∀ c ∈ tail, isBlankChar c = true

namespace Hazard

def word : Hazard → String
  | evaluation => "eval"
  | functionConstructor => "Function"
  | fetching => "fetch"
  | httpRequest => "XMLHttpRequest"
  | importing => "import"
  | requiring => "require"
  | innerMarkup => ".innerHTML"
  | documentAccess => "document."
  | windowAccess => "window."
  | scriptTag => "<script"
  | localStorage => "localStorage"
  | sessionStorage => "sessionStorage"
  | database => "indexedDB"

def sequel : Hazard → Sequel
  | evaluation | functionConstructor | fetching | requiring => .call
  | importing => .blanks
  | _ => .none

/-- The text is the word of the hazard, letter by letter, and what has to follow. -/
def Spelled (hazard : Hazard) (text : List Char) : Prop :=
  ∃ name tail, text = name ++ tail ∧
    List.Forall₂ (fun l c => c ∈ letterForms l) hazard.word.toList name ∧
    hazard.sequel.Holds tail

def AppearsIn (hazard : Hazard) (code : String) : Prop :=
  ∃ text, text <:+: code.toList ∧ hazard.Spelled text

end Hazard

/-! ## Patterns of hazards -/

def Sequel.parts : Sequel → List PatternPart
  | none => []
  | call => [.blanks, .word ['(']]
  | blanks => [.someBlanks]

theorem takes_parenthesis_iff {text : List Char} : (PatternPart.word ['(']).Takes sameLetter text ↔
    text = ['('] := by
  constructor
  · intro h
    obtain ⟨c, rest, hc, hrest, rfl⟩ := List.forall₂_cons_left_iff.mp h
    have forms : c ∈ ['(', '('] := sameLetter_iff.mp hc
    rw [List.forall₂_nil_left_iff.mp hrest]
    simpa using forms
  · intro h
    rw [h]
    exact .cons rfl .nil

theorem Sequel.fits_iff {sequel : Sequel} {tail : List Char} :
    Fits sameLetter sequel.parts tail ↔ sequel.Holds tail := by
  cases sequel with
  | none => exact fits_nil_iff
  | call =>
    rw [parts, fits_cons_iff]
    constructor
    · intro ⟨gap, rest, heq, hgap, hrest⟩
      rw [fits_single_iff, takes_parenthesis_iff] at hrest
      exact ⟨gap, hgap, by rw [heq, hrest]⟩
    · intro ⟨gap, hgap, heq⟩
      exact ⟨gap, ['('], heq, hgap, fits_single_iff.mpr (takes_parenthesis_iff.mpr rfl)⟩
  | blanks => exact fits_single_iff

namespace Hazard

theorem pattern_eq_word (hazard : Hazard) :
    hazard.pattern = .word hazard.word.toList :: hazard.sequel.parts := by
  cases hazard <;> rfl

theorem fits_iff {hazard : Hazard} {text : List Char} :
    Fits sameLetter hazard.pattern text ↔ hazard.Spelled text := by
  have forms (w m : List Char) :
      (PatternPart.word w).Takes sameLetter m ↔
        List.Forall₂ (fun l c => c ∈ letterForms l) w m := by
    simp only [PatternPart.Takes, sameLetter_iff]
  simp only [pattern_eq_word, fits_cons_iff, forms, Sequel.fits_iff, Spelled]

theorem standsIn_iff {hazard : Hazard} {code : String} :
    hazard.StandsIn code ↔ hazard.AppearsIn code := by
  simp only [StandsIn, AppearsIn, fits_iff]

end Hazard

theorem mem_hazards_iff {hazard : Hazard} {code : String} :
    hazard ∈ hazards code ↔ hazard.AppearsIn code := by
  rw [mem_hazards, Hazard.standsIn_iff]

/-! ## Capital and small letters -/

theorem mem_letterForms_toLower {l c : Char} : c.toLower ∈ letterForms l ↔ c ∈ letterForms l := by
  have twice : c.toLower.toLower = c.toLower := by
    simp only [← Char.toNat_inj, toNat_toLower]
    split
    · rw [if_neg (by omega)]
    · rfl
  have further {n : Nat} (hn : 122 < n) : c.toLower.toNat = n ↔ c.toNat = n := by
    rw [toNat_toLower]
    split <;> omega
  rw [← sameLetter_iff, ← sameLetter_iff]
  simp [sameLetter, twice, further]

theorem isBlankChar_toLower (c : Char) : isBlankChar c.toLower = isBlankChar c := by
  rw [Bool.eq_iff_iff]
  simp only [isBlankChar, isSpaceChar, toNat_toLower, Bool.or_eq_true, Bool.and_eq_true,
    decide_eq_true_eq]
  split <;> omega

theorem Sequel.holds_toLower {sequel : Sequel} {tail : List Char} :
    sequel.Holds (tail.map Char.toLower) ↔ sequel.Holds tail := by
  cases sequel with
  | none => exact List.map_eq_nil_iff
  | call =>
    constructor
    · intro ⟨gap, hgap, heq⟩
      obtain ⟨before, last, rfl, rfl, hlast⟩ := List.map_eq_append_iff.mp heq
      obtain ⟨c, rfl, hc⟩ := List.map_eq_singleton_iff.mp hlast
      refine ⟨before, ?_, by rw [eq_parenthesis_of_toLower hc]⟩
      intro d hd
      rw [← isBlankChar_toLower]
      exact hgap _ (List.mem_map_of_mem hd)
    · intro ⟨gap, hgap, heq⟩
      refine ⟨gap.map Char.toLower, ?_, by rw [heq, List.map_append]; rfl⟩
      simpa only [List.forall_mem_map, isBlankChar_toLower] using hgap
  | blanks =>
    simp only [Holds, ne_eq, List.map_eq_nil_iff, List.forall_mem_map, isBlankChar_toLower]

namespace Hazard

theorem spelled_toLower {hazard : Hazard} {text : List Char} :
    hazard.Spelled (text.map Char.toLower) ↔ hazard.Spelled text := by
  constructor
  · intro ⟨name, tail, heq, hname, htail⟩
    obtain ⟨before, after, rfl, rfl, rfl⟩ := List.map_eq_append_iff.mp heq
    rw [List.forall₂_map_right_iff] at hname
    simp only [mem_letterForms_toLower] at hname
    exact ⟨before, after, rfl, hname, Sequel.holds_toLower.mp htail⟩
  · intro ⟨name, tail, heq, hname, htail⟩
    refine ⟨name.map Char.toLower, tail.map Char.toLower, by rw [heq, List.map_append], ?_,
      Sequel.holds_toLower.mpr htail⟩
    rw [List.forall₂_map_right_iff]
    simpa only [mem_letterForms_toLower] using hname

theorem appearsIn_toLower {hazard : Hazard} {code : String} :
    hazard.AppearsIn code.toLower ↔ hazard.AppearsIn code := by
  unfold AppearsIn
  constructor
  · intro ⟨text, htext, hspelled⟩
    rw [toList_toLower] at htext
    obtain ⟨part, hpart, rfl⟩ := List.infix_map_iff.mp htext
    exact ⟨part, hpart, spelled_toLower.mp hspelled⟩
  · intro ⟨text, hpart, hspelled⟩
    refine ⟨text.map Char.toLower, ?_, spelled_toLower.mpr hspelled⟩
    rw [toList_toLower]
    exact hpart.map Char.toLower

theorem AppearsIn.within {hazard : Hazard} {code : String} (h : hazard.AppearsIn code)
    (before after : String) :
    hazard.AppearsIn (before ++ code ++ after) := by
  obtain ⟨text, hpart, hspelled⟩ := h
  refine ⟨text, hpart.trans ⟨before.toList, after.toList, ?_⟩, hspelled⟩
  simp

theorem nodup_messages : (all.map message).Nodup := by decide

theorem message_injective : Function.Injective message := by
  intro hazard other h
  exact List.inj_on_of_nodup_map nodup_messages hazard.mem_all other.mem_all h

end Hazard

/-! ## The violations -/

/-- **The scan is exact.** It names the hazards that appear in the code, in the order of all hazards
and each once; each of them is named still if text is added and letters change their case. -/
theorem hazards_exact (strict : Bool) (code : String) :
    let verdict := Verdict.ofCode strict code
    verdict.hazardMessages.Sublist (Hazard.all.map Hazard.message) ∧ verdict.hazardMessages.Nodup ∧
      (∀ hazard : Hazard, hazard.message ∈ verdict.hazardMessages ↔ hazard.AppearsIn code) ∧
      (verdict.safe = true ↔ ∀ hazard : Hazard, ¬ hazard.AppearsIn code) ∧
      ∀ before recased after : String, recased.toLower = code.toLower →
        verdict.hazardMessages ⊆
        (Verdict.ofCode strict (before ++ recased ++ after)).hazardMessages := by
  intro verdict
  have ordered : verdict.hazardMessages.Sublist (Hazard.all.map Hazard.message) :=
    List.filter_sublist.map Hazard.message
  have named (hazard : Hazard) (code : String) :
      hazard.message ∈ (Verdict.ofCode strict code).hazardMessages ↔ hazard.AppearsIn code := by
    rw [← mem_hazards_iff]
    exact List.mem_map_of_injective Hazard.message_injective
  refine ⟨ordered, Hazard.nodup_messages.sublist ordered, fun hazard => named hazard code, ?_, ?_⟩
  · have empty : verdict.safe = true ↔ hazards code = [] := List.isEmpty_iff
    simp only [empty, List.eq_nil_iff_forall_not_mem, mem_hazards_iff]
  · intro before recased after hcase message hmessage
    obtain ⟨hazard, _, rfl⟩ := List.mem_map.mp hmessage
    rw [named, ← Hazard.appearsIn_toLower, ← hcase, Hazard.appearsIn_toLower] at hmessage
    rw [named]
    exact hmessage.within before after

theorem hazards_exact_recased :
    "eval() is not allowed" ∈
      (Verdict.ofCode true ("x = " ++ "EVAL\t(y)" ++ ";")).hazardMessages := by
  have cased : "EVAL\t(y)".toLower = "eval\t(y)".toLower := by
    rw [← String.toList_inj, toList_toLower, toList_toLower]
    decide
  apply (hazards_exact true "eval\t(y)").2.2.2.2 "x = " "EVAL\t(y)" ";" cased
  decide

end SceneSketch
