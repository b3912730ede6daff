import Mathlib.Data.List.TakeWhile
import SceneSketch.Check.Structure
import SceneSketch.Proofs.Search

/-!
# What a pattern matches

A pattern is read as a relation: each part stands for a class of texts, and the pattern for one text
of each class in a row (`Fits`). The walk along a pattern takes a blank run as far as it goes and
never goes back. No match is lost by that as long as the word behind a run begins with nothing that
the run may take (`Firm`), so that a search succeeds exactly if some part of the text fits
(`matchesSomewhere_iff`).
-/

namespace SceneSketch

def PatternPart.Takes (same : Char → Char → Bool) : PatternPart → List Char → Prop
  | word letters, m => List.Forall₂ (fun l c => same l c = true) letters m
  | blanks, m => ∀ c ∈ m, isBlankChar c = true
  | someBlanks, m => m ≠ [] ∧ ∀ c ∈ m, isBlankChar c = true
  | .until stop, m => ∀ c ∈ m, c ≠ stop

inductive Fits (same : Char → Char → Bool) : List PatternPart → List Char → Prop
  | nil : Fits same [] []
  | cons {part : PatternPart} {parts : List PatternPart} {m rest : List Char} :
    part.Takes same m → Fits same parts rest → Fits same (part :: parts) (m ++ rest)

def PatternPart.runsOver : PatternPart → Char → Bool
  | word _, _ => false
  | blanks, c => isBlankChar c
  | someBlanks, c => isBlankChar c
  | .until stop, c => c ≠ stop

def StartsOutside (same : Char → Char → Bool) (p : Char → Bool) : List PatternPart → Prop
  | [] => True
  | .word (l :: _) :: _ => ∀ c, p c = true → same l c = false
  | _ => False

/-- Behind each run comes the end of the pattern or a word that the run does not reach into. -/
def Firm (same : Char → Char → Bool) : List PatternPart → Prop
  | [] => True
  | .word _ :: parts => Firm same parts
  | part :: parts => StartsOutside same part.runsOver parts ∧ Firm same parts

section
variable {same : Char → Char → Bool} {parts : List PatternPart}

theorem fits_nil_iff {text : List Char} : Fits same [] text ↔ text = [] := by
  constructor
  · intro h
    cases h
    rfl
  · intro h
    rw [h]
    exact .nil

theorem fits_cons_iff {part : PatternPart} {text : List Char} :
    Fits same (part :: parts) text ↔ ∃ m rest, text = m ++ rest ∧ part.Takes same m ∧
      Fits same parts rest := by
  constructor
  · intro h
    cases h with
    | cons htakes hfits => exact ⟨_, _, rfl, htakes, hfits⟩
  · intro ⟨m, rest, heq, htakes, hfits⟩
    rw [heq]
    exact .cons htakes hfits

theorem fits_single_iff {part : PatternPart} {text : List Char} :
    Fits same [part] text ↔ part.Takes same text := by
  simp [fits_cons_iff, fits_nil_iff]

/-! ## The walk finds only what fits -/

theorem fits_of_afterParts? {cs rest : List Char} (h : afterParts? same parts cs = some rest) :
    ∃ m, cs = m ++ rest ∧ Fits same parts m := by
  induction parts generalizing cs with
  | nil =>
    obtain rfl : cs = rest := by simpa [afterParts?] using h
    exact ⟨[], rfl, .nil⟩
  | cons part parts ih =>
    have run (p : Char → Bool) (hrest : afterParts? same parts (cs.dropWhile p) = some rest)
        (htakes : part.Takes same (cs.takeWhile p)) : ∃ m, cs = m ++ rest ∧
          Fits same (part :: parts) m := by
      obtain ⟨m, he, hm⟩ := ih hrest
      refine ⟨cs.takeWhile p ++ m, ?_, .cons htakes hm⟩
      rw [List.append_assoc, ← he, List.takeWhile_append_dropWhile]
    cases part with
    | word letters =>
      rw [afterParts?, Option.bind_eq_some_iff] at h
      obtain ⟨after, hletters, hafter⟩ := h
      obtain ⟨m, rfl, hm⟩ := afterLetters?_eq_some.mp hletters
      obtain ⟨k, rfl, hk⟩ := ih hafter
      exact ⟨m ++ k, (List.append_assoc m k rest).symm, .cons hm hk⟩
    | blanks => exact run _ h fun c hc => List.mem_takeWhile_imp hc
    | someBlanks =>
      rw [afterParts?] at h
      by_cases hblank : cs.head?.any isBlankChar = true
      · rw [if_pos hblank] at h
        refine run _ h ⟨?_, fun c hc => List.mem_takeWhile_imp hc⟩
        cases cs with
        | nil => cases hblank
        | cons c cs => simp [List.takeWhile_cons_of_pos (show isBlankChar c = true from hblank)]
      · rw [if_neg hblank] at h
        cases h
    | «until» stop => exact run _ h fun c hc => by simpa using List.mem_takeWhile_imp hc

/-! ## The walk finds all that fits -/

theorem dropWhile_of_fits {p : Char → Bool} {m : List Char} (h : StartsOutside same p parts)
    (hm : Fits same parts m) (hne : parts ≠ []) (rest : List Char) :
    (m ++ rest).dropWhile p = m ++ rest := by
  cases hm with
  | nil => exact absurd rfl hne
  | @cons part parts m k hpart _ =>
    cases part with
    | word letters =>
      cases hpart with
      | nil => exact absurd h id
      | @cons l c letters m hlc _ =>
        have hpc : p c ≠ true := fun hp => by
          have := h c hp
          rw [hlc] at this
          cases this
        rw [List.cons_append, List.cons_append, List.dropWhile_cons_of_neg hpc]
    | _ => exact absurd h id

/-- What the end of a pattern still runs over in the text behind it. -/
def openEnd (parts : List PatternPart) : Char → Bool :=
  (parts.getLast?.map PatternPart.runsOver).getD fun _ => false

theorem openEnd_cons {part : PatternPart} (h : parts ≠ []) :
    openEnd (part :: parts) = openEnd parts := by
  rw [openEnd, openEnd, List.getLast?_cons, List.getLast?_eq_some_getLast h, Option.getD_some]

theorem afterParts?_of_fits (hfirm : Firm same parts) {m : List Char} (h : Fits same parts m)
    (rest : List Char) :
    afterParts? same parts (m ++ rest) = some (rest.dropWhile (openEnd parts)) := by
  induction h with
  | nil => cases rest <;> rfl
  | @cons part parts m k hpart hk ih =>
    have step (houtside : StartsOutside same part.runsOver parts) (htail : Firm same parts)
        (hrun : ∀ c ∈ m, part.runsOver c = true) :
        afterParts? same parts ((m ++ (k ++ rest)).dropWhile part.runsOver) =
          some (rest.dropWhile (openEnd (part :: parts))) := by
      rw [List.dropWhile_append_of_pos hrun]
      by_cases hne : parts = []
      · subst hne
        rw [fits_nil_iff.mp hk]
        rfl
      · rw [dropWhile_of_fits houtside hk hne, openEnd_cons hne]
        exact ih htail
    rw [List.append_assoc]
    cases part with
    | word letters =>
      rw [afterParts?, afterLetters?_eq_some.mpr ⟨m, rfl, hpart⟩, Option.bind_some]
      by_cases hne : parts = []
      · subst hne
        rw [fits_nil_iff.mp hk]
        cases rest <;> rfl
      · rw [openEnd_cons hne]
        exact ih hfirm
    | blanks => exact step hfirm.1 hfirm.2 hpart
    | someBlanks =>
      obtain ⟨hne, hrun⟩ := hpart
      have hblank : (m ++ (k ++ rest)).head?.any isBlankChar = true := by
        cases m with
        | nil => exact absurd rfl hne
        | cons c m => exact hrun c (by simp)
      rw [afterParts?, if_pos hblank]
      exact step hfirm.1 hfirm.2 hrun
    | «until» stop => exact step hfirm.1 hfirm.2 fun c hc => decide_eq_true (hpart c hc)

/-- **A search succeeds exactly if some part of the text fits.** -/
theorem matchesSomewhere_iff (hfirm : Firm same parts) {text : String} :
    matchesSomewhere same parts text = true ↔ ∃ m, m <:+: text.toList ∧ Fits same parts m := by
  rw [matchesSomewhere, someSuffix_iff]
  constructor
  · intro ⟨s, hs, h⟩
    obtain ⟨rest, hrest⟩ := Option.isSome_iff_exists.mp h
    obtain ⟨m, rfl, hm⟩ := fits_of_afterParts? hrest
    exact ⟨m, (List.prefix_append m rest).isInfix.trans hs.isInfix, hm⟩
  · intro ⟨m, ⟨a, b, he⟩, hm⟩
    refine ⟨m ++ b, ⟨a, ?_⟩, ?_⟩
    · rw [← he, List.append_assoc]
    · rw [afterParts?_of_fits hfirm hm, Option.isSome_some]

end

/-! ## The patterns of the checks -/

theorem fits_word_iff {letters text : List Char} {parts : List PatternPart} :
    Fits (· = ·) (.word letters :: parts) text ↔ ∃ rest, text = letters ++ rest ∧
      Fits (· = ·) parts rest := by
  have takes (m : List Char) : (PatternPart.word letters).Takes (· = ·) m ↔ m = letters := by
    have same : (PatternPart.word letters).Takes (· = ·) m ↔ List.Forall₂ (· = ·) letters m := by
      simp only [PatternPart.Takes, decide_eq_true_eq]
    rw [same, List.forall₂_eq_eq_eq]
    exact eq_comm
  simp only [fits_cons_iff, takes]
  constructor
  · rintro ⟨_, rest, he, rfl, hrest⟩
    exact ⟨rest, he, hrest⟩
  · intro ⟨rest, he, hrest⟩
    exact ⟨letters, rest, he, rfl, hrest⟩

theorem decide_eq_false_of_blank {d : Char} (hd : isBlankChar d = false) (c : Char)
    (hc : isBlankChar c = true) :
    decide (d = c) = false := by
  refine decide_eq_false fun e => ?_
  rw [e, hc] at hd
  cases hd

theorem toNat_toLower (c : Char) :
    c.toLower.toNat = if 65 ≤ c.toNat ∧ c.toNat ≤ 90 then c.toNat + 32 else c.toNat := by
  unfold Char.toLower
  by_cases h : 65 ≤ c.toNat ∧ c.toNat ≤ 90
  · have upper : c.val ≥ 'A'.val ∧ c.val ≤ 'Z'.val := h
    have sum : (c.val + ('a'.val - 'A'.val)).toNat = (c.toNat + 32) % 4294967296 :=
      UInt32.toNat_add _ _
    rw [dif_pos upper, if_pos h]
    change (c.val + ('a'.val - 'A'.val)).toNat = c.toNat + 32
    omega
  · have other : ¬ (c.val ≥ 'A'.val ∧ c.val ≤ 'Z'.val) := h
    rw [dif_neg other, if_neg h]

theorem eq_parenthesis_of_toLower {c : Char} (h : c.toLower = '(') : c = '(' := by
  have code : '('.toNat = 40 := rfl
  rw [← Char.toNat_inj, toNat_toLower, code] at h
  rw [← Char.toNat_inj, code]
  split at h <;> omega

theorem sameLetter_parenthesis_of_blank {c : Char} (h : isBlankChar c = true) :
    sameLetter '(' c = false := by
  by_contra hsame
  have hlower : '(' = c.toLower := by simpa [sameLetter] using hsame
  obtain rfl := eq_parenthesis_of_toLower hlower.symm
  exact absurd h (by decide)

namespace Hazard

theorem firm (hazard : Hazard) : Firm sameLetter hazard.pattern := by
  rw [pattern_eq]
  rcases hazard.tail_cases with h | h | h <;> rw [h]
  · trivial
  · exact ⟨fun _ hc => sameLetter_parenthesis_of_blank hc, trivial⟩
  · exact ⟨trivial, trivial⟩

/-- Some part of the code fits the pattern of the hazard. -/
def StandsIn (hazard : Hazard) (code : String) : Prop :=
  ∃ m, m <:+: code.toList ∧ Fits sameLetter hazard.pattern m

theorem occursIn_iff {hazard : Hazard} {code : String} :
    hazard.occursIn code = true ↔ hazard.StandsIn code :=
  matchesSomewhere_iff hazard.firm

theorem mem_all (hazard : Hazard) : hazard ∈ all := by
  cases hazard <;> decide

end Hazard

theorem mem_hazards {hazard : Hazard} {code : String} :
    hazard ∈ hazards code ↔ hazard.StandsIn code := by
  rw [hazards, List.mem_filter, Hazard.occursIn_iff]
  exact and_iff_right hazard.mem_all

/-- Some part of the code is a function of that name without parameters, up to its opening brace. -/
def OpensFunction (name code : String) : Prop :=
  ∃ m, m <:+: code.toList ∧ Fits (· = ·) (functionPattern name) m

theorem firm_functionPattern {name : String} {l : Char} {letters : List Char}
    (hname : name.toList = l :: letters)
    (hl : isBlankChar l = false) : Firm (· = ·) (functionPattern name) := by
  rw [functionPattern, hname]
  exact ⟨decide_eq_false_of_blank hl, decide_eq_false_of_blank (by decide),
    decide_eq_false_of_blank (by decide), decide_eq_false_of_blank (by decide), trivial⟩

theorem hasFunction_iff {name code : String} {l : Char} {letters : List Char}
    (hname : name.toList = l :: letters)
    (hl : isBlankChar l = false) : hasFunction name code = true ↔ OpensFunction name code :=
  matchesSomewhere_iff (firm_functionPattern hname hl)

end SceneSketch
