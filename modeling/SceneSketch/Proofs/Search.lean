import Mathlib.Data.List.Forall2
import SceneSketch.Check.Security
import SceneSketch.Proofs.Sequences

/-!
# Where a word occurs

`Occurs` says that a word stands somewhere in a text, letter by letter up to a comparison. An
occurrence does not reach across a character that no letter of the word stands for
(`occurs_append_cons`), so a word is looked for between such characters. A hazard is a word and
what follows it; the scan goes line by line as long as no line begins with a parenthesis
(`begins_lines`).
-/

namespace SceneSketch

theorem someSuffix_iff {p : List Char → Bool} {cs : List Char} :
    someSuffix p cs = true ↔ ∃ s, s <:+ cs ∧ p s = true := by
  induction cs with
  | nil => simp [someSuffix]
  | cons c cs ih =>
    rw [someSuffix, Bool.or_eq_true, ih]
    constructor
    · rintro (h | ⟨s, hs, h⟩)
      · exact ⟨_, List.suffix_rfl, h⟩
      · exact ⟨s, hs.trans (List.suffix_cons c cs), h⟩
    · rintro ⟨s, hs, h⟩
      rcases List.suffix_cons_iff.mp hs with rfl | hs
      · exact .inl h
      · exact .inr ⟨s, hs, h⟩

/-- The letters of `w` stand side by side somewhere in `cs`, compared by `same`. -/
def Occurs (same : Char → Char → Bool) (w cs : List Char) : Prop :=
  ∃ m, m <:+: cs ∧ List.Forall₂ (fun l c => same l c = true) w m

section
variable {same : Char → Char → Bool}

theorem afterLetters?_eq_some {w cs rest : List Char} :
    afterLetters? same w cs = some rest ↔
      ∃ m, cs = m ++ rest ∧ List.Forall₂ (fun l c => same l c = true) w m := by
  induction w generalizing cs with
  | nil => simp [afterLetters?]
  | cons l w ih =>
    cases cs with
    | nil => simp [afterLetters?]
    | cons c cs =>
      rw [afterLetters?]
      by_cases hc : same l c = true
      · rw [if_pos hc, ih]
        constructor
        · rintro ⟨m, rfl, hm⟩
          exact ⟨c :: m, rfl, .cons hc hm⟩
        · rintro ⟨_, he, hm⟩
          obtain ⟨_, m, _, hrest, rfl⟩ := List.forall₂_cons_left_iff.mp hm
          obtain ⟨rfl, rfl⟩ := List.cons.inj he
          exact ⟨m, rfl, hrest⟩
      · rw [if_neg hc]
        refine ⟨fun h => (nomatch h), ?_⟩
        rintro ⟨_, he, hm⟩
        obtain ⟨_, m, hd, _, rfl⟩ := List.forall₂_cons_left_iff.mp hm
        obtain ⟨rfl, _⟩ := List.cons.inj he
        exact absurd hd hc

theorem occurs_of_someSuffix {w cs : List Char}
    (h : someSuffix (fun s => (afterLetters? same w s).isSome) cs = true) : Occurs same w cs := by
  obtain ⟨s, hs, h⟩ := someSuffix_iff.mp h
  obtain ⟨rest, hr⟩ := Option.isSome_iff_exists.mp h
  obtain ⟨m, rfl, hm⟩ := afterLetters?_eq_some.mp hr
  exact ⟨m, (List.prefix_append m rest).isInfix.trans hs.isInfix, hm⟩

theorem someSuffix_of_occurs {w cs : List Char} (h : Occurs same w cs) :
    someSuffix (fun s => (afterLetters? same w s).isSome) cs = true := by
  obtain ⟨m, ⟨a, b, rfl⟩, hm⟩ := h
  refine someSuffix_iff.mpr ⟨m ++ b, ⟨a, by simp⟩, ?_⟩
  rw [afterLetters?_eq_some.mpr ⟨m, rfl, hm⟩]
  rfl

theorem not_occurs_nil {w : List Char} (hw : w ≠ []) : ¬ Occurs same w [] := by
  rintro ⟨m, hm, h⟩
  rw [List.infix_nil.mp hm] at h
  exact hw (List.forall₂_nil_right_iff.mp h)

theorem not_occurs_of_class {w cs chars : List Char} (hcs : ∀ c ∈ cs, c ∈ chars)
    (hw : ∃ l ∈ w, ∀ c ∈ chars, same l c = false) : ¬ Occurs same w cs := by
  rintro ⟨m, hm, h⟩
  obtain ⟨l, hl, hc⟩ := hw
  obtain ⟨i, hi, rfl⟩ := List.mem_iff_getElem.mp hl
  have hi' : i < m.length := h.length_eq ▸ hi
  have hsame : same w[i] m[i] = true := h.get hi hi'
  rw [hc m[i] (hcs _ (hm.subset (List.getElem_mem hi')))] at hsame
  cases hsame

/-- **No occurrence reaches across a character that no letter of the word stands for.** -/
theorem occurs_append_cons {w a b : List Char} {d : Char} (hd : ∀ l ∈ w, same l d = false)
    (h : Occurs same w (a ++ d :: b)) : Occurs same w a ∨ Occurs same w b := by
  obtain ⟨m, hm, hw⟩ := h
  -- each character of `m` is stood for by a letter of the word
  have hdm : d ∉ m := by
    intro hmem
    obtain ⟨i, hi, rfl⟩ := List.mem_iff_getElem.mp hmem
    have hi' : i < w.length := hw.length_eq ▸ hi
    have hsame : same w[i] m[i] = true := hw.get hi' hi
    rw [hd w[i] (List.getElem_mem hi')] at hsame
    cases hsame
  exact (infix_append_cons hdm hm).imp (⟨m, ·, hw⟩) (⟨m, ·, hw⟩)

theorem occurs_intercalate {w : List Char} {d : Char} (hw : w ≠ [])
    (hd : ∀ l ∈ w, same l d = false) :
    ∀ ls : List (List Char), Occurs same w ([d].intercalate ls) → ∃ l ∈ ls, Occurs same w l
  | [], h => absurd h (not_occurs_nil hw)
  | [l], h => ⟨l, by simp, by simpa using h⟩
  | l :: k :: ls, h => by
    rw [List.intercalate_cons_cons, List.append_assoc] at h
    rcases occurs_append_cons hd h with h | h
    · exact ⟨l, by simp, h⟩
    · obtain ⟨k', hk, h⟩ := occurs_intercalate hw hd (k :: ls) h
      exact ⟨k', List.mem_cons_of_mem l hk, h⟩

end

/-! ## Words of the checks -/

theorem containsWord_iff {word text : String} :
    containsWord word text = true ↔ word.toList <:+: text.toList := by
  rw [containsWord, someSuffix_iff]
  simp only [List.isPrefixOf_iff_prefix]
  constructor
  · rintro ⟨s, hs, hw⟩
    exact hw.isInfix.trans hs.isInfix
  · rintro ⟨a, b, hab⟩
    exact ⟨word.toList ++ b, ⟨a, by rw [← hab, List.append_assoc]⟩, List.prefix_append _ _⟩

theorem sameLetter_self (c : Char) : sameLetter c c = true := by
  simp [sameLetter]

theorem occurs_self {w cs : List Char} (h : w <:+: cs) : Occurs sameLetter w cs :=
  ⟨w, h, List.forall₂_same.mpr fun c _ => sameLetter_self c⟩

/-! ## Hazards -/

namespace Hazard

def letters (hazard : Hazard) : List Char :=
  match hazard.pattern with
  | .word w :: _ => w
  | _ => []

def begins (hazard : Hazard) (cs : List Char) : Bool :=
  (afterParts? sameLetter hazard.pattern cs).isSome

theorem occursIn_eq (hazard : Hazard) (code : String) :
    hazard.occursIn code = someSuffix hazard.begins code.toList := rfl

theorem pattern_eq (hazard : Hazard) :
    hazard.pattern = .word hazard.letters :: hazard.pattern.tail := by
  cases hazard <;> rfl

theorem begins_eq (hazard : Hazard) (cs : List Char) :
    hazard.begins cs = ((afterLetters? sameLetter hazard.letters cs).any fun rest =>
      (afterParts? sameLetter hazard.pattern.tail rest).isSome) := by
  rw [begins, pattern_eq, List.tail_cons, afterParts?]
  cases afterLetters? sameLetter hazard.letters cs <;> rfl

theorem tail_cases (hazard : Hazard) :
    hazard.pattern.tail = [] ∨ hazard.pattern.tail = [.blanks, .word ['(']] ∨
      hazard.pattern.tail = [.someBlanks] := by
  cases hazard <;> simp [pattern, callPattern]

theorem letters_no_break (hazard : Hazard) : ∀ l ∈ hazard.letters, sameLetter l '\n' = false := by
  have all : (hazard.letters.all fun l => !sameLetter l '\n') = true := by
    cases hazard <;> decide +kernel
  simpa using all

theorem occurs_of_begins {hazard : Hazard} {cs : List Char}
    (h : someSuffix hazard.begins cs = true) :
    Occurs sameLetter hazard.letters cs := by
  obtain ⟨s, hs, h⟩ := someSuffix_iff.mp h
  rw [begins_eq, Option.any_eq_true] at h
  obtain ⟨rest, hr, _⟩ := h
  exact occurs_of_someSuffix (someSuffix_iff.mpr ⟨s, hs, by rw [hr]; rfl⟩)

end Hazard

def opensCall (cs : List Char) : Bool :=
  (afterParts? sameLetter [.blanks, .word ['(']] cs).isSome

theorem opensCall_eq (cs : List Char) :
    opensCall cs = (cs.dropWhile isBlankChar).head?.any (sameLetter '(') := by
  rw [opensCall, afterParts?]
  cases cs.dropWhile isBlankChar with
  | nil => rfl
  | cons c cs =>
    rw [List.head?_cons, Option.any_some, afterParts?, afterLetters?]
    by_cases hc : sameLetter '(' c = true <;> simp [hc, afterLetters?, afterParts?]

theorem opensCall_append_break (l : List Char) {y : List Char} (hy : opensCall y = false) :
    opensCall (l ++ '\n' :: y) = opensCall l := by
  rw [opensCall_eq] at hy
  rw [opensCall_eq, opensCall_eq, List.dropWhile_append]
  cases h : l.dropWhile isBlankChar with
  | nil => simpa [List.dropWhile_cons_of_pos (show isBlankChar '\n' = true by decide)] using hy
  | cons c cs => rfl

theorem opensCall_intercalate : ∀ ls : List (List Char), (∀ l ∈ ls, opensCall l = false) →
    opensCall (['\n'].intercalate ls) = false
  | [], _ => rfl
  | [l], h => by simpa using h l
  | l :: k :: ls, h => by
    rw [List.intercalate_cons_cons, List.append_assoc]
    have hrest := opensCall_intercalate (k :: ls) fun m hm => h m (List.mem_cons_of_mem l hm)
    exact (opensCall_append_break l hrest).trans (h l (by simp))

theorem afterLetters?_append_break {same : Char → Char → Bool} {w : List Char}
    (hw : ∀ l ∈ w, same l '\n' = false) (x y : List Char) :
    afterLetters? same w (x ++ '\n' :: y) = (afterLetters? same w x).map (· ++ '\n' :: y) := by
  induction w generalizing x with
  | nil => rfl
  | cons l w ih =>
    cases x with
    | nil => simp [afterLetters?, hw l (by simp)]
    | cons c x =>
      rw [List.cons_append, afterLetters?, afterLetters?]
      split
      · exact ih (fun k hk => hw k (List.mem_cons_of_mem l hk)) x
      · rfl

namespace Hazard

theorem tail_append_break (hazard : Hazard) {rest y : List Char}
    (h : opensCall (rest ++ '\n' :: y) = opensCall (rest ++ ['\n'])) :
    (afterParts? sameLetter hazard.pattern.tail (rest ++ '\n' :: y)).isSome =
      (afterParts? sameLetter hazard.pattern.tail (rest ++ ['\n'])).isSome := by
  rcases hazard.tail_cases with ht | ht | ht <;> rw [ht]
  · rfl
  · exact h
  · cases rest with
    | nil => rfl
    | cons c cs => by_cases hc : isBlankChar c = true <;> simp [afterParts?, hc]

theorem begins_append_break (hazard : Hazard) {y : List Char} (hy : opensCall y = false)
    (x : List Char) :
    hazard.begins (x ++ '\n' :: y) = hazard.begins (x ++ ['\n']) := by
  rw [begins_eq, begins_eq, afterLetters?_append_break hazard.letters_no_break,
    afterLetters?_append_break hazard.letters_no_break, Option.any_map, Option.any_map]
  congr 1
  funext rest
  -- behind the letters only blanks may run on into `y`, and then they have to end at a parenthesis
  exact hazard.tail_append_break
    ((opensCall_append_break rest hy).trans (opensCall_append_break rest rfl).symm)

theorem begins_nil (hazard : Hazard) : hazard.begins [] = false := by
  cases hazard <;> rfl

theorem begins_break (hazard : Hazard) (y : List Char) : hazard.begins ('\n' :: y) = false := by
  cases hazard <;> rfl

theorem someSuffix_append_break_of (hazard : Hazard) {x y : List Char}
    (h : ∀ s, s <:+ x → hazard.begins (s ++ '\n' :: y) = hazard.begins (s ++ ['\n'])) :
    someSuffix hazard.begins (x ++ '\n' :: y) =
      (someSuffix hazard.begins (x ++ ['\n']) || someSuffix hazard.begins y) := by
  induction x with
  | nil => simp [someSuffix, begins_break, begins_nil]
  | cons c x ih =>
    have here := h (c :: x) List.suffix_rfl
    have behind := ih fun s hs => h s (hs.trans (List.suffix_cons c x))
    rw [List.cons_append, List.cons_append, someSuffix, someSuffix, behind,
      ← List.cons_append, here, Bool.or_assoc]
    rfl

theorem someSuffix_append_break (hazard : Hazard) {y : List Char} (hy : opensCall y = false)
    (x : List Char) :
    someSuffix hazard.begins (x ++ '\n' :: y) =
      (someSuffix hazard.begins (x ++ ['\n']) || someSuffix hazard.begins y) :=
  hazard.someSuffix_append_break_of fun s _ => hazard.begins_append_break hy s

/-- **The scan goes line by line.** -/
theorem begins_lines (hazard : Hazard) : ∀ ls : List (List Char), (∀ l ∈ ls, opensCall l = false) →
    someSuffix hazard.begins (['\n'].intercalate ls) = true →
    ∃ l ∈ ls, someSuffix hazard.begins l = true ∨ someSuffix hazard.begins (l ++ ['\n']) = true
  | [], _, h => by
    rw [List.intercalate_nil, someSuffix, begins_nil] at h
    cases h
  | [l], _, h => ⟨l, by simp, .inl (by simpa using h)⟩
  | l :: k :: ls, ho, h => by
    have ho' : ∀ m ∈ k :: ls, opensCall m = false := fun m hm => ho m (List.mem_cons_of_mem l hm)
    rw [List.intercalate_cons_cons, List.append_assoc, List.singleton_append,
      someSuffix_append_break hazard (opensCall_intercalate _ ho'), Bool.or_eq_true] at h
    rcases h with h | h
    · exact ⟨l, by simp, .inr h⟩
    · obtain ⟨m, hm, h⟩ := begins_lines hazard (k :: ls) ho' h
      exact ⟨m, List.mem_cons_of_mem l hm, h⟩

end Hazard

end SceneSketch
