import Mathlib.Data.List.DropRight
import SceneSketch.Prompt.Review
import SceneSketch.Proofs.Sequences

/-!
# Code in fences

A reply is trimmed, freed of a fence at either end and trimmed again. What is left is the code
between the fences, whichever of them are there and whatever blanks stand around and within
(`unfence_fenced`), as long as the code does not begin or end with a fence of its own.
-/

namespace SceneSketch

/-! ## Trimmed texts -/

/-- The text neither begins nor ends with a character of the class. -/
structure Bare (p : Char → Bool) (cs : List Char) : Prop where
  head : ∀ c, cs.head? = some c → p c = false
  last : ∀ c, cs.getLast? = some c → p c = false

section
variable {p : Char → Bool} {cs gap : List Char}

theorem dropWhile_eq_self_of_head (h : ∀ c, cs.head? = some c → p c = false) :
    cs.dropWhile p = cs := by
  cases cs with
  | nil => rfl
  | cons c cs => exact List.dropWhile_cons_of_neg (by simp [h c rfl])

theorem Bare.trimEnds_eq (h : Bare p cs) : trimEnds p cs = cs := by
  have last : ∀ c, cs.reverse.head? = some c → p c = false := by
    intro c hc
    rw [List.head?_reverse] at hc
    exact h.last c hc
  rw [trimEnds, dropWhile_eq_self_of_head h.head, dropWhile_eq_self_of_head last,
    List.reverse_reverse]

theorem trimEnds_prepend (hgap : ∀ c ∈ gap, p c = true) (cs : List Char) :
    trimEnds p (gap ++ cs) = trimEnds p cs := by
  rw [trimEnds, trimEnds, List.dropWhile_append_of_pos hgap]

theorem trimEnds_append (hgap : ∀ c ∈ gap, p c = true) (cs : List Char) :
    trimEnds p (cs ++ gap) = trimEnds p cs := by
  have hback : ∀ c ∈ gap.reverse, p c = true := by simpa using hgap
  rw [trimEnds, trimEnds, List.dropWhile_append]
  by_cases hempty : (cs.dropWhile p).isEmpty = true
  · rw [if_pos hempty, List.isEmpty_iff.mp hempty, List.dropWhile_eq_nil_iff.mpr hgap]
  · rw [if_neg hempty, List.reverse_append, List.dropWhile_append_of_pos hback]

theorem trimEnds_eq_rdropWhile : trimEnds p cs = (cs.dropWhile p).rdropWhile p := rfl

theorem trimEnds_infix : trimEnds p cs <:+: cs := by
  have kept : (cs.dropWhile p).rdropWhile p <+: cs.dropWhile p := List.rdropWhile_prefix p _
  exact kept.isInfix.trans (List.dropWhile_suffix p).isInfix

theorem of_head?_dropWhile {c : Char} (h : (cs.dropWhile p).head? = some c) : p c = false := by
  have first := List.head?_dropWhile_not p cs
  rw [h] at first
  simpa using first

theorem bare_trimEnds : Bare p (trimEnds p cs) where
  head c hc := by
    obtain ⟨rest, hrest⟩ := List.rdropWhile_prefix p (cs.dropWhile p)
    have first : (cs.dropWhile p).head? = some c := by
      rw [← hrest, ← trimEnds_eq_rdropWhile, List.head?_append, hc]
      rfl
    exact of_head?_dropWhile first
  last c hc := by
    rw [trimEnds, List.getLast?_reverse] at hc
    exact of_head?_dropWhile hc

theorem trimEnds_split (p : Char → Bool) (cs : List Char) :
    ∃ before after, cs = before ++ trimEnds p cs ++ after ∧
    (∀ c ∈ before, p c = true) ∧ ∀ c ∈ after, p c = true := by
  refine ⟨cs.takeWhile p, (cs.dropWhile p).rtakeWhile p, ?_, ?_, ?_⟩
  · rw [trimEnds_eq_rdropWhile, List.append_assoc, List.rdropWhile_append_rtakeWhile,
      List.takeWhile_append_dropWhile]
  · intro c hc
    exact List.mem_takeWhile_imp hc
  · intro c hc
    exact List.mem_rtakeWhile_imp hc

theorem trimEnds_ne_nil (h : ∃ c ∈ cs, p c = false) : trimEnds p cs ≠ [] := by
  intro hnil
  obtain ⟨before, after, hsplit, hbefore, hafter⟩ := trimEnds_split p cs
  rw [hnil, List.append_nil] at hsplit
  obtain ⟨c, hc, hkept⟩ := h
  have hcut : p c = true := by
    rw [hsplit] at hc
    exact (List.mem_append.mp hc).elim (hbefore c) (hafter c)
  rw [hcut] at hkept
  cases hkept

end

/-! ## A fence at the beginning -/

theorem not_blank_of_mem_fence : ∀ c ∈ fence, isBlankChar c = false := by
  intro c hc
  obtain rfl : c = Char.ofNat 96 := by simpa [fence] using hc
  rfl

theorem blank_break : ∀ c ∈ ['\n'], isBlankChar c = true :=
  List.forall_mem_singleton.mpr rfl

theorem dropOpeningFence_opened {letters : List Char} (h : ∀ c ∈ letters, isAsciiLetter c = true)
    (rest : List Char) : dropOpeningFence (fence ++ letters ++ '\n' :: rest) = rest := by
  have begins : fence.isPrefixOf (fence ++ letters ++ '\n' :: rest) = true := by
    rw [List.isPrefixOf_iff_prefix, List.append_assoc]
    exact List.prefix_append fence _
  have behind : (fence ++ letters ++ '\n' :: rest).drop 3 = letters ++ '\n' :: rest := rfl
  have stop : ('\n' :: rest).dropWhile isAsciiLetter = '\n' :: rest :=
    List.dropWhile_cons_of_neg (by decide)
  rw [dropOpeningFence, if_pos begins, behind, List.dropWhile_append_of_pos h, stop]
  rfl

theorem dropOpeningFence_cases (cs : List Char) : dropOpeningFence cs = cs ∨
    ∃ letters, (∀ c ∈ letters, isAsciiLetter c = true) ∧
    cs = fence ++ letters ++ '\n' :: dropOpeningFence cs := by
  by_cases h : ∃ letters rest, (∀ c ∈ letters, isAsciiLetter c = true) ∧
    cs = fence ++ letters ++ '\n' :: rest
  · obtain ⟨letters, rest, hletters, rfl⟩ := h
    right
    exact ⟨letters, hletters, by rw [dropOpeningFence_opened hletters]⟩
  · left
    unfold dropOpeningFence
    split
    · next hfence =>
      obtain ⟨behind, rfl⟩ := List.isPrefixOf_iff_prefix.mp hfence
      split
      · next rest hrest =>
        refine absurd ⟨behind.takeWhile isAsciiLetter, rest, fun c hc =>
          List.mem_takeWhile_imp hc, ?_⟩ h
        have hbehind : behind.dropWhile isAsciiLetter = '\n' :: rest := hrest
        rw [List.append_assoc, ← hbehind, List.takeWhile_append_dropWhile]
      · rfl
    · rfl

theorem suffix_dropOpeningFence (cs : List Char) : dropOpeningFence cs <:+ cs := by
  rcases dropOpeningFence_cases cs with h | ⟨letters, _, h⟩
  · exact ⟨[], h⟩
  · exact ⟨fence ++ letters ++ ['\n'], by simpa using h.symm⟩

/-! ## A fence at the end -/

theorem dropClosingFence_eq_self {cs : List Char} (h : ¬ fence <:+ cs) :
    dropClosingFence cs = cs := by
  have other : ¬ fence.isPrefixOf cs.reverse = true := by
    intro hfence
    rw [List.isPrefixOf_iff_prefix] at hfence
    exact h (List.reverse_prefix.mp hfence)
  rw [dropClosingFence, if_neg other]

theorem dropClosingFence_closed (cs : List Char) :
    ∃ gap, (∀ c ∈ gap, isBlankChar c = true) ∧ cs = dropClosingFence (cs ++ fence) ++ gap := by
  have ends : fence.isPrefixOf (cs ++ fence).reverse = true := by
    rw [List.isPrefixOf_iff_prefix, List.reverse_append]
    exact List.prefix_append fence _
  have before : (cs ++ fence).reverse.drop 3 = cs.reverse := by
    rw [List.reverse_append]
    rfl
  rw [dropClosingFence, if_pos ends, before]
  split
  · next rest hrest =>
    refine ⟨['\n'], blank_break, ?_⟩
    rw [← List.reverse_inj, hrest]
    simp
  · exact ⟨[], by simp, by simp⟩

theorem prefix_dropClosingFence (cs : List Char) : dropClosingFence cs <+: cs := by
  by_cases h : fence <:+ cs
  · obtain ⟨front, rfl⟩ := h
    obtain ⟨gap, _, hgap⟩ := dropClosingFence_closed front
    exact List.IsPrefix.trans ⟨gap, hgap.symm⟩ (List.prefix_append front fence)
  · exact ⟨[], by rw [List.append_nil, dropClosingFence_eq_self h]⟩

/-! ## Fenced code -/

inductive OpeningFence : List Char → Prop
  | absent : OpeningFence []
  | named {letters : List Char} : (∀ c ∈ letters, isAsciiLetter c = true) →
      OpeningFence (fence ++ letters ++ ['\n'])

inductive ClosingFence : List Char → Prop
  | absent : ClosingFence []
  | sameLine : ClosingFence fence
  | ownLine : ClosingFence ('\n' :: fence)

/-- What may stand behind trimmed code after trimming the reply: nothing, or blanks and a fence. -/
def Closed (tail : List Char) : Prop :=
  tail = [] ∨ ∃ gap, (∀ c ∈ gap, isBlankChar c = true) ∧ tail = gap ++ fence

/-- What may stand before it: nothing, or a fence and blanks. -/
def Opened (lead : List Char) : Prop :=
  lead = [] ∨ ∃ letters gap, (∀ c ∈ letters, isAsciiLetter c = true) ∧
    (∀ c ∈ gap, isBlankChar c = true) ∧
    lead = fence ++ letters ++ '\n' :: gap

section
variable {code lead tail gap closing opening : List Char}

theorem ClosingFence.closed (h : ClosingFence closing) (hgap : ∀ c ∈ gap, isBlankChar c = true)
    {after : List Char} (hafter : ∀ c ∈ after, isBlankChar c = true) :
    ∃ tail rest, gap ++ closing ++ after = tail ++ rest ∧ Closed tail ∧ ∀ c ∈ rest,
      isBlankChar c = true := by
  cases h with
  | absent =>
    refine ⟨[], gap ++ after, by simp, .inl rfl, ?_⟩
    intro c hc
    exact (List.mem_append.mp hc).elim (hgap c) (hafter c)
  | sameLine => exact ⟨gap ++ fence, after, rfl, .inr ⟨gap, hgap, rfl⟩, hafter⟩
  | ownLine =>
    refine ⟨gap ++ ['\n'] ++ fence, after, by simp, .inr ⟨gap ++ ['\n'], ?_, rfl⟩, hafter⟩
    rw [List.forall_mem_append]
    exact ⟨hgap, blank_break⟩

theorem OpeningFence.opened (h : OpeningFence opening) (hgap : ∀ c ∈ gap, isBlankChar c = true)
    {before : List Char} (hbefore : ∀ c ∈ before, isBlankChar c = true) :
    ∃ rest lead, before ++ opening ++ gap = rest ++ lead ∧ Opened lead ∧ ∀ c ∈ rest,
      isBlankChar c = true := by
  cases h with
  | absent =>
    refine ⟨before ++ gap, [], by simp, .inl rfl, ?_⟩
    intro c hc
    exact (List.mem_append.mp hc).elim (hbefore c) (hgap c)
  | @named letters hletters =>
    exact ⟨before, fence ++ letters ++ '\n' :: gap,
      by simp, .inr ⟨letters, gap, hletters, hgap, rfl⟩, hbefore⟩

theorem bare_fenced (hne : code ≠ []) (hcode : Bare isBlankChar code) (hlead : Opened lead)
    (htail : Closed tail) :
    Bare isBlankChar (lead ++ code ++ tail) where
  head c hc := by
    rcases hlead with rfl | ⟨letters, gap, _, _, rfl⟩
    · rw [List.nil_append, List.head?_append_of_ne_nil _ hne] at hc
      exact hcode.head c hc
    · obtain rfl : Char.ofNat 96 = c := Option.some.inj hc
      rfl
  last c hc := by
    rcases htail with rfl | ⟨gap, _, rfl⟩
    · rw [List.append_nil, List.getLast?_append_of_ne_nil _ hne] at hc
      exact hcode.last c hc
    · rw [← List.append_assoc, List.getLast?_append_of_ne_nil _ (show fence ≠ [] by decide)] at hc
      obtain rfl : Char.ofNat 96 = c := Option.some.inj hc
      rfl

/-- Code that does not begin with a fence does not either with what is behind it: a fence may be
completed by one at the end, but then no line break follows. -/
theorem dropOpeningFence_code (hcode : ¬ fence <+: code) (htail : Closed tail) :
    dropOpeningFence (code ++ tail) = code ++ tail := by
  rcases dropOpeningFence_cases (code ++ tail) with h | ⟨letters, _, h⟩
  · exact h
  · exfalso
    generalize dropOpeningFence (code ++ tail) = rest at h
    have hpre : fence <+: code ++ tail := by
      rw [h, List.append_assoc]
      exact List.prefix_append fence _
    rcases prefix_append_split hpre with hpre | ⟨missing, _, hfence⟩
    · exact hcode hpre
    · have htail' : tail = missing ++ (letters ++ '\n' :: rest) := by
        rw [hfence] at h
        simpa using h
      cases missing with
      | nil => exact hcode ⟨[], by simpa using hfence⟩
      | cons c missing =>
        have hc : isBlankChar c = false := not_blank_of_mem_fence c (by rw [hfence]; simp)
        rcases htail with rfl | ⟨gap, hgap, rfl⟩
        · cases htail'
        · cases gap with
          | nil =>
            have hbreak : '\n' ∈ fence := by
              rw [show fence = [] ++ fence from rfl, htail']
              simp
            exact absurd hbreak (by decide)
          | cons d gap =>
            obtain ⟨rfl, _⟩ := List.cons.inj htail'
            rw [hgap d (by simp)] at hc
            cases hc

theorem dropOpeningFence_fenced (hlead : Opened lead) (hcode : ¬ fence <+: code)
    (htail : Closed tail) :
    ∃ gap, (∀ c ∈ gap, isBlankChar c = true) ∧
      dropOpeningFence (lead ++ code ++ tail) = gap ++ code ++ tail := by
  rcases hlead with rfl | ⟨letters, gap, hletters, hgap, rfl⟩
  · exact ⟨[], by simp, dropOpeningFence_code hcode htail⟩
  · refine ⟨gap, hgap, ?_⟩
    have opened := dropOpeningFence_opened hletters (gap ++ code ++ tail)
    simpa using opened

theorem not_fence_suffix (hgap : ∀ c ∈ gap, isBlankChar c = true) (hcode : ¬ fence <:+ code) :
    ¬ fence <:+ gap ++ code := by
  intro h
  rcases List.suffix_or_suffix_of_suffix h
    (List.suffix_append gap code) with hsuf | ⟨missing, hfence⟩
  · exact hcode hsuf
  · cases missing with
    | nil => exact hcode ⟨[], hfence.symm⟩
    | cons c missing =>
      obtain ⟨front, hfront⟩ := h
      have hpart : front ++ (c :: missing) = gap := by
        rw [← hfence, ← List.append_assoc] at hfront
        exact List.append_cancel_right hfront
      have hblank : isBlankChar c = true := hgap c (by rw [← hpart]; simp)
      have hc : isBlankChar c = false := not_blank_of_mem_fence c (by rw [← hfence]; simp)
      rw [hblank] at hc
      cases hc

theorem trimEnds_dropClosingFence (hgap : ∀ c ∈ gap, isBlankChar c = true)
    (hcode : ¬ fence <:+ code) (htail : Closed tail) :
    trimEnds isBlankChar (dropClosingFence (gap ++ code ++ tail)) = trimEnds isBlankChar code := by
  rcases htail with rfl | ⟨after, hafter, rfl⟩
  · rw [List.append_nil, dropClosingFence_eq_self (not_fence_suffix hgap hcode),
      trimEnds_prepend hgap]
  · obtain ⟨cut, hcut, h⟩ := dropClosingFence_closed (gap ++ code ++ after)
    calc trimEnds isBlankChar (dropClosingFence (gap ++ code ++ (after ++ fence)))
        = trimEnds isBlankChar (dropClosingFence (gap ++ code ++ after ++ fence) ++ cut) := by
          rw [trimEnds_append hcut, List.append_assoc (gap ++ code)]
      _ = trimEnds isBlankChar (gap ++ code ++ after) := by rw [← h]
      _ = trimEnds isBlankChar code := by rw [trimEnds_append hafter, trimEnds_prepend hgap]

end

def trimmed (text : String) : List Char :=
  trimEnds isBlankChar text.toList

theorem toList_unfence (reply : String) : (unfence reply).toList =
    trimEnds isBlankChar (dropClosingFence (dropOpeningFence (trimmed reply))) :=
  String.toList_ofList

/-- **The code of a reply is what stands between its fences.** Of any reply it is a part with no
blank at its ends. -/
theorem unfence_fenced :
    (∀ before opening code closing after : String, (∀ c ∈ before.toList, isBlankChar c = true) →
      OpeningFence opening.toList → (∃ c ∈ code.toList, isBlankChar c = false) →
      ¬ fence <+: trimmed code → ¬ fence <:+ trimmed code → ClosingFence closing.toList →
      (∀ c ∈ after.toList, isBlankChar c = true) →
      unfence (before ++ opening ++ code ++ closing ++ after) = String.ofList (trimmed code)) ∧
    ∀ reply : String, (unfence reply).toList <:+: reply.toList ∧
    Bare isBlankChar (unfence reply).toList := by
  constructor
  · intro before opening code closing after hbefore hopening hsome hhead hlast hclosing hafter
    obtain ⟨front, back, hcode, hfront, hback⟩ := trimEnds_split isBlankChar code.toList
    obtain ⟨skipped, lead, hlead, opened, hskipped⟩ := hopening.opened hfront hbefore
    obtain ⟨tail, rest, htail, closed, hrest⟩ := hclosing.closed hback hafter
    have bare : Bare isBlankChar (trimmed code) := bare_trimEnds
    have filled : trimmed code ≠ [] := trimEnds_ne_nil hsome
    have whole : (before ++ opening ++ code ++ closing ++ after).toList =
        skipped ++ (lead ++ trimmed code ++ tail) ++ rest := by
      calc (before ++ opening ++ code ++ closing ++ after).toList
          = (before.toList ++ opening.toList ++ front) ++ trimmed code ++
            (back ++ closing.toList ++ after.toList) := by
            simp only [String.toList_append]
            rw [hcode]
            simp only [List.append_assoc, trimmed]
        _ = skipped ++ (lead ++ trimmed code ++ tail) ++ rest := by
            rw [hlead, htail]
            simp only [List.append_assoc]
    have inner : trimmed (before ++ opening ++ code ++ closing ++ after) =
        lead ++ trimmed code ++ tail := by
      rw [trimmed, whole, trimEnds_append hrest, trimEnds_prepend hskipped,
        (bare_fenced filled bare opened closed).trimEnds_eq]
    obtain ⟨gap, hgap, hdrop⟩ := dropOpeningFence_fenced opened hhead closed
    rw [← String.toList_inj, toList_unfence, inner, hdrop,
      trimEnds_dropClosingFence hgap hlast closed, bare.trimEnds_eq, String.toList_ofList]
  · intro reply
    rw [toList_unfence]
    refine ⟨?_, bare_trimEnds⟩
    apply trimEnds_infix.trans
    apply (prefix_dropClosingFence _).isInfix.trans
    apply (suffix_dropOpeningFence _).isInfix.trans
    exact trimEnds_infix

theorem unfence_fenced_ticks : unfence "\n  ```js\n ``x` \n```\t" = "``x`" := by
  have before : ∀ c ∈ "\n  ".toList, isBlankChar c = true := List.all_eq_true.mp (by decide)
  have after : ∀ c ∈ "\t".toList, isBlankChar c = true := List.all_eq_true.mp (by decide)
  have letters : ∀ c ∈ ['j', 's'], isAsciiLetter c = true := List.all_eq_true.mp (by decide)
  have opening : OpeningFence "```js\n".toList := by
    rw [show "```js\n".toList = fence ++ ['j', 's'] ++ ['\n'] by decide]
    exact .named letters
  have closing : ClosingFence "\n```".toList := by
    rw [show "\n```".toList = '\n' :: fence by decide]
    exact .ownLine
  have code : trimmed " ``x` " = "``x`".toList := by decide +kernel
  have plain := unfence_fenced.1 "\n  " "```js\n" " ``x` " "\n```" "\t" before opening
    ⟨'x', by decide, rfl⟩ (by rw [code]; decide) (by rw [code]; decide) closing after
  rw [code, String.ofList_toList] at plain
  exact plain

end SceneSketch
