import Mathlib.Data.List.Nodup
import SceneSketch.Check.Compatibility
import SceneSketch.Proofs.Sections

/-!
# The call that creates the canvas

The compatibility check looks for a head of a function `setup` with `createCanvas` behind it and no
closing brace in between (`createsCanvas_iff`). A block that is closed in the body of `setup` hides
what follows it from the check, and another function of that name may be taken for it: these are the
only reasons for a sketch to be judged otherwise than by its `setup` section
(`Sketch.canvas_unreported_iff`).
-/

namespace SceneSketch

/-! ## What the check looks for -/

/-- The head of a function `setup` with any parameters, up to its opening brace. -/
inductive SetupHead : List Char → Prop
  | parts {keyword called parameters closed : List Char} : keyword ≠ [] →
    (∀ c ∈ keyword ++ called ++ closed, isBlankChar c = true) → ')' ∉ parameters →
    SetupHead ("function".toList ++ keyword ++ "setup".toList ++ called ++ ['('] ++ parameters ++
      [')'] ++ closed ++ ['\x7b'])

def CreatesFirst (text : List Char) : Prop :=
  ∃ before, '\x7d' ∉ before ∧ before ++ "createCanvas".toList <+: text

/-- A head of `setup` stands in the text, and the rest is what follows it. -/
def HeadBefore (text rest : List Char) : Prop :=
  ∃ before head, SetupHead head ∧ text = before ++ head ++ rest

/-- Some head of `setup` is followed by `createCanvas` in front of the next closing brace. -/
def CreatesInSetup (text : List Char) : Prop :=
  ∃ rest, HeadBefore text rest ∧ CreatesFirst rest

theorem fits_setupHead {text : List Char} : Fits (· = ·) setupHead text ↔ SetupHead text := by
  rw [setupHead]
  simp only [↓fits_word_iff, fits_cons_iff, fits_nil_iff]
  constructor
  · rintro ⟨_, rfl, keyword, _, rfl, ⟨gap, hkeyword⟩, _, rfl, called, _, rfl, hcalled, _, rfl,
      parameters, _, rfl, hparameters, _, rfl, closed, _, rfl, hclosed, _, rfl, rfl⟩
    have blank : ∀ c ∈ keyword ++ called ++ closed, isBlankChar c = true := by
      simpa only [List.forall_mem_append] using ⟨⟨hkeyword, hcalled⟩, hclosed⟩
    simpa using SetupHead.parts gap blank fun h => hparameters _ h rfl
  · rintro ⟨gap, blank, hparameters⟩
    rename_i keyword called parameters closed
    simp only [List.forall_mem_append] at blank
    obtain ⟨⟨hkeyword, hcalled⟩, hclosed⟩ := blank
    have other : ∀ c ∈ parameters, c ≠ ')' := fun c hc e => hparameters (e ▸ hc)
    exact ⟨_, by simp, keyword, _, rfl, ⟨gap, hkeyword⟩, _, rfl, called, _, rfl, hcalled,
      _, rfl, parameters, _, rfl, other, _, rfl, closed, _, rfl, hclosed, [], rfl, rfl⟩

theorem firm_setupHead : Firm (· = ·) setupHead := by
  have parameters (c : Char) (hc : (PatternPart.until ')').runsOver c = true) :
      decide (')' = c) = false := by
    have other : c ≠ ')' := by simpa [PatternPart.runsOver] using hc
    exact decide_eq_false fun e => other e.symm
  exact ⟨decide_eq_false_of_blank (by decide), decide_eq_false_of_blank (by decide), parameters,
    decide_eq_false_of_blank (by decide), trivial⟩

theorem prefix_takeWhile_iff {p : Char → Bool} {front text : List Char} :
    front <+: text.takeWhile p ↔ (∀ c ∈ front, p c = true) ∧ front <+: text := by
  constructor
  · intro h
    exact ⟨fun c hc => List.mem_takeWhile_imp (h.subset hc), h.trans (List.takeWhile_prefix p)⟩
  · rintro ⟨all, rest, rfl⟩
    rw [List.takeWhile_append_of_pos all]
    exact List.prefix_append _ _

theorem createsFirst_iff {text : List Char} :
    someSuffix ("createCanvas".toList.isPrefixOf ·) (text.takeWhile (· ≠ '\x7d')) = true ↔
      CreatesFirst text := by
  have word : '\x7d' ∉ "createCanvas".toList := by decide
  have front {before : List Char} :
      before ++ "createCanvas".toList <+: text.takeWhile (· ≠ '\x7d') ↔
      '\x7d' ∉ before ∧ before ++ "createCanvas".toList <+: text := by
    rw [prefix_takeWhile_iff]
    apply and_congr_left'
    constructor
    · intro all hmem
      simpa using all _ (List.mem_append_left _ hmem)
    · intro absent c hc
      refine decide_eq_true ?_
      rintro rfl
      exact (List.mem_append.mp hc).elim absent word
  simp only [someSuffix_iff, List.isPrefixOf_iff_prefix, CreatesFirst, ← front]
  constructor
  · intro ⟨s, ⟨before, he⟩, hs⟩
    exact ⟨before, he ▸ (List.prefix_append_right_inj before).mpr hs⟩
  · intro ⟨before, rest, he⟩
    exact ⟨"createCanvas".toList ++ rest, ⟨before, by rw [← he, List.append_assoc]⟩,
      List.prefix_append _ _⟩

/-- **The check finds the call exactly if some head of `setup` has it in front of the next closing
brace.** -/
theorem createsCanvas_iff {code : String} :
    createsCanvas code = true ↔ CreatesInSetup code.toList := by
  rw [createsCanvas, someSuffix_iff]
  simp only [Option.any_eq_true, createsFirst_iff]
  constructor
  · intro ⟨s, ⟨before, hs⟩, rest, hrest, first⟩
    obtain ⟨head, rfl, hhead⟩ := fits_of_afterParts? hrest
    exact ⟨rest, ⟨before, head, fits_setupHead.mp hhead, by rw [← hs, List.append_assoc]⟩, first⟩
  · intro ⟨rest, ⟨before, head, hhead, hs⟩, first⟩
    refine ⟨head ++ rest, ⟨before, by rw [hs, List.append_assoc]⟩, rest, ?_, first⟩
    have closed : rest.dropWhile (openEnd setupHead) = rest := by cases rest <;> rfl
    rw [afterParts?_of_fits firm_setupHead (fits_setupHead.mpr hhead), closed]

/-! ## Heads in texts that are put together -/

namespace SetupHead

variable {head : List Char}

theorem starts (h : SetupHead head) : ∃ rest, head = 'f' :: rest := by
  cases h
  exact ⟨_, rfl⟩

theorem ends (h : SetupHead head) : ∃ front, head = front ++ ['\x7b'] := by
  cases h
  exact ⟨_, rfl⟩

theorem named (h : SetupHead head) : "setup".toList <:+: head := by
  cases h
  simp only [List.append_assoc]
  exact (List.prefix_append _ _).isInfix.trans
    (((List.suffix_append _ _).trans (List.suffix_append _ _)).isInfix)

/-- A brace in the parameters is not preceded by a parenthesis that closes them. -/
theorem unclosed {front rest : List Char} (h : SetupHead (front ++ '\x7b' :: rest))
    (more : rest ≠ []) :
    ')' ∉ front := by
  generalize he : front ++ '\x7b' :: rest = head at h
  obtain ⟨-, blank, inside⟩ := h
  rename_i keyword called parameters closed
  simp only [List.forall_mem_append] at blank
  obtain ⟨⟨hkeyword, hcalled⟩, hclosed⟩ := blank
  have visible {d : Char} (hd : isBlankChar d = false) {gap : List Char}
      (hgap : ∀ c ∈ gap, isBlankChar c = true) :
      d ∉ gap := fun h => by
    have := hgap d h
    rw [hd] at this
    cases this
  have absent : ')' ∉ "function".toList ++ keyword ++ "setup".toList ++ called ++ ['('] ++
      parameters := by
    simp [visible (d := ')') (by decide) hkeyword, visible (d := ')') (by decide) hcalled, inside]
  rw [List.append_assoc _ [')'], List.append_assoc _ ([')'] ++ closed)] at he
  rcases List.append_eq_append_iff.mp he with ⟨between, heq, -⟩ | ⟨between, rfl, heq⟩
  · rw [heq] at absent
    exact fun h => absent (List.mem_append_left _ h)
  · -- the last brace is the only one behind the parameters
    obtain ⟨last, c, rfl⟩ := (List.eq_nil_or_concat' rest).resolve_left more
    rw [← List.cons_append, ← List.append_assoc] at heq
    have brace : '\x7b' ∈ [')'] ++ closed := by
      rw [(List.append_inj' heq rfl).1]
      simp
    have other : '\x7b' ∉ [')'] ++ closed := by simp [visible (d := '\x7b') (by decide) hclosed]
    exact absurd brace other

end SetupHead

section
variable {text front back rest : List Char}

theorem HeadBefore.named (h : HeadBefore text rest) : "setup".toList <:+: text := by
  obtain ⟨before, head, hhead, rfl⟩ := h
  exact hhead.named.trans ⟨before, rest, rfl⟩

theorem HeadBefore.of_cons {c : Char} (hc : c ≠ 'f') (h : HeadBefore (c :: text) rest) :
    HeadBefore text rest := by
  obtain ⟨before, head, hhead, he⟩ := h
  cases before with
  | nil =>
    obtain ⟨more, rfl⟩ := hhead.starts
    exact absurd (List.cons.inj he).1 hc
  | cons d before => exact ⟨before, head, hhead, (List.cons.inj he).2⟩

theorem HeadBefore.of_unopened (hb : '\x7b' ∉ back) (h : HeadBefore (front ++ back) rest) :
    ∃ more, rest = more ++ back ∧ HeadBefore front more := by
  obtain ⟨before, head, hhead, he⟩ := h
  obtain ⟨name, rfl⟩ := hhead.ends
  rcases List.append_eq_append_iff.mp he with ⟨between, heq, rfl⟩ | ⟨between, rfl, rfl⟩
  · rcases List.eq_nil_or_concat' between with rfl | ⟨last, c, rfl⟩
    · exact ⟨[], rfl, before, _, hhead, by simpa using heq.symm⟩
    · rw [← List.append_assoc, ← List.append_assoc] at heq
      have brace := (List.append_inj' heq rfl).2
      simp only [List.cons.injEq, and_true] at brace
      exact absurd (by simp [← brace]) hb
  · exact ⟨between, rfl, before, _, hhead, rfl⟩

def headerEnd : List Char := [')', ' ', '\x7b']

theorem HeadBefore.of_headerEnd (h : HeadBefore (front ++ headerEnd) rest) (more : rest ≠ []) :
    ∃ between, rest = between ++ headerEnd ∧ HeadBefore front between := by
  obtain ⟨before, head, hhead, he⟩ := h
  obtain ⟨last, c, rfl⟩ := (List.eq_nil_or_concat' rest).resolve_left more
  have parts : front ++ [')', ' '] ++ ['\x7b'] = before ++ head ++ last ++ [c] := by
    simpa [headerEnd] using he
  obtain ⟨heq, hbrace⟩ := List.append_inj' parts rfl
  obtain ⟨between, rfl, behind⟩ := HeadBefore.of_unopened (by decide) ⟨before, head, hhead, heq⟩
  exact ⟨between, by simp [headerEnd, ← hbrace], behind⟩

theorem SetupHead.behind_header {before within : List Char} (h : SetupHead (within ++ rest))
    (more : rest ≠ []) (he : front ++ headerEnd = before ++ within) : within = [] := by
  rcases List.eq_nil_or_concat' within with rfl | ⟨inner, c, rfl⟩
  · rfl
  · have parts : front ++ [')', ' '] ++ ['\x7b'] = before ++ inner ++ [c] := by
      simpa [headerEnd] using he
    obtain ⟨heq, hbrace⟩ := List.append_inj' parts rfl
    obtain rfl := List.singleton_inj.mp hbrace.symm
    rw [List.append_assoc, List.singleton_append] at h
    have unclosed := h.unclosed more
    obtain ⟨name, starts⟩ := h.starts
    rcases List.append_eq_append_iff.mp heq with ⟨between, -, hinner⟩ | ⟨between, -, rfl⟩
    · have letters : ∀ c ∈ inner, c ∈ [')', ' '] := fun c hc =>
        hinner ▸ List.mem_append_right between hc
      cases inner with
      | nil => cases starts
      | cons c inner =>
        obtain ⟨rfl, -⟩ := List.cons.inj starts
        exact absurd (letters 'f' List.mem_cons_self) (by decide)
    · simp at unclosed

/-- **A head lies on one side of the header of another function, or ends with it.** -/
theorem HeadBefore.of_header (h : HeadBefore (front ++ headerEnd ++ back) rest) :
    (∃ between, rest = between ++ headerEnd ++ back ∧ HeadBefore front between) ∨
      (rest = back ∧ HeadBefore (front ++ headerEnd) []) ∨ HeadBefore back rest := by
  obtain ⟨before, head, hhead, he⟩ := h
  rcases List.append_eq_append_iff.mp he with ⟨between, heq, rfl⟩ | ⟨between, heq, rfl⟩
  · rcases List.append_eq_append_iff.mp heq with ⟨within, hfront, rfl⟩ | ⟨within, rfl, rfl⟩
    · by_cases more : between = []
      · subst more
        exact .inr (.inl ⟨rfl, before, within, by simpa using hhead, by simp [hfront]⟩)
      · obtain rfl := hhead.behind_header more hfront
        exact .inr (.inr ⟨[], between, hhead, rfl⟩)
    · exact .inr (.inr ⟨within, head, hhead, rfl⟩)
  · have inside : HeadBefore (front ++ headerEnd) between := ⟨before, head, hhead, heq⟩
    by_cases more : between = []
    · subst more
      exact .inr (.inl ⟨rfl, inside⟩)
    · obtain ⟨between, rfl, behind⟩ := inside.of_headerEnd more
      exact .inl ⟨between, rfl, behind⟩

end

/-! ## The word in texts that are put together -/

section
variable {text front back : List Char}

theorem CreatesFirst.append (h : CreatesFirst text) (back : List Char) :
    CreatesFirst (text ++ back) := by
  obtain ⟨before, absent, hword⟩ := h
  exact ⟨before, absent, hword.trans (List.prefix_append text back)⟩

theorem createsFirst_body : CreatesFirst (front ++ '\n' :: '\x7d' :: back) ↔
    CreatesFirst front := by
  constructor
  · intro ⟨before, absent, hword⟩
    rcases prefix_append_split hword with inside | ⟨more, hmore, he⟩
    · exact ⟨before, absent, inside⟩
    rcases List.prefix_cons_iff.mp hmore with rfl | ⟨more, rfl, hrest⟩
    · rw [List.append_nil] at he
      exact ⟨before, absent, he ▸ List.prefix_rfl⟩
    rcases List.prefix_cons_iff.mp hrest with rfl | ⟨more, rfl, -⟩
    · have last := congrArg List.getLast? he
      simp at last
    · have brace : '\x7d' ∈ before ++ "createCanvas".toList := by
        rw [he]
        simp
      exact absurd brace (by simpa using absent)
  · exact fun h => h.append _

theorem createsFirst_break : CreatesFirst ('\n' :: text) ↔ CreatesFirst text := by
  constructor
  · intro ⟨before, absent, hword⟩
    cases before with
    | nil => exact absurd (List.cons_prefix_cons.mp hword).1 (by decide)
    | cons c before =>
      have hrest := (List.cons_prefix_cons.mp hword).2
      exact ⟨before, fun h => absent (List.mem_cons_of_mem _ h), hrest⟩
  · intro ⟨before, absent, hword⟩
    exact ⟨'\n' :: before, by simpa using absent, List.cons_prefix_cons.mpr ⟨rfl, hword⟩⟩

theorem CreatesInSetup.of_infix {part : List Char} (h : CreatesInSetup part)
    (hpart : part <:+: text) :
    CreatesInSetup text := by
  obtain ⟨front, back, rfl⟩ := hpart
  obtain ⟨rest, ⟨before, head, hhead, rfl⟩, first⟩ := h
  exact ⟨rest ++ back, ⟨front ++ before, head, hhead, by simp only [List.append_assoc]⟩,
    first.append back⟩

theorem CreatesInSetup.named (h : CreatesInSetup text) : "setup".toList <:+: text := by
  obtain ⟨rest, behind, -⟩ := h
  exact behind.named

end

/-! ## Sketches -/

namespace Sketch

def linesFromSetup (sketch : Sketch) : List String :=
  sketch.setup :: "\x7d" :: "" :: (banner "DRAW" ++ functionLines drawHeader sketch.draw ++
    trailingLines "HELPER FUNCTIONS" (sketch.helpers.getD "") ++
    trailingLines "EVENT HANDLERS" (sketch.events.getD ""))

def brokenLines (ls : List String) : List Char :=
  ls.flatMap fun l => l.toList ++ ['\n']

theorem toList_intercalate_append (ls : List String) {ks : List String} (h : ks ≠ []) :
    (String.intercalate "\n" (ls ++ ks)).toList =
      brokenLines ls ++ (String.intercalate "\n" ks).toList := by
  induction ls with
  | nil => rfl
  | cons l ls ih =>
    rw [List.cons_append, toList_intercalate_cons (by simp [h]), ih]
    simp [brokenLines]

theorem toList_code (sketch : Sketch) : sketch.code.toList =
    brokenLines (preloadLines (sketch.preload.getD "") ++ banner "SETUP") ++
      "function setup(".toList ++ headerEnd ++
      '\n' :: (String.intercalate "\n" sketch.linesFromSetup).toList := by
  have parts : sketch.lines = preloadLines (sketch.preload.getD "") ++ banner "SETUP" ++
      (setupHeader ++ " \x7b") :: sketch.linesFromSetup := by
    simp [lines, linesFromSetup, functionLines]
  have filled : sketch.linesFromSetup ≠ [] := List.cons_ne_nil _ _
  rw [code, parts, toList_intercalate_append _ (List.cons_ne_nil _ _),
    toList_intercalate_cons filled]
  simp [setupHeader, headerEnd]

theorem toList_linesFromSetup (sketch : Sketch) : ∃ back,
    (String.intercalate "\n" sketch.linesFromSetup).toList =
      sketch.setup.toList ++ '\n' :: '\x7d' :: back := by
  rw [linesFromSetup, toList_intercalate_cons (List.cons_ne_nil _ _),
    toList_intercalate_cons (List.cons_ne_nil _ _)]
  exact ⟨_, rfl⟩

theorem headBefore_preload {sketch : Sketch} {rest : List Char}
    (h : HeadBefore
      (brokenLines (preloadLines (sketch.preload.getD "") ++ banner "SETUP") ++
        "function setup(".toList) rest) :
    ∃ more back, rest = more ++ '\n' :: '\x7d' :: back ∧
      HeadBefore (sketch.preload.getD "").toList more := by
  have unopened : '\x7b' ∉ brokenLines (banner "SETUP") ++ "function setup(".toList := by
    decide +kernel
  unfold preloadLines at h
  split at h
  · obtain ⟨more, -, behind⟩ := @HeadBefore.of_unopened [] _ _ unopened h
    exact absurd behind.named (by decide)
  · have parts : brokenLines
        (banner "PRELOAD" ++ functionLines "function preload()" (sketch.preload.getD "") ++ [""] ++
        banner "SETUP") ++ "function setup(".toList =
          brokenLines (banner "PRELOAD") ++ "function preload(".toList ++ headerEnd ++
            '\n' :: (sketch.preload.getD "").toList ++
            (brokenLines ["", "\x7d", ""] ++
              (brokenLines (banner "SETUP") ++ "function setup(".toList)) := by
      simp [brokenLines, functionLines, headerEnd]
    rw [parts] at h
    have between : '\x7b' ∉ brokenLines ["", "\x7d", ""] ++
        (brokenLines (banner "SETUP") ++ "function setup(".toList) := by
      decide +kernel
    obtain ⟨more, rfl, behind⟩ := h.of_unopened between
    refine ⟨more, _, rfl, ?_⟩
    rcases behind.of_header with ⟨_, -, before⟩ | ⟨-, own⟩ | inside
    · exact absurd before.named (by decide +kernel)
    · exact absurd own.named (by decide +kernel)
    · exact inside.of_cons (by decide)

theorem setupHead_header : SetupHead ("function setup(".toList ++ headerEnd) :=
  @SetupHead.parts [' '] [] [] [' '] (by simp) (List.all_eq_true.mp (by decide)) (by simp)

theorem preload_part (sketch : Sketch) :
    (sketch.preload.getD "").toList <:+: sketch.code.toList := by
  by_cases h : sketch.preload.getD "" = ""
  · rw [h]
    exact List.nil_infix
  · exact infix_of_mem_lines (by simp [lines, preloadLines, functionLines, h])

/-- **The check judges a sketch by its `setup` section, unless another function has that name.** -/
theorem createsCanvas_code (sketch : Sketch) : createsCanvas sketch.code = true ↔
    CreatesFirst sketch.setup.toList ∨ CreatesInSetup (sketch.preload.getD "").toList ∨
      CreatesInSetup (String.intercalate "\n" sketch.linesFromSetup).toList := by
  rw [createsCanvas_iff]
  obtain ⟨back, body⟩ := sketch.toList_linesFromSetup
  have own : CreatesFirst ('\n' :: (String.intercalate "\n" sketch.linesFromSetup).toList) ↔
      CreatesFirst sketch.setup.toList := by
    rw [createsFirst_break, body, createsFirst_body]
  constructor
  · rw [toList_code]
    intro ⟨rest, behind, first⟩
    rcases behind.of_header with ⟨between, rfl, before⟩ | ⟨rfl, -⟩ | behind
    · obtain ⟨more, back, rfl, inside⟩ := headBefore_preload before
      simp only [List.append_assoc, List.cons_append] at first
      exact .inr (.inl ⟨more, inside, createsFirst_body.mp first⟩)
    · exact .inl (own.mp first)
    · exact .inr (.inr ⟨rest, behind.of_cons (by decide), first⟩)
  · rintro (first | inside | behind)
    · refine ⟨_, ⟨brokenLines (preloadLines (sketch.preload.getD "") ++ banner "SETUP"), _,
        setupHead_header, ?_⟩, own.mpr first⟩
      rw [toList_code, List.append_assoc (brokenLines _)]
    · exact inside.of_infix sketch.preload_part
    · refine behind.of_infix ?_
      rw [toList_code]
      exact ((List.suffix_cons '\n' _).trans (List.suffix_append _ _)).isInfix

theorem exists_line_of_infix {word : List Char} (filled : word ≠ []) (hbreak : '\n' ∉ word) :
    ∀ {ls : List String}, word <:+: (String.intercalate "\n" ls).toList → ∃ l ∈ ls,
      word <:+: l.toList
  | [], h => absurd (List.infix_nil.mp h) filled
  | [l], h => ⟨l, List.mem_singleton_self l, by simpa using h⟩
  | l :: k :: ls, h => by
    rw [toList_intercalate_cons (List.cons_ne_nil k ls)] at h
    rcases infix_append_cons hbreak h with here | behind
    · exact ⟨l, List.mem_cons_self, here⟩
    · obtain ⟨m, hm, inside⟩ := exists_line_of_infix filled hbreak behind
      exact ⟨m, List.mem_cons_of_mem l hm, inside⟩

theorem mem_trailingLines {title l : String} {text : Option String}
    (h : l ∈ trailingLines title (text.getD "")) :
    l ∈ "" :: banner title ∨ l ∈ text.toList := by
  cases text with
  | none => exact absurd h List.not_mem_nil
  | some text =>
    unfold trailingLines at h
    split at h
    · exact absurd h List.not_mem_nil
    · rw [← List.cons_append, List.mem_append] at h
      exact h

def frameFromSetup : List String :=
  "\x7d" :: "" :: (drawHeader ++ " \x7b") ::
    (banner "DRAW" ++ banner "HELPER FUNCTIONS" ++ banner "EVENT HANDLERS")

theorem mem_linesFromSetup {sketch : Sketch} {l : String} (h : l ∈ sketch.linesFromSetup) :
    l ∈ frameFromSetup ∨ l ∈ sketch.texts := by
  simp only [linesFromSetup, functionLines, List.mem_cons, List.mem_append, List.not_mem_nil,
    or_false] at h
  simp only [frameFromSetup, texts, List.mem_cons, List.mem_append, List.not_mem_nil, or_false]
  rcases h with setup | brace | gap | ((drawBanner | header | draw | brace) | helpers) | events
  · simp [setup]
  · simp [brace]
  · simp [gap]
  · simp [drawBanner]
  · simp [header]
  · simp [draw]
  · simp [brace]
  · rcases mem_trailingLines helpers with frame | text
    · rcases List.mem_cons.mp frame with gap | title
      · simp [gap]
      · simp [title]
    · exact .inr (.inl (.inr text))
  · rcases mem_trailingLines events with frame | text
    · rcases List.mem_cons.mp frame with gap | title
      · simp [gap]
      · simp [title]
    · exact .inr (.inr text)

theorem named_section {sketch : Sketch}
    (h : "setup".toList <:+: (String.intercalate "\n" sketch.linesFromSetup).toList) :
    ∃ text ∈ sketch.texts, "setup".toList <:+: text.toList := by
  have unnamed : ∀ l ∈ frameFromSetup, ¬ "setup".toList <:+: l.toList := by decide +kernel
  obtain ⟨l, hl, named⟩ := exists_line_of_infix (by simp) (by decide) h
  rcases mem_linesFromSetup hl with frame | text
  · exact absurd named (unnamed l frame)
  · exact ⟨l, text, named⟩

end Sketch

/-! ## The warning -/

theorem Warning.message_injective : Function.Injective message := by
  have distinct : ([noDrawing, canvasOutsideSetup, canvasAccess, contextAccess].map
      message).Nodup := by
    decide
  have listed (warning : Warning) :
      warning ∈ [noDrawing, canvasOutsideSetup, canvasAccess, contextAccess] := by
    cases warning <;> simp
  intro warning other h
  exact List.inj_on_of_nodup_map distinct (listed warning) (listed other) h

theorem canvasOutsideSetup_mem_warnings {code : String} :
    Warning.canvasOutsideSetup.message ∈ (warnings code).map Warning.message ↔
      createsCanvas code ≠ true := by
  rw [List.mem_map_of_injective Warning.message_injective]
  by_cases creates : createsCanvas code = true <;> simp [warnings, creates]

namespace Sketch

theorem createsCanvas_of_unnamed {sketch : Sketch}
    (unnamed : ∀ text ∈ sketch.texts, ¬ "setup".toList <:+: text.toList) :
    createsCanvas sketch.code = true ↔ CreatesFirst sketch.setup.toList := by
  rw [createsCanvas_code]
  apply or_iff_left
  rintro (inside | behind)
  · cases given : sketch.preload with
    | none =>
      rw [given] at inside
      exact absurd inside.named (by decide)
    | some text =>
      rw [given] at inside
      exact unnamed text (by simp [texts, given]) inside.named
  · obtain ⟨text, member, named⟩ := named_section behind.named
    exact unnamed text member named

/-- **When a sketch gets no warning about its canvas.** Its `setup` section has to create the canvas
before it closes any block, or another function named `setup` has to, which is declared in the
`preload` section or behind the header of `setup`. If no section mentions that name, the `setup`
section alone decides. -/
theorem canvas_unreported_iff (sketch : Sketch) :
    let messages := (warnings sketch.code).map Warning.message
    ("createCanvas() should be called in setup()" ∉ messages ↔
      CreatesFirst sketch.setup.toList ∨ CreatesInSetup (sketch.preload.getD "").toList ∨
        CreatesInSetup (String.intercalate "\n" sketch.linesFromSetup).toList) ∧
    ((∀ text ∈ sketch.texts, ¬ "setup".toList <:+: text.toList) →
      ("createCanvas() should be called in setup()" ∉ messages ↔
        CreatesFirst sketch.setup.toList)) := by
  intro messages
  have unreported : "createCanvas() should be called in setup()" ∉ messages ↔
      createsCanvas sketch.code = true :=
    (not_congr canvasOutsideSetup_mem_warnings).trans not_not
  exact ⟨unreported.trans sketch.createsCanvas_code, fun unnamed =>
    unreported.trans (createsCanvas_of_unnamed unnamed)⟩

theorem canvas_unreported_closing :
    let sketch : Sketch :=
      { setup := "  createCanvas(400, 400);\n  if (displayDensity() > 1) \x7b\n    pixelDensity(1);\n  \x7d",
        draw := "  ellipse(mouseX, mouseY, 50, 50);" }
    "createCanvas() should be called in setup()" ∉ (warnings sketch.code).map Warning.message := by
  intro sketch
  have unnamed : ∀ text ∈ sketch.texts, ¬ "setup".toList <:+: text.toList := by decide +kernel
  exact (sketch.canvas_unreported_iff.2 unnamed).mpr ⟨"  ".toList, by decide, by decide⟩

/-- A block that is closed in front of the call hides it. -/
theorem canvas_reported_nested :
    let sketch : Sketch :=
      { setup := "  if (displayDensity() > 1) \x7b\n    pixelDensity(1);\n  \x7d\n  createCanvas(400, 400);",
        draw := "  ellipse(mouseX, mouseY, 50, 50);" }
    "createCanvas".toList <:+: sketch.setup.toList ∧
      "createCanvas() should be called in setup()" ∈
        (warnings sketch.code).map Warning.message := by
  intro sketch
  have unnamed : ∀ text ∈ sketch.texts, ¬ "setup".toList <:+: text.toList := by decide +kernel
  refine ⟨by decide +kernel, canvasOutsideSetup_mem_warnings.mpr ?_⟩
  rw [Ne, createsCanvas_of_unnamed unnamed, ← createsFirst_iff]
  decide

end Sketch

end SceneSketch
