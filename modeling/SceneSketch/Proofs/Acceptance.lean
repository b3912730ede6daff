import Mathlib.Tactic.IntervalCases
import SceneSketch.Check.Verdict
import SceneSketch.Gallery.Scenes
import SceneSketch.Proofs.Containment
import SceneSketch.Proofs.LeadingWord

/-!
# Compiled scenes pass the checks

The compiler and the checks meet over text. No word that the checks look for is a word of the
grammar, and none reaches across a separator, so none occurs in a line of a body (`Line.harmless`).
The scan for hazards goes line by line because no line begins with a parenthesis. What the checks
ask for stands in the fixed lines and in the first statement of `setup`.
-/

namespace SceneSketch

/-! ## Words that do not occur -/

/-- The words that hazards begin with and those that the other checks look for. -/
def forbiddenWords : List (List Char) :=
  Hazard.all.map Hazard.letters ++ ["p5".toList, "canvas.".toList, "ctx.".toList]

def Harmless (cs : List Char) : Prop :=
  ∀ w ∈ forbiddenWords, ¬ Occurs sameLetter w cs

def isHarmless (cs : List Char) : Bool :=
  forbiddenWords.all fun w => !someSuffix (fun s => (afterLetters? sameLetter w s).isSome) cs

theorem harmless_of_isHarmless {cs : List Char} (h : isHarmless cs = true) : Harmless cs := by
  intro w hw ho
  have := List.all_eq_true.mp h w hw
  rw [someSuffix_of_occurs ho] at this
  cases this

def marks : List Char := '\n' :: ';' :: '(' :: ')' :: separators

theorem forbidden_marks : ∀ w ∈ forbiddenWords, ∀ l ∈ w, ∀ d ∈ marks, sameLetter l d = false := by
  have all : (forbiddenWords.all fun w => w.all fun l => marks.all fun d => !sameLetter l d) =
      true := by
    decide +kernel
  simpa only [List.all_eq_true, Bool.not_eq_true'] using all

theorem forbidden_ne_nil : ∀ w ∈ forbiddenWords, w ≠ [] := by
  decide +kernel

theorem harmless_nil : Harmless [] := fun w hw => not_occurs_nil (forbidden_ne_nil w hw)

theorem Harmless.append_cons {a b : List Char} {d : Char} (ha : Harmless a) (hd : d ∈ marks)
    (hb : Harmless b) : Harmless (a ++ d :: b) := by
  intro w hw ho
  rcases occurs_append_cons (fun l hl => forbidden_marks w hw l hl d hd) ho with ho | ho
  · exact ha w hw ho
  · exact hb w hw ho

theorem Harmless.cons {cs : List Char} {d : Char} (h : Harmless cs) (hd : d ∈ marks) :
    Harmless (d :: cs) :=
  harmless_nil.append_cons hd h

theorem harmless_of_mem_vocabulary {v : String} (h : v ∈ vocabulary) : Harmless v.toList := by
  have words : (vocabulary.all fun v => isHarmless v.toList) = true := by
    simp only [vocabulary, List.all_cons, List.all_nil, String.reduceToList]
    decide +kernel
  exact harmless_of_isHarmless (List.all_eq_true.mp words v h)

/-- **No forbidden word occurs in an expression.** -/
theorem Expression.harmless {cs : List Char} (h : Expression cs) : Harmless cs := by
  have numbers : (forbiddenWords.all fun w =>
      w.any fun l => numberChars.all fun c => !sameLetter l c) = true := by
    decide +kernel
  have literals : (forbiddenWords.all fun w =>
      w.any fun l => literalChars.all fun c => !sameLetter l c) = true := by
    decide +kernel
  simp only [List.all_eq_true, List.any_eq_true, Bool.not_eq_true'] at numbers literals
  have separator : ∀ d ∈ separators, d ∈ marks := fun d hd => by simp [marks, hd]
  -- on the derivation: its words are looked through, and no forbidden word reaches across a mark
  induction h with
  | empty => exact harmless_nil
  | word v hv => exact harmless_of_mem_vocabulary hv
  | number hn => exact fun w hw => not_occurs_of_class hn (numbers w hw)
  | literal content => exact fun w hw => not_occurs_of_class mem_literalChars (literals w hw)
  | join d hd _ _ iha ihb => exact iha.append_cons (separator d hd) ihb
  | group _ _ _ iha ihb ihc => exact iha.append_cons (by decide) (ihb.append_cons (by decide) ihc)

theorem Line.harmless (line : Line) : Harmless line.text.toList := by
  have content_harmless : Harmless line.content := by
    cases line with
    | blank => exact harmless_nil
    | remark r => exact ((r.expression.harmless.cons (by decide)).cons (by decide)).cons (by decide)
    | code s => exact s.derived.harmless.append_cons (by decide) harmless_nil
  rw [toList_text]
  split
  · exact harmless_nil
  · exact (content_harmless.cons (by decide)).cons (by decide)

/-! ## Lines that no check objects to -/

/-- A line that no check objects to, whatever stands before and after it. -/
structure Inert (cs : List Char) : Prop where
  closed : opensCall cs = false
  safe : ∀ hazard : Hazard,
    someSuffix hazard.begins cs = false ∧ someSuffix hazard.begins (cs ++ ['\n']) = false
  free : ∀ w ∈ ["p5".toList, "canvas.".toList, "ctx.".toList], ¬ Occurs sameLetter w cs

theorem letters_mem_forbiddenWords (hazard : Hazard) : hazard.letters ∈ forbiddenWords := by
  have all : hazard ∈ Hazard.all := by cases hazard <;> decide
  exact List.mem_append_left _ (List.mem_map_of_mem all)

theorem Harmless.inert {cs : List Char} (h : Harmless cs) (hc : opensCall cs = false) :
    Inert cs where
  closed := hc
  safe hazard := by
    have unbegun : ∀ ds, Harmless ds → someSuffix hazard.begins ds = false := fun ds hds =>
      Bool.eq_false_iff.mpr fun hb =>
        hds _ (letters_mem_forbiddenWords hazard) (Hazard.occurs_of_begins hb)
    exact ⟨unbegun cs h, unbegun _ (h.append_cons (by decide) harmless_nil)⟩
  free w hw := h w (List.mem_append_right _ hw)

theorem not_blank_of_isAlpha {c : Char} (h : c.isAlpha = true) :
    isBlankChar c = false ∧ sameLetter '(' c = false := by
  have range : (65 ≤ c.toNat ∧ c.toNat ≤ 90) ∨ (97 ≤ c.toNat ∧ c.toNat ≤ 122) := by
    rcases (Bool.or_eq_true _ _).mp h with h | h
    · exact .inl (of_decide_eq_true h)
    · obtain ⟨lower, upper⟩ := (Bool.and_eq_true _ _).mp h
      exact .inr ⟨of_decide_eq_true lower, of_decide_eq_true upper⟩
  rw [← Char.ofNat_toNat c]
  rcases range with ⟨lower, upper⟩ | ⟨lower, upper⟩ <;> interval_cases c.toNat <;> decide

theorem Statement.opensCall_content (s : Statement) : opensCall (Line.code s).content = false := by
  obtain ⟨c, cs, he, letter⟩ := s.begins_with_letter
  obtain ⟨blank, parenthesis⟩ := not_blank_of_isAlpha letter
  rw [Line.content, he, opensCall_eq]
  simp [blank, parenthesis]

theorem Line.opensCall_text (line : Line) : opensCall line.text.toList = false := by
  rw [toList_text]
  cases line with
  | blank => rfl
  | remark r => rfl
  | code s =>
    rw [if_neg (by simp [content])]
    exact s.opensCall_content

theorem Line.inert (line : Line) : Inert line.text.toList :=
  line.harmless.inert line.opensCall_text

theorem inert_of_mem_fixedLines {l : String} (h : l ∈ fixedLines) : Inert l.toList := by
  have closed : ∀ l ∈ fixedLines, opensCall l.toList = false := by decide +kernel
  have safe : ∀ l ∈ fixedLines, ∀ hazard ∈ Hazard.all, someSuffix hazard.begins l.toList = false ∧
      someSuffix hazard.begins (l.toList ++ ['\n']) = false := by decide +kernel
  have free : ∀ l ∈ fixedLines, ∀ w ∈ ["p5".toList, "canvas.".toList, "ctx.".toList],
      someSuffix (fun s => (afterLetters? sameLetter w s).isSome) l.toList = false := by
        decide
  refine ⟨closed l h, fun hazard => safe l h hazard (by cases hazard <;> decide), fun w hw ho => ?_⟩
  exact absurd (someSuffix_of_occurs ho) (by simp [free l h w hw])

/-! ## Parts of a program -/

theorem toList_eq_intercalate (text : String) :
    text.toList = ['\n'].intercalate ((textLines text).map String.toList) := by
  rw [textLines, List.map_map]
  simp [Function.comp_def]

theorem prefix_intercalate {d : Char} (zs : List (List Char)) : ∀ ls : List (List Char),
    [d].intercalate ls <+: [d].intercalate (ls ++ zs)
  | [] => List.nil_prefix
  | [l] => by
    cases zs with
    | nil => exact List.prefix_rfl
    | cons z zs =>
      rw [List.singleton_append, List.intercalate_cons_cons, List.intercalate_singleton,
        List.append_assoc]
      exact List.prefix_append l _
  | l :: k :: ls => by
    rw [List.cons_append, List.cons_append, List.intercalate_cons_cons, List.intercalate_cons_cons]
    exact (List.prefix_append_right_inj _).mpr (prefix_intercalate zs (k :: ls))

theorem suffix_intercalate {d : Char} {ls : List (List Char)} (h : ls ≠ []) :
    ∀ xs : List (List Char), [d].intercalate ls <:+ [d].intercalate (xs ++ ls)
  | [] => List.suffix_rfl
  | x :: xs => by
    rw [List.cons_append, List.intercalate_cons_of_ne_nil (by simp [h])]
    exact (suffix_intercalate h xs).trans (List.suffix_append _ _)

theorem infix_intercalate {d : Char} {ls : List (List Char)} (h : ls ≠ [])
    (xs zs : List (List Char)) :
    [d].intercalate ls <:+: [d].intercalate (xs ++ ls ++ zs) :=
  (suffix_intercalate h xs).isInfix.trans (prefix_intercalate zs (xs ++ ls)).isInfix

theorem matchesSomewhere_of_part {same : Char → Char → Bool} {parts : List PatternPart}
    {l : List Char} {code : String} (h : l <:+: code.toList)
    (hm : ∀ rest, (afterParts? same parts (l ++ rest)).isSome = true) :
    matchesSomewhere same parts code = true := by
  obtain ⟨a, b, he⟩ := h
  exact someSuffix_iff.mpr ⟨l ++ b, ⟨a, by rw [← he, List.append_assoc]⟩, hm b⟩

/-! ## Texts that no check objects to -/

section
variable {text : String}

section
variable (inert : ∀ l ∈ textLines text, Inert l.toList)
include inert

theorem hazards_of_inert : hazards text = [] := by
  refine List.filter_eq_nil_iff.mpr fun hazard _ hb => ?_
  rw [Hazard.occursIn_eq, toList_eq_intercalate] at hb
  have closed : ∀ l ∈ (textLines text).map String.toList, opensCall l = false :=
    List.forall_mem_map.mpr fun l hl => (inert l hl).closed
  obtain ⟨l, hl, hb⟩ := hazard.begins_lines _ closed hb
  obtain ⟨line, hline, rfl⟩ := List.mem_map.mp hl
  obtain ⟨alone, before⟩ := (inert line hline).safe hazard
  rcases hb with hb | hb
  · exact Bool.false_ne_true (alone.symm.trans hb)
  · exact Bool.false_ne_true (before.symm.trans hb)

theorem containsWord_of_inert {word : String} {w : List Char}
    (hw : w ∈ ["p5".toList, "canvas.".toList, "ctx.".toList]) (h : w <:+: word.toList) :
    containsWord word text = false := by
  rw [← Bool.not_eq_true, containsWord_iff]
  intro hword
  have ho : Occurs sameLetter w text.toList := occurs_self (h.trans hword)
  have forbidden : w ∈ forbiddenWords := List.mem_append_right _ hw
  rw [toList_eq_intercalate] at ho
  obtain ⟨l, hl, ho⟩ := occurs_intercalate (forbidden_ne_nil w forbidden)
    (fun l hl => forbidden_marks w forbidden l hl '\n' (by decide)) _ ho
  obtain ⟨line, hline, rfl⟩ := List.mem_map.mp hl
  exact (inert line hline).free w hw ho

end

section
variable (opening : "function setup() \x7b\n  createCanvas".toList <:+: text.toList)
include opening

theorem createsCanvas_of_opening : createsCanvas text = true := by
  obtain ⟨a, b, he⟩ := opening
  refine someSuffix_iff.mpr ⟨_, ⟨a, (List.append_assoc a _ b).symm.trans he⟩, ?_⟩
  have head : afterParts? (· = ·) setupHead ("function setup() \x7b\n  createCanvas".toList ++ b) =
      some ("\n  createCanvas".toList ++ b) := rfl
  rw [head, Option.any_some]
  refine someSuffix_iff.mpr ⟨"createCanvas".toList ++ b.takeWhile (· ≠ '\x7d'), ?_, ?_⟩
  · rw [List.takeWhile_append_of_pos (by simp)]
    exact ⟨"\n  ".toList, by simp⟩
  · exact List.isPrefixOf_iff_prefix.mpr (List.prefix_append _ _)

theorem usesDrawing_of_opening : usesDrawing text = true := by
  have found : containsWord "createCanvas" text = true :=
    containsWord_iff.mpr
      (List.IsInfix.trans ⟨"function setup() \x7b\n  ".toList, [], by simp⟩ opening)
  exact List.any_eq_true.mpr ⟨"createCanvas", by simp [knownFunctions], found⟩

end

/-- **A text that opens like a scene and has no line to object to gets no warning.** -/
theorem warnings_eq_nil (inert : ∀ l ∈ textLines text, Inert l.toList)
    (opening : "function setup() \x7b\n  createCanvas".toList <:+: text.toList) :
    warnings text = [] := by
  have canvas : containsWord "canvas." text = false :=
    containsWord_of_inert inert (by simp) List.infix_rfl
  have context : containsWord "ctx." text = false :=
    containsWord_of_inert inert (by simp) List.infix_rfl
  simp [warnings, usesDrawing_of_opening opening, createsCanvas_of_opening opening, canvas, context]

end

/-! ## Headers, banners and faults of a sketch -/

namespace Sketch

variable {sketch : Sketch}

theorem infix_code {xs ls zs : List String} (hne : ls ≠ []) (h : sketch.lines = xs ++ ls ++ zs) :
    ['\n'].intercalate (ls.map String.toList) <:+: sketch.code.toList := by
  rw [code, h, String.toList_intercalate, List.map_append, List.map_append,
    show "\n".toList = ['\n'] from rfl]
  exact infix_intercalate (by simpa using hne) _ _

theorem infix_of_mem_lines {l : String} (h : l ∈ sketch.lines) :
    l.toList <:+: sketch.code.toList := by
  obtain ⟨xs, zs, he⟩ := List.append_of_mem h
  have := infix_code (List.cons_ne_nil l []) (he.trans (List.append_cons xs l zs))
  simpa using this

theorem containsWord_of_line {word l : String} (hl : l ∈ sketch.lines)
    (h : word.toList <+: l.toList) :
    containsWord word sketch.code = true :=
  containsWord_iff.mpr (h.isInfix.trans (infix_of_mem_lines hl))

section
variable (sketch)

theorem setup_mem_lines : "function setup() \x7b" ∈ sketch.lines := by
  simp [lines, functionLines, setupHeader]

theorem draw_mem_lines : "function draw() \x7b" ∈ sketch.lines := by
  simp [lines, functionLines, drawHeader]

theorem hasFunction_code :
    hasFunction "setup" sketch.code = true ∧ hasFunction "draw" sketch.code = true :=
  ⟨matchesSomewhere_of_part (infix_of_mem_lines sketch.setup_mem_lines) fun _ => rfl,
    matchesSomewhere_of_part (infix_of_mem_lines sketch.draw_mem_lines) fun _ => rfl⟩

theorem containsWord_headers :
    containsWord setupHeader sketch.code = true ∧ containsWord drawHeader sketch.code = true :=
  ⟨containsWord_of_line sketch.setup_mem_lines (by simp [setupHeader]),
    containsWord_of_line sketch.draw_mem_lines (by simp [drawHeader])⟩

theorem hasBanner_code :
    hasBanner "SETUP" sketch.code = true ∧ hasBanner "DRAW" sketch.code = true := by
  have rule : containsWord bannerRule sketch.code = true :=
    containsWord_of_line (l := bannerRule) (by simp [lines, banner]) List.prefix_rfl
  simp [hasBanner, rule]

/-- **The only fault that a sketch may have is that a section makes a sketch object.** -/
theorem structureFaults_code :
    structureFaults sketch.code = if containsWord instanceCall sketch.code then [.instanceMode]
      else [] := by
  cases found : containsWord instanceCall sketch.code <;>
    simp [structureFaults, faultsOf, sketch.containsWord_headers, found]

theorem templateFaults_code (strict : Bool) : templateFaults strict sketch.code =
    if containsWord instanceCall sketch.code then [.instanceMode] else [] := by
  have syntactic : syntaxFaults sketch.code = [] := by
    simp [syntaxFaults, faultsOf, sketch.hasFunction_code]
  cases found : containsWord instanceCall sketch.code <;>
    simp [templateFaults, lenientFaults, faultsOf, sketch.containsWord_headers,
      sketch.hasBanner_code, syntactic, found]

end

end Sketch

/-! ## Scenes -/

namespace Scene

theorem inert_of_mem_textLines {scene : Scene} {l : String} (h : l ∈ textLines scene.code) :
    Inert l.toList := by
  have inert : ∀ l ∈ textLines scene.code, Inert l.toList :=
    (forall_textLines_code (fun _ => inert_of_mem_fixedLines) scene).mpr fun line _ => line.inert
  exact inert l h

/-- **No check finds a hazard.** -/
theorem hazards_code (scene : Scene) : hazards scene.code = [] :=
  hazards_of_inert fun _ => inert_of_mem_textLines

theorem not_containsWord {scene : Scene} {word : String} {w : List Char}
    (hw : w ∈ ["p5".toList, "canvas.".toList, "ctx.".toList]) (h : w <:+: word.toList) :
    containsWord word scene.code = false :=
  containsWord_of_inert (fun _ => inert_of_mem_textLines) hw h

theorem setup_begins (scene : Scene) : "  createCanvas".toList <+: scene.sketch.setup.toList := by
  have first : "  createCanvas".toList <+:
      (Line.code (.createCanvas scene.canvas)).text.toList := by
    simp [Line.toList_text, Line.content, Statement.pieces, callPieces, Piece.text]
  rw [sketch, linesText, String.toList_intercalate, setupLines, setupStatements]
  simp only [List.map_cons]
  refine first.trans ?_
  simpa using prefix_intercalate _ [(Line.code (.createCanvas scene.canvas)).text.toList]

theorem opening_part (scene : Scene) :
    "function setup() \x7b\n  createCanvas".toList <:+: scene.code.toList := by
  obtain ⟨rest, he⟩ := scene.setup_begins
  have lines : scene.sketch.lines =
      banner "SETUP" ++ ["function setup() \x7b", scene.sketch.setup] ++
      ("\x7d" :: "" :: (banner "DRAW" ++ functionLines drawHeader scene.sketch.draw)) := by
    rw [lines_sketch, functionLines]
    rfl
  refine List.IsInfix.trans (List.IsPrefix.isInfix ?_) (Sketch.infix_code (by simp) lines)
  rw [List.map_cons, List.map_cons, List.map_nil, ← he]
  exact ⟨rest, by simp⟩

theorem not_instanceCall (scene : Scene) : containsWord instanceCall scene.code = false :=
  not_containsWord (w := "p5".toList) (by simp) ⟨"new ".toList, ['('], by simp [instanceCall]⟩

theorem structureFaults_code (scene : Scene) : structureFaults scene.code = [] := by
  have absent : containsWord instanceCall scene.sketch.code = false := scene.not_instanceCall
  rw [code, Sketch.structureFaults_code, absent]
  rfl

theorem templateFaults_code (scene : Scene) (strict : Bool) :
    templateFaults strict scene.code = [] := by
  have absent : containsWord instanceCall scene.sketch.code = false := scene.not_instanceCall
  rw [code, Sketch.templateFaults_code, absent]
  rfl

theorem warnings_code (scene : Scene) : warnings scene.code = [] :=
  warnings_eq_nil (fun _ => inert_of_mem_textLines) scene.opening_part

/-- **The code of every scene that compiles passes all checks, strict or not, without a
warning.** -/
theorem compile_accepted {scene : Scene} {code : String} (h : scene.compile = .ok code) :
    structureFaults code = [] ∧ ∀ strict, let verdict := Verdict.ofCode strict code
      verdict.valid = true ∧ verdict.safe = true ∧ verdict.compatible = true ∧
        verdict.faultMessages = [] ∧ verdict.hazardMessages = [] ∧
        verdict.warningMessages = [] := by
  obtain ⟨_, rfl⟩ := compile_eq_ok.mp h
  refine ⟨scene.structureFaults_code, fun strict => ?_⟩
  have verdict : Verdict.ofCode strict scene.code = ⟨[], [], []⟩ := by
    rw [Verdict.ofCode, templateFaults_code, hazards_code, warnings_code]
  rw [verdict]
  exact ⟨rfl, rfl, rfl, rfl, rfl, rfl⟩

theorem compile_accepted_bouncingBall :
    Gallery.bouncingBall.compile = .ok Gallery.bouncingBall.code ∧
      (Verdict.ofCode true Gallery.bouncingBall.code).valid = true ∧
      (Verdict.ofCode true Gallery.bouncingBall.code).hazardMessages = [] := by
  obtain ⟨valid, _, _, _, hazards, _⟩ := (@compile_accepted Gallery.bouncingBall _ rfl).2 true
  exact ⟨rfl, valid, hazards⟩

end Scene

end SceneSketch
