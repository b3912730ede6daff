import SceneSketch.Proofs.Sections

/-!
# Sections recovered from a sketch

A sketch is read line by line. As long as no section holds a rule, the lines that are rules are
those of the banners, so the rules cut the text of a sketch where its sections begin and end, and
the titles say which of the sections are there. Nothing else that a section holds can be taken for
the frame (`code_eq_iff`).
-/

namespace SceneSketch

/-! ## Lines of a text -/

theorem infix_of_mem_textLines {l text : String} (h : l ∈ textLines text) :
    l.toList <:+: text.toList := by
  obtain ⟨before, after, hlines⟩ := List.append_of_mem h
  have part := infix_intercalate (d := '\n') (List.cons_ne_nil l.toList [])
    (before.map String.toList) (after.map String.toList)
  rw [List.intercalate_singleton] at part
  rw [toList_eq_intercalate text, hlines, List.append_cons, List.map_append, List.map_append]
  exact part

theorem textLines_injective : Function.Injective textLines := by
  intro text other h
  rw [← String.toList_inj, toList_eq_intercalate, toList_eq_intercalate other, h]

namespace Sketch

/-! ## Parts under their banners -/

structure Part where
  title : String
  lines : List String

namespace Part

def block (part : Part) : List String :=
  banner part.title ++ part.lines

def laidOut : List Part → List String
  | [] => []
  | part :: parts => part.block ++ parts.flatMap fun next => "" :: next.block

theorem laidOut_single (part : Part) :
    laidOut [part] = bannerRule :: ("// " ++ part.title) :: bannerRule :: part.lines := by
  simp [laidOut, block, banner]

theorem laidOut_cons_cons (part next : Part) (parts : List Part) : laidOut (part :: next :: parts) =
    bannerRule :: ("// " ++ part.title) :: bannerRule ::
    (part.lines ++ "" :: laidOut (next :: parts)) := by
  simp [laidOut, block, banner]

theorem rule_mem_laidOut (part : Part) (parts : List Part) :
    bannerRule ∈ laidOut (part :: parts) := by
  simp [laidOut, block, banner]

theorem laidOut_eq_cons (part : Part) (parts : List Part) :
    ∃ rest, laidOut (part :: parts) = bannerRule :: rest :=
  ⟨_, rfl⟩

theorem title_inj {title other : String} (h : "// " ++ title = "// " ++ other) : title = other := by
  simpa [← String.toList_inj] using h

/-- Lines without a rule end where the first rule is. -/
theorem lines_inj {lines others rest more : List String} (h : bannerRule ∉ lines)
    (h' : bannerRule ∉ others) (heq : lines ++ bannerRule :: rest = others ++ bannerRule :: more) :
    lines = others ∧ rest = more := by
  rcases List.append_eq_append_iff.mp heq with ⟨between, rfl, hbetween⟩ | ⟨between, rfl, hbetween⟩
  · cases between with
    | nil => simpa using hbetween
    | cons l between =>
      obtain ⟨rfl, _⟩ := List.cons.inj hbetween
      exact absurd (by simp) h'
  · cases between with
    | nil => simpa [eq_comm] using hbetween
    | cons l between =>
      obtain ⟨rfl, _⟩ := List.cons.inj hbetween
      exact absurd (by simp) h

theorem gap_without_rule {lines : List String} (h : bannerRule ∉ lines) :
    bannerRule ∉ lines ++ [""] := by
  intro hmem
  rcases List.mem_append.mp hmem with hmem | hmem
  · exact h hmem
  · exact absurd (List.mem_singleton.mp hmem) (by decide)

theorem laidOut_single_ne {part other next : Part} {others : List Part}
    (h : bannerRule ∉ part.lines) :
    laidOut [part] ≠ laidOut (other :: next :: others) := by
  intro heq
  rw [laidOut_single, laidOut_cons_cons] at heq
  simp only [List.cons.injEq, true_and] at heq
  apply h
  rw [heq.2]
  simp [rule_mem_laidOut]

/-- **Parts without a rule are determined by their lines.** -/
theorem laidOut_inj : ∀ {parts others : List Part}, (∀ part ∈ parts, bannerRule ∉ part.lines) →
    (∀ part ∈ others, bannerRule ∉ part.lines) → laidOut parts = laidOut others → parts = others
  | [], [], _, _, _ => rfl
  | [], other :: others, _, _, h => by
    have hrule := rule_mem_laidOut other others
    rw [← h] at hrule
    cases hrule
  | part :: parts, [], _, _, h => by
    have hrule := rule_mem_laidOut part parts
    rw [h] at hrule
    cases hrule
  | [part], [other], _, _, h => by
    rw [laidOut_single, laidOut_single] at h
    simp only [List.cons.injEq, true_and] at h
    obtain ⟨title, lines⟩ := part
    obtain rfl := title_inj h.1
    obtain rfl := h.2
    rfl
  | [part], other :: next :: others, hpart, _, h =>
    absurd h (laidOut_single_ne (hpart part (List.mem_singleton_self part)))
  | part :: next :: parts, [other], _, hother, h =>
    absurd h.symm (laidOut_single_ne (hother other (List.mem_singleton_self other)))
  | part :: next :: parts, other :: next' :: others, hparts, hothers, h => by
    rw [laidOut_cons_cons, laidOut_cons_cons] at h
    simp only [List.cons.injEq, true_and] at h
    obtain ⟨htitle, hlines⟩ := h
    obtain ⟨rest, hrest⟩ := laidOut_eq_cons next parts
    obtain ⟨more, hmore⟩ := laidOut_eq_cons next' others
    obtain ⟨hpart, hparts⟩ := List.forall_mem_cons.mp hparts
    obtain ⟨hother, hothers⟩ := List.forall_mem_cons.mp hothers
    rw [hrest, hmore, List.append_cons, List.append_cons other.lines] at hlines
    obtain ⟨hsame, hbehind⟩ := lines_inj (gap_without_rule hpart) (gap_without_rule hother) hlines
    have htail : next :: parts = next' :: others :=
      laidOut_inj hparts hothers (by rw [hrest, hmore, hbehind])
    obtain ⟨title, lines⟩ := part
    obtain rfl := title_inj htitle
    obtain rfl : lines = other.lines := List.append_cancel_right hsame
    rw [htail]

end Part

/-! ## The parts of a sketch -/

def functionPart (title signature text : String) : Part where
  title := title
  lines := (signature ++ " \x7b") :: (textLines text ++ ["\x7d"])

def textPart (title text : String) : Part where
  title := title
  lines := textLines text

theorem functionPart_injective (title signature : String) :
    Function.Injective (functionPart title signature) := by
  intro text other h
  have lines := List.append_cancel_right (List.tail_eq_of_cons_eq (congrArg Part.lines h))
  exact textLines_injective lines

theorem textPart_injective (title : String) : Function.Injective (textPart title) := by
  intro text other h
  exact textLines_injective (congrArg Part.lines h)

def parts (sketch : Sketch) : List Part :=
  (present sketch.preload).map (functionPart "PRELOAD" "function preload()") ++
    functionPart "SETUP" setupHeader sketch.setup :: functionPart "DRAW" drawHeader sketch.draw ::
    ((present sketch.helpers).map (textPart "HELPER FUNCTIONS") ++
      (present sketch.events).map (textPart "EVENT HANDLERS"))

theorem textLines_preload (text : Option String) (part : Part) (parts : List Part) :
    (preloadLines (text.getD "")).flatMap textLines ++ Part.laidOut (part :: parts) =
      Part.laidOut ((present text).map (functionPart "PRELOAD" "function preload()") ++ part ::
        parts) := by
  have gap : [""].flatMap textLines = [""] := rfl
  unfold preloadLines
  by_cases h : text.getD "" = ""
  · rw [if_pos h, present_of_getD_eq h]
    rfl
  · rw [if_neg h, present_of_getD_ne h, List.flatMap_append, List.flatMap_append,
      textLines_banner (by simp),
      textLines_function (by simp), gap, List.map_singleton, List.singleton_append,
      Part.laidOut_cons_cons]
    simp [banner, functionPart]

theorem textLines_trailing {title : String} (htitle : '\n' ∉ title.toList) (text : Option String) :
    (trailingLines title (text.getD "")).flatMap textLines =
      ((present text).map (textPart title)).flatMap fun next => "" :: next.block := by
  have gap : textLines "" = [""] := rfl
  unfold trailingLines
  by_cases h : text.getD "" = ""
  · rw [if_pos h, present_of_getD_eq h]
    rfl
  · rw [if_neg h, present_of_getD_ne h, List.flatMap_cons, List.flatMap_append,
      textLines_banner htitle, gap]
    simp [Part.block, textPart]

/-- **The lines of a sketch are its parts with an empty line between any two.** -/
theorem textLines_code (sketch : Sketch) : textLines sketch.code = Part.laidOut sketch.parts := by
  have gap : [""].flatMap textLines = [""] := rfl
  have filled : sketch.lines ≠ [] := by simp [lines, banner]
  rw [code, textLines_intercalate filled, lines, parts, ← textLines_preload]
  simp only [List.flatMap_append]
  rw [textLines_banner (by simp), textLines_banner (by simp),
    textLines_function (by simp [setupHeader]),
    textLines_function (by simp [drawHeader]), textLines_trailing (by simp),
    textLines_trailing (by simp), gap]
  simp [Part.laidOut, Part.block, functionPart]

/-! ## Sketches with the same text -/

/-- The sections of two sketches are the same, an empty section counting as one that is left out. -/
structure SameSections (sketch other : Sketch) : Prop where
  setup : sketch.setup = other.setup
  draw : sketch.draw = other.draw
  preload : sketch.preload.getD "" = other.preload.getD ""
  helpers : sketch.helpers.getD "" = other.helpers.getD ""
  events : sketch.events.getD "" = other.events.getD ""

theorem SameSections.code {sketch other : Sketch} (h : SameSections sketch other) :
    sketch.code = other.code := by
  rw [Sketch.code, Sketch.code, lines, lines, h.setup, h.draw, h.preload, h.helpers, h.events]

theorem present_inj {text other : Option String} (h : present text = present other) :
    text.getD "" = other.getD "" := by
  by_cases hne : text.getD "" = ""
  · by_cases hne' : other.getD "" = ""
    · rw [hne, hne']
    · rw [present_of_getD_eq hne, present_of_getD_ne hne'] at h
      cases h
  · by_cases hne' : other.getD "" = ""
    · rw [present_of_getD_ne hne, present_of_getD_eq hne'] at h
      cases h
    · rw [present_of_getD_ne hne, present_of_getD_ne hne'] at h
      exact List.head_eq_of_cons_eq h

theorem present_inj_of_map {f : String → Part} (hf : Function.Injective f)
    {text other : Option String}
    (h : (present text).map f = (present other).map f) : text.getD "" = other.getD "" :=
  present_inj (List.map_injective_iff.mpr hf h)

theorem sameSections_of_parts {sketch other : Sketch} (h : sketch.parts = other.parts) :
    SameSections sketch other := by
  have titled (title : String) : (sketch.parts.filter fun part => part.title = title) =
      other.parts.filter fun part => part.title = title := by
    rw [h]
  have setup : functionPart "SETUP" setupHeader sketch.setup =
      functionPart "SETUP" setupHeader other.setup := by
    simpa [parts, functionPart, textPart, List.filter_map, Function.comp_def] using titled "SETUP"
  have draw : functionPart "DRAW" drawHeader sketch.draw =
      functionPart "DRAW" drawHeader other.draw := by
    simpa [parts, functionPart, textPart, List.filter_map, Function.comp_def] using titled "DRAW"
  have preload : (present sketch.preload).map (functionPart "PRELOAD" "function preload()") =
      (present other.preload).map (functionPart "PRELOAD" "function preload()") := by
    simpa [parts, functionPart, textPart, List.filter_map, Function.comp_def] using titled "PRELOAD"
  have helpers : (present sketch.helpers).map (textPart "HELPER FUNCTIONS") =
      (present other.helpers).map (textPart "HELPER FUNCTIONS") := by
    simpa [parts, functionPart, textPart, List.filter_map, Function.comp_def]
      using titled "HELPER FUNCTIONS"
  have events : (present sketch.events).map (textPart "EVENT HANDLERS") =
      (present other.events).map (textPart "EVENT HANDLERS") := by
    simpa [parts, functionPart, textPart, List.filter_map, Function.comp_def]
      using titled "EVENT HANDLERS"
  exact {
    setup := functionPart_injective _ _ setup
    draw := functionPart_injective _ _ draw
    preload := present_inj_of_map (functionPart_injective _ _) preload
    helpers := present_inj_of_map (textPart_injective _) helpers
    events := present_inj_of_map (textPart_injective _) events }

def Unruled (sketch : Sketch) : Prop :=
  ∀ text ∈ sketch.texts, ¬ bannerRule.toList <:+: text.toList

theorem mem_toList_of_mem_present {text : Option String} {s : String} (h : s ∈ present text) :
    s ∈ text.toList := by
  rw [present, Option.mem_toList, Option.filter_eq_some_iff] at h
  rw [Option.mem_toList]
  exact h.1

theorem rule_not_mem_textLines {text : String} (h : ¬ bannerRule.toList <:+: text.toList) :
    bannerRule ∉ textLines text := by
  intro hmem
  exact h (infix_of_mem_textLines hmem)

theorem rule_not_mem_functionPart {title signature text : String}
    (hsignature : bannerRule ≠ signature ++ " \x7b") (h : ¬ bannerRule.toList <:+: text.toList) :
    bannerRule ∉ (functionPart title signature text).lines := by
  have hbrace : bannerRule ≠ "\x7d" := by decide
  simp [functionPart, hsignature, rule_not_mem_textLines h, hbrace]

theorem Unruled.parts {sketch : Sketch} (h : sketch.Unruled) :
    ∀ part ∈ sketch.parts, bannerRule ∉ part.lines := by
  obtain ⟨setup, draw, preload, helpers, events⟩ := sketch
  simp only [Unruled, texts, List.forall_mem_append, List.forall_mem_cons] at h
  obtain ⟨⟨⟨hpreload, hsetup, hdraw, _⟩, hhelpers⟩, hevents⟩ := h
  simp only [Sketch.parts, List.forall_mem_append, List.forall_mem_cons, List.forall_mem_map]
  refine ⟨?_, ?_, ?_, ?_, ?_⟩
  · intro text htext
    exact rule_not_mem_functionPart (by decide) (hpreload text (mem_toList_of_mem_present htext))
  · exact rule_not_mem_functionPart (by decide) hsetup
  · exact rule_not_mem_functionPart (by decide) hdraw
  · intro text htext
    exact rule_not_mem_textLines (hhelpers text (mem_toList_of_mem_present htext))
  · intro text htext
    exact rule_not_mem_textLines (hevents text (mem_toList_of_mem_present htext))

/-- **Sketches whose sections hold no rule have the same text exactly if they have the same
sections.** -/
theorem code_eq_iff {sketch other : Sketch} (h : sketch.Unruled) (h' : other.Unruled) :
    sketch.code = other.code ↔ SameSections sketch other := by
  constructor
  · intro heq
    apply sameSections_of_parts
    apply Part.laidOut_inj h.parts h'.parts
    rw [← textLines_code, ← textLines_code, heq]
  · exact SameSections.code

/-- A section that imitates the frame is not taken for it. -/
theorem code_eq_iff_imitating :
    let plain : Sketch := { setup := "  createCanvas(400, 400);", draw := "  circle(50, 50, 20);" }
    let imitating : Sketch :=
      { setup := "  createCanvas(400, 400);\n\x7d\n\n// DRAW\nfunction draw() \x7b\n  circle(50, 50, 20);", draw := "" }
    plain.code = { plain with preload := some "" }.code ∧ plain.code ≠ imitating.code := by
  intro plain imitating
  have hplain : plain.Unruled := by unfold Unruled; decide +kernel
  have hempty : { plain with preload := some "" }.Unruled := by unfold Unruled; decide +kernel
  have himitating : imitating.Unruled := by unfold Unruled; decide +kernel
  constructor
  · exact (code_eq_iff hplain hempty).mpr ⟨rfl, rfl, rfl, rfl, rfl⟩
  · intro heq
    have setup := ((code_eq_iff hplain himitating).mp heq).setup
    exact absurd setup (by decide)

end Sketch

end SceneSketch
