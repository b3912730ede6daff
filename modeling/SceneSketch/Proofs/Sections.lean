import SceneSketch.Proofs.Acceptance
import SceneSketch.Proofs.Gate

/-!
# Checks of a sketch, section by section

The lines around the sections are fixed. No word of a check stands in them, begins in them or ends
in them, so what the checks find in a sketch they find in one of its sections. A section is scanned
for hazards with the line break behind it, since an `import` may stand at its end
(`hazards_by_section`). What the structure and the template ask for stands in the frame, so that all
a section can do wrong is to make a sketch object (`checks_agree`).
-/

namespace SceneSketch

/-! ## Hazards that wait for more -/

theorem opensCall_append {cs : List Char} (h : cs.all isBlankChar = false) (y : List Char) :
    opensCall (cs ++ y) = opensCall cs := by
  rw [opensCall_eq, opensCall_eq, List.dropWhile_append]
  cases hd : cs.dropWhile isBlankChar with
  | nil =>
    rw [List.dropWhile_eq_nil_iff] at hd
    rw [List.all_eq_true.mpr hd] at h
    cases h
  | cons c rest => rfl

namespace Hazard

/-- The text is the letters of the hazard with blanks behind them, so that the hazard may begin here
if the text goes on. -/
def waits (hazard : Hazard) (cs : List Char) : Bool :=
  (afterLetters? sameLetter hazard.letters cs).any fun rest => rest.all isBlankChar

theorem begins_append_of_not_waits {hazard : Hazard} {x : List Char} (h : hazard.waits x = false)
    (y : List Char) :
    hazard.begins (x ++ '\n' :: y) = hazard.begins (x ++ ['\n']) := by
  rw [begins_eq, begins_eq, afterLetters?_append_break hazard.letters_no_break,
    afterLetters?_append_break hazard.letters_no_break, Option.any_map, Option.any_map]
  cases hrest : afterLetters? sameLetter hazard.letters x with
  | none => rfl
  | some rest =>
    have hblank : rest.all isBlankChar = false := by simpa [waits, hrest] using h
    rw [Option.any_some, Option.any_some]
    exact hazard.tail_append_break
      ((opensCall_append hblank _).trans (opensCall_append hblank _).symm)

end Hazard

/-! ## Layouts -/

namespace Sketch

def frameLines : List String :=
  banner "PRELOAD" ++ banner "SETUP" ++ banner "DRAW" ++ banner "HELPER FUNCTIONS" ++
    banner "EVENT HANDLERS" ++
    ["function preload() \x7b", "function setup() \x7b", "function draw() \x7b", "\x7d", ""]

/-- Lines are laid out around texts: what is not a line of the frame is one of the texts, with its
line break unless it comes last. -/
inductive Layout : List String → List String → Prop
  | last (text : String) : Layout [text] [text]
  | brace : Layout ["\x7d"] []
  | frame {l : String} {ls texts : List String} : l ∈ frameLines → Layout ls texts →
      Layout (l :: ls) texts
  | text (text : String) {ls texts : List String} :
    opensCall (String.intercalate "\n" ls).toList = false →
    Layout ls texts → Layout (text :: ls) ((text ++ "\n") :: texts)

structure Linewise (finds : List Char → Bool) : Prop where
  frame : ∀ l ∈ frameLines, ∀ y, finds (l.toList ++ '\n' :: y) = finds y
  append : ∀ x y, opensCall y = false → finds (x ++ '\n' :: y) = (finds (x ++ ['\n']) || finds y)
  brace : finds ['\x7d'] = false

theorem Layout.ne_nil {ls texts : List String} (h : Layout ls texts) : ls ≠ [] := by
  cases h <;> exact List.cons_ne_nil _ _

theorem toList_intercalate_cons {l : String} {ls : List String} (h : ls ≠ []) :
    (String.intercalate "\n" (l :: ls)).toList =
      l.toList ++ '\n' :: (String.intercalate "\n" ls).toList := by
  rw [String.toList_intercalate, String.toList_intercalate, List.map_cons,
    List.intercalate_cons_of_ne_nil (by simpa using h), List.append_assoc]
  rfl

/-- **What such a search finds in the lines, it finds in one of the texts.** -/
theorem Layout.finds_eq {finds : List Char → Bool} (hf : Linewise finds) {ls texts : List String}
    (h : Layout ls texts) :
    finds (String.intercalate "\n" ls).toList = texts.any fun text => finds text.toList := by
  induction h with
  | last text => simp
  | brace => simpa using hf.brace
  | frame hl hls ih => rw [toList_intercalate_cons hls.ne_nil, hf.frame _ hl, ih]
  | text text ho hls ih =>
    rw [toList_intercalate_cons hls.ne_nil, hf.append _ _ ho, ih, List.any_cons,
      String.toList_append]
    rfl

/-! ## The layout of a sketch -/

def present (text : Option String) : List String :=
  (text.filter (· ≠ "")).toList

/-- A line break behind every text but the last. -/
def brokenOff : List String → List String
  | [] => []
  | [text] => [text]
  | text :: texts => (text ++ "\n") :: brokenOff texts

/-- The texts of the sections of a sketch, each with its line break unless it ends the sketch. -/
def scannedTexts (sketch : Sketch) : List String :=
  (present sketch.preload ++ [sketch.setup, sketch.draw]).map (· ++ "\n") ++
    brokenOff (present sketch.helpers ++ present sketch.events)

theorem present_of_getD_eq {text : Option String} (h : text.getD "" = "") : present text = [] := by
  cases text with
  | none => rfl
  | some text =>
    obtain rfl : text = "" := h
    rfl

theorem present_of_getD_ne {text : Option String} (h : text.getD "" ≠ "") :
    present text = [text.getD ""] := by
  cases text with
  | none => exact absurd rfl h
  | some text =>
    have hne : text ≠ "" := h
    simp [present, hne]

theorem mem_frameLines_of_banner {l title : String}
    (ht : title ∈ ["PRELOAD", "SETUP", "DRAW", "HELPER FUNCTIONS", "EVENT HANDLERS"])
    (hl : l ∈ banner title) :
    l ∈ frameLines := by
  simp only [List.mem_cons, List.not_mem_nil, or_false] at ht
  simp only [frameLines, List.mem_append]
  rcases ht with rfl | rfl | rfl | rfl | rfl <;> simp [hl]

theorem opensCall_brace (ls : List String) :
    opensCall (String.intercalate "\n" ("\x7d" :: ls)).toList = false := by
  cases ls with
  | nil => rfl
  | cons l ls =>
    rw [toList_intercalate_cons (List.cons_ne_nil l ls)]
    rfl

theorem opensCall_rule (ls : List String) :
    opensCall (String.intercalate "\n" ("" :: bannerRule :: ls)).toList = false := by
  rw [toList_intercalate_cons (List.cons_ne_nil _ ls)]
  cases ls with
  | nil => rfl
  | cons l ls =>
    rw [toList_intercalate_cons (List.cons_ne_nil l ls)]
    rfl

namespace Layout

variable {ls texts : List String}

theorem frames {frame : List String} (hframe : ∀ l ∈ frame, l ∈ frameLines) (h : Layout ls texts) :
    Layout (frame ++ ls) texts := by
  induction frame with
  | nil => exact h
  | cons l frame ih =>
    exact .frame (hframe l (by simp)) (ih fun k hk => hframe k (List.mem_cons_of_mem l hk))

theorem function (title signature body : String)
    (ht : title ∈ ["PRELOAD", "SETUP", "DRAW", "HELPER FUNCTIONS", "EVENT HANDLERS"])
    (hs : signature ++ " \x7b" ∈ frameLines) (h : Layout ("\x7d" :: ls) texts) :
    Layout (banner title ++ functionLines signature body ++ ls) ((body ++ "\n") :: texts) := by
  rw [List.append_assoc]
  exact (Layout.frame hs (.text body (opensCall_brace ls) h)).frames fun _ =>
    mem_frameLines_of_banner ht

theorem trailing {title : String} (text : String)
    (ht : title ∈ ["PRELOAD", "SETUP", "DRAW", "HELPER FUNCTIONS", "EVENT HANDLERS"])
    (h : Layout (text :: ls) texts) :
    Layout ("" :: (banner title ++ text :: ls)) texts :=
  .frame (by simp [frameLines]) (h.frames fun _ => mem_frameLines_of_banner ht)

theorem closing (helpers events : Option String) :
    Layout ("\x7d" :: (trailingLines "HELPER FUNCTIONS" (helpers.getD "") ++
      trailingLines "EVENT HANDLERS" (events.getD "")))
      (brokenOff (present helpers ++ present events)) := by
  have brace : "\x7d" ∈ frameLines := by simp [frameLines]
  have last : Layout ("" :: (banner "EVENT HANDLERS" ++ [events.getD ""])) [events.getD ""] :=
    .trailing _ (by simp) (.last _)
  unfold trailingLines
  by_cases hh : helpers.getD "" = ""
  · rw [if_pos hh, present_of_getD_eq hh, List.nil_append, List.nil_append]
    by_cases he : events.getD "" = ""
    · rw [if_pos he, present_of_getD_eq he]
      exact .brace
    · rw [if_neg he, present_of_getD_ne he]
      exact .frame brace last
  · rw [if_neg hh, present_of_getD_ne hh]
    by_cases he : events.getD "" = ""
    · rw [if_pos he, present_of_getD_eq he, List.append_nil, List.append_nil]
      exact .frame brace (.trailing _ (by simp) (.last _))
    · rw [if_neg he, present_of_getD_ne he, List.cons_append, List.append_assoc]
      -- the helpers are followed by an empty line and a rule, and so do not go on with a
      -- parenthesis
      exact .frame brace (.trailing _ (by simp) (.text _ (opensCall_rule _) last))

end Layout

/-- **A sketch is laid out around its sections.** -/
theorem layout (sketch : Sketch) : Layout sketch.lines sketch.scannedTexts := by
  have brace : "\x7d" ∈ frameLines := by simp [frameLines]
  have gap : "" ∈ frameLines := by simp [frameLines]
  have draw := Layout.function "DRAW" drawHeader sketch.draw (by simp)
    (by simp [frameLines, drawHeader]) (Layout.closing sketch.helpers sketch.events)
  have setup := Layout.function "SETUP" setupHeader sketch.setup (by simp)
    (by simp [frameLines, setupHeader]) (.frame brace (.frame gap draw))
  unfold lines preloadLines scannedTexts
  by_cases hp : sketch.preload.getD "" = ""
  · rw [if_pos hp, present_of_getD_eq hp]
    simpa using setup
  · rw [if_neg hp, present_of_getD_ne hp]
    have preload := Layout.function "PRELOAD" "function preload()"
      (sketch.preload.getD "") (by simp)
      (by simp [frameLines]) (.frame brace (.frame gap setup))
    simpa using preload

/-! ## Hazards of a sketch -/

theorem linewise_hazard (hazard : Hazard) : Linewise (someSuffix hazard.begins) where
  frame l hl y := by
    have quiet : ∀ l ∈ frameLines, ∀ hazard ∈ Hazard.all, someSuffix hazard.waits l.toList = false ∧
        someSuffix hazard.begins (l.toList ++ ['\n']) = false := by decide +kernel
    obtain ⟨waiting, found⟩ := quiet l hl hazard hazard.mem_all
    have alone (s : List Char) (hs : s <:+ l.toList) :
        hazard.begins (s ++ '\n' :: y) = hazard.begins (s ++ ['\n']) := by
      refine Hazard.begins_append_of_not_waits (Bool.eq_false_iff.mpr fun hw => ?_) y
      rw [someSuffix_iff.mpr ⟨s, hs, hw⟩] at waiting
      cases waiting
    rw [hazard.someSuffix_append_break_of alone, found, Bool.false_or]
  append x y hy := hazard.someSuffix_append_break hy x
  brace := by cases hazard <;> rfl

theorem contains_hazards (hazard : Hazard) (text : String) :
    (hazards text).contains hazard = someSuffix hazard.begins text.toList := by
  rw [Bool.eq_iff_iff, List.contains_iff_mem, hazards, List.mem_filter, Hazard.occursIn_eq]
  exact and_iff_right hazard.mem_all

/-- **The hazards of a sketch are those of its sections, in the order of all hazards and each
once.** -/
theorem hazards_by_section (sketch : Sketch) :
    hazards sketch.code = Hazard.all.filter (fun hazard =>
        sketch.scannedTexts.any fun text => (hazards text).contains hazard) ∧
      ((hazards sketch.code).map Hazard.message).Nodup := by
  constructor
  · refine List.filter_congr fun hazard _ => ?_
    simp only [contains_hazards]
    exact sketch.layout.finds_eq (linewise_hazard hazard)
  · have distinct : (Hazard.all.map Hazard.message).Nodup := by decide +kernel
    exact distinct.sublist (List.filter_sublist.map Hazard.message)

/-! ## Words in a sketch -/

def texts (sketch : Sketch) : List String :=
  sketch.preload.toList ++ [sketch.setup, sketch.draw] ++ sketch.helpers.toList ++
    sketch.events.toList

theorem any_present {p : String → Bool} (hp : p "" = false) (text : Option String) :
    (present text).any p = text.toList.any p := by
  cases text with
  | none => rfl
  | some text =>
    by_cases h : text = ""
    · subst h
      simp [present, hp]
    · rw [present_of_getD_ne (show (some text).getD "" ≠ "" from h)]
      rfl

theorem any_brokenOff {p : String → Bool} (hp : ∀ text, p (text ++ "\n") = p text)
    (texts : List String) :
    (brokenOff texts).any p = texts.any p := by
  induction texts using brokenOff.induct with
  | case1 => rfl
  | case2 text => rfl
  | case3 text texts hne ih => rw [brokenOff.eq_3 _ _ hne, List.any_cons, List.any_cons, ih, hp]

section
variable {word : String} (hbreak : '\n' ∉ word.toList)
include hbreak

theorem containsWord_append_break (x y : List Char) :
    containsWord word (String.ofList (x ++ '\n' :: y)) =
    (containsWord word (String.ofList x) || containsWord word (String.ofList y)) := by
  rw [Bool.eq_iff_iff, Bool.or_eq_true, containsWord_iff, containsWord_iff, containsWord_iff,
    String.toList_ofList, String.toList_ofList, String.toList_ofList]
  constructor
  · exact infix_append_cons hbreak
  · rintro (h | h)
    · exact h.trans (List.prefix_append x _).isInfix
    · exact h.trans ((List.suffix_cons _ y).trans (List.suffix_append x _)).isInfix

variable (hempty : containsWord word "" = false)
include hempty

theorem containsWord_break (x : List Char) :
    containsWord word (String.ofList (x ++ ['\n'])) = containsWord word (String.ofList x) := by
  have nothing : String.ofList [] = "" := rfl
  rw [containsWord_append_break hbreak, nothing, hempty, Bool.or_false]

theorem linewise_word (hframe : ∀ l ∈ frameLines, containsWord word l = false) :
    Linewise fun cs => containsWord word (String.ofList cs) where
  frame l hl y := by
    rw [containsWord_append_break hbreak, String.ofList_toList, hframe l hl, Bool.false_or]
  append x y _ := by
    rw [containsWord_append_break hbreak, containsWord_break hbreak hempty]
  brace := hframe "\x7d" (by simp [frameLines])

/-- **A word without a line break stands in a sketch exactly if it stands in a section**, unless it
stands in the frame. -/
theorem containsWord_code (hframe : ∀ l ∈ frameLines, containsWord word l = false)
    (sketch : Sketch) :
    containsWord word sketch.code = sketch.texts.any (containsWord word) := by
  have broken (text : String) : containsWord word (text ++ "\n") = containsWord word text := by
    have broken : text ++ "\n" = String.ofList (text.toList ++ ['\n']) := by simp
    rw [broken, containsWord_break hbreak hempty, String.ofList_toList]
  have scanned := sketch.layout.finds_eq (linewise_word hbreak hempty hframe)
  simp only [String.ofList_toList] at scanned
  rw [code, scanned, scannedTexts, texts, List.any_append, any_brokenOff broken, List.any_append,
    List.any_map]
  have same : containsWord word ∘ (· ++ "\n") = containsWord word := funext broken
  simp only [same, List.any_append, any_present hempty, Bool.or_assoc]

end

/-! ## The structure of a sketch -/

/-- **The structure check and both template checks agree on every sketch.** They accept it exactly
if no section contains the call for instance mode; otherwise they report that call and nothing
else. -/
theorem checks_agree (sketch : Sketch) :
    let clashes := ∃ text ∈ sketch.texts, instanceCall.toList <:+: text.toList
    (structureFaults sketch.code = [] ↔ ¬ clashes) ∧
      (∀ strict, templateFaults strict sketch.code = [] ↔ ¬ clashes) ∧
      (clashes → structureFaults sketch.code = [.instanceMode] ∧
        ∀ strict, templateFaults strict sketch.code = [.instanceMode]) := by
  intro clashes
  have hframe : ∀ l ∈ frameLines, containsWord instanceCall l = false := by decide
  have found : containsWord instanceCall sketch.code = true ↔ clashes := by
    rw [containsWord_code (by decide) rfl hframe, List.any_eq_true]
    simp only [containsWord_iff, clashes]
  rw [structureFaults_code]
  simp only [templateFaults_code]
  by_cases h : clashes
  · rw [if_pos (found.mpr h), if_pos (found.mpr h)]
    simp [h]
  · rw [if_neg (mt found.mp h), if_neg (mt found.mp h)]
    simp [h]

theorem checks_agree_instanced :
    let sketch : Sketch := { setup := "  createCanvas(400, 400);", draw := "  new p5(draft);" }
    structureFaults sketch.code = [.instanceMode] ∧ ∀ strict, templateFaults strict sketch.code =
      [.instanceMode] := by
  intro sketch
  have member : "  new p5(draft);" ∈ sketch.texts := by simp [sketch, texts]
  have clash : instanceCall.toList <:+: "  new p5(draft);".toList := by decide +kernel
  exact (checks_agree sketch).2.2 ⟨_, member, clash⟩

end Sketch

end SceneSketch
