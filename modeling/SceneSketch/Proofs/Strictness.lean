import Mathlib.Data.List.Nodup
import SceneSketch.Proofs.Gate

/-!
# The checks of structure from mild to strict

The structure check, the lenient template check and the strict one ask for more and more of the
code, and agree on what they all ask for (`verdicts_ordered`). The strict check adds that both
functions are written out up to their opening braces (`Declares`).
-/

namespace SceneSketch

/-- A function of that name without parameters begins in the code. Blanks may stand between its
parts, and at least one does behind the keyword. -/
def Declares (name code : String) : Prop :=
  ∃ keyword called opened closed : List Char, keyword ≠ [] ∧
    (∀ c ∈ keyword ++ called ++ opened ++ closed, isBlankChar c = true) ∧
    "function".toList ++ keyword ++ name.toList ++ called ++ ['('] ++ opened ++ [')'] ++ closed ++
    ['\x7b'] <:+:
      code.toList

theorem fits_functionPattern {name : String} {text : List Char} :
    Fits (· = ·) (functionPattern name) text ↔
      ∃ keyword called opened closed : List Char, keyword ≠ [] ∧
        (∀ c ∈ keyword ++ called ++ opened ++ closed, isBlankChar c = true) ∧
        text = "function".toList ++ keyword ++ name.toList ++ called ++ ['('] ++ opened ++
        [')'] ++ closed ++
          ['\x7b'] := by
  rw [functionPattern]
  simp only [↓fits_word_iff, fits_cons_iff, fits_nil_iff, List.forall_mem_append]
  constructor
  · rintro ⟨_, rfl, keyword, _, rfl, ⟨gap, hkeyword⟩, _, rfl, called, _, rfl, hcalled, _, rfl,
      opened, _, rfl, hopened, _, rfl, closed, _, rfl, hclosed, _, rfl, rfl⟩
    exact ⟨keyword, called, opened, closed, gap, ⟨⟨⟨hkeyword, hcalled⟩, hopened⟩, hclosed⟩, by simp⟩
  · rintro ⟨keyword, called, opened, closed, gap, ⟨⟨⟨hkeyword, hcalled⟩, hopened⟩, hclosed⟩, rfl⟩
    exact ⟨_, by simp, keyword, _, rfl, ⟨gap, hkeyword⟩, _, rfl, called, _, rfl, hcalled,
      _, rfl, opened, _, rfl, hopened, _, rfl, closed, _, rfl, hclosed, [], rfl, rfl⟩

theorem opensFunction_iff {name code : String} : OpensFunction name code ↔ Declares name code := by
  unfold OpensFunction Declares
  constructor
  · intro ⟨text, hpart, hfits⟩
    obtain ⟨keyword, called, opened, closed, gap, blank, rfl⟩ := fits_functionPattern.mp hfits
    exact ⟨keyword, called, opened, closed, gap, blank, hpart⟩
  · intro ⟨keyword, called, opened, closed, gap, blank, hpart⟩
    exact ⟨_, hpart, fits_functionPattern.mpr ⟨keyword, called, opened, closed, gap, blank, rfl⟩⟩

/-! ## Faults that both checks name -/

/-- What the template check calls a fault of the structure check. -/
def StructureFault.counterpart : StructureFault → TemplateFault
  | missingSetup => .missingSetup
  | missingDraw => .missingDraw
  | instanceMode => .instanceMode

theorem StructureFault.message_injective : Function.Injective message := by
  have distinct : ([missingSetup, missingDraw, instanceMode].map message).Nodup := by decide
  have listed (fault : StructureFault) : fault ∈ [missingSetup, missingDraw, instanceMode] := by
    cases fault <;> simp
  intro fault other h
  exact List.inj_on_of_nodup_map distinct (listed fault) (listed other) h

theorem TemplateFault.message_injective : Function.Injective message := by
  have distinct : (all.map message).Nodup := by decide
  have listed (fault : TemplateFault) : fault ∈ all := by
    cases fault <;> simp [all]
  intro fault other h
  exact List.inj_on_of_nodup_map distinct (listed fault) (listed other) h

theorem mem_structureFaults {strict : Bool} {code : String} {fault : StructureFault} :
    fault ∈ structureFaults code ↔ fault.counterpart ∈ templateFaults strict code := by
  rw [mem_templateFaults, structureFaults, mem_faultsOf]
  cases fault <;> simp [StructureFault.counterpart, TemplateFault.Holds, ← containsWord_iff]

theorem structureFaults_eq_nil {code : String} : structureFaults code = [] ↔
    ∀ fault : StructureFault, ¬ fault.counterpart.Holds false code := by
  rw [List.eq_nil_iff_forall_not_mem]
  simp only [@mem_structureFaults false, mem_templateFaults]

/-! ## One check after the other -/

theorem lenient_iff {code : String} : templateFaults false code = [] ↔
    structureFaults code = [] ∧ Marked "SETUP" code ∧ Marked "DRAW" code := by
  rw [templateFaults_eq_nil, structureFaults_eq_nil]
  constructor
  · intro h
    have all := followsTemplate_iff.mp h
    exact ⟨fun fault => all fault.counterpart, h.setupMarked, h.drawMarked⟩
  · intro ⟨structured, setupMarked, drawMarked⟩
    rw [followsTemplate_iff]
    intro fault
    cases fault with
    | missingSetup => exact structured .missingSetup
    | missingDraw => exact structured .missingDraw
    | instanceMode => exact structured .instanceMode
    | missingSetupBanner => exact not_not_intro setupMarked
    | missingDrawBanner => exact not_not_intro drawMarked
    | setupSyntax => exact fun h => Bool.false_ne_true h.1
    | drawSyntax => exact fun h => Bool.false_ne_true h.1

theorem strict_iff {code : String} : templateFaults true code = [] ↔
    templateFaults false code = [] ∧ Declares "setup" code ∧ Declares "draw" code := by
  rw [templateFaults_eq_nil, templateFaults_eq_nil, ← opensFunction_iff, ← opensFunction_iff]
  constructor
  · intro h
    have lenient : FollowsTemplate false code :=
      ⟨h.setup, h.draw, h.setupMarked, h.drawMarked, h.global, fun e => absurd e Bool.false_ne_true,
        fun e => absurd e Bool.false_ne_true⟩
    exact ⟨lenient, h.opensSetup rfl, h.opensDraw rfl⟩
  · intro ⟨h, setup, draw⟩
    exact ⟨h.setup, h.draw, h.setupMarked, h.drawMarked, h.global, fun _ => setup, fun _ => draw⟩

/-- **The verdicts on the structure of code are ordered.** The strict template check lists what the
lenient one lists and then at most its two messages on syntax; the structure check agrees with both
on what it asks for. Each check accepts what a stricter one accepts, and what it accepts besides is
told exactly. -/
theorem verdicts_ordered (code : String) :
    (∃ more : List String, (templateFaults true code).map TemplateFault.message =
        (templateFaults false code).map TemplateFault.message ++ more ∧
      more.Sublist ["setup() function has incorrect syntax",
        "draw() function has incorrect syntax"]) ∧
    (∀ (strict : Bool) (fault : StructureFault),
      fault.message ∈ (structureFaults code).map StructureFault.message ↔
        fault.counterpart.message ∈ (templateFaults strict code).map TemplateFault.message) ∧
    (templateFaults true code = [] ↔
      templateFaults false code = [] ∧ Declares "setup" code ∧ Declares "draw" code) ∧
    (templateFaults false code = [] ↔
      structureFaults code = [] ∧ Marked "SETUP" code ∧ Marked "DRAW" code) := by
  refine ⟨?_, ?_, strict_iff, lenient_iff⟩
  · refine ⟨(syntaxFaults code).map TemplateFault.message, ?_, ?_⟩
    · rw [← List.map_append, templateFaults, templateFaults, if_pos rfl, if_neg Bool.false_ne_true,
        List.append_nil]
    · have syntactic : (syntaxFaults code).Sublist [.setupSyntax, .drawSyntax] := faultsOf_sublist
      exact syntactic.map TemplateFault.message
  · intro strict fault
    rw [List.mem_map_of_injective StructureFault.message_injective,
      List.mem_map_of_injective TemplateFault.message_injective]
    exact mem_structureFaults

end SceneSketch
