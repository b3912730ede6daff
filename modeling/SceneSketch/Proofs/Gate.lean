import SceneSketch.Prompt.Review
import SceneSketch.Proofs.Patterns

/-!
# The gate for replies

The code of a reply gets through exactly if it follows the template and no hazard stands in it. A
refusal carries both lists in full, and faults of the template are named first
(`acceptReply_outcome`).
-/

namespace SceneSketch

/-! ## What the template asks for -/

def Marked (title code : String) : Prop :=
  ("// " ++ title).toList <:+: code.toList ∨ bannerRule.toList <:+: code.toList

theorem hasBanner_iff {title code : String} : hasBanner title code = true ↔ Marked title code := by
  rw [hasBanner, Bool.or_eq_true, containsWord_iff, containsWord_iff]
  rfl

theorem hasFunction_setup {code : String} : hasFunction "setup" code = true ↔
    OpensFunction "setup" code :=
  hasFunction_iff (show "setup".toList = 's' :: "etup".toList by decide) (by decide)

theorem hasFunction_draw {code : String} : hasFunction "draw" code = true ↔
    OpensFunction "draw" code :=
  hasFunction_iff (show "draw".toList = 'd' :: "raw".toList by decide) (by decide)

structure FollowsTemplate (strict : Bool) (code : String) : Prop where
  setup : setupHeader.toList <:+: code.toList
  draw : drawHeader.toList <:+: code.toList
  setupMarked : Marked "SETUP" code
  drawMarked : Marked "DRAW" code
  global : ¬ instanceCall.toList <:+: code.toList
  opensSetup : strict = true → OpensFunction "setup" code
  opensDraw : strict = true → OpensFunction "draw" code

namespace TemplateFault

def all : List TemplateFault :=
  [missingSetup, missingDraw, missingSetupBanner, missingDrawBanner, instanceMode,
    setupSyntax, drawSyntax]

/-- What is wrong with the code according to the fault. -/
def Holds (strict : Bool) (code : String) : TemplateFault → Prop
  | missingSetup => ¬ setupHeader.toList <:+: code.toList
  | missingDraw => ¬ drawHeader.toList <:+: code.toList
  | missingSetupBanner => ¬ Marked "SETUP" code
  | missingDrawBanner => ¬ Marked "DRAW" code
  | instanceMode => instanceCall.toList <:+: code.toList
  | setupSyntax => strict = true ∧ ¬ OpensFunction "setup" code
  | drawSyntax => strict = true ∧ ¬ OpensFunction "draw" code

end TemplateFault

theorem followsTemplate_iff {strict : Bool} {code : String} :
    FollowsTemplate strict code ↔ ∀ fault : TemplateFault, ¬ fault.Holds strict code := by
  constructor
  · intro h fault
    cases fault with
    | missingSetup => exact not_not_intro h.setup
    | missingDraw => exact not_not_intro h.draw
    | missingSetupBanner => exact not_not_intro h.setupMarked
    | missingDrawBanner => exact not_not_intro h.drawMarked
    | instanceMode => exact h.global
    | setupSyntax => exact fun ⟨hs, ho⟩ => ho (h.opensSetup hs)
    | drawSyntax => exact fun ⟨hs, ho⟩ => ho (h.opensDraw hs)
  · intro h
    exact {
      setup := not_not.mp (h .missingSetup)
      draw := not_not.mp (h .missingDraw)
      setupMarked := not_not.mp (h .missingSetupBanner)
      drawMarked := not_not.mp (h .missingDrawBanner)
      global := h .instanceMode
      opensSetup := fun hs => not_not.mp fun ho => h .setupSyntax ⟨hs, ho⟩
      opensDraw := fun hs => not_not.mp fun ho => h .drawSyntax ⟨hs, ho⟩ }

/-! ## The lists of the checks -/

section
variable {α : Type} {tests : List (Bool × α)}

theorem mem_faultsOf {a : α} : a ∈ faultsOf tests ↔ (true, a) ∈ tests := by
  rw [faultsOf, List.mem_filterMap]
  constructor
  · rintro ⟨⟨found, fault⟩, hmem, h⟩
    cases found with
    | true => cases h; exact hmem
    | false => cases h
  · exact fun h => ⟨_, h, rfl⟩

theorem faultsOf_sublist : (faultsOf tests).Sublist (tests.map Prod.snd) := by
  induction tests with
  | nil => exact List.Sublist.refl _
  | cons test tests ih =>
    obtain ⟨found, fault⟩ := test
    cases found with
    | true => exact ih.cons_cons fault
    | false => exact ih.cons fault

end

theorem mem_templateFaults {strict : Bool} {code : String} {fault : TemplateFault} :
    fault ∈ templateFaults strict code ↔ fault.Holds strict code := by
  have lenient : fault ∈ lenientFaults code ↔ fault.Holds false code := by
    rw [lenientFaults, mem_faultsOf]
    cases fault <;> simp [TemplateFault.Holds, ← containsWord_iff, ← hasBanner_iff]
  have syntactic : fault ∈ syntaxFaults code ↔
      fault = .setupSyntax ∧ ¬ OpensFunction "setup" code ∨ fault = .drawSyntax ∧
      ¬ OpensFunction "draw" code := by
    rw [syntaxFaults, mem_faultsOf]
    cases fault <;> simp [← hasFunction_setup, ← hasFunction_draw]
  rw [templateFaults, List.mem_append, lenient]
  cases strict with
  | false => simp
  | true =>
    rw [if_pos rfl, syntactic]
    cases fault <;> simp [TemplateFault.Holds]

theorem templateFaults_sublist (strict : Bool) (code : String) :
    (templateFaults strict code).Sublist TemplateFault.all := by
  have lenient : (lenientFaults code).Sublist (TemplateFault.all.take 5) := faultsOf_sublist
  have syntactic : (if strict then syntaxFaults code else []).Sublist
      (TemplateFault.all.drop 5) := by
    split
    · exact faultsOf_sublist
    · exact List.nil_sublist _
  exact lenient.append syntactic

theorem templateFaults_eq_nil {strict : Bool} {code : String} :
    templateFaults strict code = [] ↔ FollowsTemplate strict code := by
  rw [followsTemplate_iff, List.eq_nil_iff_forall_not_mem]
  simp only [mem_templateFaults]

theorem hazards_eq_nil {code : String} :
    hazards code = [] ↔ ∀ hazard : Hazard, ¬ hazard.StandsIn code := by
  rw [List.eq_nil_iff_forall_not_mem]
  simp only [mem_hazards]

/-! ## The review -/

theorem refusal?_ofCode (strict : Bool) (code : String) : (Review.ofCode strict code).refusal? =
    if templateFaults strict code = [] then
      if hazards code = [] then none else some .unsafePatterns
    else some .template := by
  unfold Review.refusal? Verdict.valid Verdict.safe Review.ofCode Verdict.ofCode
  cases templateFaults strict code with
  | nil => cases hazards code <;> rfl
  | cons fault faults => rfl

theorem acceptCode_eq_ok {strict : Bool} {code : String} {review : Review} :
    acceptCode strict code = .ok review ↔
      review = .ofCode strict code ∧ templateFaults strict code = [] ∧ hazards code = [] := by
  unfold acceptCode
  simp only [refusal?_ofCode]
  by_cases hfaults : templateFaults strict code = []
  · by_cases hhazards : hazards code = []
    · simp [hfaults, hhazards, eq_comm]
    · simp [hfaults, hhazards]
  · simp [hfaults]

theorem acceptCode_eq_error {strict : Bool} {code : String} {refusal : Refusal} {verdict : Verdict}
    (h : acceptCode strict code = .error (refusal, verdict)) :
    verdict = .ofCode strict code ∧
      refusal = if templateFaults strict code = [] then .unsafePatterns else .template := by
  unfold acceptCode at h
  simp only [refusal?_ofCode] at h
  by_cases hfaults : templateFaults strict code = []
  · by_cases hhazards : hazards code = []
    · simp [hfaults, hhazards] at h
    · simp only [hfaults, hhazards, if_true, if_false] at h
      cases h
      exact ⟨rfl, by rw [if_pos hfaults]⟩
  · simp only [hfaults, if_false] at h
    cases h
    exact ⟨rfl, by rw [if_neg hfaults]⟩

/-- **A reply gets through exactly if its code follows the template and no hazard stands in it;
otherwise the refusal carries all faults and all hazards, and faults of the template come first as
the reason.** -/
theorem acceptReply_outcome (settings : Settings) (strict : Option Bool) (reply : Option String) :
    let code := unfence (reply.getD "")
    let strictly := strict.getD settings.strictTemplateChecks
    ((∃ review, acceptReply settings strict reply = .ok review) ↔
        FollowsTemplate strictly code ∧ ∀ hazard : Hazard, ¬ hazard.StandsIn code) ∧
      (∀ review, acceptReply settings strict reply = .ok review →
        review.code = code ∧ review.refusal? = none) ∧
      ∀ refusal verdict, acceptReply settings strict reply = .error (refusal, verdict) →
        (∀ fault, fault ∈ verdict.faults ↔ fault.Holds strictly code) ∧
          verdict.faults.Sublist TemplateFault.all ∧
          (∀ hazard, hazard ∈ verdict.hazards ↔ hazard.StandsIn code) ∧
          verdict.hazards.Sublist Hazard.all ∧
          refusal.message =
            if verdict.faults = [] then "Generated code contains unsafe patterns"
            else "Generated code does not comply with template" := by
  intro code strictly
  have gate : acceptReply settings strict reply = acceptCode strictly code := rfl
  rw [gate]
  clear_value code strictly
  refine ⟨?_, ?_, ?_⟩
  · rw [← templateFaults_eq_nil, ← hazards_eq_nil]
    constructor
    · rintro ⟨review, h⟩
      exact (acceptCode_eq_ok.mp h).2
    · intro h
      exact ⟨_, acceptCode_eq_ok.mpr ⟨rfl, h⟩⟩
  · intro review h
    obtain ⟨rfl, hfaults, hhazards⟩ := acceptCode_eq_ok.mp h
    exact ⟨rfl, by rw [refusal?_ofCode, if_pos hfaults, if_pos hhazards]⟩
  · intro refusal verdict h
    obtain ⟨rfl, hrefusal⟩ := acceptCode_eq_error h
    refine ⟨fun _ => mem_templateFaults, templateFaults_sublist strictly code, fun _ => mem_hazards,
      List.filter_sublist, ?_⟩
    change refusal.message = if templateFaults strictly code = [] then _ else _
    rw [hrefusal]
    split <;> rfl

end SceneSketch
