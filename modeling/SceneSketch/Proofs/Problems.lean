import SceneSketch.Proofs.Histories
import SceneSketch.Proofs.Rounding

/-!
# The problems of a scene

The checks of a scene are exact: they name an empty canvas once, each element without a name, and
each name of several elements once, in the order in which the names are first met
(`Scene.problems_exact`).
-/

namespace SceneSketch

section
variable {α : Type} [BEq α] [LawfulBEq α]

theorem idxOf_lt_of_filter {p : α → Bool} {a b : α} {l : List α} (ha : p a = true) (hb : p b = true)
    (h : (l.filter p).idxOf a < (l.filter p).idxOf b) : l.idxOf a < l.idxOf b := by
  induction l with
  | nil => exact h
  | cons c l ih =>
    rw [List.filter_cons] at h
    by_cases hca : c = a
    · subst hca
      by_cases hcb : c = b
      · subst hcb
        exact absurd h (Nat.lt_irrefl _)
      · simp [List.idxOf_cons_ne l hcb]
    · by_cases hcb : c = b
      · subst hcb
        simp [hb] at h
      · rw [List.idxOf_cons_ne l hca, List.idxOf_cons_ne l hcb]
        split at h
        · rw [List.idxOf_cons_ne _ hca, List.idxOf_cons_ne _ hcb] at h
          exact Nat.succ_lt_succ (ih (Nat.lt_of_succ_lt_succ h))
        · exact Nat.succ_lt_succ (ih h)

theorem pairwise_eraseDups : ∀ l : List α, l.eraseDups.Pairwise fun a b => l.idxOf a < l.idxOf b
  | [] => List.Pairwise.nil
  | c :: l => by
    rw [List.eraseDups_cons, List.pairwise_cons]
    have other {a : α} (ha : a ∈ (l.filter fun b => !b == c).eraseDups) : (!a == c) = true :=
      (List.mem_filter.mp (List.mem_eraseDups.mp ha)).2
    have behind {a : α} (ha : (!a == c) = true) : (c :: l).idxOf a = l.idxOf a + 1 := by
      apply List.idxOf_cons_ne
      intro e
      subst e
      simp at ha
    constructor
    · intro a ha
      rw [behind (other ha), List.idxOf_cons_self]
      exact Nat.succ_pos _
    · refine (pairwise_eraseDups (l.filter fun b => !b == c)).imp_of_mem ?_
      intro a b ha hb h
      rw [behind (other ha), behind (other hb)]
      exact Nat.succ_lt_succ (idxOf_lt_of_filter (p := fun d => !d == c) (other ha) (other hb) h)
termination_by l => l.length
decreasing_by
  exact Nat.lt_succ_of_le (List.length_filter_le _ _)

end

/-! ## Names of several elements -/

/-- The names that are not empty and stand more than once, each of them once and in the order in
which they are first met. -/
structure Repeated (names repeated : List Text) : Prop where
  mem_iff : ∀ name, name ∈ repeated ↔ name ≠ "" ∧ 2 ≤ names.count name
  ordered : repeated.Pairwise fun a b => names.idxOf a < names.idxOf b

namespace Repeated

variable {names repeated other : List Text}

theorem nodup (h : Repeated names repeated) : repeated.Nodup := by
  refine h.ordered.imp ?_
  intro a b hab e
  subst e
  exact Nat.lt_irrefl _ hab

theorem unique (h : Repeated names repeated) (h' : Repeated names other) : repeated = other := by
  have same : repeated.Perm other := by
    rw [List.perm_ext_iff_of_nodup h.nodup h'.nodup]
    intro name
    rw [h.mem_iff, h'.mem_iff]
  exact same.eq_of_pairwise (fun a b _ _ hab hba => absurd hba (Nat.lt_asymm hab))
    h.ordered h'.ordered

end Repeated

def Scene.repeatedNames (scene : Scene) : List Text :=
  let ids := scene.names.filter (· ≠ .unicode "")
  ids.eraseDups.filter fun id => 1 < ids.count id

theorem Scene.repeated_repeatedNames (scene : Scene) :
    Repeated scene.names scene.repeatedNames where
  mem_iff name := by
    unfold repeatedNames
    rw [List.mem_filter, List.mem_eraseDups, List.mem_filter, decide_eq_true_eq, decide_eq_true_eq]
    by_cases hname : name = .unicode ""
    · simp [hname]
    · rw [List.count_filter (by simpa using hname)]
      constructor
      · intro h
        exact ⟨hname, h.2⟩
      · intro h
        have present : name ∈ scene.names := List.count_pos_iff.mp (by omega)
        exact ⟨⟨present, hname⟩, h.2⟩
  ordered := by
    have named {a : Text} (ha : a ∈ scene.repeatedNames) : decide (a ≠ .unicode "") = true :=
      (List.mem_filter.mp (List.mem_eraseDups.mp (List.mem_of_mem_filter ha))).2
    refine ((pairwise_eraseDups (scene.names.filter (· ≠ .unicode ""))).filter _).imp_of_mem ?_
    intro a b ha hb h
    exact idxOf_lt_of_filter (p := (· ≠ .unicode "")) (named ha) (named hb) h

/-! ## Sizes -/

namespace Double

def AboveZero : Double → Prop
  | nan => False
  | infinite negative => negative = false
  | finite x => 0 < x.units

def AtMostZero : Double → Prop
  | nan => False
  | infinite negative => negative = true
  | finite x => x.units ≤ 0

theorem isNonpositive_iff {x : Double} : x.isNonpositive = true ↔ x.AtMostZero := by
  cases x with
  | nan => simp [isNonpositive, AtMostZero]
  | infinite negative => simp [isNonpositive, AtMostZero]
  | finite x =>
    have least : x.magnitude ≤ 0 ↔ x.rank ≤ 0 := unitsOfRank_strictMono.le_iff_le (b := 0)
    unfold isNonpositive AtMostZero FiniteDouble.units
    cases hx : x.negative
    · simpa [hx] using least.symm
    · simp [hx]

/-- What is no number is neither above zero nor at most zero. -/
theorem aboveZero_iff (x : Double) : x.AboveZero ↔ ¬ x.AtMostZero ∧ x ≠ .nan := by
  cases x <;> simp [AboveZero, AtMostZero]

instance (x : Double) : Decidable x.AtMostZero := decidable_of_iff _ isNonpositive_iff

end Double

/-! ## Messages -/

namespace Scene

theorem messages_canvas (scene : Scene) : scene.canvasProblems.map SceneProblem.message =
    if scene.canvas.width.AtMostZero ∨ scene.canvas.height.AtMostZero then
      [.unicode "Canvas dimensions must be positive"]
    else [] := by
  unfold canvasProblems
  simp only [Bool.or_eq_true, Double.isNonpositive_iff]
  split
  · rfl
  · rfl

theorem messages_missing (scene : Scene) : scene.missingIdProblems.map SceneProblem.message =
    List.replicate (scene.names.count (.unicode "")) (.unicode "Element missing ID") := by
  have number : (scene.elements.filter fun e => e.id = .unicode "").length =
      scene.names.count (.unicode "") := by
    rw [names, List.count, List.countP_map, List.countP_eq_length_filter]
    rfl
  unfold missingIdProblems
  rw [List.map_map, ← number]
  exact List.map_const'

theorem messages_duplicate (scene : Scene) : scene.duplicateIdProblems.map SceneProblem.message =
    scene.repeatedNames.map (.unicode "Duplicate element ID: " ++ ·) := by
  unfold duplicateIdProblems
  rw [List.map_map]
  rfl

/-- A scene is valid in the words of its canvas and its elements. -/
theorem valid_iff {scene : Scene} : scene.Valid ↔
    ¬ scene.canvas.width.AtMostZero ∧ ¬ scene.canvas.height.AtMostZero ∧
      (∀ e ∈ scene.elements, e.id ≠ "") ∧ scene.elements.Pairwise fun a b => a.id ≠ b.id := by
  have named : .unicode "" ∉ scene.names ↔ ∀ e ∈ scene.elements, e.id ≠ "" := by
    simp [names]
  have distinct : scene.names.Nodup ↔ scene.elements.Pairwise fun a b => a.id ≠ b.id :=
    List.pairwise_map
  rw [← Double.isNonpositive_iff, ← Double.isNonpositive_iff, Bool.not_eq_true, Bool.not_eq_true,
    ← named, ← distinct]
  constructor
  · intro h
    exact ⟨h.width, h.height, h.named, h.distinct⟩
  · rintro ⟨width, height, named, distinct⟩
    exact ⟨width, height, named, distinct⟩

/-- **The checks of a scene are exact.** They find nothing exactly if the canvas is not empty and
the elements have names of their own; what they find is listed in this order, and a scene is passed
on as it is or refused with the whole list. A size is greater than zero if it is not at most zero;
the one double that is neither is no number, and no canvas is read with it. -/
theorem problems_exact (scene : Scene) :
    (scene.problems = [] ↔ ¬ scene.canvas.width.AtMostZero ∧ ¬ scene.canvas.height.AtMostZero ∧
        (∀ e ∈ scene.elements, e.id ≠ "") ∧ scene.elements.Pairwise fun a b => a.id ≠ b.id) ∧
      (∀ x : Double, x.AboveZero ↔ ¬ x.AtMostZero ∧ x ≠ .nan) ∧
      (∃! repeated, Repeated scene.names repeated ∧
        scene.problems.map SceneProblem.message =
          (if scene.canvas.width.AtMostZero ∨ scene.canvas.height.AtMostZero then
            [.unicode "Canvas dimensions must be positive"]
            else []) ++
          List.replicate (scene.names.count (.unicode "")) (.unicode "Element missing ID") ++
          repeated.map (.unicode "Duplicate element ID: " ++ ·)) ∧
      (scene.checked = .ok scene ↔ scene.problems = []) ∧
      (scene.checked = .error scene.problems ↔ scene.problems ≠ []) := by
  refine ⟨problems_eq_nil.trans valid_iff, Double.aboveZero_iff, ?_, ?_⟩
  · refine ⟨scene.repeatedNames, ⟨scene.repeated_repeatedNames, ?_⟩, ?_⟩
    · rw [problems, List.map_append, List.map_append, messages_canvas, messages_missing,
        messages_duplicate]
    · intro repeated h
      exact h.1.unique scene.repeated_repeatedNames
  · by_cases clean : scene.problems = []
    · simp [checked, clean]
    · simp [checked, clean]

end Scene

end SceneSketch
