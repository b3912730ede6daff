import Mathlib.Data.Prod.Lex
import SceneSketch.Proofs.Survival

/-!
# Which of several blocks wins an axis

A block stands before another one if its priority comes first, or if both have one priority and it
comes first in the list. The walk along the blocks remembers the axes that are claimed so far; what
it keeps is said here without such a memory: the blocks that claim nothing, and of the blocks that
claim one axis the one that stands before all others.
-/

namespace SceneSketch

/-- Where a block of a list stands: by its priority, then by its position. -/
def place (p : Block × Nat) : Nat ×ₗ Nat :=
  toLex (p.1.priority.number, p.2)

theorem place_lt_iff {p q : Block × Nat} : place p < place q ↔
    p.1.priority.number < q.1.priority.number ∨
      p.1.priority.number = q.1.priority.number ∧ p.2 < q.2 :=
  Prod.Lex.toLex_lt_toLex

/-! ## The order -/

/-- The blocks by priority, each with its position in the given list. -/
def inOrder (blocks : List Block) : List (Block × Nat) :=
  Priority.all.flatMap fun c => blocks.zipIdx.filter fun p => p.1.priority = c

theorem map_inOrder (blocks : List Block) : (inOrder blocks).map Prod.fst = byPriority blocks := by
  unfold inOrder byPriority
  rw [List.map_flatMap]
  refine List.flatMap_congr fun c _ => ?_
  conv_rhs => rw [← List.zipIdx_map_fst 0 blocks]
  rw [List.filter_map]
  rfl

theorem mem_inOrder {blocks : List Block} {p : Block × Nat} :
    p ∈ inOrder blocks ↔ p ∈ blocks.zipIdx := by
  simp [inOrder, mem_allPriorities]

theorem pairwise_zipIdx {α : Type} (l : List α) (n : Nat) :
    (l.zipIdx n).Pairwise fun p q => p.2 < q.2 := by
  induction l generalizing n with
  | nil => exact .nil
  | cons a l ih =>
    refine List.pairwise_cons.mpr ⟨fun q hq => ?_, ih (n + 1)⟩
    exact List.le_snd_of_mem_zipIdx hq

/-- **Taken by priority, the blocks stand in order.** -/
theorem pairwise_inOrder (blocks : List Block) :
    (inOrder blocks).Pairwise fun p q => place p < place q := by
  refine List.pairwise_flatMap.mpr ⟨fun c _ => ?_, ?_⟩
  · refine ((pairwise_zipIdx blocks 0).filter _).imp_of_mem fun {p q} hp hq before => ?_
    have one : p.1.priority = q.1.priority := by
      rw [List.mem_filter] at hp hq
      simp only [decide_eq_true_eq] at hp hq
      rw [hp.2, hq.2]
    exact place_lt_iff.mpr (.inr ⟨by rw [one], before⟩)
  · have ascending : Priority.all.Pairwise fun c d => c.number < d.number := by decide
    refine ascending.imp fun {c d} less p hp q hq => place_lt_iff.mpr (.inl ?_)
    rw [List.mem_filter] at hp hq
    simp only [decide_eq_true_eq] at hp hq
    rw [hp.2, hq.2]
    exact less

/-! ## The walk without its memory -/

/-- What the block claims is not among the claimed labels, nor claimed by a block of the list that
stands before it. -/
def Stays (claimed : List AxisLabel) (blocks : List (Block × Nat)) (p : Block × Nat) : Prop :=
  p.1.axisClaim = .free ∨ (∀ label ∈ claimed, p.1.axisClaim ≠ .claims label) ∧
    ∀ q ∈ blocks, place q < place p → q.1.axisClaim ≠ p.1.axisClaim

instance (claimed : List AxisLabel) (blocks : List (Block × Nat)) (p : Block × Nat) :
    Decidable (Stays claimed blocks p) :=
  inferInstanceAs (Decidable (_ ∨ _))

section
variable {claimed : List AxisLabel} {l : List (Block × Nat)} {p q : Block × Nat}

theorem stays_first (first : ∀ q ∈ l, place p < place q) : Stays claimed (p :: l) p ↔
    p.1.axisClaim = .free ∨ ∀ label ∈ claimed, p.1.axisClaim ≠ .claims label := by
  have none_before : ∀ q ∈ p :: l, place q < place p → q.1.axisClaim ≠ p.1.axisClaim := by
    intro q hq before
    rcases List.mem_cons.mp hq with rfl | hq
    · exact absurd before (lt_irrefl _)
    · exact absurd before (lt_asymm (first q hq))
  exact or_congr_right (and_iff_left none_before)

theorem stays_cons (before : place p < place q) : Stays claimed (p :: l) q ↔
    q.1.axisClaim = .free ∨ (∀ label ∈ claimed, q.1.axisClaim ≠ .claims label) ∧
      p.1.axisClaim ≠ q.1.axisClaim ∧ ∀ r ∈ l, place r < place q →
      r.1.axisClaim ≠ q.1.axisClaim := by
  simp [Stays, before]

/-- **Along blocks that stand in order the walk keeps those that stay.** -/
theorem survivors_eq_filter (sorted : l.Pairwise fun p q => place p < place q)
    (comparable : ∀ p ∈ l, Comparable p.1) (claimed : List AxisLabel) :
    survivors claimed (l.map Prod.fst) = (l.filter fun p => Stays claimed l p).map Prod.fst := by
  -- a label that is added to the claimed ones stands for the block that claimed it, which comes
  -- before the rest
  induction l generalizing claimed with
  | nil => rfl
  | cons p l ih =>
    obtain ⟨first, sorted⟩ := List.pairwise_cons.mp sorted
    obtain ⟨hp, comparable⟩ := List.forall_mem_cons.mp comparable
    have rest {labels : List AxisLabel}
        (same : ∀ q ∈ l, Stays claimed (p :: l) q ↔ Stays labels l q) :
        (l.filter fun q => Stays claimed (p :: l) q).map Prod.fst =
          survivors labels (l.map Prod.fst) := by
      rw [ih sorted comparable labels]
      exact congrArg _ (List.filter_congr fun q hq => decide_eq_decide.mpr (same q hq))
    rw [List.map_cons, survivors]
    cases claim : p.1.axisClaim with
    | free =>
      have stays : Stays claimed (p :: l) p := (stays_first first).mpr (.inl claim)
      have same : ∀ q ∈ l, Stays claimed (p :: l) q ↔ Stays claimed l q := by
        intro q hq
        rw [stays_cons (first q hq), claim, Stays]
        by_cases free : q.1.axisClaim = .free
        · simp [free]
        · simp [free, Ne.symm free]
      simp only [List.filter_cons, stays, decide_true, if_true, List.map_cons, rest same]
    | claims label =>
      by_cases taken : label ∈ claimed
      · have displaced : ¬ Stays claimed (p :: l) p := by
          rw [stays_first first, claim]
          simp [taken]
        have same : ∀ q ∈ l, Stays claimed (p :: l) q ↔ Stays claimed l q := by
          intro q hq
          rw [stays_cons (first q hq), claim]
          refine or_congr_right (and_congr_right fun unclaimed => and_iff_right ?_)
          exact Ne.symm (unclaimed label taken)
        simp [displaced, taken, rest same]
      · have stays : Stays claimed (p :: l) p := by
          refine (stays_first first).mpr (.inr fun other known same => taken ?_)
          rw [claim] at same
          exact AxisClaim.claims.inj same ▸ known
        have same : ∀ q ∈ l, Stays claimed (p :: l) q ↔ Stays (label :: claimed) l q := by
          intro q hq
          rw [stays_cons (first q hq), claim, Stays, List.forall_mem_cons]
          tauto
        simp only [List.filter_cons, stays, decide_true, if_true, List.map_cons, rest same,
          if_neg taken]
    | containerKey c => exact absurd claim (hp c)

end

/-! ## The blocks that are written -/

/-- The block claims nothing, or no block of the list that stands before it claims the same axis. -/
def Prevails (blocks : List Block) (p : Block × Nat) : Prop :=
  p.1.axisClaim = .free ∨
    ∀ q ∈ blocks.zipIdx, place q < place p → q.1.axisClaim ≠ p.1.axisClaim

instance (blocks : List Block) (p : Block × Nat) : Decidable (Prevails blocks p) :=
  inferInstanceAs (Decidable (_ ∨ _))

section
variable {blocks : List Block} {p : Block × Nat}

theorem stays_inOrder : Stays [] (inOrder blocks) p ↔ Prevails blocks p := by
  simp [Stays, Prevails, mem_inOrder]

/-- Of the blocks that claim one axis the first one prevails. -/
theorem prevails_iff_least {label : AxisLabel} (claim : p.1.axisClaim = .claims label) :
    Prevails blocks p ↔
    ∀ q ∈ blocks.zipIdx, q.1.axisClaim = .claims label → place p ≤ place q := by
  simp only [Prevails, claim, reduceCtorEq, false_or]
  constructor
  · intro unclaimed q hq same
    by_contra behind
    exact unclaimed q hq (lt_of_not_ge behind) same
  · intro least q hq before same
    exact absurd (least q hq same) (not_le_of_gt before)

theorem keptBlocks_eq_filter (comparable : ∀ b ∈ blocks, Comparable b) :
    keptBlocks blocks = ((inOrder blocks).filter fun p => Prevails blocks p).map Prod.fst := by
  have each : ∀ p ∈ inOrder blocks, Comparable p.1 := fun p hp =>
    comparable p.1 (List.fst_mem_of_mem_zipIdx (mem_inOrder.mp hp))
  rw [keptBlocks_eq, ← map_inOrder, survivors_eq_filter (pairwise_inOrder blocks) each []]
  simp only [stays_inOrder]

end

/-- **Blocks whose axes can be compared are written one after the other, in order: those that claim
no axis, and of those that claim one axis the first.** -/
theorem blockStatements_prevailing {blocks : List Block} (comparable : ∀ b ∈ blocks, Comparable b) :
    axisFault? blocks = none ∧ ∃ kept : List (Block × Nat),
      kept.Pairwise (fun p q => place p < place q) ∧
      (∀ p, p ∈ kept ↔ p ∈ blocks.zipIdx ∧ Prevails blocks p) ∧
      (∀ p ∈ blocks.zipIdx, p.1.axisClaim = .free → p ∈ kept) ∧
      (∀ p ∈ blocks.zipIdx, ∀ label, p.1.axisClaim = .claims label →
        (p ∈ kept ↔ ∀ q ∈ blocks.zipIdx, q.1.axisClaim = .claims label → place p ≤ place q)) ∧
      ∀ shape, blockStatements shape blocks = kept.flatMap fun p => p.1.statements shape := by
  have member (p : Block × Nat) : p ∈ (inOrder blocks).filter (fun p => Prevails blocks p) ↔
      p ∈ blocks.zipIdx ∧ Prevails blocks p := by
    rw [List.mem_filter, mem_inOrder, decide_eq_true_eq]
  refine ⟨axisFault?_eq_none.mpr comparable, _, (pairwise_inOrder blocks).filter _,
    member, ?_, ?_, ?_⟩
  · intro p hp free
    exact (member p).mpr ⟨hp, .inl free⟩
  · intro p hp label claim
    rw [member, and_iff_right hp, prevails_iff_least claim]
  · intro shape
    rw [blockStatements, keptBlocks_eq_filter comparable, List.flatMap_map]

/-- Along `y` an oscillation comes before the block of an unknown kind. Along `x` the block of an
unknown kind comes first, since it says that it bounces: it has the priority of a block that does,
and a place before the oscillation. -/
def tangled : List Block :=
  [.perlinNoise ⟨.x, 100, 1⟩, .unknown ⟨"drift", [("axis", .str "y")]⟩, .oscillate ⟨.y, 1, 50⟩,
    .unknown ⟨"bounce", [("axis", .str "x")]⟩, .oscillate ⟨.x, 1, 50⟩, .jitter ⟨5⟩]

theorem blockStatements_prevailing_tangled :
    axisFault? tangled = none ∧ ∃ kept : List (Block × Nat),
    (∀ p, p ∈ kept ↔ p ∈ tangled.zipIdx ∧ p.2 ∈ [2, 3, 5]) ∧
    ∀ shape, blockStatements shape tangled = kept.flatMap fun p => p.1.statements shape := by
  have comparable : ∀ b ∈ tangled, b.axisClaim.container? = none := by decide
  obtain ⟨fault, kept, -, member, -, -, written⟩ :=
    blockStatements_prevailing fun b hb => comparable_iff.mpr (comparable b hb)
  have others : ∀ p ∈ tangled.zipIdx, Prevails tangled p ↔ p.2 ∈ [2, 3, 5] := by decide
  refine ⟨fault, kept, fun p => ?_, written⟩
  rw [member]
  exact and_congr_right (others p)

end SceneSketch
