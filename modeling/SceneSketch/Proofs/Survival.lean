import Mathlib.Data.List.Basic
import SceneSketch.Code.Compile

/-!
# Which blocks are written

The walk along the blocks of an element keeps a block that claims no axis, and of the blocks that
claim one label it keeps the first (`countP_survivors_claims`). The walk gets to its end exactly if
every axis can be compared (`axisFault?_eq_none`).
-/

namespace SceneSketch

/-! ## Kinds -/

theorem Element.isTagged_of_mem {e : Element} {b : Block} (h : b ∈ e.blocks) :
    b.isTagged = true := by
  obtain ⟨placed, -, rfl⟩ := List.mem_map.mp h
  exact placed.property

namespace Block

theorem lookup_ofKinds {kind : Text} (h : kind ∉ knownKinds) :
    Priority.ofKinds.lookup kind = none := by
  simp only [knownKinds, knownVariants, List.map_cons, List.map_nil, Record.variant, List.mem_cons,
    List.not_mem_nil, or_false, not_or] at h
  simp [Priority.ofKinds, List.lookup_eq_none_iff, h]

/-- A block that is what its kind says comes last exactly if its kind is not known. -/
theorem priority_eq_unknown {b : Block} (tagged : b.isTagged = true) :
    b.priority = .unknown ↔ ∃ u, b = unknown u := by
  cases b with
  | unknown u =>
    have fresh : u.kind ∉ knownKinds := by simpa [isTagged] using tagged
    simp [priority, kind, lookup_ofKinds fresh]
  | _ =>
    constructor
    · intro h
      cases h
    · rintro ⟨u, h⟩
      cases h

end Block

/-! ## Order -/

theorem mem_allPriorities (p : Priority) : p ∈ Priority.all := by
  cases p <;> decide

theorem flatMap_filter_perm {α β : Type} [DecidableEq β] (f : α → β) (l : List α) :
    ∀ {keys : List β}, keys.Nodup →
      (keys.flatMap fun k => l.filter fun a => f a = k).Perm (l.filter fun a => f a ∈ keys)
  | [], _ => by simp
  | k :: keys, h => by
    obtain ⟨hk, hkeys⟩ := List.nodup_cons.mp h
    have parts := List.filter_append_perm (fun a => f a = k) (l.filter fun a => f a ∈ k :: keys)
    rw [List.filter_filter, List.filter_filter] at parts
    have first : (l.filter fun a => f a = k && f a ∈ k :: keys) = l.filter fun a => f a = k :=
      List.filter_congr fun a _ => by by_cases e : f a = k <;> simp [e]
    have others : (l.filter fun a => !(f a = k) && f a ∈ k :: keys) = l.filter fun a =>
        f a ∈ keys :=
      List.filter_congr fun a _ => by by_cases e : f a = k <;> simp [e, hk]
    rw [first, others] at parts
    rw [List.flatMap_cons]
    exact ((flatMap_filter_perm f l hkeys).append_left _).trans parts

theorem byPriority_perm (blocks : List Block) : (byPriority blocks).Perm blocks := by
  have := flatMap_filter_perm Block.priority blocks (show Priority.all.Nodup by decide)
  simpa [byPriority, mem_allPriorities] using this

theorem byPriority_split (blocks : List Block) :
    ∃ known others, byPriority blocks = known ++ others ∧
    (∀ b ∈ known, b.priority ≠ .unknown) ∧ ∀ b ∈ others, b.priority = .unknown := by
  have classes : Priority.all = Priority.all.dropLast ++ [.unknown] := rfl
  refine ⟨_, _, by rw [byPriority, classes, List.flatMap_append], fun b hb => ?_, fun b hb => ?_⟩
  · obtain ⟨p, hp, hb⟩ := List.mem_flatMap.mp hb
    have priority : b.priority = p := by simpa using (List.mem_filter.mp hb).2
    intro unknown
    rw [← priority, unknown] at hp
    exact absurd hp (by decide)
  · simp only [List.flatMap_singleton] at hb
    simpa using (List.mem_filter.mp hb).2

/-! ## The walk -/

def AxisClaim.container? : AxisClaim → Option Container
  | containerKey container => some container
  | _ => none

def Comparable (block : Block) : Prop := ∀ container, block.axisClaim ≠ .containerKey container

def survivors : List AxisLabel → List Block → List Block
  | _, [] => []
  | claimed, block :: rest =>
    match block.axisClaim with
    | .free => block :: survivors claimed rest
    | .claims label =>
      if label ∈ claimed then survivors claimed rest else block :: survivors (label :: claimed) rest
    | .containerKey _ => []

theorem filterMap_settle {f : Block × Fate → Option Block} (kept : ∀ b, f (b, .kept) = some b)
    (displaced : ∀ b, f (b, .displaced) = none) (key : ∀ b c, f (b, .containerKey c) = none) :
    ∀ (claimed : List AxisLabel) (blocks : List Block),
      (settle claimed blocks).filterMap f = survivors claimed blocks
  | _, [] => rfl
  | claimed, b :: bs => by
    have ih := fun claimed => filterMap_settle kept displaced key claimed bs
    rw [settle, survivors]
    cases b.axisClaim with
    | free => simp [kept, ih]
    | claims label => by_cases h : label ∈ claimed <;> simp [kept, displaced, h, ih]
    | containerKey c => simp [key]

theorem keptBlocks_eq (blocks : List Block) :
    keptBlocks blocks = survivors [] (byPriority blocks) :=
  filterMap_settle (fun _ => rfl) (fun _ => rfl) (fun _ _ => rfl) [] (byPriority blocks)

theorem findSome?_settle {f : Block × Fate → Option Container} (kept : ∀ b, f (b, .kept) = none)
    (displaced : ∀ b, f (b, .displaced) = none) (key : ∀ b c, f (b, .containerKey c) = some c) :
    ∀ (claimed : List AxisLabel) (blocks : List Block),
      (settle claimed blocks).findSome? f = blocks.findSome? fun b => b.axisClaim.container?
  | _, [] => rfl
  | claimed, b :: bs => by
    have ih := fun claimed => findSome?_settle kept displaced key claimed bs
    rw [settle, List.findSome?_cons]
    cases b.axisClaim with
    | free => simp [kept, ih, AxisClaim.container?]
    | claims label =>
      by_cases hl : label ∈ claimed <;> simp [hl, kept, displaced, ih, AxisClaim.container?]
    | containerKey c => simp [key, AxisClaim.container?]

theorem axisFault?_eq (blocks : List Block) :
    axisFault? blocks = (byPriority blocks).findSome? fun b => b.axisClaim.container? :=
  findSome?_settle (fun _ => rfl) (fun _ => rfl) (fun _ _ => rfl) [] (byPriority blocks)

theorem comparable_iff {b : Block} : Comparable b ↔ b.axisClaim.container? = none := by
  unfold Comparable
  cases b.axisClaim <;> simp [AxisClaim.container?]

/-- **The walk ends early exactly if some axis cannot be compared.** -/
theorem axisFault?_eq_none {blocks : List Block} :
    axisFault? blocks = none ↔ ∀ b ∈ blocks, Comparable b := by
  rw [axisFault?_eq, List.findSome?_eq_none_iff]
  simp only [(byPriority_perm blocks).mem_iff, comparable_iff]

theorem survivors_sublist : ∀ (claimed : List AxisLabel) (blocks : List Block),
    (survivors claimed blocks).Sublist blocks
  | _, [] => .slnil
  | claimed, b :: bs => by
    rw [survivors]
    cases b.axisClaim with
    | free => exact (survivors_sublist claimed bs).cons_cons b
    | claims label =>
      by_cases hl : label ∈ claimed
      · simpa only [if_pos hl] using (survivors_sublist claimed bs).cons b
      · simpa only [if_neg hl] using (survivors_sublist (label :: claimed) bs).cons_cons b
    | containerKey c => exact List.nil_sublist _

theorem keptBlocks_subset (blocks : List Block) : keptBlocks blocks ⊆ blocks := by
  intro b hb
  rw [keptBlocks_eq] at hb
  exact (byPriority_perm blocks).mem_iff.mp ((survivors_sublist [] _).subset hb)

theorem survivors_append (l k : List Block) (claimed : List AxisLabel) :
    ∃ k', k'.Sublist k ∧ survivors claimed (l ++ k) = survivors claimed l ++ k' := by
  induction l generalizing claimed with
  | nil => exact ⟨survivors claimed k, survivors_sublist claimed k, rfl⟩
  | cons b l ih =>
    rw [List.cons_append, survivors, survivors]
    cases b.axisClaim with
    | free =>
      obtain ⟨k', hk, he⟩ := ih claimed
      exact ⟨k', hk, by simp [he]⟩
    | claims label =>
      by_cases hl : label ∈ claimed
      · obtain ⟨k', hk, he⟩ := ih claimed
        exact ⟨k', hk, by simp [hl, he]⟩
      · obtain ⟨k', hk, he⟩ := ih (label :: claimed)
        exact ⟨k', hk, by simp [hl, he]⟩
    | containerKey c => exact ⟨[], List.nil_sublist k, rfl⟩

section
variable {blocks : List Block} (h : ∀ b ∈ blocks, Comparable b)
include h

theorem countP_survivors_free {p : Block → Bool} (hp : ∀ b, p b = true → b.axisClaim = .free)
    (claimed : List AxisLabel) : (survivors claimed blocks).countP p = blocks.countP p := by
  induction blocks generalizing claimed with
  | nil => rfl
  | cons b bs ih =>
    obtain ⟨hb, hbs⟩ := List.forall_mem_cons.mp h
    rw [survivors]
    cases hc : b.axisClaim with
    | free => simp only [List.countP_cons, ih hbs]
    | claims label =>
      have other : p b = false := by
        by_contra hpb
        rw [hp b (by simpa using hpb)] at hc
        cases hc
      by_cases hl : label ∈ claimed <;> simp [hl, other, ih hbs]
    | containerKey c => exact absurd hc (hb c)

/-- **Of the blocks that claim one label the first is kept.** -/
theorem countP_survivors_claims {p : Block → Bool} {label : AxisLabel}
    (hp : ∀ b ∈ blocks, p b = true ↔ b.axisClaim = .claims label) (claimed : List AxisLabel) :
    (survivors claimed blocks).countP p = if label ∈ claimed then 0
    else min 1 (blocks.countP p) := by
  -- the first block with the label adds it to the claimed ones, which turns the `if` for the rest
  induction blocks generalizing claimed with
  | nil => simp [survivors]
  | cons b bs ih =>
    obtain ⟨hb, hbs⟩ := List.forall_mem_cons.mp h
    obtain ⟨hpb, hpbs⟩ := List.forall_mem_cons.mp hp
    rw [survivors]
    cases hc : b.axisClaim with
    | free =>
      have other : p b = false := Bool.eq_false_iff.mpr fun hpt => by simpa [hc] using hpb.mp hpt
      simp [other, ih hbs hpbs]
    | claims l =>
      by_cases e : l = label
      · subst e
        have own : p b = true := hpb.mpr hc
        by_cases hl : l ∈ claimed
        · simp [hl, ih hbs hpbs]
        · simp [hl, own, ih hbs hpbs]
      · have other : p b = false := Bool.eq_false_iff.mpr fun hpt =>
          e (by simpa [hc] using hpb.mp hpt)
        by_cases hl : l ∈ claimed
        · simp [hl, other, ih hbs hpbs]
        · simp [hl, other, ih hbs hpbs, Ne.symm e]
    | containerKey c => exact absurd hc (hb c)

end

theorem countP_keptBlocks_free {blocks : List Block} (h : axisFault? blocks = none)
    {p : Block → Bool} (hp : ∀ b, p b = true → b.axisClaim = .free) :
    (keptBlocks blocks).countP p = blocks.countP p := by
  have comparable : ∀ b ∈ byPriority blocks, Comparable b := fun b hb =>
    axisFault?_eq_none.mp h b ((byPriority_perm blocks).mem_iff.mp hb)
  rw [keptBlocks_eq, countP_survivors_free comparable hp, (byPriority_perm blocks).countP_eq]

end SceneSketch
