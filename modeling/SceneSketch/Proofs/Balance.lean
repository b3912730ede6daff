import Mathlib.Algebra.Order.Group.Int
import SceneSketch.Proofs.Sequences

/-!
# Balanced sequences

Symbols carry a weight: what opens weighs one, what closes minus one, all else nothing. A sequence
is balanced if no part at its head closes more than it opens and all of it comes out even.
Parentheses of a statement and brackets of a transformation are both read this way.
-/

namespace SceneSketch

variable {α β : Type}

def level (weight : α → Int) : List α → Int
  | [] => 0
  | a :: l => weight a + level weight l

structure Balanced (weight : α → Int) (l : List α) : Prop where
  nonneg : ∀ p, p <+: l → 0 ≤ level weight p
  settled : level weight l = 0

section
variable {weight : α → Int}

@[simp]
theorem level_nil : level weight [] = 0 := rfl

@[simp]
theorem level_cons (a : α) (l : List α) : level weight (a :: l) = weight a + level weight l := rfl

@[simp]
theorem level_append (l k : List α) : level weight (l ++ k) = level weight l + level weight k := by
  induction l with
  | nil => simp
  | cons a l ih => rw [List.cons_append, level_cons, level_cons, ih, add_assoc]

theorem level_map (f : β → α) (l : List β) : level weight (l.map f) = level (weight ∘ f) l := by
  induction l with
  | nil => rfl
  | cons a l ih => rw [List.map_cons, level_cons, level_cons, ih, Function.comp_apply]

theorem level_flatMap (f : β → List α) (l : List β) :
    level weight (l.flatMap f) = level (fun b => level weight (f b)) l := by
  induction l with
  | nil => rfl
  | cons b l ih => rw [List.flatMap_cons, level_append, level_cons, ih]

theorem level_indicator (p : α → Bool) (l : List α) :
    level (fun a => if p a then 1 else 0) l = l.countP p := by
  induction l with
  | nil => rfl
  | cons a l ih =>
    rw [level_cons, ih, List.countP_cons]
    split
    · push_cast
      omega
    · simp

theorem level_eq_zero {l : List α} (h : ∀ a ∈ l, weight a = 0) : level weight l = 0 := by
  induction l with
  | nil => rfl
  | cons a l ih =>
    rw [level_cons, h a (by simp), ih fun b hb => h b (List.mem_cons_of_mem a hb), zero_add]

theorem level_nonneg {l : List α} (h : ∀ a ∈ l, 0 ≤ weight a) : 0 ≤ level weight l := by
  induction l with
  | nil => exact le_rfl
  | cons a l ih =>
    have ha := h a (by simp)
    have hl := ih fun b hb => h b (List.mem_cons_of_mem a hb)
    rw [level_cons]
    omega

theorem level_nonpos {l : List α} (h : ∀ a ∈ l, weight a ≤ 0) : level weight l ≤ 0 := by
  induction l with
  | nil => exact le_rfl
  | cons a l ih =>
    have ha := h a (by simp)
    have hl := ih fun b hb => h b (List.mem_cons_of_mem a hb)
    rw [level_cons]
    omega

theorem balanced_of_flat {l : List α} (h : ∀ a ∈ l, weight a = 0) : Balanced weight l where
  nonneg _ hp := (level_eq_zero fun a ha => h a (hp.subset ha)).ge
  settled := level_eq_zero h

theorem balanced_nil : Balanced weight [] := balanced_of_flat fun _ h => by cases h

theorem Balanced.append {l k : List α} (hl : Balanced weight l) (hk : Balanced weight k) :
    Balanced weight (l ++ k) where
  nonneg p hp := by
    rcases prefix_append_split hp with hp | ⟨q, hq, rfl⟩
    · exact hl.nonneg p hp
    · rw [level_append, hl.settled, zero_add]
      exact hk.nonneg q hq
  settled := by rw [level_append, hl.settled, hk.settled, zero_add]

theorem Balanced.map {f : β → α} {l : List β} (h : Balanced (weight ∘ f) l) :
    Balanced weight (l.map f) where
  nonneg p hp := by
    rw [List.prefix_iff_eq_take.mp hp, ← List.map_take, level_map]
    exact h.nonneg _ (List.take_prefix _ l)
  settled := by rw [level_map, h.settled]

theorem balanced_flatMap {l : List β} {f : β → List α} (h : ∀ b ∈ l, Balanced weight (f b)) :
    Balanced weight (l.flatMap f) := by
  induction l with
  | nil => exact balanced_nil
  | cons b l ih =>
    rw [List.flatMap_cons]
    exact (h b (by simp)).append (ih fun c hc => h c (List.mem_cons_of_mem b hc))

/-- A sequence that only opens and then only closes is balanced if it comes out even. -/
theorem balanced_of_rise_fall {l k : List α} (hl : ∀ a ∈ l, 0 ≤ weight a)
    (hk : ∀ a ∈ k, weight a ≤ 0) (h : level weight (l ++ k) = 0) : Balanced weight (l ++ k) where
  nonneg p hp := by
    rcases prefix_append_split hp with hp | ⟨q, ⟨r, rfl⟩, rfl⟩
    · exact level_nonneg fun a ha => hl a (hp.subset ha)
    · have hr : level weight r ≤ 0 := level_nonpos fun a ha => hk a (List.mem_append_right q ha)
      rw [level_append, level_append] at h
      rw [level_append]
      omega
  settled := h

theorem Balanced.wrap {l : List α} {o c : α} (hl : Balanced weight l) (ho : weight o = 1)
    (hc : weight c = -1) : Balanced weight (o :: (l ++ [c])) where
  nonneg p hp := by
    rcases List.prefix_cons_iff.mp hp with rfl | ⟨q, rfl, hq⟩
    · exact le_rfl
    · rw [level_cons, ho]
      rcases prefix_append_split hq with hq | ⟨r, hr, rfl⟩
      · have := hl.nonneg q hq
        omega
      · rw [level_append, hl.settled]
        rcases List.prefix_cons_iff.mp hr with rfl | ⟨s, rfl, hs⟩
        · simp
        · rw [List.prefix_nil.mp hs]
          simp [hc]
  settled := by simp [ho, hc, hl.settled]

end

end SceneSketch
