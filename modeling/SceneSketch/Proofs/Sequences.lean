/-!
# Parts of sequences

What stands at the head of two sequences in a row, or anywhere in them, the first result that a
partial function has on a sequence, and the result of two steps in a row.
-/

namespace SceneSketch

variable {α β γ : Type}

theorem prefix_append_split {p l k : List α} (h : p <+: l ++ k) :
    p <+: l ∨ ∃ q, q <+: k ∧ p = l ++ q := by
  rcases List.prefix_or_prefix_of_prefix h (List.prefix_append l k) with hp | ⟨q, rfl⟩
  · exact .inl hp
  · exact .inr ⟨q, (List.prefix_append_right_inj l).mp h, rfl⟩

theorem infix_append_cons {m a b : List α} {d : α} (hd : d ∉ m) (h : m <:+: a ++ d :: b) :
    m <:+: a ∨ m <:+: b := by
  induction a with
  | nil =>
    rcases List.infix_cons_iff.mp h with h | h
    · cases m with
      | nil => exact .inl List.nil_infix
      | cons c m => exact absurd (List.cons_prefix_cons.mp h).1 (fun e => hd (by simp [e]))
    · exact .inr h
  | cons c a ih =>
    rcases List.infix_cons_iff.mp h with h | h
    · rcases prefix_append_split (l := c :: a) h with h | ⟨t, ht, rfl⟩
      · exact .inl h.isInfix
      · cases t with
        | nil => exact .inl (by simp)
        | cons e t => exact absurd (List.cons_prefix_cons.mp ht).1 (fun e => hd (by simp [e]))
    · exact (ih h).imp_left fun h => h.trans (List.suffix_cons c a).isInfix

/-! ## First results -/

theorem findSome?_cons_or (f : α → Option β) (a : α) (as : List α) :
    (a :: as).findSome? f = (f a).or (as.findSome? f) := by
  rw [List.findSome?_cons]
  cases f a <;> rfl

theorem findSome?_filterMap (f : β → Option γ) (g : α → Option β) (as : List α) :
    (as.filterMap g).findSome? f = as.findSome? fun a => (g a).bind f := by
  rw [← List.head?_filterMap, List.filterMap_filterMap, List.head?_filterMap]

theorem findSome?_flatMap (f : β → Option γ) (g : α → List β) (as : List α) :
    (as.flatMap g).findSome? f = as.findSome? fun a => (g a).findSome? f := by
  induction as with
  | nil => rfl
  | cons a as ih => rw [List.flatMap_cons, List.findSome?_append, ih, findSome?_cons_or]

theorem findSome?_filter {f : α → Option β} {p : α → Bool} {as : List α}
    (h : ∀ a ∈ as, p a = false → f a = none) : (as.filter p).findSome? f = as.findSome? f := by
  induction as with
  | nil => rfl
  | cons a as ih =>
    obtain ⟨skipped, rest⟩ := List.forall_mem_cons.mp h
    cases hp : p a with
    | true => rw [List.filter_cons_of_pos hp, findSome?_cons_or, findSome?_cons_or, ih rest]
    | false =>
      rw [List.filter_cons_of_neg (by simp [hp]), findSome?_cons_or, skipped hp, ih rest,
        Option.none_or]

/-! ## Steps in a row -/

section
variable {ε : Type} {x : Except ε α} {b : β}

theorem map_eq_ok {f : α → β} : x.map f = .ok b ↔ ∃ a, x = .ok a ∧ f a = b := by
  cases x <;> simp [Except.map]

theorem bind_eq_ok {f : α → Except ε β} : x.bind f = .ok b ↔ ∃ a, x = .ok a ∧ f a = .ok b := by
  cases x <;> simp [Except.bind]

end

end SceneSketch
