import Mathlib.Data.List.Forall2
import SceneSketch.Document.Record

/-!
# What is read again after it was written

A codec restores its values if it accepts what it writes for them, up to a change that writing
makes: it may leave something out that was there. Each way to build codecs keeps this property. For
a record it comes down to its keys: the members that are written for one field must not be found
under the key of another.
-/

namespace SceneSketch

/-! ## Outcomes -/

namespace Outcome

variable {α β : Type}

@[simp]
theorem map_eq_accepted {f : α → β} {x : Outcome α} {b : β} :
    x.map f = .accepted b ↔ ∃ a, x = .accepted a ∧ f a = b := by
  cases x <;> simp [map]

@[simp]
theorem ap_eq_accepted {f : Outcome (α → β)} {x : Outcome α} {b : β} :
    f.ap x = .accepted b ↔ ∃ g a, f = .accepted g ∧ x = .accepted a ∧ g a = b := by
  cases f <;> cases x <;> simp [ap, map]

@[simp]
theorem bind_eq_accepted {x : Outcome α} {f : α → Outcome β} {b : β} :
    x.bind f = .accepted b ↔ ∃ a, x = .accepted a ∧ f a = .accepted b := by
  cases x <;> simp [bind]

@[simp]
theorem ofOption_eq_accepted {problem : Problem} {o : Option α} {a : α} :
    ofOption problem o = .accepted a ↔ o = some a := by
  cases o <;> simp [ofOption, fault]

@[simp]
theorem under_eq_accepted {step : Step} {x : Outcome α} {a : α} :
    x.under step = .accepted a ↔ x = .accepted a := by
  cases x <;> simp [under]

end Outcome

/-! ## Codecs -/

theorem forall_of_forall₂ {α β : Type} {r : α → β → Prop} {q : β → Prop} {as : List α} {bs : List β}
    (h : List.Forall₂ r as bs) (hq : ∀ a ∈ as, ∀ b, r a b → q b) : ∀ b ∈ bs, q b := by
  induction h with
  | nil => exact List.forall_mem_nil _
  | cons first _ ih =>
    obtain ⟨ha, has⟩ := List.forall_mem_cons.mp hq
    exact List.forall_mem_cons.mpr ⟨ha _ first, ih has⟩

/-- What was read is read again from what is written for it, as its `norm`. -/
def Codec.Restores {α : Type} (c : Codec α) (norm : α → α) : Prop :=
  ∀ (j : Json) (a : α), c.read j = .accepted a → c.read (c.dump a) = .accepted (norm a)

namespace Codec

theorem readUnicode_eq_accepted {α : Type} {read : String → Outcome α} {t : Text} {a : α} :
    readUnicode read t = .accepted a ↔ ∃ s : String, t = s ∧ read s = .accepted a := by
  cases t <;> simp [readUnicode, Outcome.fault]

theorem choice_eq_accepted {α : Type} {choices : List α} {name : α → String} {j : Json} {a : α} :
    (choice choices name).read j = .accepted a ↔
      ∃ s : String, j = .str s ∧ (choices.find? fun b => name b = s) = some a := by
  cases j with
  | str t => simp [choice, readUnicode_eq_accepted]
  | _ => simp [choice, Outcome.fault]

theorem readFinite_eq_accepted {x y : Double} :
    readFinite x = .accepted y ↔ x.isFinite = true ∧ x = y := by
  unfold readFinite
  cases x.isFinite <;> simp [Outcome.fault]

theorem isFinite_of_ofInt? {n : Int} {x : Double} (h : Double.ofInt? n = some x) :
    x.isFinite = true := by
  unfold Double.ofInt? at h
  obtain ⟨finite, he⟩ := Option.ite_none_right_eq_some.mp h
  exact Option.some.inj he ▸ finite

theorem isFinite_zero : (0 : Double).isFinite = true := by
  decide +kernel

theorem isFinite_one : (1 : Double).isFinite = true := by
  decide +kernel

theorem isFinite_of_readNumber {j : Json} {x : Double} (h : readNumber j = .accepted x) :
    x.isFinite = true := by
  cases j with
  | num y =>
    obtain ⟨finite, rfl⟩ := readFinite_eq_accepted.mp h
    exact finite
  | int n =>
    rw [readNumber, Outcome.ofOption_eq_accepted] at h
    exact isFinite_of_ofInt? h
  | bool b =>
    rw [← Outcome.accepted.inj h]
    split
    · exact isFinite_one
    · exact isFinite_zero
  | str s =>
    obtain ⟨s, rfl, h⟩ := readUnicode_eq_accepted.mp h
    obtain ⟨y, _, h⟩ := Outcome.bind_eq_accepted.mp h
    obtain ⟨finite, rfl⟩ := readFinite_eq_accepted.mp h
    exact finite
  | _ => cases h

theorem readNumber_of_isFinite {x : Double} (h : x.isFinite = true) :
    readNumber (.num x) = .accepted x :=
  readFinite_eq_accepted.mpr ⟨h, rfl⟩

theorem readNumber_num {j : Json} {x : Double} (h : readNumber j = .accepted x) :
    readNumber (.num x) = .accepted x :=
  readNumber_of_isFinite (isFinite_of_readNumber h)

theorem number_restores : Codec.number.Restores id := fun _ _ h => readNumber_num h

theorem positiveNumber_restores : positiveNumber.Restores id := by
  intro j x h
  simp only [positiveNumber, Outcome.bind_eq_accepted] at h ⊢
  obtain ⟨y, hy, h⟩ := h
  by_cases positive : y.isPositive = true
  · obtain rfl : y = x := by simpa [positive] using h
    exact ⟨y, readNumber_num hy, if_pos positive⟩
  · simp [positive, Outcome.fault] at h

theorem truth_restores : truth.Restores id := fun _ _ _ => rfl

theorem text_restores : text.Restores id := fun _ _ _ => rfl

theorem choice_restores {α : Type} {choices : List α} {name : α → String}
    (found : ∀ a ∈ choices, (choices.find? fun b => name b = name a) = some a) :
    (choice choices name).Restores id := by
  intro j a h
  obtain ⟨s, -, picked⟩ := choice_eq_accepted.mp h
  exact choice_eq_accepted.mpr ⟨name a, rfl, found a (List.mem_of_find?_eq_some picked)⟩

theorem readItems_eq_accepted {α β : Type} {read : β → Outcome α} {position : Nat} {items : List β}
    {as : List α} : readItems read position items = .accepted as ↔
      List.Forall₂ (fun item a => read item = .accepted a) items as := by
  induction items generalizing position as with
  | nil => cases as <;> simp [readItems]
  | cons item items ih =>
    simp only [readItems, Outcome.ap_eq_accepted, Outcome.map_eq_accepted,
      Outcome.under_eq_accepted, ih, List.forall₂_cons_left_iff]
    constructor
    · rintro ⟨_, as, ⟨a, ha, rfl⟩, has, rfl⟩
      exact ⟨a, as, ha, has, rfl⟩
    · rintro ⟨a, as, ha, has, rfl⟩
      exact ⟨_, as, ⟨a, ha, rfl⟩, has, rfl⟩

theorem list_eq_accepted {α : Type} {c : Codec α} {j : Json} {as : List α} :
    c.list.read j = .accepted as ↔
    ∃ items, j = .arr items ∧ List.Forall₂ (fun item a => c.read item = .accepted a) items as := by
  cases j with
  | arr items => simp [list, readItems_eq_accepted]
  | _ => simp [list, Outcome.fault]

theorem list_restores {α : Type} {c : Codec α} {norm : α → α} (h : c.Restores norm) :
    c.list.Restores (List.map norm) := by
  intro j as hr
  obtain ⟨items, rfl, each⟩ := list_eq_accepted.mp hr
  refine list_eq_accepted.mpr ⟨as.map c.dump, rfl, ?_⟩
  rw [List.forall₂_map_left_iff, List.forall₂_map_right_iff, List.forall₂_same]
  exact forall_of_forall₂ each fun item _ a ha => h item a ha

end Codec

/-! ## Members -/

namespace Members

def Agree (keys : List Key) (m n : Members) : Prop :=
  ∀ key ∈ keys, m.find? key = n.find? key

theorem get?_of_foreign {m : Members} {key : Text} (h : ∀ p ∈ m, p.1 ≠ key) :
    m.get? key = none := by
  apply List.lookup_eq_none_iff.mpr
  intro p hp
  simpa using Ne.symm (h p hp)

theorem find?_append_left {m n : Members} {key : Key}
    (h : ∀ p ∈ n, p.1 ≠ key.name ∧ p.1 ≠ key.other) :
    find? (m ++ n) key = m.find? key := by
  have name := get?_of_foreign fun p hp => (h p hp).1
  have other := get?_of_foreign fun p hp => (h p hp).2
  simp only [find?, get?, List.lookup_append] at name other ⊢
  simp [name, other]

theorem find?_append_right {m n : Members} {key : Key}
    (h : ∀ p ∈ m, p.1 ≠ key.name ∧ p.1 ≠ key.other) :
    find? (m ++ n) key = n.find? key := by
  have name := get?_of_foreign fun p hp => (h p hp).1
  have other := get?_of_foreign fun p hp => (h p hp).2
  simp only [find?, get?, List.lookup_append] at name other ⊢
  simp [name, other]

theorem find?_singleton (key : Key) (value : Json) :
    find? [(.unicode key.name, value)] key = some (key.name, value) := by
  simp [find?, get?]

end Members

/-! ## Records -/

/-- Neither key is found where the other one is written. -/
def Key.Apart (k l : Key) : Prop :=
  ((l.name : Text) ≠ k.name ∧ (l.name : Text) ≠ k.other) ∧
    (k.name : Text) ≠ l.name ∧ (k.name : Text) ≠ l.other

instance (k l : Key) : Decidable (k.Apart l) :=
  inferInstanceAs (Decidable (_ ∧ _))

namespace Record

variable {σ τ υ α β : Type}

/-- What the record reads is made of parts, and if the parts of a whole are those that were read,
they are read again from its members. -/
structure Presents (r : Record σ α) (make : τ → α) (parts : σ → τ) (norm : τ → τ) : Prop where
  names : ∀ whole, ∀ m ∈ r.dump whole, ∃ key ∈ r.keys, m.1 = key.name
  restores : r.keys.Pairwise Key.Apart → ∀ (m : Members) (a : α), r.read m = .accepted a →
    ∃ t, a = make t ∧ ∀ whole, parts whole = t → ∀ n : Members, n.Agree r.keys (r.dump whole) →
      r.read n = .accepted (make (norm t))

/-! ### Fields -/

theorem presents_of_written {r : Record σ α} {key : Key} {c : Codec α} {part : σ → α} {norm : α → α}
    (keys : r.keys = [key])
    (written : ∀ whole, r.dump whole = [(.unicode key.name, c.dump (part whole))])
    (again : ∀ m a, r.read m = .accepted a → ∀ n : Members,
      n.find? key = some (key.name, c.dump a) →
      r.read n = .accepted (norm a)) : r.Presents id part norm where
  names whole m hm := by
    rw [written] at hm
    rw [keys, List.mem_singleton.mp hm]
    exact ⟨key, List.mem_singleton_self key, rfl⟩
  restores _ m a hr := by
    refine ⟨a, rfl, fun whole hw n agree => again m a hr n ?_⟩
    rw [agree key (keys ▸ List.mem_singleton_self key), written, hw]
    exact Members.find?_singleton key _

section
variable {c : Codec α} {norm : α → α} (h : c.Restores norm) {key : Key}
include h

theorem presents_required {part : σ → α} : (required key c part).Presents id part norm := by
  refine presents_of_written rfl (fun _ => rfl) fun m a hr n hn => ?_
  simp only [required, hn, Outcome.under_eq_accepted]
  cases hm : m.find? key with
  | none => simp [required, hm] at hr
  | some found =>
    simp only [required, hm, Outcome.under_eq_accepted] at hr
    exact h _ _ hr

theorem presents_defaulted {default : α} {part : σ → α}
    (hd : c.read (c.dump default) = .accepted (norm default)) :
    (defaulted key c default part).Presents id part norm := by
  refine presents_of_written rfl (fun _ => rfl) fun m a hr n hn => ?_
  simp only [defaulted, hn, Outcome.under_eq_accepted]
  cases hm : m.find? key with
  | none =>
    simp only [defaulted, hm, Outcome.accepted.injEq] at hr
    exact hr ▸ hd
  | some found =>
    simp only [defaulted, hm, Outcome.under_eq_accepted] at hr
    exact h _ _ hr

omit h in
theorem read_optional {part : σ → Option α} {m : Members} {used : String} {value : Json}
    (hm : m.find? key = some (used, value)) (hv : value ≠ .null) :
    (optional key c part).read m = ((c.read value).under (.key used)).map some := by
  cases value with
  | null => exact absurd rfl hv
  | _ => simp [optional, hm]

theorem presents_optional {part : σ → Option α} (hn : ∀ a, c.dump a ≠ .null) :
    (optional key c part).Presents id part (Option.map norm) where
  names whole m hm := by
    refine ⟨key, List.mem_singleton_self key, ?_⟩
    simp only [optional] at hm
    split at hm
    · rw [List.mem_singleton.mp hm]
    · cases hm
  restores _ m a hr := by
    refine ⟨a, rfl, fun whole hw n agree => ?_⟩
    have found := agree key (List.mem_singleton_self key)
    simp only [optional, hw] at found
    cases a with
    | none =>
      have absent : n.find? key = none := found
      simp [optional, absent]
    | some a =>
      rw [Members.find?_singleton] at found
      rw [read_optional found (hn a)]
      simp only [Outcome.map_eq_accepted, Outcome.under_eq_accepted]
      cases hm : m.find? key with
      | none => simp [optional, hm] at hr
      | some member =>
        obtain ⟨used, value⟩ := member
        by_cases hv : value = .null
        · simp [optional, hm, hv] at hr
        · rw [read_optional hm hv] at hr
          simp only [Outcome.map_eq_accepted, Outcome.under_eq_accepted, Option.some.injEq] at hr
          obtain ⟨_, hr, rfl⟩ := hr
          exact ⟨_, h _ _ hr, rfl⟩

end

theorem presents_freeForm {key : Key} {part : σ → Json} :
    (freeForm key part).Presents id part id where
  names whole m hm := by
    refine ⟨key, List.mem_singleton_self key, ?_⟩
    simp only [freeForm] at hm
    split at hm
    · cases hm
    · rw [List.mem_singleton.mp hm]
  restores _ m a _ := by
    refine ⟨a, rfl, fun whole hw n agree => ?_⟩
    have found := agree key (List.mem_singleton_self key)
    simp only [freeForm, hw] at found ⊢
    cases a with
    | null =>
      have absent : n.find? key = none := found
      simp [absent]
    | _ =>
      simp only [Members.find?_singleton] at found
      simp [found]

/-! ### Fields together -/

theorem Presents.map {r : Record σ α} {make : τ → α} {parts : σ → τ} {norm : τ → τ}
    (h : r.Presents make parts norm) (f : α → β) :
    (f <$> r).Presents (fun t => f (make t)) parts norm where
  names := h.names
  restores apart m b hr := by
    obtain ⟨a, ha, rfl⟩ := Outcome.map_eq_accepted.mp hr
    obtain ⟨t, rfl, again⟩ := h.restores apart m a ha
    exact ⟨t, rfl, fun whole hw n agree =>
      Outcome.map_eq_accepted.mpr ⟨_, again whole hw n agree, rfl⟩⟩

/-- **Fields whose keys are apart do not disturb one another.** -/
theorem Presents.seq {r : Record σ (α → β)} {s : Record σ α} {make : τ → α → β} {make' : υ → α}
    {parts : σ → τ} {parts' : σ → υ} {norm : τ → τ} {norm' : υ → υ} (h : r.Presents make parts norm)
    (h' : s.Presents make' parts' norm') : (r <*> s).Presents (fun t => make t.1 (make' t.2))
      (fun whole => (parts whole, parts' whole)) (Prod.map norm norm') where
  names whole m hm := by
    change ∃ key ∈ r.keys ++ s.keys, m.1 = key.name
    rcases List.mem_append.mp hm with hm | hm
    · obtain ⟨key, hk, he⟩ := h.names whole m hm
      exact ⟨key, List.mem_append_left _ hk, he⟩
    · obtain ⟨key, hk, he⟩ := h'.names whole m hm
      exact ⟨key, List.mem_append_right _ hk, he⟩
  restores apart m b hr := by
    obtain ⟨hr', hs', cross⟩ := List.pairwise_append.mp apart
    obtain ⟨g, a, hg, ha, rfl⟩ := Outcome.ap_eq_accepted.mp hr
    obtain ⟨t, rfl, again⟩ := h.restores hr' m g hg
    obtain ⟨u, rfl, again'⟩ := h'.restores hs' m a ha
    refine ⟨(t, u), rfl, fun whole hw n agree => ?_⟩
    obtain ⟨hw, hw'⟩ := Prod.mk.inj hw
    have first : n.Agree r.keys (r.dump whole) := by
      intro key hk
      rw [agree key (List.mem_append_left _ hk)]
      refine Members.find?_append_left fun p hp => ?_
      obtain ⟨other, ho, he⟩ := h'.names whole p hp
      rw [he]
      exact (cross key hk other ho).1
    have second : n.Agree s.keys (s.dump whole) := by
      intro key hk
      rw [agree key (List.mem_append_right _ hk)]
      refine Members.find?_append_right fun p hp => ?_
      obtain ⟨other, ho, he⟩ := h.names whole p hp
      rw [he]
      exact (cross other ho key hk).2
    exact Outcome.ap_eq_accepted.mpr ⟨_, _, again whole hw n first, again' whole hw' n second, rfl⟩

/-! ### Whole records -/

/-- A value is read again, as its `norm`, from all members that agree with what is written for
it. -/
def Restores (r : Record α α) (norm : α → α) : Prop :=
  ∀ (m : Members) (a : α), r.read m = .accepted a →
    ∀ n : Members, n.Agree r.keys (r.dump a) → r.read n = .accepted (norm a)

theorem Presents.restoring {r : Record α α} {make : τ → α} {parts : α → τ} {norm : τ → τ}
    {norm' : α → α} (h : r.Presents make parts norm) (apart : r.keys.Pairwise Key.Apart)
    (parts_make : ∀ t, parts (make t) = t)
    (make_norm : ∀ t, make (norm t) = norm' (make t)) : r.Restores norm' := by
  intro m a hr n agree
  obtain ⟨t, rfl, again⟩ := h.restores apart m a hr
  rw [← make_norm]
  exact again _ (parts_make t) n agree

theorem Restores.codec {r : Record α α} {norm : α → α} (h : r.Restores norm) (name : String) :
    (r.codec name).Restores norm := by
  intro j a hr
  cases j with
  | obj m => exact h m a hr (r.dump a) fun _ _ => rfl
  | _ => cases hr

end Record

/-! ## Variants -/

def Variant.Restores {α : Type} (v : Variant α) (key : String) (dump : α → Members)
    (norm : α → α) : Prop :=
  ∀ (m : Members) (a : α), v.read m = .accepted a →
    Members.get? (dump a) key = some (.str v.tag) ∧ v.read (dump a) = .accepted (norm a)

theorem Record.Restores.variant {α β : Type} {r : Record β β} {norm : β → β} (h : r.Restores norm)
    {tag key : String} {make : β → α} {dump : α → Members} {norm' : α → α}
    (foreign : ∀ k ∈ r.keys, (key : Text) ≠ k.name ∧ (key : Text) ≠ k.other)
    (dumped : ∀ m b, r.read m = .accepted b → dump (make b) = (.unicode key, .str tag) :: r.dump b)
    (make_norm : ∀ b, make (norm b) = norm' (make b)) :
    (r.variant tag make).Restores key dump norm' := by
  intro m a hr
  obtain ⟨b, hb, rfl⟩ := Outcome.map_eq_accepted.mp hr
  rw [dumped m b hb]
  constructor
  · exact List.lookup_cons_self
  · refine Outcome.map_eq_accepted.mpr ⟨norm b, h m b hb _ fun k hk => ?_, make_norm b⟩
    exact Members.find?_append_right (m := [(.unicode key, .str tag)]) fun p hp => by
      obtain rfl := List.mem_singleton.mp hp
      exact foreign k hk

theorem Record.pure_variant_restores {α : Type} {a : α} {tag key : String} {dump : α → Members}
    {norm : α → α} (dumped : dump a = [(.unicode key, .str tag)]) (fixed : norm a = a) :
    ((Record.pure a).variant tag id).Restores key dump norm := by
  intro m b hr
  obtain rfl : a = b := by simpa [variant, Record.pure, Outcome.map] using hr
  constructor
  · simp [dumped, variant, Members.get?]
  · simp [fixed, variant, Record.pure, Outcome.map]

theorem Codec.union_restores {α : Type} {key : String} {variants : List (Variant α)}
    {dump : α → Members} {norm : α → α} (h : ∀ v ∈ variants, v.Restores key dump norm) :
    (Codec.union key variants dump).Restores norm := by
  have read : ∀ {m : Members} {v : Variant α}, Members.get? m key = some (.str v.tag) →
      (variants.find? fun w => w.tag = v.tag) = some v →
      (Codec.union key variants dump).read (.obj m) = (v.read m).under (.key v.tag) := by
    intro m v ht hv
    simp only [union, ht, hv]
  intro j a hr
  cases j with
  | obj m =>
    obtain ⟨v, ht, hv, hm⟩ : ∃ v : Variant α, Members.get? m key = some (.str v.tag) ∧
        (variants.find? fun w => w.tag = v.tag) = some v ∧ v.read m = .accepted a := by
      simp only [union] at hr
      split at hr
      · cases hr
      · next value ht =>
        split at hr
        · next v hf =>
          split at hf
          · next tag =>
            have tagged : v.tag = tag := by simpa using List.find?_some hf
            subst tagged
            exact ⟨v, ht, hf, Outcome.under_eq_accepted.mp hr⟩
          · cases hf
        · cases hr
    obtain ⟨tagged, again⟩ := h v (List.mem_of_find?_eq_some hv) m a hm
    exact (read tagged hv).trans (Outcome.under_eq_accepted.mpr again)
  | _ => cases hr

end SceneSketch
