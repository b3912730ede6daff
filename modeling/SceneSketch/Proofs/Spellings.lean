import Mathlib.Data.List.Forall2
import Mathlib.Data.List.Pairwise
import SceneSketch.Proofs.Documents
import SceneSketch.Proofs.Readings

/-!
# Two spellings of one field

A field is found under either spelling of its key, so a reading does not tell two values apart that
differ in the spelling of fields only (`Codec.Ignores`). Which keys of a value are fields is up to
the codec: keys of other members, and all keys inside a value that is kept as it is, have one
spelling only. Each way to build codecs carries the property on, as long as no object spells one
field in both ways.
-/

namespace SceneSketch

open Codec Outcome Record

/-! ## Keys -/

deriving instance DecidableEq for Key

namespace Key

def Spells (key : Key) (t : Text) : Prop :=
  t = key.name ∨ t = key.other

instance (key : Key) : DecidablePred key.Spells :=
  fun _ => inferInstanceAs (Decidable (_ ∨ _))

def Foreign (k l : Key) : Prop :=
  ¬ l.Spells k.name ∧ ¬ l.Spells k.other

instance : DecidableRel Foreign :=
  fun _ _ => inferInstanceAs (Decidable (_ ∧ _))

theorem Foreign.not_spells {k l : Key} (h : k.Foreign l) {t : Text} (hk : k.Spells t) :
    ¬ l.Spells t := by
  rcases hk with rfl | rfl
  · exact h.1
  · exact h.2

end Key

/-! ## Spellings -/

structure Spelling where
  /-- No object of the value spells a field in both ways. -/
  unmixed : Json → Bool
  /-- The second value is the first one with some of its fields spelled in the other way. -/
  Respelled : Json → Json → Prop
  refl : ∀ j, Respelled j j
  null : ∀ {j j'}, Respelled j j' → (j = .null ↔ j' = .null)

structure Fields where
  entries : List (Key × Spelling)
  apart : (entries.map Prod.fst).Pairwise Key.Foreign

namespace Fields

/-- Of each field one spelling is there at most, and the values of the fields are unmixed. -/
def unmixed (fields : Fields) (m : Members) : Bool :=
  fields.entries.all fun f =>
    decide (f.1.name ≠ f.1.other → .unicode f.1.name ∈ m.map Prod.fst →
      .unicode f.1.other ∉ m.map Prod.fst) &&
      m.all fun p => !decide (f.1.Spells p.1) || f.2.unmixed p.2

/-- Members of fields may be spelled in the other way and hold a value that is spelled in another
way. -/
def Respelled (fields : Fields) : Members → Members → Prop :=
  List.Forall₂ fun p p' => p = p' ∨
    ∃ f ∈ fields.entries, f.1.Spells p.1 ∧ f.1.Spells p'.1 ∧ f.2.Respelled p.2 p'.2

end Fields

namespace Spelling

def fixed : Spelling where
  unmixed _ := true
  Respelled := Eq
  refl _ := rfl
  null := by rintro _ _ rfl; exact Iff.rfl

def list (item : Spelling) : Spelling where
  unmixed j := j.items.all item.unmixed
  Respelled j j' := j = j' ∨ ∃ is is', j = .arr is ∧ j' = .arr is' ∧
    List.Forall₂ item.Respelled is is'
  refl _ := .inl rfl
  null := by rintro _ _ (rfl | ⟨_, _, rfl, rfl, _⟩) <;> simp

def object (fields : Fields) : Spelling where
  unmixed
    | .obj m => fields.unmixed m
    | _ => true
  Respelled j j' := j = j' ∨ ∃ m m', j = .obj m ∧ j' = .obj m' ∧ fields.Respelled m m'
  refl _ := .inl rfl
  null := by rintro _ _ (rfl | ⟨_, _, rfl, rfl, _⟩) <;> simp

/-- Objects whose fields depend on the value of `key`. An object of another variant is kept as it
is. -/
def union (key : String) (variants : List (String × Fields)) : Spelling where
  unmixed
    | .obj m =>
      match Members.get? m key with
      | some (.str (.unicode tag)) => (variants.lookup tag).all fun fields => fields.unmixed m
      | _ => true
    | _ => true
  Respelled j j' := j = j' ∨ ∃ (m m' : Members) (tag : String), j = .obj m ∧ j' = .obj m' ∧
    m.get? key = some (.str tag) ∧ ∃ fields, variants.lookup tag = some fields ∧
    fields.Respelled m m'
  refl _ := .inl rfl
  null := by rintro _ _ (rfl | ⟨_, _, _, rfl, rfl, _⟩) <;> simp

end Spelling

section
variable {σ α : Type}

def valueSpelling (nested : List (String × Spelling)) (key : Key) : Spelling :=
  (nested.lookup key.name).getD .fixed

theorem map_fst_entries (keys : List Key) (nested : List (String × Spelling)) :
    (keys.map fun key => (key, valueSpelling nested key)).map Prod.fst = keys := by
  simp [List.map_map, Function.comp_def]

/-- The fields of a record, of which those in `nested` hold values with fields of their own. -/
def Record.fields (r : Record σ α) (nested : List (String × Spelling))
    (apart : r.keys.Pairwise Key.Foreign := by decide) : Fields where
  entries := r.keys.map fun key => (key, valueSpelling nested key)
  apart := by rwa [map_fst_entries]

def Record.tagged (r : Record σ α) (key : String) (nested : List (String × Spelling))
    (apart : ((key : Key) :: r.keys).Pairwise Key.Foreign := by decide) : Fields where
  entries := (key, .fixed) :: r.keys.map fun key => (key, valueSpelling nested key)
  apart := by rwa [List.map_cons, map_fst_entries]

end

/-! ## Members -/

namespace Members

def Alike (s : Spelling) (key : Key) (m m' : Members) : Prop :=
  Option.Rel (fun f f' => (f.2.KeysOnce ∧ s.unmixed f.2 = true) ∧ s.Respelled f.2 f'.2)
    (m.find? key) (m'.find? key)

section
variable {m : Members} {key : Key}

theorem find?_eq_none_iff : m.find? key = none ↔ ∀ p ∈ m, ¬ key.Spells p.1 := by
  have lookup (k : Text) : m.get? k = none ↔ ∀ p ∈ m, p.1 ≠ k := by
    rw [get?, List.lookup_eq_none_iff]
    refine forall₂_congr fun p _ => ?_
    rw [bne_iff_ne, ne_comm]
  rw [find?]
  cases hn : m.get? key.name with
  | none =>
    rw [Option.map_eq_none_iff, lookup]
    refine forall₂_congr fun p hp => ?_
    simp [Key.Spells, (lookup _).mp hn p hp]
  | some value =>
    have found : m.find? key = some (key.name, value) := by rw [find?, hn]
    simp only [reduceCtorEq, false_iff, not_forall, not_not]
    exact ⟨_, mem_of_find? found, .inl rfl⟩

theorem spells_of_find? {f : String × Json} (h : m.find? key = some f) :
    key.Spells (.unicode f.1) := by
  unfold find? at h
  split at h
  · exact Option.some.inj h ▸ .inl rfl
  · obtain ⟨_, _, rfl⟩ := Option.map_eq_some_iff.mp h
    exact .inr rfl

/-- If a field is there once, it does not matter in which spelling it is looked up first. -/
theorem find?_eq_head? (single : (m.filter fun p => key.Spells p.1).length ≤ 1) :
    (m.find? key).map (Prod.map .unicode id) = (m.filter fun p => key.Spells p.1).head? := by
  cases found : m.find? key with
  | none =>
    have nothing := find?_eq_none_iff.mp found
    rw [List.filter_eq_nil_iff.mpr (by simpa using nothing), List.head?_nil, Option.map_none]
  | some f =>
    have member : (.unicode f.1, f.2) ∈ m.filter fun p => key.Spells p.1 :=
      List.mem_filter.mpr ⟨mem_of_find? found, decide_eq_true (spells_of_find? found)⟩
    rcases hl : m.filter fun p => key.Spells p.1 with _ | ⟨first, rest⟩
    · rw [hl] at member
      cases member
    · obtain rfl : rest = [] := by simpa [hl] using single
      rw [hl] at member
      rw [hl, ← List.mem_singleton.mp member, List.head?_cons]
      rfl

theorem length_filter_le (distinct : m.Distinct)
    (one : key.name ≠ key.other → .unicode key.name ∈ m.map Prod.fst →
      .unicode key.other ∉ m.map Prod.fst) :
    (m.filter fun p => key.Spells p.1).length ≤ 1 := by
  have apart := (List.pairwise_map.mp distinct).filter fun p => key.Spells p.1
  have spelled : ∀ p ∈ m.filter fun p => key.Spells p.1, p.1 ∈ m.map Prod.fst ∧ key.Spells p.1 := by
    intro p hp
    obtain ⟨hp, spells⟩ := List.mem_filter.mp hp
    exact ⟨List.mem_map_of_mem hp, of_decide_eq_true spells⟩
  rcases hl : m.filter fun p => key.Spells p.1 with _ | ⟨p, _ | ⟨q, rest⟩⟩
  · exact hl ▸ Nat.zero_le 1
  · exact hl ▸ Nat.le_refl 1
  · rw [hl] at apart spelled
    obtain ⟨first, _⟩ := List.pairwise_cons.mp apart
    have differ : p.1 ≠ q.1 := first q List.mem_cons_self
    obtain ⟨hp, spells⟩ := spelled p List.mem_cons_self
    obtain ⟨hq, spells'⟩ := spelled q (List.mem_cons_of_mem _ List.mem_cons_self)
    rcases spells with hn | ho <;> rcases spells' with hn' | ho'
    · exact absurd (hn.trans hn'.symm) differ
    · rw [hn, ho'] at differ
      exact absurd (ho' ▸ hq) (one (fun same => differ (congrArg Text.unicode same)) (hn ▸ hp))
    · rw [ho, hn'] at differ
      exact absurd (ho ▸ hp) (one (fun same => differ (congrArg Text.unicode same.symm)) (hn' ▸ hq))
    · exact absurd (ho.trans ho'.symm) differ

end

end Members

theorem rel_head? {α β : Type} {r s : α → β → Prop} {as : List α} {bs : List β}
    (h : List.Forall₂ r as bs)
    (hs : ∀ a ∈ as, ∀ b, r a b → s a b) : Option.Rel s as.head? bs.head? := by
  cases h with
  | nil => exact .none
  | cons first _ => exact .some (hs _ List.mem_cons_self _ first)

theorem rel_of_map {α β γ δ : Type} {r : γ → δ → Prop} {f : α → γ} {g : β → δ} {o : Option α}
    {o' : Option β}
    (h : Option.Rel r (o.map f) (o'.map g)) : Option.Rel (fun a b => r (f a) (g b)) o o' := by
  cases o with
  | none =>
    cases o' with
    | none => exact .none
    | some b => cases h
  | some a =>
    cases o' with
    | none => cases h
    | some b =>
      cases h with
      | some related => exact .some related

namespace Fields

variable {fields : Fields}

theorem unmixed_iff {m : Members} : fields.unmixed m = true ↔ ∀ f ∈ fields.entries,
    (f.1.name ≠ f.1.other → .unicode f.1.name ∈ m.map Prod.fst →
      .unicode f.1.other ∉ m.map Prod.fst) ∧
    ∀ p ∈ m, f.1.Spells p.1 → f.2.unmixed p.2 = true := by
  simp only [unmixed, List.all_eq_true, Bool.and_eq_true, decide_eq_true_eq, Bool.or_eq_true,
    Bool.not_eq_true', decide_eq_false_iff_not, imp_iff_not_or]

theorem eq_of_spells {f g : Key × Spelling} {t : Text} (hf : f ∈ fields.entries)
    (hg : g ∈ fields.entries) (ht : f.1.Spells t) (ht' : g.1.Spells t) : f = g := by
  have foreign : fields.entries.Pairwise fun f g => ∀ t, f.1.Spells t → ¬ g.1.Spells t :=
    (List.pairwise_map.mp fields.apart).imp fun h _ => h.not_spells
  have : Std.Symm fun f g : Key × Spelling => ∀ t, f.1.Spells t → ¬ g.1.Spells t :=
    ⟨fun _ _ h t hg hf => h t hf hg⟩
  by_contra differ
  exact foreign.forall hf hg differ t ht ht'

/-- **What is found under the key of a field differs in spelling only.** -/
theorem alike {m m' : Members} (distinct : m.Distinct) (once : ∀ p ∈ m, p.2.KeysOnce)
    (unmixed : fields.unmixed m = true) (respelled : fields.Respelled m m') :
    ∀ f ∈ fields.entries, Members.Alike f.2 f.1 m m' := by
  intro f hf
  obtain ⟨one, values⟩ := fields.unmixed_iff.mp unmixed f hf
  have single := Members.length_filter_le distinct one
  -- a member that is spelled otherwise keeps its place, and no other field is spelled like this one
  have spelled := List.rel_filter (p := fun p => f.1.Spells p.1)
    (q := fun p => f.1.Spells p.1) (R := _) (fun p p' h => ?_) respelled
  · -- the spelling under which a member is found does not matter
    apply rel_of_map (f := Prod.map Text.unicode id) (g := Prod.map Text.unicode id)
      (r := fun p p' => (p.2.KeysOnce ∧ f.2.unmixed p.2 = true) ∧ f.2.Respelled p.2 p'.2)
    rw [Members.find?_eq_head? single, Members.find?_eq_head? (spelled.length_eq ▸ single)]
    refine rel_head? spelled fun p hp p' h => ?_
    obtain ⟨hp, spells⟩ := List.mem_filter.mp hp
    refine ⟨⟨once p hp, values p hp (of_decide_eq_true spells)⟩, ?_⟩
    rcases h with rfl | ⟨g, hg, hs, _, value⟩
    · exact f.2.refl _
    · exact eq_of_spells hf hg (of_decide_eq_true spells) hs ▸ value
  · simp only [decide_eq_true_eq]
    rcases h with rfl | ⟨g, hg, hs, hs', _⟩
    · exact Iff.rfl
    · exact ⟨fun h => eq_of_spells hf hg h hs ▸ hs', fun h => eq_of_spells hf hg h hs' ▸ hs⟩

end Fields

/-! ## Readings -/

/-- The codec accepts both of two spellings or neither, and reads the same value from both. -/
def Codec.Ignores {α : Type} (c : Codec α) (s : Spelling) : Prop :=
  ∀ j j', j.KeysOnce → s.unmixed j = true → s.Respelled j j' → ∀ a, c.read j = .accepted a ↔
    c.read j' = .accepted a

theorem ignores_fixed {α : Type} {c : Codec α} : c.Ignores .fixed := by
  rintro j _ _ _ rfl a
  exact Iff.rfl

theorem list_ignores {α : Type} {c : Codec α} {s : Spelling} (h : c.Ignores s) :
    c.list.Ignores (.list s) := by
  have items {js js' : List Json} (related : List.Forall₂ s.Respelled js js')
    (once : ∀ j ∈ js, j.KeysOnce)
      (unmixed : ∀ j ∈ js, s.unmixed j = true) (as : List α) :
      List.Forall₂ (fun j a => c.read j = .accepted a) js as ↔
        List.Forall₂ (fun j a => c.read j = .accepted a) js' as := by
    induction related generalizing as with
    | nil => exact Iff.rfl
    | cons first rest ih =>
      obtain ⟨hj, hjs⟩ := List.forall_mem_cons.mp once
      obtain ⟨uj, ujs⟩ := List.forall_mem_cons.mp unmixed
      simp only [List.forall₂_cons_left_iff, h _ _ hj uj first, ih hjs ujs]
  rintro j _ once unmixed (rfl | ⟨js, js', rfl, rfl, related⟩) as
  · exact Iff.rfl
  · have same := items related (Json.keysOnce_arr.mp once) (List.all_eq_true.mp unmixed) as
    simpa [list_eq_accepted] using same

/-! ## Records -/

section
variable {σ α β : Type}

/-- The record reads the same from members that differ in the spelling of its fields only. -/
def Record.Ignores (r : Record σ α) (nested : List (String × Spelling)) : Prop :=
  ∀ m m' : Members, (∀ key ∈ r.keys, Members.Alike (valueSpelling nested key) key m m') →
    ∀ a, r.read m = .accepted a ↔ r.read m' = .accepted a

theorem Members.Alike.cases {s : Spelling} {key : Key} {m m' : Members}
    (h : Members.Alike s key m m') :
    m.find? key = none ∧ m'.find? key = none ∨
      ∃ k v k' v', m.find? key = some (k, v) ∧ m'.find? key = some (k', v') ∧
        (v.KeysOnce ∧ s.unmixed v = true) ∧ s.Respelled v v' := by
  unfold Alike at h
  cases hm : m.find? key with
  | none =>
    cases hm' : m'.find? key with
    | none => exact .inl ⟨rfl, rfl⟩
    | some f => rw [hm, hm'] at h; cases h
  | some f =>
    cases hm' : m'.find? key with
    | none => rw [hm, hm'] at h; cases h
    | some f' =>
      rw [hm, hm'] at h
      cases h with
      | some same => exact .inr ⟨_, _, _, _, rfl, rfl, same⟩

namespace Record

section
variable {key : Key} {nested : List (String × Spelling)} {c : Codec α}

theorem ignores_of_field {r : Record σ α} (keys : r.keys = [key]) {absent : Outcome α}
    (field : ∀ m : Members, r.read m = match m.find? key with
      | some (used, value) => (c.read value).under (.key used)
      | none => absent)
    (h : c.Ignores (valueSpelling nested key)) : r.Ignores nested := by
  intro m m' alike a
  rw [field, field]
  rcases (alike key (keys ▸ List.mem_singleton_self key)).cases with
    ⟨hm, hm'⟩ | ⟨k, v, k', v', hm, hm', ⟨once, unmixed⟩, respelled⟩
  · rw [hm, hm']
  · simp only [hm, hm', under_eq_accepted]
    exact h v v' once unmixed respelled a

theorem ignores_required (h : c.Ignores (valueSpelling nested key)) {part : σ → α} :
    (required key c part).Ignores nested :=
  ignores_of_field rfl (fun _ => rfl) h

theorem ignores_defaulted (h : c.Ignores (valueSpelling nested key)) {default : α} {part : σ → α} :
    (defaulted key c default part).Ignores nested :=
  ignores_of_field rfl (fun _ => rfl) h

theorem ignores_optional (h : c.Ignores (valueSpelling nested key)) {part : σ → Option α} :
    (optional key c part).Ignores nested := by
  intro m m' alike a
  rcases (alike key (List.mem_singleton_self key)).cases with
    ⟨hm, hm'⟩ | ⟨k, v, k', v', hm, hm', ⟨once, unmixed⟩, respelled⟩
  · simp only [optional, hm, hm']
  · by_cases hv : v = .null
    · obtain rfl := (valueSpelling nested key).null respelled |>.mp hv
      subst hv
      simp only [optional, hm, hm']
    · have hv' : v' ≠ .null := fun e => hv (((valueSpelling nested key).null respelled).mpr e)
      rw [read_optional hm hv, read_optional hm' hv']
      simp only [map_eq_accepted, under_eq_accepted, h v v' once unmixed respelled]

theorem ignores_freeForm (fixed : valueSpelling nested key = .fixed) {part : σ → Json} :
    (freeForm key part).Ignores nested := by
  intro m m' alike a
  rcases (alike key (List.mem_singleton_self key)).cases with
    ⟨hm, hm'⟩ | ⟨k, v, k', v', hm, hm', -, respelled⟩
  · simp only [freeForm, hm, hm']
  · obtain rfl : v = v' := by rwa [fixed] at respelled
    simp only [freeForm, hm, hm']

theorem pure_ignores {a : α} : (Record.pure a : Record σ α).Ignores nested :=
  fun _ _ _ _ => Iff.rfl

theorem Ignores.map {r : Record σ α} (h : r.Ignores nested) (f : α → β) :
    (f <$> r).Ignores nested := by
  intro m m' alike b
  simp only [read_map, h m m' alike]

/-- **Fields are read together from members in which each of them is found.** -/
theorem Ignores.seq {r : Record σ (α → β)} {s : Record σ α} (h : r.Ignores nested)
    (h' : s.Ignores nested) :
    (r <*> s).Ignores nested := by
  intro m m' alike b
  have first := h m m' fun key hk => alike key (List.mem_append_left _ hk)
  have second := h' m m' fun key hk => alike key (List.mem_append_right _ hk)
  simp only [read_seq, first, second]

theorem Ignores.codec {r : Record α α} (h : r.Ignores nested) {apart : r.keys.Pairwise Key.Foreign}
    (name : String) : (r.codec name).Ignores (.object (r.fields nested apart)) := by
  rintro j _ once unmixed (rfl | ⟨m, m', rfl, rfl, respelled⟩) a
  · exact Iff.rfl
  · obtain ⟨distinct, values⟩ := Json.keysOnce_obj.mp once
    have alike := Fields.alike distinct values unmixed respelled
    exact h m m' (fun key hk => alike _ (List.mem_map_of_mem hk)) a

end

end Record

end

/-! ## Variants -/

section
variable {α : Type} {key : String} {variants : List (Variant α)}
    {spellings : List (String × Fields)}
  {dump : α → Members}

def Variant.Ignores (v : Variant α) (fields : Fields) : Prop :=
  ∀ m m' : Members, (∀ f ∈ fields.entries, Members.Alike f.2 f.1 m m') →
    ∀ a, v.read m = .accepted a ↔ v.read m' = .accepted a

/-- Variants and the fields of their objects: one list has what the other has, in the same order,
and each object holds its tag. -/
def Matched (key : String) : List (Variant α) → List (String × Fields) → Prop :=
  List.Forall₂ fun v s => v.tag = s.1 ∧ v.Ignores s.2 ∧ ((key : Key), Spelling.fixed) ∈ s.2.entries

theorem Matched.nil : Matched key ([] : List (Variant α)) [] :=
  List.Forall₂.nil

theorem Matched.cons {β : Type} {r : Record β β} {nested : List (String × Spelling)}
    (h : r.Ignores nested)
    {tag : String} {make : β → α} {apart : ((key : Key) :: r.keys).Pairwise Key.Foreign}
    (matched : Matched key variants spellings) :
    Matched key (r.variant tag make :: variants)
      ((tag, r.tagged key nested apart) :: spellings) := by
  refine List.Forall₂.cons ⟨rfl, fun m m' alike a => ?_, List.mem_cons_self⟩ matched
  have same := h m m' fun k hk => alike _ (List.mem_cons_of_mem _ (List.mem_map_of_mem hk))
  simp only [Record.variant, map_eq_accepted, same]

theorem Matched.find? (matched : Matched key variants spellings) {tag : String} {fields : Fields}
    (listed : spellings.lookup tag = some fields) :
    ∃ v, (variants.find? fun v => v.tag = tag) = some v ∧
      v.Ignores fields ∧ ((key : Key), Spelling.fixed) ∈ fields.entries := by
  -- both lists are searched for the tag, and stop at one place
  induction matched with
  | nil => cases listed
  | @cons v s variants spellings first _ ih =>
    obtain ⟨same, ignores, holds⟩ := first
    by_cases named : s.1 = tag
    · obtain ⟨own, others⟩ := s
      subst named
      rw [List.lookup_cons_self] at listed
      cases listed
      exact ⟨v, by rw [List.find?_cons_of_pos (by simpa using same)], ignores, holds⟩
    · have other : v.tag ≠ tag := same ▸ named
      rw [List.lookup_cons, beq_eq_false_iff_ne.mpr (Ne.symm named)] at listed
      obtain ⟨w, found, rest⟩ := ih listed
      exact ⟨w, by rw [List.find?_cons_of_neg (by simpa using other), found], rest⟩

theorem Members.get?_eq_find? (m : Members) (key : String) :
    m.get? key = (m.find? (key : Key)).map Prod.snd := by
  unfold Members.find?
  cases m.get? key <;> simp

theorem Matched.respelled (matched : Matched key variants spellings) {j j' : Json}
    (once : j.KeysOnce) (unmixed : (Spelling.union key spellings).unmixed j = true)
    (respelled : (Spelling.union key spellings).Respelled j j') :
    j = j' ∨ ∃ (m m' : Members) (tag : String) (v : Variant α),
      j = .obj m ∧ j' = .obj m' ∧ m.get? key = some (.str tag) ∧
      m'.get? key = some (.str tag) ∧ (variants.find? fun v => v.tag = tag) = some v ∧
      ∀ a, v.read m = .accepted a ↔ v.read m' = .accepted a := by
  rcases respelled with same | ⟨m, m', tag, rfl, rfl, tagged, fields, listed, respelled⟩
  · exact .inl same
  · obtain ⟨distinct, values⟩ := Json.keysOnce_obj.mp once
    obtain ⟨v, found, ignores, holds⟩ := matched.find? listed
    have own : fields.unmixed m = true := by
      simpa only [Spelling.union, tagged, listed, Option.all_some] using unmixed
    have alike := Fields.alike distinct values own respelled
    refine .inr ⟨m, m', tag, v, rfl, rfl, tagged, ?_, found, ignores m m' alike⟩
    rw [Members.get?_eq_find?] at tagged ⊢
    rcases (alike _ holds).cases with ⟨hm, hm'⟩ | ⟨k, value, k', value', hm, hm', -, rfl⟩
    · rwa [hm', ← hm]
    · rw [hm] at tagged
      rw [hm']
      exact tagged

/-- **A union reads the same if each of its variants does.** -/
theorem union_ignores (matched : Matched key variants spellings) :
    (Codec.union key variants dump).Ignores (.union key spellings) := by
  intro j j' once unmixed respelled a
  rcases matched.respelled once unmixed respelled with
    rfl | ⟨m, m', tag, v, rfl, rfl, tagged, tagged', found, same⟩
  · exact Iff.rfl
  · simp only [union, tagged, tagged', found, under_eq_accepted, same]

end

end SceneSketch
