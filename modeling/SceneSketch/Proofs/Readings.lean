import SceneSketch.Proofs.Restoration
import SceneSketch.Proofs.Sequences

/-!
# What a reading comes to

A reading accepts a value, or rejects the document with at least one fault, or it is stopped by a
container that stands where a name is looked up. The ways to build codecs carry what is known of
their parts to the whole: a property of all accepted values, and that nothing stops the reading.
Where a part can be stopped, so can the whole, by the first container in the order of the document.
-/

namespace SceneSketch

/-! ## Outcomes -/

namespace Outcome

variable {α β : Type} {x : Outcome α} {stop other : Option Container} {p : α → Prop} {q : β → Prop}

theorem fmap_eq_accepted {f : α → β} {b : β} :
    f <$> x = .accepted b ↔ ∃ a, x = .accepted a ∧ f a = b :=
  map_eq_accepted

theorem seq_eq_accepted {f : Outcome (α → β)} {b : β} :
    f <*> x = .accepted b ↔ ∃ g a, f = .accepted g ∧ x = .accepted a ∧ g a = b :=
  ap_eq_accepted

/-- The reading accepts a value with the property or rejects the document, or a container stops
it. -/
inductive ComesTo (p : α → Prop) : Option Container → Outcome α → Prop
  | accepted {a : α} (h : p a) : ComesTo p none (.accepted a)
  | rejected {issues : List Issue} (h : issues ≠ []) : ComesTo p none (.rejected issues)
  | stopped (c : Container) : ComesTo p (some c) (.containerKey c)

theorem comesTo_fault {problem : Problem} : (fault problem).ComesTo p none :=
  .rejected (List.cons_ne_nil _ _)

theorem comesTo_ofOption {problem : Problem} {o : Option α} (h : ∀ a, o = some a → p a) :
    (ofOption problem o).ComesTo p none := by
  cases o with
  | none => exact comesTo_fault
  | some a => exact .accepted (h a rfl)

theorem ComesTo.imp {p' : α → Prop} (h : x.ComesTo p stop)
    (hp : ∀ a, x = .accepted a → p a → p' a) :
    x.ComesTo p' stop := by
  cases h with
  | accepted ha => exact .accepted (hp _ rfl ha)
  | rejected faults => exact .rejected faults
  | stopped c => exact .stopped c

theorem ComesTo.map {f : α → β} (h : x.ComesTo p stop) (hq : ∀ a, p a → q (f a)) :
    (x.map f).ComesTo q stop := by
  cases h with
  | accepted ha => exact .accepted (hq _ ha)
  | rejected faults => exact .rejected faults
  | stopped c => exact .stopped c

/-- Of two readings that are put together, the first one that is stopped stops the whole. -/
theorem ComesTo.ap {f : Outcome (α → β)} (hf : f.ComesTo (fun g => ∀ a, p a → q (g a)) stop)
    (hx : x.ComesTo p other) : (f.ap x).ComesTo q (stop.or other) := by
  cases hf with
  | accepted hg => exact hx.map hg
  | rejected faults =>
    cases hx with
    | accepted _ => exact .rejected faults
    | rejected _ => exact .rejected (List.append_ne_nil_of_left_ne_nil faults _)
    | stopped c => exact .stopped c
  | stopped c => exact .stopped c

theorem ComesTo.bind {f : α → Outcome β} (h : x.ComesTo p stop)
    (hf : ∀ a, p a → (f a).ComesTo q none) :
    (x.bind f).ComesTo q stop := by
  cases h with
  | accepted ha => exact hf _ ha
  | rejected faults => exact .rejected faults
  | stopped c => exact .stopped c

theorem ComesTo.under (h : x.ComesTo p stop) (step : Step) : (x.under step).ComesTo p stop := by
  cases h with
  | accepted ha => exact .accepted ha
  | rejected faults => exact .rejected (by simpa using faults)
  | stopped c => exact .stopped c

theorem ComesTo.of_accepted {a : α} (h : x.ComesTo p stop) (hx : x = .accepted a) : p a := by
  subst hx
  cases h with
  | accepted ha => exact ha

theorem ComesTo.eq_containerKey_iff {c : Container} (h : x.ComesTo p stop) :
    x = .containerKey c ↔ stop = some c := by
  cases h <;> simp

theorem ComesTo.surfaces_iff (h : x.ComesTo p stop) :
    ((∃ a, x = .accepted a) ∨ ∃ issues, issues ≠ [] ∧ x = .rejected issues) ↔ stop = none := by
  cases h with
  | rejected faults => simp [faults]
  | _ => simp

end Outcome

open Outcome

/-! ## Codecs -/

section
variable {α : Type} {c : Codec α} {p : α → Prop}

def Codec.Yields (c : Codec α) (p : α → Prop) : Prop :=
  ∀ j, (c.read j).ComesTo p none

namespace Codec

theorem comesTo_readUnicode {read : String → Outcome α} (h : ∀ s, (read s).ComesTo p none)
    (t : Text) :
    (readUnicode read t).ComesTo p none := by
  cases t with
  | unicode s => exact h s
  | broken => exact comesTo_fault

theorem comesTo_readFinite (x : Double) :
    (readFinite x).ComesTo (fun y => y.isFinite = true) none := by
  unfold readFinite
  split
  · next finite => exact .accepted finite
  · exact comesTo_fault

theorem number_yields : Codec.number.Yields fun x => x.isFinite = true := by
  intro j
  cases j with
  | num x => exact comesTo_readFinite x
  | int n =>
    simp only [number, readNumber]
    -- the nearest double is not to be computed
    generalize h : Double.ofInt? n = nearest
    exact comesTo_ofOption fun x hx => isFinite_of_ofInt? (h.trans hx)
  | bool b =>
    refine .accepted ?_
    cases b
    · exact isFinite_zero
    · exact isFinite_one
  | str s =>
    refine comesTo_readUnicode (fun s => ?_) s
    have parsed : (ofOption .unreadableNumber (numberOfText? s)).ComesTo (fun _ => True) none :=
      comesTo_ofOption fun _ _ => trivial
    exact parsed.bind fun x _ => comesTo_readFinite x
  | _ => exact comesTo_fault

theorem positiveNumber_yields : positiveNumber.Yields fun x => x.isFinite = true ∧
    x.isPositive = true := by
  refine fun j => (number_yields j).bind fun x finite => ?_
  split
  · next positive => exact .accepted ⟨finite, positive⟩
  · exact comesTo_fault

theorem text_yields : text.Yields fun _ => True := by
  intro j
  cases j with
  | str s => exact .accepted trivial
  | _ => exact comesTo_fault

theorem comesTo_truthOfInt (least n : Int) : (truthOfInt least n).ComesTo (fun _ => True) none := by
  unfold truthOfInt
  split
  · exact .accepted trivial
  · split
    · exact .accepted trivial
    · split <;> exact comesTo_fault

theorem truth_yields : truth.Yields fun _ => True := by
  intro j
  cases j with
  | bool b => exact .accepted trivial
  | int n => exact comesTo_truthOfInt _ n
  | num x =>
    simp only [truth, readTruth]
    split
    · exact comesTo_truthOfInt _ _
    · exact comesTo_fault
  | str s => exact comesTo_readUnicode (fun _ => comesTo_ofOption fun _ _ => trivial) s
  | _ => exact comesTo_fault

theorem choice_yields {choices : List α} {name : α → String} :
    (choice choices name).Yields fun _ => True := by
  intro j
  cases j with
  | str s => exact comesTo_readUnicode (fun _ => comesTo_ofOption fun _ _ => trivial) s
  | _ => exact comesTo_fault

theorem comesTo_readItems {stop : Json → Option Container} (h : ∀ j, (c.read j).ComesTo p (stop j))
    (items : List Json) (position : Nat) :
    (readItems c.read position items).ComesTo (fun as => ∀ a ∈ as, p a) (items.findSome? stop) := by
  induction items generalizing position with
  | nil => exact .accepted (List.forall_mem_nil _)
  | cons j js ih =>
    rw [findSome?_cons_or]
    refine (((h j).under (.index position)).map fun a ha => ?_).ap (ih (position + 1))
    exact fun as has => List.forall_mem_cons.mpr ⟨ha, has⟩

end Codec

end

/-! ## Members and items -/

namespace Json

def member? (key : String) : Json → Option Json
  | obj members => Members.get? members key
  | _ => none

def items : Json → List Json
  | arr items => items
  | _ => []

def itemsAt (key : String) (j : Json) : List Json :=
  ((j.member? key).map items).getD []

/-- The container that the value is; it cannot be looked up in a table. -/
def container? : Json → Option Container
  | arr _ => some .list
  | obj _ => some .object
  | _ => none

end Json

theorem Codec.comesTo_list {α : Type} {c : Codec α} {p : α → Prop} {stop : Json → Option Container}
    (h : ∀ j, (c.read j).ComesTo p (stop j)) (j : Json) :
    (c.list.read j).ComesTo (fun as => ∀ a ∈ as, p a) (j.items.findSome? stop) := by
  cases j with
  | arr items => exact comesTo_readItems h items 0
  | _ => exact comesTo_fault

theorem Codec.list_yields {α : Type} {c : Codec α} {p : α → Prop} (h : c.Yields p) :
    c.list.Yields fun as => ∀ a ∈ as, p a := by
  intro j
  have never : j.items.findSome? (fun _ => (none : Option Container)) = none := by simp
  exact never ▸ comesTo_list h j

/-! ## Records -/

section
variable {σ α β : Type}

def Record.Yields (r : Record σ α) (p : α → Prop) : Prop :=
  ∀ m, (r.read m).ComesTo p none

namespace Record

section
variable {c : Codec α} {p : α → Prop} {key : Key}

theorem pure_yields {a : α} (h : p a) : (Record.pure a : Record σ α).Yields p :=
  fun _ => .accepted h

theorem yields_required (h : c.Yields p) {part : σ → α} : (required key c part).Yields p := by
  intro m
  unfold required
  dsimp only
  split
  · exact (h _).under _
  · exact .rejected (List.cons_ne_nil _ _)

theorem yields_optional (h : c.Yields p) {part : σ → Option α} :
    (optional key c part).Yields fun o => ∀ a ∈ o, p a := by
  intro m
  unfold optional
  dsimp only
  split
  · exact .accepted nofun
  · exact ((h _).under _).map fun a ha => by simpa using ha
  · exact .accepted nofun

theorem yields_freeForm {part : σ → Json} : (freeForm key part).Yields fun _ => True := by
  intro m
  unfold freeForm
  dsimp only
  split <;> exact .accepted trivial

theorem comesTo_defaulted {stop : Json → Option Container} (h : ∀ j, (c.read j).ComesTo p (stop j))
    {default : α} (hd : p default) {part : σ → α} (m : Members) :
    ((defaulted key c default part).read m).ComesTo p
    ((m.find? key).bind fun found => stop found.2) := by
  unfold defaulted
  dsimp only
  cases m.find? key with
  | none => exact .accepted hd
  | some found => exact (h found.2).under _

theorem yields_defaulted (h : c.Yields p) {default : α} (hd : p default) {part : σ → α} :
    (defaulted key c default part).Yields p := by
  intro m
  have never : ((m.find? key).bind fun _ => (none : Option Container)) = none := by simp
  exact never ▸ comesTo_defaulted h hd m

end

theorem Yields.imp {r : Record σ α} {p q : α → Prop} (h : r.Yields p) (hq : ∀ a, p a → q a) :
    r.Yields q :=
  fun m => (h m).imp fun a _ => hq a

theorem Yields.map {r : Record σ α} {p : α → Prop} {q : β → Prop} (h : r.Yields p) {f : α → β}
    (hq : ∀ a, p a → q (f a)) : (f <$> r).Yields q :=
  fun m => (h m).map hq

theorem Yields.seq {r : Record σ (α → β)} {s : Record σ α} {p : α → Prop} {q : β → Prop}
    (hr : r.Yields fun f => ∀ a, p a → q (f a)) (hs : s.Yields p) : (r <*> s).Yields q :=
  fun m => (hr m).ap (hs m)

theorem Yields.unicodeKeys {r : Record σ α} {p : α → Prop} (h : r.Yields p) :
    r.unicodeKeys.Yields p := by
  intro m
  unfold Record.unicodeKeys
  dsimp only
  split
  · exact h m
  · exact comesTo_fault

theorem Yields.codec {r : Record α α} {p : α → Prop} (h : r.Yields p) (name : String) :
    (r.codec name).Yields p := by
  intro j
  cases j with
  | obj m => exact h m
  | _ => exact comesTo_fault

theorem read_map {r : Record σ α} {f : α → β} {m : Members} {b : β} :
    (f <$> r).read m = .accepted b ↔ ∃ a, r.read m = .accepted a ∧ f a = b :=
  map_eq_accepted

theorem read_seq {r : Record σ (α → β)} {s : Record σ α} {m : Members} {b : β} :
    (r <*> s).read m = .accepted b ↔ ∃ f a, r.read m = .accepted f ∧
    s.read m = .accepted a ∧ f a = b :=
  ap_eq_accepted

/-! ## Variants -/

theorem Yields.variant {r : Record β β} {tag : String} {make : β → α} {q : α → Prop}
    (h : r.Yields fun b => q (make b)) (m : Members) :
    ((r.variant tag make).read m).ComesTo q none :=
  (h m).map fun _ hb => hb

end Record

theorem Codec.union_yields {key : String} {variants : List (Variant α)} {dump : α → Members}
    {p : α → Prop} (h : ∀ v ∈ variants, ∀ m, (v.read m).ComesTo p none) :
    (Codec.union key variants dump).Yields p := by
  intro j
  cases j with
  | obj m =>
    simp only [union]
    split
    · exact comesTo_fault
    · next value _ =>
      split
      · next v hv =>
        have listed : v ∈ variants := by
          split at hv
          · exact List.mem_of_find?_eq_some hv
          · cases hv
        exact (h v listed m).under _
      · exact comesTo_fault
  | _ => exact comesTo_fault

end

end SceneSketch
