import Mathlib.Data.List.Nodup
import SceneSketch.Json.Reader
import SceneSketch.Proofs.Sequences

/-!
# Documents have each key once

The reader replaces the value of a key that it meets again, so in a value that was read no object
has a key twice.
-/

namespace SceneSketch

def Members.Distinct (members : Members) : Prop :=
  (members.map Prod.fst).Nodup

namespace Json

inductive KeysOnce : Json → Prop
  | null : KeysOnce null
  | bool (b : Bool) : KeysOnce (bool b)
  | int (n : Int) : KeysOnce (int n)
  | num (x : Double) : KeysOnce (num x)
  | str (s : Text) : KeysOnce (str s)
  | arr {items : List Json} (each : ∀ item ∈ items, KeysOnce item) : KeysOnce (arr items)
  | obj {members : Members} (distinct : members.Distinct) (each : ∀ m ∈ members, KeysOnce m.2) :
    KeysOnce (obj members)

theorem keysOnce_arr {items : List Json} : (arr items).KeysOnce ↔ ∀ item ∈ items, item.KeysOnce :=
  ⟨fun | .arr each => each, .arr⟩

theorem keysOnce_obj {members : Members} :
    (obj members).KeysOnce ↔ members.Distinct ∧ ∀ m ∈ members, m.2.KeysOnce :=
  ⟨fun | .obj distinct each => ⟨distinct, each⟩, fun h => .obj h.1 h.2⟩

end Json

namespace Members

structure Proper (members : Members) : Prop where
  distinct : members.Distinct
  each : ∀ m ∈ members, m.2.KeysOnce

theorem fst_set (members : Members) (key : Text) (value : Json) :
    (members.set key value).map Prod.fst =
      if key ∈ members.map Prod.fst then members.map Prod.fst
      else members.map Prod.fst ++ [key] := by
  induction members with
  | nil => rfl
  | cons m members ih =>
    obtain ⟨k, v⟩ := m
    by_cases h : k = key
    · simp [set, h]
    · rw [set, if_neg h, List.map_cons, ih]
      by_cases hm : key ∈ members.map Prod.fst <;> simp [hm, Ne.symm h]

theorem mem_set {members : Members} {key : Text} {value : Json} {m : Text × Json}
    (h : m ∈ members.set key value) : m ∈ members ∨ m.2 = value := by
  induction members with
  | nil => exact .inr (by rw [List.mem_singleton.mp h])
  | cons first members ih =>
    obtain ⟨k, v⟩ := first
    unfold set at h
    split at h
    · rcases List.mem_cons.mp h with rfl | h
      · exact .inr rfl
      · exact .inl (List.mem_cons_of_mem _ h)
    · rcases List.mem_cons.mp h with rfl | h
      · exact .inl List.mem_cons_self
      · exact (ih h).imp_left (List.mem_cons_of_mem _)

theorem Proper.set {members : Members} (h : members.Proper) (key : Text) {value : Json}
    (hv : value.KeysOnce) : (members.set key value).Proper where
  distinct := by
    unfold Distinct
    rw [fst_set]
    split
    · exact h.distinct
    · next hk => exact List.nodup_append.mpr ⟨h.distinct, List.nodup_singleton key, by
        intro a ha b hb
        rw [List.mem_singleton.mp hb]
        exact fun e => hk (e ▸ ha)⟩
  each m hm := by
    rcases mem_set hm with hm | rfl
    · exact h.each m hm
    · exact hv

end Members

namespace Json

/-! ## The builder -/

def Frame.Proper : Frame → Prop
  | .list items => ∀ item ∈ items, item.KeysOnce
  | .object members _ => members.Proper

def Builder.Proper : Builder → Prop
  | value frames | firstItem frames | firstKey frames => ∀ f ∈ frames, f.Proper
  | key members frames | colon members _ frames => members.Proper ∧ ∀ f ∈ frames, f.Proper
  | more frame frames => frame.Proper ∧ ∀ f ∈ frames, f.Proper
  | done result => result.KeysOnce

namespace Builder

variable {frames : List Frame}

theorem proper_place {value : Json} (hv : value.KeysOnce) (hf : ∀ f ∈ frames, f.Proper) :
    (place value frames).Proper := by
  cases frames with
  | nil => exact hv
  | cons frame frames =>
    obtain ⟨hframe, hframes⟩ := List.forall_mem_cons.mp hf
    cases frame with
    | list items => exact ⟨List.forall_mem_cons.mpr ⟨hv, hframe⟩, hframes⟩
    | object members key => exact ⟨hframe.set key hv, hframes⟩

theorem keysOnce_numeral {word : List Char} {result : Json} (h : numeral word = .ok result) :
    result.KeysOnce := by
  simp only [numeral] at h
  repeat' split at h
  all_goals cases h
  all_goals constructor

theorem keysOnce_scalar {word : List Char} {result : Json} (h : scalarOfWord word = .ok result) :
    result.KeysOnce := by
  unfold scalarOfWord at h
  split at h
  · cases h
    exact .null
  · cases h
    exact .bool true
  · cases h
    exact .bool false
  · cases h
    exact .num _
  · cases h
    exact .num _
  · cases h
    exact .num _
  · exact keysOnce_numeral h

theorem proper_deeper {inner b : Builder} (hi : inner.Proper) (h : deeper frames inner = .ok b) :
    b.Proper := by
  unfold deeper at h
  split at h
  · exact Except.ok.inj h ▸ hi
  · cases h

theorem proper_begin {token : Token} {b : Builder} (hf : ∀ f ∈ frames, f.Proper)
    (h : begin frames token = .ok b) : b.Proper := by
  cases token with
  | openList => exact proper_deeper (show (firstItem frames).Proper from hf) h
  | openObject => exact proper_deeper (show (firstKey frames).Proper from hf) h
  | text s =>
    cases h
    exact proper_place (.str s) hf
  | word chars =>
    obtain ⟨result, hw, rfl⟩ := map_eq_ok.mp h
    exact proper_place (keysOnce_scalar hw) hf
  | _ => cases h

/-- **A token leaves a proper builder proper.** -/
theorem Proper.step {b b' : Builder} {token : Token} (hb : b.Proper) (h : b.step token = .ok b') :
    b'.Proper := by
  unfold Builder.step at h
  split at h
  · exact proper_begin hb h
  · cases h
    exact proper_place (.arr (List.forall_mem_nil _)) hb
  · next frames _ _ =>
    have inner : Frame.Proper (.list []) := List.forall_mem_nil _
    exact proper_begin (List.forall_mem_cons.mpr ⟨inner, hb⟩) h
  · cases h
    exact proper_place (.obj List.nodup_nil (List.forall_mem_nil _)) hb
  · cases h
    exact ⟨⟨List.nodup_nil, List.forall_mem_nil _⟩, hb⟩
  · cases h
    exact hb
  · cases h
    exact List.forall_mem_cons.mpr hb
  · cases h
    exact List.forall_mem_cons.mpr hb
  · cases h
    exact proper_place (.arr fun item hm => hb.1 item (List.mem_reverse.mp hm)) hb.2
  · cases h
    exact hb
  · cases h
    exact proper_place (.obj hb.1.distinct hb.1.each) hb.2
  · cases h

theorem Proper.takeWord {b b' : Builder} {chars : List Char} (hb : b.Proper)
    (h : b.takeWord chars = .ok b') :
    b'.Proper := by
  unfold Builder.takeWord at h
  split at h
  · exact Except.ok.inj h ▸ hb
  · exact hb.step h

end Builder

/-! ## The reader -/

namespace Reader

theorem proper_behindWord {b : Builder} {r : Reader} {c : Char} (hb : b.Proper)
    (h : behindWord b c = .ok r) :
    r.builder.Proper := by
  unfold behindWord at h
  split at h
  · exact Except.ok.inj h ▸ hb
  · split at h
    · exact Except.ok.inj h ▸ hb
    · split at h
      · obtain ⟨b', hb', rfl⟩ := map_eq_ok.mp h
        exact hb.step hb'
      · cases h

theorem proper_step {r r' : Reader} {c : Char} (hr : r.builder.Proper) (h : r.step c = .ok r') :
    r'.builder.Proper := by
  unfold step at h
  split at h
  · split at h
    · exact Except.ok.inj h ▸ hr
    · obtain ⟨b, hb, h⟩ := bind_eq_ok.mp h
      exact proper_behindWord (hr.takeWord hb) h
  · unfold inText at h
    split at h
    · obtain ⟨b, hb, rfl⟩ := map_eq_ok.mp h
      exact hr.step hb
    · split at h
      · exact Except.ok.inj h ▸ hr
      · split at h
        · cases h
        · exact Except.ok.inj h ▸ hr
  · dsimp only at h
    split at h
    · exact Except.ok.inj h ▸ hr
    · cases h
  · dsimp only at h
    split at h
    · exact Except.ok.inj h ▸ hr
    · cases h

theorem proper_steps {cs : List Char} {r r' : Reader} (hr : r.builder.Proper)
    (h : cs.foldlM step r = .ok r') :
    r'.builder.Proper := by
  induction cs generalizing r with
  | nil => exact Except.ok.inj h ▸ hr
  | cons c cs ih =>
    rw [List.foldlM_cons] at h
    obtain ⟨next, hs, h⟩ := bind_eq_ok.mp h
    exact ih (proper_step hr hs) h

theorem keysOnce_finish {r : Reader} {result : Json} (hr : r.builder.Proper)
    (h : r.finish = .ok result) :
    result.KeysOnce := by
  unfold finish at h
  split at h
  · obtain ⟨b, hb, h⟩ := bind_eq_ok.mp h
    have proper := hr.takeWord hb
    cases b with
    | done value => exact Except.ok.inj h ▸ proper
    | _ => cases h
  · cases h

end Reader

/-- **A value that was read from text has each key once.** -/
theorem parse_keysOnce {text : String} {result : Json} (h : parse text = .ok result) :
    result.KeysOnce := by
  obtain ⟨r, hr, h⟩ := bind_eq_ok.mp h
  have start : (Builder.value []).Proper := List.forall_mem_nil _
  exact Reader.keysOnce_finish (Reader.proper_steps start hr) h

end Json

end SceneSketch
