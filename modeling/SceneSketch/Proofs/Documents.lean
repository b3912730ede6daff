import SceneSketch.Drawing.Basic
import SceneSketch.Proofs.NullMembers
import SceneSketch.Proofs.Restoration

/-!
# Documents that are written and read again

Every model of a document comes back as it was, except that the null members of blocks of unknown
kinds are gone.
-/

namespace SceneSketch

open Codec Record

/-! ## Colors and shapes -/

section
variable {σ : Type} {key : Key}

theorem presents_number {part : σ → Double} :
    (Record.required key .number part).Presents id part id :=
  presents_required number_restores

theorem presents_text {part : σ → Text} : (Record.required key .text part).Presents id part id :=
  presents_required text_restores

theorem presents_optionalNumber {part : σ → Option Double} :
    (Record.optional key .number part).Presents id part (Option.map id) :=
  presents_optional number_restores fun _ => nofun

theorem presents_defaultedNumber {part : σ → Double} {default : Double}
    (h : default.isFinite = true) :
    (Record.defaulted key .number default part).Presents id part id :=
  presents_defaulted number_restores (readNumber_of_isFinite h)

end

-- A record is given by its fields in order; what remains is that their keys are apart, and that the
-- parts of what was made of parts are these parts again.

theorem Rgb.restores : Rgb.record.Restores id :=
  (((presents_number.map Rgb.mk).seq presents_number).seq presents_number).seq
    presents_optionalNumber
    |>.restoring (by decide) (fun _ => rfl) (by simp)

theorem Hsb.restores : Hsb.record.Restores id :=
  (((presents_number.map Hsb.mk).seq presents_number).seq presents_number).seq
    presents_optionalNumber
    |>.restoring (by decide) (fun _ => rfl) (by simp)

theorem Gray.restores : Gray.record.Restores id :=
  (presents_number.map Gray.mk).seq presents_optionalNumber
    |>.restoring (by decide) (fun _ => rfl) (by simp)

theorem Color.restores : Color.codec.Restores id := by
  apply union_restores
  simp only [List.forall_mem_cons]
  refine ⟨Rgb.restores.variant ?_ ?_ ?_, Hsb.restores.variant ?_ ?_ ?_,
    Gray.restores.variant ?_ ?_ ?_, List.forall_mem_nil _⟩
  -- of each variant: no field has the key of the tag, the members follow the tag, and they stay as
  -- they are
  all_goals first | decide | exact fun _ _ _ => rfl | exact fun _ => rfl

theorem Color.dump_ne_null (color : Color) : Color.codec.dump color ≠ .null := nofun

theorem Circle.restores : Circle.record.Restores id :=
  ((presents_number.map Circle.mk).seq presents_number).seq presents_number
    |>.restoring (by decide) (fun _ => rfl) (by simp)

theorem Rectangle.restores : Rectangle.record.Restores id :=
  (((presents_number.map Rectangle.mk).seq presents_number).seq presents_number).seq presents_number
    |>.restoring (by decide) (fun _ => rfl) (by simp)

theorem Segment.restores : Segment.record.Restores id :=
  (((presents_number.map Segment.mk).seq presents_number).seq presents_number).seq presents_number
    |>.restoring (by decide) (fun _ => rfl) (by simp)

theorem Caption.restores : Caption.record.Restores id :=
  (((presents_text.map Caption.mk).seq presents_number).seq presents_number).seq presents_number
    |>.restoring (by decide) (fun _ => rfl) (by simp)

theorem Color.background_restores : Color.backgroundRecord.Restores id :=
  (presents_required Color.restores).restoring (by decide) (fun _ => rfl) fun _ => rfl

theorem Shape.restores : Shape.codec.Restores id := by
  apply union_restores
  simp only [List.forall_mem_cons]
  refine ⟨Circle.restores.variant ?_ ?_ ?_, Rectangle.restores.variant ?_ ?_ ?_,
    Segment.restores.variant ?_ ?_ ?_, Caption.restores.variant ?_ ?_ ?_,
    Color.background_restores.variant ?_ ?_ ?_, List.forall_mem_nil _⟩
  all_goals first | decide | exact fun _ _ _ => rfl | exact fun _ => rfl

theorem Style.restores : Style.codec.Restores id :=
  ((((presents_optional Color.restores Color.dump_ne_null).map Style.mk).seq
    (presents_optional Color.restores Color.dump_ne_null)).seq
    (presents_optional positiveNumber_restores fun _ => nofun)).seq
    (presents_defaulted truth_restores rfl) |>.seq (presents_defaulted truth_restores rfl)
    |>.restoring (by decide) (fun _ => rfl) (by simp) |>.codec "ElementStyle"

/-! ## Behaviors and effects -/

theorem Wave.restores (trig : Trig) : (Wave.record trig).Restores id :=
  ((presents_number.map (Wave.mk trig)).seq presents_number).seq
    (presents_defaultedNumber isFinite_zero)
    |>.restoring (by cases trig <;> decide) (fun _ => rfl) (by simp)

theorem Wave.trig_of_read {trig : Trig} {m : Members} {w : Wave}
    (h : (Wave.record trig).read m = .accepted w) :
    w.trig = trig := by
  obtain ⟨f, offset, hf, _, hw⟩ := Outcome.ap_eq_accepted.mp h
  obtain ⟨g, amplitude, hg, _, hf⟩ := Outcome.ap_eq_accepted.mp hf
  obtain ⟨speed, _, hg⟩ := Outcome.map_eq_accepted.mp hg
  rw [← hw, ← hf, ← hg]

theorem Motion.restores : Motion.codec.Restores id := by
  have linear : Motion.linearRecord.Restores id :=
    presents_number.restoring (by decide) (fun _ => rfl) fun _ => rfl
  have tagged : ∀ trig m w, (Wave.record trig).read m = .accepted w →
      (.unicode "type", Json.str w.trig.name) :: (Wave.record w.trig).dump w =
        (.unicode "type", .str trig.name) :: (Wave.record trig).dump w := by
    intro trig m w h
    rw [Wave.trig_of_read h]
  apply union_restores
  simp only [List.forall_mem_cons]
  refine ⟨(Wave.restores .sin).variant ?_ (tagged .sin) ?_,
    (Wave.restores .cos).variant ?_ (tagged .cos) ?_,
    linear.variant ?_ ?_ ?_, List.forall_mem_nil _⟩
  all_goals first | decide | exact fun _ _ _ => rfl | exact fun _ => rfl

theorem Tracking.restores : Tracking.record.Restores id :=
  (presents_defaulted (choice_restores (by decide)) rfl).restoring (by decide) (fun _ => rfl)
    fun _ => rfl

theorem Animation.restores : Animation.record.Restores id :=
  (presents_text.map Animation.mk).seq (presents_required Motion.restores)
    |>.restoring (by decide) (fun _ => rfl) (by simp)

theorem RandomRange.restores : RandomRange.record.Restores id :=
  ((presents_text.map RandomRange.mk).seq presents_number).seq presents_number
    |>.restoring (by decide) (fun _ => rfl) (by simp)

theorem Behavior.restores : Behavior.codec.Restores id := by
  apply union_restores
  simp only [List.forall_mem_cons]
  refine ⟨pure_variant_restores rfl rfl, Tracking.restores.variant ?_ ?_ ?_,
    Animation.restores.variant ?_ ?_ ?_, RandomRange.restores.variant ?_ ?_ ?_,
    List.forall_mem_nil _⟩
  all_goals first | decide | exact fun _ _ _ => rfl | exact fun _ => rfl

theorem Glow.restores : Glow.record.Restores id :=
  (presents_number.map Glow.mk).seq (presents_optional Color.restores Color.dump_ne_null)
    |>.restoring (by decide) (fun _ => rfl) (by simp)

theorem ColorShift.restores : ColorShift.record.Restores id :=
  (presents_number.map ColorShift.mk).seq presents_number
    |>.restoring (by decide) (fun _ => rfl) (by simp)

theorem Filter.number_restores {key : String} : (Filter.numberRecord key).Restores id :=
  presents_number.restoring (by simp [Record.required]) (fun _ => rfl) fun _ => rfl

theorem Filter.restores : Filter.codec.Restores id := by
  apply union_restores
  simp only [List.forall_mem_cons]
  refine ⟨number_restores.variant ?_ ?_ ?_, Glow.restores.variant ?_ ?_ ?_,
    ColorShift.restores.variant ?_ ?_ ?_,
    number_restores.variant ?_ ?_ ?_, number_restores.variant ?_ ?_ ?_,
    pure_variant_restores rfl rfl, List.forall_mem_nil _⟩
  all_goals first | decide | exact fun _ _ _ => rfl | exact fun _ => rfl

theorem Effect.restores : Effect.codec.Restores fun effect => effect :=
  ((((presents_text.map Effect.mk).seq presents_text).seq
    (presents_defaulted text_restores rfl)).seq
    (presents_defaulted truth_restores rfl)).seq (presents_required Filter.restores)
    |>.restoring (by decide) (fun _ => rfl) (by simp) |>.codec "VisualEffect"

/-! ## Blocks -/

theorem presents_axis {σ : Type} {key : Key} {part : σ → Axis} :
    (Record.required key Axis.codec part).Presents id part id :=
  presents_required (choice_restores (by decide))

theorem Oscillation.restores : Oscillation.record.Restores id :=
  ((presents_axis.map Oscillation.mk).seq presents_number).seq presents_number
    |>.restoring (by decide) (fun _ => rfl) (by simp)

theorem Rotation.restores : Rotation.record.Restores id :=
  (presents_number.map Rotation.mk).restoring (by decide) (fun _ => rfl) (by simp)

theorem Bounce.restores : Bounce.record.Restores id :=
  (((presents_axis.map Bounce.mk).seq presents_number).seq presents_number).seq presents_number
    |>.restoring (by decide) (fun _ => rfl) (by simp)

theorem CirclePath.restores : CirclePath.record.Restores id :=
  (presents_number.map CirclePath.mk).seq presents_number
    |>.restoring (by decide) (fun _ => rfl) (by simp)

theorem PerlinNoise.restores : PerlinNoise.record.Restores id :=
  ((presents_axis.map PerlinNoise.mk).seq presents_number).seq presents_number
    |>.restoring (by decide) (fun _ => rfl) (by simp)

theorem Jitter.restores : Jitter.record.Restores id :=
  (presents_number.map Jitter.mk).restoring (by decide) (fun _ => rfl) (by simp)

theorem Pulse.restores : Pulse.record.Restores id :=
  ((presents_number.map Pulse.mk).seq presents_number).seq presents_number
    |>.restoring (by decide) (fun _ => rfl) (by simp)

theorem Rainbow.restores : Rainbow.record.Restores id :=
  (presents_number.map Rainbow.mk).restoring (by decide) (fun _ => rfl) (by simp)

theorem Pursuit.restores : Pursuit.record.Restores id :=
  (presents_number.map Pursuit.mk).restoring (by decide) (fun _ => rfl) (by simp)

theorem ClickChange.restores : ClickChange.record.Restores id :=
  (presents_text.map ClickChange.mk).seq presents_freeForm
    |>.restoring (by decide) (fun _ => rfl) (by simp)

theorem read_requiredText {σ : Type} {key : String} (part : σ → Text) {m : Members} {t : Text} :
    (Record.required key .text part).read m = .accepted t ↔ Members.get? m key = some (.str t) := by
  simp only [Record.required, Members.find?]
  cases Members.get? m key with
  | none => simp
  | some value => cases value <;> simp [Codec.text, Outcome.fault]

namespace UnknownBlock

theorem read_eq_accepted {m : Members} {u : UnknownBlock} :
    UnknownBlock.record.read m = .accepted u ↔
    (∀ p ∈ m, p.1.isUnicode = true) ∧ m.get? "type" = some (.str u.kind) ∧
      u.extras = m.filter fun p => p.1 ≠ .unicode "type" := by
  have fields : (UnknownBlock.mk <$> Record.required "type" .text kind <*> extrasRecord).read m =
      .accepted u ↔
      m.get? "type" = some (.str u.kind) ∧ u.extras = m.filter fun p => p.1 ≠ .unicode "type" := by
    rw [← read_requiredText kind]
    constructor
    · intro h
      obtain ⟨f, extras, hf, he, rfl⟩ := Outcome.ap_eq_accepted.mp h
      obtain ⟨kind, hk, rfl⟩ := Outcome.map_eq_accepted.mp hf
      exact ⟨hk, (Outcome.accepted.inj he).symm⟩
    · rintro ⟨hk, he⟩
      exact Outcome.ap_eq_accepted.mpr
        ⟨_, _, Outcome.map_eq_accepted.mpr ⟨_, hk, rfl⟩, rfl, by rw [← he]⟩
  rw [← fields, ← List.all_eq_true]
  unfold UnknownBlock.record Record.unicodeKeys
  dsimp only
  split <;> simp [*, Outcome.fault]

theorem read_dump {m : Members} {u : UnknownBlock} (h : UnknownBlock.record.read m = .accepted u) :
    UnknownBlock.record.read (UnknownBlock.record.dump u) = .accepted u.withoutNulls := by
  obtain ⟨unicode, _, extras⟩ := read_eq_accepted.mp h
  have member : ∀ p ∈ u.extras.filter fun p => !p.2.isNull, p ∈ m ∧ p.1 ≠ "type" := by
    intro p hp
    have := (List.mem_filter.mp hp).1
    rw [extras, List.mem_filter] at this
    simpa using this
  refine read_eq_accepted.mpr ⟨?_, List.lookup_cons_self, ?_⟩
  · exact List.forall_mem_cons.mpr ⟨rfl, fun p hp => unicode p (member p hp).1⟩
  · change _ = List.filter
      _ ((.unicode "type", Json.str u.kind) :: u.extras.filter fun p => !p.2.isNull)
    rw [List.filter_cons_of_neg (by simp),
      List.filter_eq_self.mpr fun p hp => by simpa using (member p hp).2]
    rfl

end UnknownBlock

namespace Block

theorem known_restores : ∀ v ∈ knownVariants, v.Restores "type" dumpMembers withoutNulls := by
  unfold knownVariants
  simp only [List.forall_mem_cons]
  refine ⟨Oscillation.restores.variant ?_ ?_ ?_, Rotation.restores.variant ?_ ?_ ?_,
    Bounce.restores.variant ?_ ?_ ?_, CirclePath.restores.variant ?_ ?_ ?_,
    PerlinNoise.restores.variant ?_ ?_ ?_, Jitter.restores.variant ?_ ?_ ?_,
    Pulse.restores.variant ?_ ?_ ?_,
    Rainbow.restores.variant ?_ ?_ ?_, Pursuit.restores.variant ?_ ?_ ?_,
    ClickChange.restores.variant ?_ ?_ ?_, List.forall_mem_nil _⟩
  all_goals first | decide | exact fun _ _ _ => rfl | exact fun _ => rfl

theorem variantOf_eq_accepted {tag : Option Json} {v : Variant Block}
    (h : variantOf tag = .accepted v) :
    v = unknownVariant ∨ v ∈ knownVariants ∧ variantOf (some (.str v.tag)) = .accepted v := by
  unfold variantOf at h
  split at h
  · cases h
  · cases h
  · next kind =>
    cases hf : knownVariants.find? fun v => v.tag = kind with
    | none =>
      rw [hf] at h
      exact .inl (Outcome.accepted.inj h).symm
    | some w =>
      rw [hf] at h
      obtain rfl : w = v := Outcome.accepted.inj h
      have tagged : w.tag = kind := by simpa using List.find?_some hf
      subst tagged
      exact .inr ⟨List.mem_of_find?_eq_some hf, by simp only [variantOf, hf, Option.getD_some]⟩
  · exact .inl (Outcome.accepted.inj h).symm

theorem read_obj {m : Members} {b : Block} : Block.codec.read (.obj m) = .accepted b ↔
    ∃ v, variantOf (Members.get? m "type") = .accepted v ∧ v.read m = .accepted b := by
  simp [codec, read]

/-- **A block is read again, whether its kind is known or not.** -/
theorem restores : Block.codec.Restores withoutNulls := by
  intro j b hr
  cases j with
  | obj m =>
    obtain ⟨v, hv, hb⟩ := read_obj.mp hr
    refine read_obj.mpr ⟨v, ?_⟩
    rcases variantOf_eq_accepted hv with rfl | ⟨known, tagged⟩
    · obtain ⟨u, hu, rfl⟩ := Outcome.map_eq_accepted.mp hb
      have typed : Members.get? (unknown u).dumpMembers "type" = some (.str u.kind) :=
        List.lookup_cons_self
      rw [typed, ← (UnknownBlock.read_eq_accepted.mp hu).2.1]
      exact ⟨hv, congrArg (Outcome.map unknown) (UnknownBlock.read_dump hu)⟩
    · obtain ⟨typed, again⟩ := known_restores v known m b hb
      exact ⟨typed ▸ tagged, again⟩
  | _ => cases hr

theorem toPlaced_eq_accepted {b : Block} {placed : PlacedBlock} :
    b.toPlaced = .accepted placed ↔ b = placed.val := by
  obtain ⟨c, tagged⟩ := placed
  unfold toPlaced
  split
  · simp
  · next impostor =>
    simp only [Outcome.fault, Outcome.under, reduceCtorEq, false_iff]
    rintro rfl
    exact impostor tagged

end Block

theorem PlacedBlock.read_eq_accepted {j : Json} {placed : PlacedBlock} :
    PlacedBlock.codec.read j = .accepted placed ↔ Block.codec.read j = .accepted placed.val := by
  simp [codec, Block.toPlaced_eq_accepted]

theorem PlacedBlock.restores : PlacedBlock.codec.Restores withoutNulls := fun j placed hr =>
  read_eq_accepted.mpr (Block.restores j placed.val (read_eq_accepted.mp hr))

/-! ## Elements and scenes -/

theorem Element.restores : Element.codec.Restores Element.withoutNulls :=
  ((((presents_text.map Element.mk).seq (presents_required Shape.restores)).seq
    (presents_defaulted Style.restores rfl)).seq (presents_defaulted Behavior.restores rfl)).seq
    (presents_defaulted (list_restores PlacedBlock.restores) rfl)
    |>.restoring (by decide) (fun _ => rfl) (by simp [withoutNulls]) |>.codec "SceneElement"

theorem Canvas.restores : Canvas.codec.Restores id :=
  (presents_number.map Canvas.mk).seq presents_number
    |>.restoring (by decide) (fun _ => rfl) (by simp) |>.codec "Canvas"

theorem Scene.restores : Scene.codec.Restores Scene.withoutNulls :=
  ((((presents_required Canvas.restores).map Scene.mk).seq
    (presents_optional (choice_restores (by decide)) fun _ => nofun)).seq
      presents_optionalNumber).seq
    (presents_defaulted (list_restores Element.restores) rfl) |>.seq
    (presents_optional (list_restores Effect.restores) fun _ => nofun)
    |>.restoring (by decide) (fun _ => rfl) (by simp [withoutNulls]) |>.codec "Scene"

/-! ## Drawings -/

theorem presents_optionalText {σ : Type} {key : Key} {part : σ → Option Text} :
    (Record.optional key .text part).Presents id part (Option.map id) :=
  presents_optional text_restores fun _ => nofun

theorem DrawnCircle.restores : DrawnCircle.record.Restores id :=
  (((presents_number.map DrawnCircle.mk).seq presents_number).seq presents_number).seq
    presents_optionalText
    |>.restoring (by decide) (fun _ => rfl) (by simp)

theorem DrawnRectangle.restores : DrawnRectangle.record.Restores id :=
  ((((presents_number.map DrawnRectangle.mk).seq presents_number).seq presents_number).seq
    presents_number).seq
    presents_optionalText
    |>.restoring (by decide) (fun _ => rfl) (by simp)

theorem DrawnLine.restores : DrawnLine.record.Restores id :=
  ((((presents_number.map DrawnLine.mk).seq presents_number).seq presents_number).seq
    presents_number).seq
    presents_optionalText
    |>.restoring (by decide) (fun _ => rfl) (by simp)

theorem DrawnShape.restores : DrawnShape.codec.Restores id := by
  apply union_restores
  simp only [List.forall_mem_cons]
  refine ⟨DrawnCircle.restores.variant ?_ ?_ ?_, DrawnRectangle.restores.variant ?_ ?_ ?_,
    DrawnLine.restores.variant ?_ ?_ ?_, List.forall_mem_nil _⟩
  all_goals first | decide | exact fun _ _ _ => rfl | exact fun _ => rfl

theorem Drawing.restores : Drawing.codec.Restores id :=
  ((presents_defaulted (list_restores DrawnShape.restores) rfl).map Drawing.mk).seq presents_number
    |>.seq presents_number |>.restoring (by decide) (fun _ => rfl) (by simp) |>.codec "SketchData"

/-! ## Keys of what is read -/

/-- What the codec reads from a value with each key once satisfies `p`. -/
def Codec.Ensures {α : Type} (c : Codec α) (p : α → Prop) : Prop :=
  ∀ (j : Json) (a : α), j.KeysOnce → c.read j = .accepted a → p a

theorem list_ensures {α : Type} {c : Codec α} {p : α → Prop} (h : c.Ensures p) :
    c.list.Ensures fun as => ∀ a ∈ as, p a := by
  intro j as hj hr
  obtain ⟨items, rfl, each⟩ := list_eq_accepted.mp hr
  have once := Json.keysOnce_arr.mp hj
  exact forall_of_forall₂ each fun item hi a ha => h item a (once item hi) ha

theorem mem_of_find? {m : Members} {key : Key} {used : String} {value : Json}
    (h : m.find? key = some (used, value)) : (.unicode used, value) ∈ m := by
  have member : ∀ (k : Text) v, m.get? k = some v → (k, v) ∈ m := by
    intro k v hk
    obtain ⟨before, after, rfl, _⟩ := List.lookup_eq_some_iff.mp hk
    simp
  unfold Members.find? at h
  split at h
  · next hv =>
    cases h
    exact member _ _ hv
  · obtain ⟨v, hv, he⟩ := Option.map_eq_some_iff.mp h
    cases he
    exact member _ _ hv

theorem defaulted_ensures {σ α : Type} {c : Codec α} {p : α → Prop} (h : c.Ensures p) {key : Key}
    {default : α}
    (hd : p default) {part : σ → α} {m : Members} (each : ∀ x ∈ m, x.2.KeysOnce) {a : α}
    (hr : (Record.defaulted key c default part).read m = .accepted a) : p a := by
  unfold Record.defaulted at hr
  dsimp only at hr
  split at hr
  · next hm => exact h _ a (each _ (mem_of_find? hm)) (Outcome.under_eq_accepted.mp hr)
  · exact Outcome.accepted.inj hr ▸ hd

theorem Block.ensures : Block.codec.Ensures Block.KeysOnce := by
  have known : ∀ v ∈ knownVariants, ∀ m b, v.read m = .accepted b → b.KeysOnce := by
    unfold knownVariants
    simp only [List.forall_mem_cons]
    refine ⟨?_, ?_, ?_, ?_, ?_, ?_, ?_, ?_, ?_, ?_, List.forall_mem_nil _⟩
    all_goals
      intro m b h
      obtain ⟨_, _, rfl⟩ := Outcome.map_eq_accepted.mp h
      trivial
  intro j b hj hr
  cases j with
  | obj m =>
    obtain ⟨distinct, _⟩ := Json.keysOnce_obj.mp hj
    obtain ⟨v, hv, hb⟩ := read_obj.mp hr
    rcases variantOf_eq_accepted hv with rfl | ⟨hv, _⟩
    · obtain ⟨u, hu, rfl⟩ := Outcome.map_eq_accepted.mp hb
      change Members.Distinct u.extras
      rw [(UnknownBlock.read_eq_accepted.mp hu).2.2]
      exact distinct.sublist (List.filter_sublist.map Prod.fst)
    · exact known v hv m b hb
  | _ => cases hr

theorem PlacedBlock.ensures : PlacedBlock.codec.Ensures fun placed => placed.val.KeysOnce :=
    fun j placed hj hr =>
  Block.ensures j placed.val hj (read_eq_accepted.mp hr)

theorem Element.ensures : Element.codec.Ensures fun e => ∀ b ∈ e.blocks, b.KeysOnce := by
  intro j e hj hr
  cases j with
  | obj m =>
    obtain ⟨_, each⟩ := Json.keysOnce_obj.mp hj
    obtain ⟨_, blocks, hbehavior, hb, rfl⟩ := Outcome.ap_eq_accepted.mp hr
    obtain ⟨_, _, hstyle, _, rfl⟩ := Outcome.ap_eq_accepted.mp hbehavior
    obtain ⟨_, _, hshape, _, rfl⟩ := Outcome.ap_eq_accepted.mp hstyle
    obtain ⟨_, _, hid, _, rfl⟩ := Outcome.ap_eq_accepted.mp hshape
    obtain ⟨_, _, rfl⟩ := Outcome.map_eq_accepted.mp hid
    refine List.forall_mem_map.mpr ?_
    exact defaulted_ensures (list_ensures PlacedBlock.ensures) (List.forall_mem_nil _) each hb
  | _ => cases hr

theorem Scene.ensures : Scene.codec.Ensures fun s => ∀ e ∈ s.elements, ∀ b ∈ e.blocks,
    b.KeysOnce := by
  intro j s hj hr
  cases j with
  | obj m =>
    obtain ⟨_, each⟩ := Json.keysOnce_obj.mp hj
    obtain ⟨_, _, helements, _, rfl⟩ := Outcome.ap_eq_accepted.mp hr
    obtain ⟨_, elements, hrate, he, rfl⟩ := Outcome.ap_eq_accepted.mp helements
    obtain ⟨_, _, hmode, _, rfl⟩ := Outcome.ap_eq_accepted.mp hrate
    obtain ⟨_, _, hcanvas, _, rfl⟩ := Outcome.ap_eq_accepted.mp hmode
    obtain ⟨_, _, rfl⟩ := Outcome.map_eq_accepted.mp hcanvas
    exact defaulted_ensures (list_ensures Element.ensures) (List.forall_mem_nil _) each he
  | _ => cases hr

/-! ## Models -/

/-- What a document can be read as. One variant of a union, such as a color of one mode, is read
only as a value of its union: `union_restores` takes each of them by its tag. -/
inductive Model
  | color
  | style
  | shape
  | motion
  | behavior
  | block
  | element
  | canvas
  | scene
  | filter
  | effect
  | drawnShape
  | drawing

namespace Model

abbrev Value : Model → Type
  | color => Color
  | style => Style
  | shape => Shape
  | motion => Motion
  | behavior => Behavior
  | block => Block
  | element => Element
  | canvas => Canvas
  | scene => Scene
  | filter => Filter
  | effect => Effect
  | drawnShape => DrawnShape
  | drawing => Drawing

def codec : (model : Model) → Codec model.Value
  | color => Color.codec
  | style => Style.codec
  | shape => Shape.codec
  | motion => Motion.codec
  | behavior => Behavior.codec
  | block => Block.codec
  | element => Element.codec
  | canvas => Canvas.codec
  | scene => Scene.codec
  | filter => Filter.codec
  | effect => Effect.codec
  | drawnShape => DrawnShape.codec
  | drawing => Drawing.codec

def withoutNulls : (model : Model) → model.Value → model.Value
  | block => Block.withoutNulls
  | element => Element.withoutNulls
  | scene => Scene.withoutNulls
  | _ => id

theorem restores (model : Model) : model.codec.Restores model.withoutNulls := by
  cases model with
  | color => exact Color.restores
  | style => exact Style.restores
  | shape => exact Shape.restores
  | motion => exact Motion.restores
  | behavior => exact Behavior.restores
  | block => exact Block.restores
  | element => exact Element.restores
  | canvas => exact Canvas.restores
  | scene => exact Scene.restores
  | filter => exact Filter.restores
  | effect => exact Effect.restores
  | drawnShape => exact DrawnShape.restores
  | drawing => exact Drawing.restores

theorem dump_withoutNulls (model : Model) (a : model.Value) :
    model.codec.dump (model.withoutNulls a) = model.codec.dump a := by
  cases model with
  | block => exact Block.dump_withoutNulls a
  | element => exact Element.dump_withoutNulls a
  | scene => exact Scene.dump_withoutNulls a
  | _ => rfl

end Model

/-- **What a document was read as is read again from what is written for it, without the null
members of unknown blocks; for a scene this changes neither its code nor its problems.** -/
theorem documents_restored :
    (∀ (model : Model) (j : Json) (a : model.Value), model.codec.read j = .accepted a →
        model.codec.read (model.codec.dump a) = .accepted (model.withoutNulls a) ∧
          model.codec.dump (model.withoutNulls a) = model.codec.dump a) ∧
      ∀ (j : Json) (scene : Scene), j.KeysOnce → Scene.codec.read j = .accepted scene →
        scene.withoutNulls.compile = scene.compile ∧
        scene.withoutNulls.problems = scene.problems := by
  constructor
  · intro model j a h
    exact ⟨model.restores j a h, model.dump_withoutNulls a⟩
  · intro j scene once h
    exact ⟨Scene.compile_withoutNulls (Scene.ensures j scene once h), scene.problems_withoutNulls⟩

def glowing : Json :=
  let zero : Json := .num (.finite ⟨false, 0, by decide⟩)
  .obj [("canvas", .obj [("width", zero), ("height", zero)]),
    ("elements", .arr [.obj
      [("id", .str "a"), ("type", .obj [("kind", .str "circle"), ("x", zero), ("y", zero),
      ("diameter", zero)]),
      ("blocks", .arr [.obj [("type", .str "glow"), ("axis", .null), ("color", .null),
        ("levels", .arr [.null])]])]])]

theorem documents_restored_glowing : ∃ scene : Scene, Scene.codec.read glowing = .accepted scene ∧
    Scene.codec.read (Scene.codec.dump scene) = .accepted scene.withoutNulls ∧
    scene.withoutNulls.compile = scene.compile := by
  have once : glowing.KeysOnce := by
    simp [glowing, Json.keysOnce_obj, Json.keysOnce_arr, Members.Distinct, Json.KeysOnce.null,
      Json.KeysOnce.num, Json.KeysOnce.str]
  exact ⟨_, rfl, (documents_restored.1 .scene glowing _ rfl).1,
    (documents_restored.2 glowing _ once rfl).1⟩

end SceneSketch
