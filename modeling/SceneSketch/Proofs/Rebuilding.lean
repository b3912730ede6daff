import SceneSketch.Proofs.DistinctKeys
import SceneSketch.Proofs.Histories

/-!
# An element that is written out and read again

An update with values of a document reads an element again from its members: all of them are written
out, also those that are null, and the updates take the places of the members that they name
(`Element.rebuild_eq_read`). What is written out for an element of a document is read as the very
element that it was written for, not even the null members of a block of unknown kind are left out.
So the fields that are not named stay as they are, and an update may be carried out field by field
(`Element.rebuild_eq_update`).
-/

namespace SceneSketch

open Codec Outcome Record

/-! ## Reading a field that is there -/

section
variable {σ α β : Type} {m : Members}

def Record.Reads (r : Record σ α) (m : Members) (a : α) : Prop :=
  r.read m = .accepted a

namespace Record

theorem Reads.map {r : Record σ α} {a : α} (h : r.Reads m a) (f : α → β) :
    (f <$> r).Reads m (f a) :=
  read_map.mpr ⟨a, h, rfl⟩

theorem Reads.seq {r : Record σ (α → β)} {s : Record σ α} {f : α → β} {a : α} (hf : r.Reads m f)
    (ha : s.Reads m a) : (r <*> s).Reads m (f a) :=
  read_seq.mpr ⟨f, a, hf, ha, rfl⟩

theorem Reads.variant {r : Record β β} {b : β} (h : r.Reads m b) (tag : String) (make : β → α) :
    (r.variant tag make).read m = .accepted (make b) :=
  map_eq_accepted.mpr ⟨b, h, rfl⟩

section
variable {key : Key} {used : String} {value : Json} (found : m.find? key = some (used, value))
include found

section
variable {c : Codec α} {a : α} (h : c.read value = .accepted a)
include h

theorem reads_required {part : σ → α} : (required key c part).Reads m a := by
  simpa only [Reads, required, found, under_eq_accepted] using h

theorem reads_defaulted {default : α} {part : σ → α} :
    (defaulted key c default part).Reads m a := by
  simpa only [Reads, defaulted, found, under_eq_accepted] using h

end

theorem reads_freeForm {part : σ → Json} : (freeForm key part).Reads m value := by
  simp only [Reads, freeForm, found]

end

theorem reads_optional {key : Key} {used : String} {c : Codec α} {write : α → Json} {o : Option α}
    (found : m.find? key = some (used, .orNull write o))
    (h : ∀ a ∈ o, c.read (write a) = .accepted a)
    (written : ∀ a, write a ≠ .null) {part : σ → Option α} : (optional key c part).Reads m o := by
  cases o with
  | none =>
    have null : m.find? key = some (used, .null) := found
    simp only [Reads, optional, null]
  | some a =>
    rw [Reads, read_optional found (written a)]
    exact map_eq_accepted.mpr ⟨a, under_eq_accepted.mpr (h a rfl), rfl⟩

section
variable {key : Key} {used : String}

theorem reads_number {x : Double} (found : m.find? key = some (used, .num x))
    (finite : x.isFinite = true) {part : σ → Double} : (required key .number part).Reads m x :=
  reads_required found (readNumber_of_isFinite finite)

theorem reads_optionalNumber {o : Option Double} (found : m.find? key = some (used, .orNull .num o))
    (finite : ∀ x ∈ o, x.isFinite = true) {part : σ → Option Double} :
    (optional key .number part).Reads m o :=
  reads_optional found (fun x hx => readNumber_of_isFinite (finite x hx)) fun _ => nofun

theorem reads_text {t : Text} (found : m.find? key = some (used, .str t)) {part : σ → Text} :
    (required key .text part).Reads m t :=
  reads_required found rfl

theorem reads_axis {axis : Axis} (found : m.find? key = some (used, .str axis.name))
    {part : σ → Axis} :
    (required key Axis.codec part).Reads m axis :=
  reads_required found (by cases axis <;> rfl)

end

end Record

theorem Codec.read_union {key : String} {variants : List (Variant α)} {dump : α → Members}
    {v : Variant α} {a : α} (tagged : m.get? key = some (.str v.tag))
    (listed : (variants.find? fun w => w.tag = v.tag) = some v) (h : v.read m = .accepted a) :
    (Codec.union key variants dump).read (.obj m) = .accepted a := by
  simp only [union, tagged, listed, h, under]

theorem Codec.read_list {c : Codec α} {write : α → Json} {as : List α}
    (h : ∀ a ∈ as, c.read (write a) = .accepted a) :
    c.list.read (.arr (as.map write)) = .accepted as := by
  refine list_eq_accepted.mpr ⟨as.map write, rfl, ?_⟩
  rw [List.forall₂_map_left_iff, List.forall₂_same]
  exact h

end

/-! ## What is written out is read again -/

theorem Color.read_object {color : Color} (finite : AllFinite color.channels) :
    Color.codec.read color.object = .accepted color := by
  cases color with
  | rgb c =>
    obtain ⟨r, g, b, a⟩ : _ ∧ _ ∧ _ ∧ _ := by simpa [channels, alpha] using finite
    refine read_union rfl rfl (Reads.variant ?_ "rgb" rgb)
    exact (((reads_number rfl r).map Rgb.mk).seq (reads_number rfl g)).seq (reads_number rfl b)
      |>.seq (reads_optionalNumber rfl a)
  | hsb c =>
    obtain ⟨h, s, b, a⟩ : _ ∧ _ ∧ _ ∧ _ := by simpa [channels, alpha] using finite
    refine read_union rfl rfl (Reads.variant ?_ "hsb" hsb)
    exact (((reads_number rfl h).map Hsb.mk).seq (reads_number rfl s)).seq (reads_number rfl b)
      |>.seq (reads_optionalNumber rfl a)
  | gray c =>
    obtain ⟨level, a⟩ : _ ∧ _ := by simpa [channels, alpha] using finite
    refine read_union rfl rfl (Reads.variant ?_ "gray" gray)
    exact ((reads_number rfl level).map Gray.mk).seq (reads_optionalNumber rfl a)

theorem Shape.read_members {shape : Shape} (finite : AllFinite shape.numbers) :
    Shape.codec.read (.obj shape.members) = .accepted shape := by
  cases shape with
  | circle s =>
    obtain ⟨x, y, diameter⟩ : _ ∧ _ ∧ _ := by simpa [numbers] using finite
    refine read_union rfl rfl (Reads.variant ?_ "circle" circle)
    exact (((reads_number rfl x).map Circle.mk).seq (reads_number rfl y)).seq
      (reads_number rfl diameter)
  | rectangle s =>
    obtain ⟨x, y, width, height⟩ : _ ∧ _ ∧ _ ∧ _ := by simpa [numbers] using finite
    refine read_union rfl rfl (Reads.variant ?_ "rectangle" rectangle)
    exact (((reads_number rfl x).map Rectangle.mk).seq (reads_number rfl y)).seq
      (reads_number rfl width)
      |>.seq (reads_number rfl height)
  | line s =>
    obtain ⟨x, y, x', y'⟩ : _ ∧ _ ∧ _ ∧ _ := by simpa [numbers] using finite
    refine read_union rfl rfl (Reads.variant ?_ "line" line)
    exact (((reads_number rfl x).map Segment.mk).seq (reads_number rfl y)).seq (reads_number rfl x')
      |>.seq (reads_number rfl y')
  | text s =>
    obtain ⟨x, y, size⟩ : _ ∧ _ ∧ _ := by simpa [numbers] using finite
    refine read_union rfl rfl (Reads.variant ?_ "text" text)
    exact (((reads_text rfl).map Caption.mk).seq (reads_number rfl x)).seq (reads_number rfl y)
      |>.seq (reads_number rfl size)
  | background color =>
    refine read_union rfl rfl (Reads.variant ?_ "background" background)
    exact reads_required rfl (Color.read_object finite)

theorem Style.read_members {style : Style} (sound : style.Sound) :
    Style.codec.read (.obj style.members) = .accepted style := by
  have color {key : String} {o : Option Color} (finite : ∀ color ∈ o, AllFinite color.channels)
      (found : style.members.find? key = some (key, .orNull Color.object o))
        {part : Style → Option Color} :
      (Record.optional key Color.codec part).Reads style.members o :=
    reads_optional found (fun color hc => Color.read_object (finite color hc)) fun _ => nofun
  have weight : ∀ w ∈ style.strokeWeight, positiveNumber.read (.num w) = .accepted w := by
    intro w hw
    obtain ⟨finite, positive⟩ := sound.weight w hw
    exact bind_eq_accepted.mpr ⟨w, readNumber_of_isFinite finite, if_pos positive⟩
  exact (((color sound.fill rfl).map Style.mk).seq (color sound.stroke rfl)).seq
    (reads_optional rfl weight fun _ => nofun) |>.seq (reads_defaulted rfl rfl)
    |>.seq (reads_defaulted rfl rfl)

theorem Motion.read_members {motion : Motion} (finite : AllFinite motion.numbers) :
    Motion.codec.read (.obj motion.members) = .accepted motion := by
  cases motion with
  | wave w =>
    obtain ⟨trig, speed, amplitude, offset⟩ := w
    obtain ⟨hs, ha, ho⟩ : _ ∧ _ ∧ _ := by simpa [numbers] using finite
    have read (m : Members) (hm : m = (wave ⟨trig, speed, amplitude, offset⟩).members) :
        (Wave.record trig).Reads m ⟨trig, speed, amplitude, offset⟩ := by
      subst hm
      exact (((reads_number rfl hs).map (Wave.mk trig)).seq (reads_number rfl ha)).seq
        (reads_defaulted rfl (readNumber_of_isFinite ho))
    cases trig with
    | sin => exact read_union rfl rfl (Reads.variant (read _ rfl) "sin" wave)
    | cos => exact read_union rfl rfl (Reads.variant (read _ rfl) "cos" wave)
  | linear speed =>
    refine read_union rfl rfl (Reads.variant ?_ "linear" linear)
    exact reads_number rfl (allFinite_cons.mp finite).1

theorem Behavior.read_members {behavior : Behavior} (finite : AllFinite behavior.numbers) :
    Behavior.codec.read (.obj behavior.members) = .accepted behavior := by
  cases behavior with
  | static => rfl
  | followMouse tracking => cases tracking <;> rfl
  | animated a =>
    refine read_union rfl rfl (Reads.variant ?_ "animated" animated)
    exact ((reads_text rfl).map Animation.mk).seq (reads_required rfl (Motion.read_members finite))
  | random r =>
    obtain ⟨least, most⟩ : _ ∧ _ := by simpa [numbers] using finite
    refine read_union rfl rfl (Reads.variant ?_ "random" random)
    exact (((reads_text rfl).map RandomRange.mk).seq (reads_number rfl least)).seq
      (reads_number rfl most)

/-! ### Blocks -/

namespace Block

/-- A block of unknown kind that was read has a kind of its own, and its other members have Unicode
keys that are not the key of the kind. -/
theorem unknown_of_gives {u : UnknownBlock} (h : Block.codec.Gives (unknown u)) :
    u.kind ∉ knownKinds ∧ ∀ p ∈ u.extras, p.1.isUnicode = true ∧ p.1 ≠ "type" := by
  obtain ⟨j, hj⟩ := h
  have fresh : u.kind ∉ knownKinds := ((read_comesTo j).of_accepted hj).kind u rfl
  refine ⟨fresh, ?_⟩
  cases j with
  | obj m =>
    obtain ⟨v, hv, hb⟩ := read_obj.mp hj
    rcases variantOf_eq_accepted hv with rfl | ⟨known, -⟩
    · obtain ⟨w, hw, same⟩ := map_eq_accepted.mp hb
      cases same
      obtain ⟨unicode, _, extras⟩ := UnknownBlock.read_eq_accepted.mp hw
      intro p hp
      rw [extras] at hp
      obtain ⟨member, other⟩ := List.mem_filter.mp hp
      exact ⟨unicode p member, of_decide_eq_true other⟩
    · -- a known variant writes its own kind
      obtain ⟨tagged, -⟩ := known_restores v known m _ hb
      have kind : u.kind = v.tag := by
        have written : Members.get? (unknown u).dumpMembers "type" = some (.str u.kind) :=
          List.lookup_cons_self
        rw [written] at tagged
        exact Json.str.inj (Option.some.inj tagged)
      exact absurd (kind ▸ List.mem_map_of_mem known) fresh
  | _ => cases hj

theorem variantOf_unknown {kind : Text} (h : kind ∉ knownKinds) :
    variantOf (some (.str kind)) = .accepted unknownVariant := by
  cases kind with
  | broken => rfl
  | unicode kind =>
    have missing : (knownVariants.find? fun v => v.tag = kind) = none := by
      refine List.find?_eq_none.mpr fun v hv same => h ?_
      rw [← of_decide_eq_true same]
      exact List.mem_map_of_mem hv
    rw [variantOf, missing]
    rfl

theorem read_known {m : Members} {v : Variant Block} {b : Block} {kind : String}
    (tagged : m.get? "type" = some (.str kind))
    (listed : (knownVariants.find? fun v => v.tag = kind) = some v) (h : v.read m = .accepted b) :
    Block.codec.read (.obj m) = .accepted b := by
  refine read_obj.mpr ⟨v, ?_, h⟩
  rw [tagged, variantOf, listed]
  rfl

theorem read_object {b : Block} (h : Block.codec.Gives b) :
    Block.codec.read b.object = .accepted b := by
  have finite : AllFinite b.numbers := by
    obtain ⟨j, hj⟩ := h
    exact ((read_comesTo j).of_accepted hj).finite
  cases b with
  | oscillate b =>
    obtain ⟨speed, range⟩ : _ ∧ _ := by simpa [numbers] using finite
    refine read_known rfl rfl (Reads.variant ?_ "oscillate" oscillate)
    exact (((reads_axis rfl).map Oscillation.mk).seq (reads_number rfl speed)).seq
      (reads_number rfl range)
  | rotate b =>
    refine read_known rfl rfl (Reads.variant ?_ "rotate" rotate)
    exact (reads_number rfl (allFinite_cons.mp finite).1).map Rotation.mk
  | bounce b =>
    obtain ⟨speed, least, most⟩ : _ ∧ _ ∧ _ := by simpa [numbers] using finite
    refine read_known rfl rfl (Reads.variant ?_ "bounce" bounce)
    exact (((reads_axis rfl).map Bounce.mk).seq (reads_number rfl speed)).seq
      (reads_number rfl least)
      |>.seq (reads_number rfl most)
  | circlePath b =>
    obtain ⟨radius, speed⟩ : _ ∧ _ := by simpa [numbers] using finite
    refine read_known rfl rfl (Reads.variant ?_ "circlePath" circlePath)
    exact ((reads_number rfl radius).map CirclePath.mk).seq (reads_number rfl speed)
  | perlinNoise b =>
    obtain ⟨scale, speed⟩ : _ ∧ _ := by simpa [numbers] using finite
    refine read_known rfl rfl (Reads.variant ?_ "perlinNoise" perlinNoise)
    exact (((reads_axis rfl).map PerlinNoise.mk).seq (reads_number rfl scale)).seq
      (reads_number rfl speed)
  | jitter b =>
    refine read_known rfl rfl (Reads.variant ?_ "jitter" jitter)
    exact (reads_number rfl (allFinite_cons.mp finite).1).map Jitter.mk
  | pulse b =>
    obtain ⟨speed, least, most⟩ : _ ∧ _ ∧ _ := by simpa [numbers] using finite
    refine read_known rfl rfl (Reads.variant ?_ "pulse" pulse)
    exact (((reads_number rfl speed).map Pulse.mk).seq (reads_number rfl least)).seq
      (reads_number rfl most)
  | rainbow b =>
    refine read_known rfl rfl (Reads.variant ?_ "rainbow" rainbow)
    exact (reads_number rfl (allFinite_cons.mp finite).1).map Rainbow.mk
  | followMouse b =>
    refine read_known rfl rfl (Reads.variant ?_ "followMouse" followMouse)
    exact (reads_number rfl (allFinite_cons.mp finite).1).map Pursuit.mk
  | clickToChange b =>
    refine read_known rfl rfl (Reads.variant ?_ "clickToChange" clickToChange)
    exact ((reads_text rfl).map ClickChange.mk).seq (reads_freeForm rfl)
  | unknown u =>
    obtain ⟨fresh, extras⟩ := unknown_of_gives h
    refine read_obj.mpr ⟨unknownVariant, variantOf_unknown fresh,
      Reads.variant ?_ "unknown" unknown⟩
    refine UnknownBlock.read_eq_accepted.mpr ⟨?_, rfl, ?_⟩
    · exact List.forall_mem_cons.mpr ⟨rfl, fun p hp => (extras p hp).1⟩
    · -- only the kind is left out
      have kept : u.extras.filter (fun p => p.1 ≠ .unicode "type") = u.extras :=
        List.filter_eq_self.mpr fun p hp => decide_eq_true (extras p hp).2
      exact kept.symm

end Block

/-! ## Updates of members -/

namespace Members

theorem get?_cons (k : Text) (value : Json) (m : Members) (key : Text) :
    get? ((k, value) :: m) key = if key = k then some value else m.get? key := by
  by_cases h : key = k
  · simp [get?, h]
  · simp [get?, List.lookup_cons, beq_false_of_ne h, h]

theorem get?_set (m : Members) (key : Text) (value : Json) (k : Text) :
    (m.set key value).get? k = if k = key then some value else m.get? k := by
  induction m with
  | nil => exact get?_cons key value [] k
  | cons first m ih =>
    obtain ⟨l, w⟩ := first
    by_cases own : l = key
    · subst own
      rw [set, if_pos rfl, get?_cons, get?_cons]
      by_cases hk : k = l <;> simp [hk]
    · rw [set, if_neg own, get?_cons, get?_cons, ih]
      by_cases hk : k = l
      · simp [hk, own]
      · simp [hk]

/-- A member that is updated keeps its place; new ones come at the end. -/
def updated (m updates : Members) : Members :=
  updates.foldl (fun m p => m.set p.1 p.2) m

/-- **After updates a key has what the updates say, or what it had.** -/
theorem get?_updated {updates : Members} (once : updates.Distinct) (m : Members) (key : Text) :
    (m.updated updates).get? key = (updates.get? key).or (m.get? key) := by
  induction updates generalizing m with
  | nil => rfl
  | cons first updates ih =>
    obtain ⟨k, value⟩ := first
    obtain ⟨new, once⟩ := List.nodup_cons.mp once
    change ((m.set k value).updated updates).get? key = _
    rw [ih once, get?_set, get?_cons]
    by_cases own : key = k
    · have behind : get? updates k = none :=
        get?_of_foreign fun p hp same => new (List.mem_map.mpr ⟨p, hp, same⟩)
      simp [own, behind]
    · simp [own]

end Members

/-! ## Rebuilding -/

namespace Element

/-- **An update with values of a document reads the members of an element with these values in their
places.** -/
theorem rebuild_eq_read (e : Element) {updates : Members} (once : updates.Distinct) :
    e.rebuild updates = Element.codec.read (.obj (e.members.updated updates)) := by
  have found (key : String) {j : Json} (h : e.members.get? key = some j) :
      (e.members.updated updates).find? key = some (key, (updates.get? key).getD j) := by
    rw [Members.find?, Members.get?_updated once, h]
    cases updates.get? key <;> rfl
  have given {α : Type} (c : Codec α) (key : Text) (j : Json) :
      (((updates.get? key).map Given.document).getD (.document j)).read c =
        c.read ((updates.get? key).getD j) := by
    cases updates.get? key <;> rfl
  have blocks (key : Text) (j : Json) :
      (((updates.get? key).map Given.document).getD (.document j)).readBlocks =
        (Codec.list PlacedBlock.codec).read ((updates.get? key).getD j) := by
    cases updates.get? key <;> rfl
  simp only [rebuild, Updates.ofMembers, given, blocks]
  simp only [Element.codec, Record.codec, record, Functor.map, Record.map, Seq.seq, Record.ap,
    Record.required, Record.defaulted, found "id" rfl, found "type" rfl, found "style" rfl,
    found "behavior" rfl, found "blocks" rfl]

theorem gives_blocks {e : Element} (h : Element.codec.Gives e) :
    ∀ placed ∈ e.placed, Block.codec.Gives placed.val := by
  obtain ⟨j, hj⟩ := h
  have block (j : Json) :
    (PlacedBlock.codec.read j).ComesTo (fun placed => Block.codec.Gives placed.val)
      ((j.member? "type").bind Json.container?) :=
    (PlacedBlock.read_comesTo j).imp fun _ hb _ => ⟨j, PlacedBlock.read_eq_accepted.mp hb⟩
  cases j with
  | obj m =>
    obtain ⟨_, _, _, _, hblocks⟩ := Element.read_eq_accepted.mp hj
    exact (comesTo_defaulted (comesTo_list block) (List.forall_mem_nil _) m).of_accepted hblocks
  | _ => cases hj

theorem read_blocks {e : Element} (h : Element.codec.Gives e) :
    (Codec.list PlacedBlock.codec).read (.arr (e.blocks.map Block.object)) =
      .accepted e.placed := by
  have each : ∀ placed ∈ e.placed, PlacedBlock.codec.read placed.val.object = .accepted placed :=
    fun placed hb => PlacedBlock.read_eq_accepted.mpr (Block.read_object (gives_blocks h placed hb))
  rw [blocks, List.map_map]
  exact read_list each

end Element

/-! ## Updates field by field -/

def updatedField {α : Type} (updates : Members) (key : String) (c : Codec α) (current : α) :
    Outcome α :=
  match updates.get? key with
  | some value => (c.read value).under (.key key)
  | none => .accepted current

/-- An element with new values for the fields that are named. -/
def Element.update (updates : Members) (element : Element) : Outcome Element :=
  Element.mk <$> updatedField updates "id" .text element.id
    <*> updatedField updates "type" Shape.codec element.shape
    <*> updatedField updates "style" Style.codec element.style
    <*> updatedField updates "behavior" Behavior.codec element.behavior
    <*> updatedField updates "blocks" (.list PlacedBlock.codec) element.placed

def Scene.update (scene : Scene) (id : Text) (updates : Members) : Outcome Scene :=
  (changeElements id (·.update updates) scene.elements).map fun elements => { scene with elements }

section
variable {α : Type} {updates : Members} {key : String} {j : Json}

theorem read_given {c : Codec α} {a : α} (h : c.read j = .accepted a) :
    ((((updates.get? key).map Given.document).getD (.document j)).read c).under (.key key) =
      updatedField updates key c a := by
  unfold updatedField
  cases updates.get? key with
  | some value => rfl
  | none => exact under_eq_accepted.mpr h

theorem readBlocks_given {placed : List PlacedBlock}
    (h : (Codec.list PlacedBlock.codec).read j = .accepted placed) :
    (((updates.get? key).map Given.document).getD (.document j)).readBlocks.under (.key key) =
      updatedField updates key (.list PlacedBlock.codec) placed := by
  unfold updatedField
  cases updates.get? key with
  | some value => rfl
  | none => exact under_eq_accepted.mpr h

end

/-- **An element of a document may be updated field by field.** -/
theorem Element.rebuild_eq_update {e : Element} (h : Element.codec.Gives e) (updates : Members) :
    e.rebuild updates = e.update updates := by
  have sound : e.Sound := by
    obtain ⟨j, hj⟩ := h
    exact (read_comesTo j).of_accepted hj
  have id : (Codec.text.read ((updates.get? "id").getD (.str e.id))).under (.key "id") =
      updatedField updates "id" .text e.id := by
    unfold updatedField
    cases updates.get? "id" <;> rfl
  simp only [rebuild, Updates.ofMembers, update, id, read_given (Shape.read_members sound.shape),
    read_given (Style.read_members sound.style), read_given (Behavior.read_members sound.behavior),
    readBlocks_given (read_blocks h)]

namespace Scene

theorem changeElements_congr {id : Text} {f g : Element → Outcome Element} {es : List Element}
    (h : ∀ e ∈ es, f e = g e) : changeElements id f es = changeElements id g es := by
  induction es with
  | nil => rfl
  | cons e es ih =>
    obtain ⟨he, hes⟩ := List.forall_mem_cons.mp h
    rw [changeElements, changeElements, he, ih hes]

/-- **The elements of a scene of a document may be updated field by field.** -/
theorem rebuild_eq_update {scene : Scene} (h : Scene.codec.Gives scene) (id : Text)
    (updates : Members) :
    scene.rebuild id updates = scene.update id updates := by
  have each : ∀ e ∈ scene.elements, e.rebuild updates = e.update updates := fun e he =>
    Element.rebuild_eq_update (gives_elements h e he) updates
  rw [rebuild, update, changeElements_congr each]

end Scene

end SceneSketch
