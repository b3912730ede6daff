import SceneSketch.Proofs.Documents
import SceneSketch.Proofs.Readings

/-!
# What documents are read as

Numbers are read as finite doubles, stroke weights as positive ones, and a block is read as one of
unknown kind only if its kind is no known one (`Scene.read_comesTo`). The kind of a block is the one
value that is looked up before its type is checked, so a list or an object there ends the reading of
the whole document (`Scene.documents_surface`).
-/

namespace SceneSketch

open Codec Outcome Record

/-! ## Numbers -/

def AllFinite (numbers : List Double) : Prop :=
  ∀ x ∈ numbers, x.isFinite = true

@[simp]
theorem allFinite_nil : AllFinite [] := List.forall_mem_nil _

@[simp]
theorem allFinite_cons {x : Double} {xs : List Double} :
    AllFinite (x :: xs) ↔ x.isFinite = true ∧ AllFinite xs :=
  List.forall_mem_cons

@[simp]
theorem allFinite_append {xs ys : List Double} :
    AllFinite (xs ++ ys) ↔ AllFinite xs ∧ AllFinite ys :=
  List.forall_mem_append

@[simp]
theorem allFinite_toList {o : Option Double} : AllFinite o.toList ↔ ∀ x ∈ o, x.isFinite = true := by
  cases o <;> simp

@[simp]
theorem allFinite_flatMap {α : Type} {as : List α} {f : α → List Double} :
    AllFinite (as.flatMap f) ↔ ∀ a ∈ as, AllFinite (f a) :=
  List.forall_mem_flatMap

def Shape.numbers : Shape → List Double
  | circle s => [s.x, s.y, s.diameter]
  | rectangle s => [s.x, s.y, s.width, s.height]
  | line s => [s.x1, s.y1, s.x2, s.y2]
  | text s => [s.x, s.y, s.size]
  | background color => color.channels

def Motion.numbers : Motion → List Double
  | wave w => [w.speed, w.amplitude, w.offset]
  | linear speed => [speed]

def Behavior.numbers : Behavior → List Double
  | static | followMouse _ => []
  | animated a => a.motion.numbers
  | random r => [r.min, r.max]

/-- The numbers of a block of a known kind; what an unknown block holds is not looked at. -/
def Block.numbers : Block → List Double
  | oscillate b => [b.speed, b.range]
  | rotate b => [b.speed]
  | bounce b => [b.speed, b.min, b.max]
  | circlePath b => [b.radius, b.speed]
  | perlinNoise b => [b.scale, b.speed]
  | jitter b => [b.amount]
  | pulse b => [b.speed, b.minAlpha, b.maxAlpha]
  | rainbow b => [b.speed]
  | followMouse b => [b.speed]
  | clickToChange _ | unknown _ => []

def Filter.numbers : Filter → List Double
  | blur amount => [amount]
  | glow g => g.intensity :: g.color.toList.flatMap Color.channels
  | colorShift c => [c.hue, c.saturation]
  | pixelate size => [size]
  | threshold level => [level]
  | invert => []

/-! ## Parts of elements -/

section
variable {σ : Type} {key : Key}

theorem yields_number {part : σ → Double} :
    (Record.required key .number part).Yields fun x => x.isFinite = true :=
  yields_required number_yields

theorem yields_optionalNumber {part : σ → Option Double} :
    (Record.optional key .number part).Yields fun o => ∀ x ∈ o, x.isFinite = true :=
  yields_optional number_yields

theorem yields_text {part : σ → Text} : (Record.required key .text part).Yields fun _ => True :=
  yields_required text_yields

end

theorem Color.yields : Color.codec.Yields fun color => AllFinite color.channels := by
  apply union_yields
  simp only [List.forall_mem_cons]
  refine ⟨
    Yields.variant ((((yields_number.map ?_).seq yields_number).seq yields_number).seq
      yields_optionalNumber),
    Yields.variant ((((yields_number.map ?_).seq yields_number).seq yields_number).seq
      yields_optionalNumber),
    Yields.variant ((yields_number.map ?_).seq yields_optionalNumber), List.forall_mem_nil _⟩
  all_goals simp +contextual [channels, alpha]

theorem Shape.yields : Shape.codec.Yields fun shape => AllFinite shape.numbers := by
  apply union_yields
  simp only [List.forall_mem_cons]
  refine ⟨Yields.variant (((yields_number.map ?_).seq yields_number).seq yields_number),
    Yields.variant ((((yields_number.map ?_).seq yields_number).seq yields_number).seq
      yields_number),
    Yields.variant ((((yields_number.map ?_).seq yields_number).seq yields_number).seq
      yields_number),
    Yields.variant ((((yields_text.map ?_).seq yields_number).seq yields_number).seq yields_number),
    Yields.variant (yields_required Color.yields), List.forall_mem_nil _⟩
  all_goals simp +contextual [numbers]

structure Style.Sound (style : Style) : Prop where
  fill : ∀ color ∈ style.fill, AllFinite color.channels
  stroke : ∀ color ∈ style.stroke, AllFinite color.channels
  weight : ∀ w ∈ style.strokeWeight, w.isFinite = true ∧ w.isPositive = true

theorem Style.yields : Style.codec.Yields Style.Sound := by
  refine Yields.codec (((((Yields.map (yields_optional Color.yields) ?_).seq
    (yields_optional Color.yields)).seq (yields_optional positiveNumber_yields)).seq
    (yields_defaulted truth_yields trivial)).seq (yields_defaulted truth_yields trivial))
      "ElementStyle"
  exact fun fill hf stroke hs weight hw _ _ _ _ => ⟨hf, hs, hw⟩

theorem Motion.yields : Motion.codec.Yields fun motion => AllFinite motion.numbers := by
  have offset {part : Wave → Double} :
      (Record.defaulted "offset" .number 0 part).Yields fun x => x.isFinite = true :=
    yields_defaulted number_yields isFinite_zero
  apply union_yields
  simp only [List.forall_mem_cons]
  refine ⟨Yields.variant (((yields_number.map ?_).seq yields_number).seq offset),
    Yields.variant (((yields_number.map ?_).seq yields_number).seq offset),
    Yields.variant (yields_number.imp ?_), List.forall_mem_nil _⟩
  all_goals simp +contextual [numbers]

theorem Behavior.yields : Behavior.codec.Yields fun behavior => AllFinite behavior.numbers := by
  apply union_yields
  simp only [List.forall_mem_cons]
  refine ⟨Yields.variant (pure_yields ?_),
    Yields.variant (yields_defaulted (fun j => (choice_yields j).imp ?_) ?_),
    Yields.variant ((yields_text.map ?_).seq (yields_required Motion.yields)),
    Yields.variant (((yields_text.map ?_).seq yields_number).seq yields_number),
    List.forall_mem_nil _⟩
  all_goals simp +contextual [numbers]

theorem Filter.yields : Filter.codec.Yields fun filter => AllFinite filter.numbers := by
  apply union_yields
  simp only [List.forall_mem_cons]
  refine ⟨Yields.variant (yields_number.imp ?_),
    Yields.variant ((yields_number.map ?_).seq (yields_optional Color.yields)),
    Yields.variant ((yields_number.map ?_).seq yields_number),
    Yields.variant (yields_number.imp ?_),
    Yields.variant (yields_number.imp ?_), Yields.variant (pure_yields ?_), List.forall_mem_nil _⟩
  all_goals simp +contextual [numbers]

theorem Effect.yields : Effect.codec.Yields fun effect => AllFinite effect.filter.numbers := by
  refine Yields.codec (((((yields_text.map ?_).seq yields_text).seq
    (yields_defaulted text_yields trivial)).seq
    (yields_defaulted truth_yields trivial)).seq (yields_required Filter.yields)) "VisualEffect"
  exact fun _ _ _ _ _ _ _ _ filter finite => finite

theorem Canvas.yields :
    Canvas.codec.Yields fun canvas => AllFinite [canvas.width, canvas.height] := by
  refine Yields.codec ((yields_number.map ?_).seq yields_number) "Canvas"
  simp +contextual

/-! ## Blocks -/

theorem Axis.name_eq (axis : Axis) : axis.name = "x" ∨ axis.name = "y" := by
  cases axis
  · exact .inl rfl
  · exact .inr rfl

namespace Block

example : knownKinds =
    ["oscillate", "rotate", "bounce", "circlePath", "perlinNoise", "jitter", "pulse",
    "rainbow", "followMouse", "clickToChange"] := rfl

def takesAxis : Block → Bool
  | oscillate _ | bounce _ | perlinNoise _ => true
  | _ => false

structure Sound (block : Block) : Prop where
  finite : AllFinite block.numbers
  axis : block.takesAxis = true → block.axis = .str "x" ∨ block.axis = .str "y"
  kind : ∀ u, block = .unknown u → u.kind ∉ knownKinds

theorem known_yields : ∀ v ∈ knownVariants, ∀ m, (v.read m).ComesTo Sound none := by
  have axis {σ : Type} {key : Key} {part : σ → Axis} :
      (Record.required key Axis.codec part).Yields fun _ => True :=
    yields_required choice_yields
  unfold knownVariants
  simp only [List.forall_mem_cons]
  refine ⟨Yields.variant (((axis.map ?_).seq yields_number).seq yields_number),
    Yields.variant (yields_number.map ?_),
    Yields.variant ((((axis.map ?_).seq yields_number).seq yields_number).seq yields_number),
    Yields.variant ((yields_number.map ?_).seq yields_number),
    Yields.variant (((axis.map ?_).seq yields_number).seq yields_number),
    Yields.variant (yields_number.map ?_),
    Yields.variant (((yields_number.map ?_).seq yields_number).seq yields_number),
    Yields.variant (yields_number.map ?_), Yields.variant (yields_number.map ?_),
    Yields.variant ((yields_text.map ?_).seq yields_freeForm), List.forall_mem_nil _⟩
  all_goals
    intros
    constructor <;> simp [numbers, takesAxis, Block.axis, Axis.name_eq, *]

theorem unknown_comesTo {m : Members}
    (h : ∀ kind, m.get? "type" = some (.str kind) → kind ∉ knownKinds) :
    (unknownVariant.read m).ComesTo Sound none := by
  have extras : UnknownBlock.extrasRecord.Yields fun _ => True := fun _ => .accepted trivial
  have block : UnknownBlock.record.Yields fun _ => True :=
    ((yields_text.map fun _ _ _ _ => trivial).seq extras).unicodeKeys
  have kind : (UnknownBlock.record.read m).ComesTo (fun u => u.kind ∉ knownKinds) none :=
    (block m).imp fun u hu _ => h u.kind (UnknownBlock.read_eq_accepted.mp hu).2.1
  exact kind.map fun u hu => ⟨allFinite_nil, nofun, fun _ he => by cases he; exact hu⟩

theorem variant_comesTo (m : Members) :
    (variantOf (m.get? "type")).ComesTo (fun v => (v.read m).ComesTo Sound none)
      ((m.get? "type").bind Json.container?) := by
  cases tag : m.get? "type" with
  | none => exact .accepted (unknown_comesTo (by simp [tag]))
  | some value =>
    cases value with
    | arr items => exact .stopped .list
    | obj members => exact .stopped .object
    | str kind =>
      cases kind with
      | broken chars surrogate rest =>
        refine .accepted (unknown_comesTo fun named hn => ?_)
        obtain rfl : Text.broken chars surrogate rest = named := by simpa [tag] using hn
        simp [knownKinds]
      | unicode kind =>
        refine .accepted ?_
        cases found : knownVariants.find? fun v => v.tag = kind with
        | none =>
          refine unknown_comesTo fun named hn => ?_
          obtain rfl : Text.unicode kind = named := by simpa [tag] using hn
          simpa [knownKinds] using found
        | some v => exact known_yields v (List.mem_of_find?_eq_some found) m
    | _ => exact .accepted (unknown_comesTo (by simp [tag]))

/-- **Reading a block is stopped exactly by a kind that cannot be looked up.** -/
theorem read_comesTo (j : Json) :
    (Block.codec.read j).ComesTo Sound ((j.member? "type").bind Json.container?) := by
  cases j with
  | obj m => exact (variant_comesTo m).bind fun v hv => hv.under _
  | _ => exact comesTo_fault.under _

theorem Sound.isTagged {b : Block} (h : b.Sound) : b.isTagged = true := by
  cases b with
  | unknown u => simpa [Block.isTagged] using h.kind u rfl
  | _ => rfl

end Block

theorem PlacedBlock.read_comesTo (j : Json) :
    (PlacedBlock.codec.read j).ComesTo (fun placed => placed.val.Sound)
      ((j.member? "type").bind Json.container?) :=
  (Block.read_comesTo j).bind fun b sound => by
    rw [Block.toPlaced, dif_pos sound.isTagged]
    exact .accepted sound

/-! ## Elements and scenes -/

namespace Json

def blockKinds (element : Json) : List Json :=
  (element.itemsAt "blocks").filterMap (member? "type")

def allBlockKinds (scene : Json) : List Json :=
  (scene.itemsAt "elements").flatMap blockKinds

theorem findSome?_itemsAt (m : Members) (key : String) (stop : Json → Option Container) :
    ((obj m).itemsAt key).findSome? stop =
      (m.find? key).bind fun found => found.2.items.findSome? stop := by
  unfold itemsAt member? Members.find?
  cases h : m.get? key with
  | none => simp [h]
  | some value => simp [h]

end Json

structure Element.Sound (element : Element) : Prop where
  shape : AllFinite element.shape.numbers
  style : element.style.Sound
  behavior : AllFinite element.behavior.numbers
  blocks : ∀ b ∈ element.blocks, b.Sound

theorem Element.read_comesTo (j : Json) :
    (Element.codec.read j).ComesTo Element.Sound (j.blockKinds.findSome? Json.container?) := by
  cases j with
  | obj m =>
    rw [Json.blockKinds, findSome?_filterMap, Json.findSome?_itemsAt]
    -- of the fields of an element only the blocks can stop the reading
    refine ComesTo.ap (((((yields_text.map ?_).seq (yields_required Shape.yields)).seq
      (yields_defaulted Style.yields ?_)).seq (yields_defaulted Behavior.yields ?_)) m)
      (comesTo_defaulted (comesTo_list PlacedBlock.read_comesTo) (List.forall_mem_nil _) m)
    · exact fun _ _ shape hshape style hstyle behavior hbehavior blocks hblocks =>
        ⟨hshape, hstyle, hbehavior, List.forall_mem_map.mpr hblocks⟩
    · constructor <;> simp
    · exact allFinite_nil
  | _ => exact comesTo_fault

structure Scene.Sound (scene : Scene) : Prop where
  canvas : AllFinite [scene.canvas.width, scene.canvas.height]
  rate : ∀ x ∈ scene.frameRate, x.isFinite = true
  elements : ∀ e ∈ scene.elements, e.Sound
  effects : ∀ es ∈ scene.effects, ∀ e ∈ es, AllFinite e.filter.numbers

theorem Scene.read_comesTo (j : Json) :
    (Scene.codec.read j).ComesTo Scene.Sound (j.allBlockKinds.findSome? Json.container?) := by
  cases j with
  | obj m =>
    rw [Json.allBlockKinds, findSome?_flatMap, Json.findSome?_itemsAt,
      ← Option.or_none (o := Option.bind _ _)]
    refine ComesTo.ap (ComesTo.ap (((((yields_required Canvas.yields).map ?_).seq
      (yields_optional choice_yields)).seq yields_optionalNumber) m)
      (comesTo_defaulted (comesTo_list Element.read_comesTo) (List.forall_mem_nil _) m))
      (yields_optional (list_yields Effect.yields) m)
    exact fun canvas hcanvas _ _ rate hrate elements helements effects heffects =>
      ⟨hcanvas, hrate, helements, heffects⟩
  | _ => exact comesTo_fault

/-- **A document is accepted or rejected with faults exactly if no block of an element has a list or
an object for its kind; otherwise the first of these ends the reading.** -/
theorem Scene.documents_surface (document : Json) :
    (((∃ scene, Scene.codec.read document = .accepted scene) ∨
        ∃ issues, issues ≠ [] ∧ Scene.codec.read document = .rejected issues) ↔
      ∀ kind ∈ document.allBlockKinds, kind.container? = none) ∧
    ∀ c, Scene.codec.read document = .containerKey c ↔
      document.allBlockKinds.findSome? Json.container? = some c := by
  have reading := Scene.read_comesTo document
  refine ⟨?_, fun c => reading.eq_containerKey_iff⟩
  rw [reading.surfaces_iff, List.findSome?_eq_none_iff]

/-- A scene with one circle, the only block of which has an empty list for its kind. -/
def listedKind : Json :=
  .obj [("canvas", .obj [("width", .int 400), ("height", .int 400)]),
    ("elements", .arr [.obj [("id", .str "a"),
      ("type", .obj [("kind", .str "circle"), ("x", .int 0), ("y", .int 0), ("diameter", .int 10)]),
      ("blocks", .arr [.obj [("type", .arr [])]])]])]

theorem Scene.document_stops : ¬ ∀ document,
    (∃ scene, Scene.codec.read document = .accepted scene) ∨
      ∃ issues, Scene.codec.read document = .rejected issues := by
  intro surfaces
  have reading := Scene.read_comesTo listedKind
  have stopped : Scene.codec.read listedKind = .containerKey .list :=
    reading.eq_containerKey_iff.mpr rfl
  have found := surfaces listedKind
  rw [stopped] at found
  obtain ⟨scene, h⟩ | ⟨issues, h⟩ := found
  · cases h
  · cases h

end SceneSketch
