import SceneSketch.Proofs.Spellings

/-!
# Documents whose fields are spelled in two ways

The fields of every model, with the models that their values are. An unknown block and the value of
a click have no fields: their keys belong to the value.
-/

namespace SceneSketch

open Codec Record

/-! ## Plain fields -/

section
variable {σ α : Type} {key : Key} {c : Codec α}

theorem ignores_plain {part : σ → α} : (required key c part).Ignores [] :=
  ignores_required ignores_fixed

theorem ignores_plainDefaulted {default : α} {part : σ → α} :
    (defaulted key c default part).Ignores [] :=
  ignores_defaulted ignores_fixed

theorem ignores_plainOptional {part : σ → Option α} : (optional key c part).Ignores [] :=
  ignores_optional ignores_fixed

end

/-! ## Colors and shapes -/

def Color.spelling : Spelling :=
  .union "mode" [("rgb", Rgb.record.tagged "mode" []), ("hsb", Hsb.record.tagged "mode" []),
    ("gray", Gray.record.tagged "mode" [])]

theorem Color.ignores : Color.codec.Ignores Color.spelling := by
  have rgb : Rgb.record.Ignores [] :=
    (((ignores_plain.map Rgb.mk).seq ignores_plain).seq ignores_plain).seq ignores_plainOptional
  have hsb : Hsb.record.Ignores [] :=
    (((ignores_plain.map Hsb.mk).seq ignores_plain).seq ignores_plain).seq ignores_plainOptional
  have gray : Gray.record.Ignores [] := (ignores_plain.map Gray.mk).seq ignores_plainOptional
  exact union_ignores (.cons rgb (.cons hsb (.cons gray .nil)))

def Shape.spelling : Spelling :=
  .union "kind" [("circle", Circle.record.tagged "kind" []),
    ("rectangle", Rectangle.record.tagged "kind" []),
    ("line", Segment.record.tagged "kind" []), ("text", Caption.record.tagged "kind" []),
    ("background", Color.backgroundRecord.tagged "kind" [("color", Color.spelling)])]

theorem Shape.ignores : Shape.codec.Ignores Shape.spelling := by
  have circle : Circle.record.Ignores [] :=
    ((ignores_plain.map Circle.mk).seq ignores_plain).seq ignores_plain
  have rectangle : Rectangle.record.Ignores [] :=
    (((ignores_plain.map Rectangle.mk).seq ignores_plain).seq ignores_plain).seq ignores_plain
  have line : Segment.record.Ignores [] :=
    (((ignores_plain.map Segment.mk).seq ignores_plain).seq ignores_plain).seq ignores_plain
  have text : Caption.record.Ignores [] :=
    (((ignores_plain.map Caption.mk).seq ignores_plain).seq ignores_plain).seq ignores_plain
  have background : Color.backgroundRecord.Ignores [("color", Color.spelling)] :=
    ignores_required Color.ignores
  exact union_ignores (.cons circle
    (.cons rectangle (.cons line (.cons text (.cons background .nil)))))

def Style.spelling : Spelling :=
  .object (Style.record.fields [("fill", Color.spelling), ("stroke", Color.spelling)])

theorem Style.ignores : Style.codec.Ignores Style.spelling :=
  Ignores.codec (.seq (.seq (.seq (.seq (.map (ignores_optional Color.ignores) _)
    (ignores_optional Color.ignores)) (ignores_optional ignores_fixed))
      (ignores_defaulted ignores_fixed))
    (ignores_defaulted ignores_fixed)) "ElementStyle"

/-! ## Behaviors and effects -/

def Motion.spelling : Spelling :=
  .union "type" [("sin", (Wave.record .sin).tagged "type" []),
    ("cos", (Wave.record .cos).tagged "type" []),
    ("linear", Motion.linearRecord.tagged "type" [])]

theorem Motion.ignores : Motion.codec.Ignores Motion.spelling := by
  have wave (trig : Trig) : (Wave.record trig).Ignores [] :=
    ((ignores_plain.map (Wave.mk trig)).seq ignores_plain).seq ignores_plainDefaulted
  have linear : Motion.linearRecord.Ignores [] := ignores_plain
  exact union_ignores (.cons (wave .sin) (.cons (wave .cos) (.cons linear .nil)))

def Behavior.spelling : Spelling :=
  .union "kind" [("static",
    (Record.pure Behavior.static : Record Behavior Behavior).tagged "kind" []),
    ("followMouse", Tracking.record.tagged "kind" []),
    ("animated", Animation.record.tagged "kind" [("function", Motion.spelling)]),
    ("random", RandomRange.record.tagged "kind" [])]

theorem Behavior.ignores : Behavior.codec.Ignores Behavior.spelling := by
  have tracking : Tracking.record.Ignores [] := ignores_plainDefaulted
  have animation : Animation.record.Ignores [("function", Motion.spelling)] :=
    .seq (.map (ignores_required ignores_fixed) _) (ignores_required Motion.ignores)
  have random : RandomRange.record.Ignores [] :=
    ((ignores_plain.map RandomRange.mk).seq ignores_plain).seq ignores_plain
  exact union_ignores (.cons pure_ignores (.cons tracking (.cons animation (.cons random .nil))))

def Filter.spelling : Spelling :=
  .union "type" [("blur", (Filter.numberRecord "amount").tagged "type" []),
    ("glow", Glow.record.tagged "type" [("color", Color.spelling)]),
    ("colorShift", ColorShift.record.tagged "type" []),
    ("pixelate", (Filter.numberRecord "size").tagged "type" []),
    ("threshold", (Filter.numberRecord "level").tagged "type" []),
    ("invert", (Record.pure Filter.invert : Record Filter Filter).tagged "type" [])]

theorem Filter.ignores : Filter.codec.Ignores Filter.spelling := by
  have number (key : String) : (Filter.numberRecord key).Ignores [] := ignores_plain
  have glow : Glow.record.Ignores [("color", Color.spelling)] :=
    .seq (.map (ignores_required ignores_fixed) _) (ignores_optional Color.ignores)
  have shift : ColorShift.record.Ignores [] := (ignores_plain.map ColorShift.mk).seq ignores_plain
  exact union_ignores (.cons (number _) (.cons glow (.cons shift (.cons (number _) (.cons (number _)
    (.cons pure_ignores .nil))))))

def Effect.spelling : Spelling :=
  .object (Effect.record.fields [("parameters", Filter.spelling)])

theorem Effect.ignores : Effect.codec.Ignores Effect.spelling :=
  Ignores.codec (.seq (.seq (.seq (.seq (.map (ignores_required ignores_fixed) _)
    (ignores_required ignores_fixed)) (ignores_defaulted ignores_fixed))
      (ignores_defaulted ignores_fixed))
    (ignores_required Filter.ignores)) "VisualEffect"

/-! ## Blocks -/

namespace Block

/-- The fields of the blocks of known kinds. All members of another block are kept as they are. -/
def knownFields : List (String × Fields) :=
  [("oscillate", Oscillation.record.tagged "type" []), ("rotate", Rotation.record.tagged "type" []),
    ("bounce", Bounce.record.tagged "type" []), ("circlePath", CirclePath.record.tagged "type" []),
    ("perlinNoise", PerlinNoise.record.tagged "type" []),
    ("jitter", Jitter.record.tagged "type" []),
    ("pulse", Pulse.record.tagged "type" []), ("rainbow", Rainbow.record.tagged "type" []),
    ("followMouse", Pursuit.record.tagged "type" []),
    ("clickToChange", ClickChange.record.tagged "type" [])]

def spelling : Spelling :=
  .union "type" knownFields

theorem matched_known : Matched "type" knownVariants knownFields := by
  have oscillation : Oscillation.record.Ignores [] :=
    ((ignores_plain.map Oscillation.mk).seq ignores_plain).seq ignores_plain
  have rotation : Rotation.record.Ignores [] := ignores_plain.map Rotation.mk
  have bounce : Bounce.record.Ignores [] :=
    (((ignores_plain.map Bounce.mk).seq ignores_plain).seq ignores_plain).seq ignores_plain
  have path : CirclePath.record.Ignores [] := (ignores_plain.map CirclePath.mk).seq ignores_plain
  have noise : PerlinNoise.record.Ignores [] :=
    ((ignores_plain.map PerlinNoise.mk).seq ignores_plain).seq ignores_plain
  have jitter : Jitter.record.Ignores [] := ignores_plain.map Jitter.mk
  have pulse : Pulse.record.Ignores [] :=
    ((ignores_plain.map Pulse.mk).seq ignores_plain).seq ignores_plain
  have rainbow : Rainbow.record.Ignores [] := ignores_plain.map Rainbow.mk
  have pursuit : Pursuit.record.Ignores [] := ignores_plain.map Pursuit.mk
  have click : ClickChange.record.Ignores [] :=
    (ignores_plain.map ClickChange.mk).seq (ignores_freeForm rfl)
  exact .cons oscillation
    (.cons rotation (.cons bounce (.cons path (.cons noise (.cons jitter (.cons pulse
    (.cons rainbow (.cons pursuit (.cons click .nil)))))))))

theorem ignores : Block.codec.Ignores Block.spelling := by
  intro j j' once unmixed respelled a
  rcases matched_known.respelled once unmixed respelled with
    rfl | ⟨m, m', tag, v, rfl, rfl, tagged, tagged', found, same⟩
  · exact Iff.rfl
  · have known : variantOf (some (.str tag)) = .accepted v := by
      simp only [variantOf, found, Option.getD_some]
    simp only [read_obj, tagged, tagged', known, Outcome.accepted.injEq, exists_eq_left', same]

end Block

theorem PlacedBlock.ignores : PlacedBlock.codec.Ignores Block.spelling := by
  intro j j' once unmixed respelled placed
  rw [read_eq_accepted, read_eq_accepted, Block.ignores j j' once unmixed respelled]

/-! ## Elements and scenes -/

def Element.spelling : Spelling :=
  .object (Element.record.fields [("type", Shape.spelling), ("style", Style.spelling),
    ("behavior", Behavior.spelling), ("blocks", .list Block.spelling)])

theorem Element.ignores : Element.codec.Ignores Element.spelling :=
  Ignores.codec (.seq (.seq (.seq (.seq (.map (ignores_required ignores_fixed) _)
    (ignores_required Shape.ignores)) (ignores_defaulted Style.ignores))
      (ignores_defaulted Behavior.ignores))
    (ignores_defaulted (list_ignores PlacedBlock.ignores))) "SceneElement"

def Canvas.spelling : Spelling :=
  .object (Canvas.record.fields [])

theorem Canvas.ignores : Canvas.codec.Ignores Canvas.spelling :=
  Ignores.codec (.seq (.map ignores_plain _) ignores_plain) "Canvas"

def Scene.spelling : Spelling :=
  .object (Scene.record.fields [("canvas", Canvas.spelling), ("elements", .list Element.spelling),
    ("effects", .list Effect.spelling)])

theorem Scene.ignores : Scene.codec.Ignores Scene.spelling :=
  Ignores.codec (.seq (.seq (.seq (.seq (.map (ignores_required Canvas.ignores) _)
    (ignores_optional ignores_fixed)) (ignores_optional ignores_fixed))
    (ignores_defaulted (list_ignores Element.ignores)))
      (ignores_optional (list_ignores Effect.ignores))) "Scene"

/-! ## Drawings -/

def DrawnShape.spelling : Spelling :=
  .union "type" [("circle", DrawnCircle.record.tagged "type" []),
    ("rectangle", DrawnRectangle.record.tagged "type" []),
    ("line", DrawnLine.record.tagged "type" [])]

theorem DrawnShape.ignores : DrawnShape.codec.Ignores DrawnShape.spelling := by
  have circle : DrawnCircle.record.Ignores [] :=
    (((ignores_plain.map DrawnCircle.mk).seq ignores_plain).seq ignores_plain).seq
      ignores_plainOptional
  have rectangle : DrawnRectangle.record.Ignores [] :=
    ((((ignores_plain.map DrawnRectangle.mk).seq ignores_plain).seq ignores_plain).seq
      ignores_plain).seq
      ignores_plainOptional
  have line : DrawnLine.record.Ignores [] :=
    ((((ignores_plain.map DrawnLine.mk).seq ignores_plain).seq ignores_plain).seq ignores_plain).seq
      ignores_plainOptional
  exact union_ignores (.cons circle (.cons rectangle (.cons line .nil)))

def Drawing.spelling : Spelling :=
  .object (Drawing.record.fields [("shapes", .list DrawnShape.spelling)])

theorem Drawing.ignores : Drawing.codec.Ignores Drawing.spelling :=
  Ignores.codec (.seq (.seq (.map (ignores_defaulted (list_ignores DrawnShape.ignores)) _)
    (ignores_required ignores_fixed)) (ignores_required ignores_fixed)) "SketchData"

/-! ## Models -/

namespace Model

def spelling : Model → Spelling
  | color => Color.spelling
  | style => Style.spelling
  | shape => Shape.spelling
  | motion => Motion.spelling
  | behavior => Behavior.spelling
  | block => Block.spelling
  | element => Element.spelling
  | canvas => Canvas.spelling
  | scene => Scene.spelling
  | filter => Filter.spelling
  | effect => Effect.spelling
  | drawnShape => DrawnShape.spelling
  | drawing => Drawing.spelling

theorem ignores (model : Model) : model.codec.Ignores model.spelling := by
  cases model with
  | color => exact Color.ignores
  | style => exact Style.ignores
  | shape => exact Shape.ignores
  | motion => exact Motion.ignores
  | behavior => exact Behavior.ignores
  | block => exact Block.ignores
  | element => exact Element.ignores
  | canvas => exact Canvas.ignores
  | scene => exact Scene.ignores
  | filter => exact Filter.ignores
  | effect => exact Effect.ignores
  | drawnShape => exact DrawnShape.ignores
  | drawing => exact Drawing.ignores

end Model

/-- **A document that spells no field in both ways is read as the same value when any of its fields
are spelled in the other way.** -/
theorem documents_respelled (model : Model) {j j' : Json} (once : j.KeysOnce)
    (unmixed : model.spelling.unmixed j = true) (respelled : model.spelling.Respelled j j')
    (a : model.Value) :
    model.codec.read j = .accepted a ↔ model.codec.read j' = .accepted a :=
  model.ignores j j' once unmixed respelled a

def spelledScene (mode weight least greatest : String) : Json :=
  let one : Json := .num (.finite ⟨false, 1, by decide⟩)
  .obj [("canvas", .obj [("width", one), ("height", one)]), (mode, .str "HSB"),
    ("elements", .arr [.obj [("id", .str "a"),
      ("type", .obj [("kind", .str "circle"), ("x", one), ("y", one), ("diameter", one)]),
      ("style", .obj [(weight, one)]),
      ("blocks", .arr [.obj [("type", .str "pulse"), ("speed", one), (least, one), (greatest, one)],
        .obj [("type", .str "glow"), ("min_alpha", one), ("maxAlpha", .null)]])]])]

theorem respelled_spelledScene {mode weight least greatest mode' weight' least' greatest' : String}
    (hm : (Key.mk "colorMode" "color_mode").Spells mode ∧
      (Key.mk "colorMode" "color_mode").Spells mode')
    (hw : (Key.mk "strokeWeight" "stroke_weight").Spells weight ∧
      (Key.mk "strokeWeight" "stroke_weight").Spells weight')
    (hl : (Key.mk "minAlpha" "min_alpha").Spells least ∧
      (Key.mk "minAlpha" "min_alpha").Spells least')
    (hg : (Key.mk "maxAlpha" "max_alpha").Spells greatest ∧
      (Key.mk "maxAlpha" "max_alpha").Spells greatest') :
    Scene.spelling.Respelled (spelledScene mode weight least greatest)
      (spelledScene mode' weight' least' greatest') := by
  have style (j : Json) : Style.spelling.Respelled (.obj [(weight, j)]) (.obj [(weight', j)]) :=
    .inr ⟨_, _, rfl, rfl, .cons (.inr ⟨_, List.mem_map_of_mem (by decide), hw.1, hw.2, rfl⟩) .nil⟩
  have pulse (j : Json) : Block.spelling.Respelled
      (.obj [("type", .str "pulse"), ("speed", j), (least, j), (greatest, j)])
      (.obj [("type", .str "pulse"), ("speed", j), (least', j), (greatest', j)]) :=
    .inr ⟨_, _, "pulse", rfl, rfl, rfl, _, rfl, .cons (.inl rfl) (.cons (.inl rfl)
      (.cons (.inr ⟨_, .tail _ (List.mem_map_of_mem (by decide)), hl.1, hl.2, rfl⟩)
        (.cons (.inr ⟨_, .tail _ (List.mem_map_of_mem (by decide)), hg.1, hg.2, rfl⟩) .nil)))⟩
  have blocks {j j' k : Json} (h : Block.spelling.Respelled j j') :
      (Spelling.list Block.spelling).Respelled (.arr [j, k]) (.arr [j', k]) :=
    .inr ⟨_, _, rfl, rfl, .cons h (.cons (Block.spelling.refl k) .nil)⟩
  have element {id shape s s' b b' : Json} (hs : Style.spelling.Respelled s s')
      (hb : (Spelling.list Block.spelling).Respelled b b') : Element.spelling.Respelled
        (.obj [("id", id), ("type", shape), ("style", s), ("blocks", b)])
        (.obj [("id", id), ("type", shape), ("style", s'), ("blocks", b')]) :=
    .inr ⟨_, _, rfl, rfl, .cons (.inl rfl) (.cons (.inl rfl)
      (.cons (.inr ⟨_, List.mem_map_of_mem (a := ("style" : Key))
        (by decide), .inl rfl, .inl rfl, hs⟩)
        (.cons (.inr ⟨_, List.mem_map_of_mem (a := ("blocks" : Key))
          (by decide), .inl rfl, .inl rfl, hb⟩) .nil)))⟩
  have elements {j j' : Json} (h : Element.spelling.Respelled j j') :
      (Spelling.list Element.spelling).Respelled (.arr [j]) (.arr [j']) :=
    .inr ⟨_, _, rfl, rfl, .cons h .nil⟩
  exact .inr ⟨_, _, rfl, rfl, .cons (.inl rfl)
    (.cons (.inr ⟨_, List.mem_map_of_mem (by decide), hm.1, hm.2, rfl⟩)
      (.cons (.inr ⟨_, List.mem_map_of_mem (a := ("elements" : Key))
        (by decide), .inl rfl, .inl rfl, elements (element (style _) (blocks (pulse _)))⟩) .nil))⟩

theorem documents_respelled_pulsing :
    ∃ scene,
      Scene.codec.read (spelledScene "colorMode" "stroke_weight" "minAlpha" "max_alpha") =
        .accepted scene ∧
      Scene.codec.read (spelledScene "color_mode" "strokeWeight" "min_alpha" "max_alpha") =
        .accepted scene := by
  have once : (spelledScene "colorMode" "stroke_weight" "minAlpha" "max_alpha").KeysOnce := by
    simp [spelledScene, Json.keysOnce_obj, Json.keysOnce_arr, Members.Distinct, Json.KeysOnce.null,
      Json.KeysOnce.num, Json.KeysOnce.str]
  have respelled : Scene.spelling.Respelled
    (spelledScene "colorMode" "stroke_weight" "minAlpha" "max_alpha")
      (spelledScene "color_mode" "strokeWeight" "min_alpha" "max_alpha") :=
    respelled_spelledScene (by decide) (by decide) (by decide) (by decide)
  exact ⟨_, rfl, (documents_respelled .scene once rfl respelled _).mp rfl⟩

end SceneSketch
