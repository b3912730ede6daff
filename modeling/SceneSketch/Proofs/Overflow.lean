import SceneSketch.Proofs.AxisFaults
import SceneSketch.Proofs.Emission
import SceneSketch.Proofs.Operands

/-!
# Numbers that overflow

The numbers of a scene that was read are finite, and the code has one number that is computed from
them, the distance that a bounce runs through. It is the only one that may overflow
(`Scene.numbers_finite_iff`).
-/

namespace SceneSketch

def Bounce.Overflows (b : Bounce) : Prop :=
  ∃ low high, b.min = .finite low ∧ b.max = .finite high ∧
    leastOverflow ≤ (high.units - low.units).natAbs

theorem Bounce.isFinite_distance {b : Bounce} (hmin : b.min.isFinite = true)
    (hmax : b.max.isFinite = true) :
    (b.max - b.min).isFinite = true ↔ ¬ b.Overflows := by
  cases hl : b.min with
  | finite low =>
    cases hh : b.max with
    | finite high =>
      rw [Double.isFinite_sub, ← Nat.not_le]
      simp [Overflows, hl, hh]
    | _ =>
      rw [hh] at hmax
      cases hmax
  | _ =>
    rw [hl] at hmin
    cases hmin

/-! ## Statements -/

def FiniteCode (statements : List Statement) : Prop :=
  ∀ s ∈ statements, AllFinite s.operands

@[simp]
theorem finiteCode_nil : FiniteCode [] := List.forall_mem_nil _

@[simp]
theorem finiteCode_cons {s : Statement} {statements : List Statement} :
    FiniteCode (s :: statements) ↔ AllFinite s.operands ∧ FiniteCode statements :=
  List.forall_mem_cons

@[simp]
theorem finiteCode_append {a b : List Statement} :
    FiniteCode (a ++ b) ↔ FiniteCode a ∧ FiniteCode b :=
  List.forall_mem_append

@[simp]
theorem finiteCode_flatMap {α : Type} {as : List α} {f : α → List Statement} :
    FiniteCode (as.flatMap f) ↔ ∀ a ∈ as, FiniteCode (f a) :=
  List.forall_mem_flatMap

theorem Shape.isFinite_anchor {shape : Shape} (h : AllFinite shape.numbers) {x y : Double}
    (ha : shape.anchor? = some (x, y)) : x.isFinite = true ∧ y.isFinite = true := by
  cases shape with
  | circle s =>
    obtain ⟨rfl, rfl⟩ := Prod.mk.inj (Option.some.inj ha)
    simp only [numbers, allFinite_cons] at h
    exact ⟨h.1, h.2.1⟩
  | rectangle s =>
    obtain ⟨rfl, rfl⟩ := Prod.mk.inj (Option.some.inj ha)
    simp only [numbers, allFinite_cons] at h
    exact ⟨h.1, h.2.1⟩
  | _ => cases ha

theorem Shape.isFinite_base {shape : Shape} (h : AllFinite shape.numbers) (axis : Axis) :
    (shape.base axis).isFinite = true := by
  unfold base
  cases ha : shape.anchor? with
  | none => exact Codec.isFinite_zero
  | some point =>
    obtain ⟨x, y⟩ := isFinite_anchor h ha
    cases axis
    · exact x
    · exact y

theorem Style.finite_statements {style : Style} (h : style.Sound) :
    FiniteCode style.statements := by
  apply forall_statements
  · exact allFinite_nil
  · intro color hc
    simpa [Statement.operands, Statement.pieces, Statement.colorArguments] using h.fill color hc
  · exact allFinite_nil
  · intro color hc
    simpa [Statement.operands, Statement.pieces, Statement.colorArguments] using h.stroke color hc
  · intro w hw
    simpa [Statement.operands, Statement.pieces] using (h.weight w hw).1

theorem Block.finite_statements_iff {b : Block} {shape : Shape} (hs : AllFinite shape.numbers)
    (hb : AllFinite b.numbers) :
    FiniteCode (b.statements shape) ↔ ∀ bounce, b = .bounce bounce → ¬ bounce.Overflows := by
  have base := Shape.isFinite_base hs
  unfold FiniteCode statements
  cases b with
  | bounce b =>
    simp only [numbers, allFinite_cons] at hb
    obtain ⟨speed, min, max, -⟩ := hb
    have distance := Bounce.isFinite_distance min max
    have operands : (Statement.declare b.axis.toVariable
        (.around (.number b.min) .absSin b.speed (b.max - b.min))).operands =
          [b.min, b.speed, b.max - b.min] := rfl
    simp [operands, min, speed, distance]
  | followMouse b =>
    simp only [numbers, allFinite_cons] at hb
    cases ha : shape.anchor? with
    | none => simp
    | some point =>
      obtain ⟨x, y⟩ := Shape.isFinite_anchor hs ha
      simp [Statement.operands, Statement.pieces, Signal.pieces, x, y, hb]
  | _ =>
    simp only [numbers, allFinite_cons] at hb
    simp [Statement.operands, Statement.pieces, Signal.pieces, Cycle.pieces, Origin.piece, base, hb]

/-! ## Elements -/

namespace Element

structure FinitePosition (p : Position) : Prop where
  x : AllFinite ([p.x.piece].filterMap Piece.operand?)
  y : AllFinite ([p.y.piece].filterMap Piece.operand?)
  declarations : FiniteCode p.declarations

theorem finite_position {e : Element} (h : e.Sound) : FinitePosition e.position := by
  have zero : (0 : Double).isFinite = true := Codec.isFinite_zero
  have single {x : Double} (hx : x.isFinite = true) :
      AllFinite ([Piece.number x].filterMap Piece.operand?) :=
    allFinite_cons.mpr ⟨hx, allFinite_nil⟩
  unfold position
  cases ha : e.shape.anchor? with
  | none => exact ⟨single zero, single zero, List.forall_mem_nil _⟩
  | some point =>
    obtain ⟨x, y⟩ := Shape.isFinite_anchor h.shape ha
    have behavior := h.behavior
    cases hb : e.behavior with
    | followMouse t =>
      cases t
      · exact ⟨allFinite_nil, single y, List.forall_mem_nil _⟩
      · exact ⟨single x, allFinite_nil, List.forall_mem_nil _⟩
      · exact ⟨allFinite_nil, allFinite_nil, List.forall_mem_nil _⟩
    | animated a =>
      obtain ⟨_, motion⟩ := a
      cases motion with
      | wave w =>
        rw [hb] at behavior
        simp only [Behavior.numbers, Motion.numbers, allFinite_cons] at behavior
        refine ⟨allFinite_nil, allFinite_nil, ?_⟩
        simp [FiniteCode, Statement.operands, Statement.pieces, Signal.pieces, Cycle.pieces,
          Origin.piece, behavior]
      | linear speed => exact ⟨single x, single y, List.forall_mem_nil _⟩
    | _ => exact ⟨single x, single y, List.forall_mem_nil _⟩

theorem finite_shapeStatements {e : Element} (h : e.Sound) : FiniteCode e.shapeStatements := by
  have style := Style.finite_statements h.style
  obtain ⟨x, y, declarations⟩ := finite_position h
  have shape := h.shape
  unfold shapeStatements
  cases hs : e.shape with
  | background color =>
    rw [hs, Shape.numbers] at shape
    simpa [Statement.operands, Statement.pieces, Statement.colorArguments] using shape
  | circle c =>
    rw [hs] at shape
    simp only [Shape.numbers, allFinite_cons] at shape
    have call : AllFinite (Statement.ellipse e.position.x e.position.y c.diameter).operands := by
      simpa [Statement.operands, Statement.pieces, shape] using ⟨x, y⟩
    simp [style, declarations, call]
  | rectangle r =>
    rw [hs] at shape
    simp only [Shape.numbers, allFinite_cons] at shape
    have call : AllFinite (Statement.rect e.position.x e.position.y r.width r.height).operands := by
      simpa [Statement.operands, Statement.pieces, shape] using ⟨x, y⟩
    simp [style, declarations, call]
  | line l =>
    rw [hs, Shape.numbers] at shape
    simpa [style, Statement.operands, Statement.pieces] using shape
  | text t =>
    rw [hs] at shape
    simp only [Shape.numbers, allFinite_cons] at shape
    simp [style, Statement.operands, Statement.pieces, shape]

/-- **The numbers of an element are written as finite ones exactly if no bounce that is kept
overflows.** -/
theorem finite_statements_iff {e : Element} (h : e.Sound) :
    FiniteCode e.statements ↔ ∀ b, .bounce b ∈ keptBlocks e.blocks → ¬ b.Overflows := by
  have closing : FiniteCode e.closing := by
    intro s hs
    obtain ⟨_, _, rfl⟩ := List.mem_map.mp hs
    exact allFinite_nil
  have block : ∀ b ∈ keptBlocks e.blocks,
      (FiniteCode (b.statements e.shape) ↔ ∀ bounce, b = .bounce bounce → ¬ bounce.Overflows) :=
        fun b hb =>
    Block.finite_statements_iff h.shape (h.blocks b (keptBlocks_subset e.blocks hb)).finite
  unfold statements blockStatements
  simp only [finiteCode_append, finiteCode_flatMap, closing, finite_shapeStatements h, and_true]
  rw [forall₂_congr block]
  exact ⟨fun all b hb => all _ hb b rfl, fun all _ hb b he => all b (he ▸ hb)⟩

end Element

/-! ## Scenes -/

theorem Filter.finite_lines {filter : Filter} (h : AllFinite filter.numbers) :
    ∀ line ∈ filter.lines, AllFinite line.operands := by
  cases filter with
  | glow g =>
    obtain ⟨intensity, color⟩ := g
    simp only [numbers, allFinite_cons, allFinite_flatMap] at h
    cases color with
    | none => simp [lines, Line.operands, Statement.operands, Statement.pieces, h]
    | some color =>
      have channels : AllFinite color.channels := h.2 color (by simp)
      simp [lines, Line.operands, Statement.operands, Statement.pieces, Statement.colorArguments,
        h, channels]
  | colorShift c =>
    rw [lines]
    split
    · exact List.forall_mem_nil _
    · simp [Line.operands, Statement.operands, Statement.pieces]
  | _ =>
    simp only [numbers, allFinite_cons] at h
    simp [lines, Line.operands, Statement.operands, Statement.pieces, Signal.pieces, h]

namespace Scene

theorem finite_background {scene : Scene} (h : scene.Sound) (static : Bool) :
    FiniteCode ((scene.backgroundColor? static).map Statement.background).toList := by
  cases hc : scene.backgroundColor? static with
  | none => exact finiteCode_nil
  | some color =>
    obtain ⟨e, he, painted⟩ := List.exists_of_findSome?_eq_some hc
    have shape := (h.elements e he).shape
    have channels : AllFinite color.channels := by
      cases hs : e.shape with
      | background c =>
        rw [hs] at shape painted
        obtain rfl : c = color := Option.some.inj (Option.ite_none_right_eq_some.mp painted).2
        exact shape
      | _ =>
        rw [hs] at painted
        cases painted
    simpa [Statement.operands, Statement.pieces, Statement.colorArguments] using channels

theorem finite_setup {scene : Scene} (h : scene.Sound) : FiniteCode scene.setupStatements := by
  have canvas : AllFinite [scene.canvas.width, scene.canvas.height] := h.canvas
  have rate : FiniteCode
      ((scene.frameRate.filter fun r => !r.isZero).map Statement.frameRate).toList := by
    cases hr : scene.frameRate with
    | none => exact finiteCode_nil
    | some r =>
      have finite : r.isFinite = true := h.rate r hr
      rw [Option.filter_some]
      split <;> simp [Statement.operands, Statement.pieces, finite]
  have mode : FiniteCode (scene.colorMode.map Statement.colorMode).toList := by
    cases scene.colorMode <;> simp [Statement.operands, Statement.pieces]
  unfold setupStatements
  simp [Statement.operands, Statement.pieces, canvas, rate, mode, finite_background h]

theorem finite_effects {scene : Scene} (h : scene.Sound) :
    ∀ line ∈ scene.effectSection, AllFinite line.operands := by
  refine forall_effectSection allFinite_nil allFinite_nil fun e given => ?_
  cases hes : scene.effects with
  | none => simp [hes] at given
  | some effects => exact Filter.finite_lines (h.effects effects hes e (by simpa [hes] using given))

/-- **The operands of a scene are finite exactly if no bounce that is kept overflows.** -/
theorem allFinite_operands_iff {scene : Scene} (h : scene.Sound) : AllFinite scene.operands ↔
    ∀ e ∈ scene.drawnElements, ∀ b, .bounce b ∈ keptBlocks e.blocks → ¬ b.Overflows := by
  have coded {statements : List Statement} :
      (∀ line ∈ statements.map Line.code, AllFinite line.operands) ↔ FiniteCode statements :=
        List.forall_mem_map
  have element : ∀ e ∈ scene.drawnElements, (FiniteCode e.statements ↔
      ∀ b, .bounce b ∈ keptBlocks e.blocks → ¬ b.Overflows) := fun e he =>
    Element.finite_statements_iff (h.elements e (List.mem_of_mem_filter he))
  rw [operands, allFinite_flatMap, List.forall_mem_append, setupLines, drawLines,
    List.forall_mem_append, coded, coded,
    drawStatements, finiteCode_append, finiteCode_flatMap, forall₂_congr element]
  simp only [finite_setup h, finite_background h, true_and]
  exact and_iff_left (finite_effects h)

/-- **Main statement.** The lines of a program besides its comments are free from the names of
numbers exactly if no bounce that is written overflows, and under the same condition all its
operands are decimal literals. -/
theorem numbers_finite_iff {document : Json} {scene : Scene} {code : String}
    (read : Scene.codec.read document = .accepted scene) (ok : scene.compile = .ok code) :
    let spans := ∀ e ∈ scene.drawnElements, ∀ b, .bounce b ∈ keptBlocks e.blocks → ¬ b.Overflows
    ((∀ l ∈ textLines code, Commented l.toList ∨ ¬ Named l.toList) ↔ spans) ∧
      ((∀ x ∈ scene.operands, DecimalLiteral x.codeText.toList) ↔ spans) := by
  intro spans
  obtain ⟨_, rfl⟩ := compile_eq_ok.mp ok
  have finite : AllFinite scene.operands ↔ spans :=
    allFinite_operands_iff ((Scene.read_comesTo document).of_accepted read)
  refine ⟨scene.quiet_iff.trans finite, Iff.trans ?_ finite⟩
  exact forall₂_congr fun x _ => x.literal_codeText

end Scene

def bouncing (size low high : FiniteDouble) : Scene where
  canvas := ⟨.finite size, .finite size⟩
  elements := [{
    id := "a"
    shape := .circle ⟨.finite size, .finite size, .finite size⟩
    placed := [⟨.bounce ⟨.x, .finite size, .finite low, .finite high⟩, rfl⟩] }]

def bouncingDocument (size low high : FiniteDouble) : Json :=
  .obj [("canvas", .obj [("width", .num (.finite size)), ("height", .num (.finite size))]),
    ("elements", .arr [.obj [("id", .str "a"),
      ("type", .obj [("kind", .str "circle"), ("x", .num (.finite size)),
        ("y", .num (.finite size)),
        ("diameter", .num (.finite size))]),
      ("blocks", .arr [.obj
        [("type", .str "bounce"), ("axis", .str "x"), ("speed", .num (.finite size)),
        ("min", .num (.finite low)), ("max", .num (.finite high))]])]])]

theorem read_bouncing (size low high : FiniteDouble) :
    Scene.codec.read (bouncingDocument size low high) = .accepted (bouncing size low high) ∧
      (bouncing size low high).compile = .ok (bouncing size low high).code :=
  ⟨rfl, rfl⟩

theorem bouncing_spans_iff (size low high : FiniteDouble) :
    (∀ e ∈ (bouncing size low high).drawnElements, ∀ b, .bounce b ∈ keptBlocks e.blocks →
      ¬ b.Overflows) ↔
      (high.units - low.units).natAbs < leastOverflow := by
  have drawn : (bouncing size low high).drawnElements = (bouncing size low high).elements := rfl
  have kept : ∀ e ∈ (bouncing size low high).elements,
      keptBlocks e.blocks = [.bounce ⟨.x, .finite size, .finite low, .finite high⟩] :=
    List.forall_mem_singleton.mpr rfl
  have distance : Bounce.Overflows ⟨.x, .finite size, .finite low, .finite high⟩ ↔
      leastOverflow ≤ (high.units - low.units).natAbs := by
    constructor
    · rintro ⟨_, _, hl, hh, beyond⟩
      cases hl
      cases hh
      exact beyond
    · exact fun beyond => ⟨low, high, rfl, rfl, beyond⟩
  rw [← Nat.not_le, ← distance, drawn, bouncing, List.forall_mem_singleton,
    kept _ (List.mem_singleton_self _)]
  simp only [List.mem_singleton, Block.bounce.injEq, forall_eq]

theorem Scene.numbers_finite_bouncing :
    let scene := bouncing fourHundred ⟨false, 0, by decide⟩ fourHundred
    (∀ l ∈ textLines scene.code, Commented l.toList ∨ ¬ Named l.toList) ∧
      ∀ x ∈ scene.operands, DecimalLiteral x.codeText.toList := by
  have spans := (bouncing_spans_iff fourHundred ⟨false, 0, by decide⟩ fourHundred).mpr
    (by decide +kernel)
  obtain ⟨read, ok⟩ := read_bouncing fourHundred ⟨false, 0, by decide⟩ fourHundred
  obtain ⟨lines, operands⟩ := numbers_finite_iff read ok
  exact ⟨lines.mpr spans, operands.mpr spans⟩

def greatPower (negative : Bool) : FiniteDouble :=
  ⟨negative, 0x7fe1ccf385ebc8a0, by decide⟩

example : (1e308 : Double) = .finite (greatPower false) := by decide +kernel

theorem Scene.bounce_overflows :
    ¬ ∀ document scene code, Scene.codec.read document = .accepted scene →
    scene.compile = .ok code → (∀ l ∈ textLines code, Commented l.toList ∨ ¬ Named l.toList) ∧
      ∀ x ∈ scene.operands, DecimalLiteral x.codeText.toList := by
  intro finite
  obtain ⟨read, ok⟩ := read_bouncing fourHundred (greatPower true) (greatPower false)
  have quiet := (quiet_iff _).mp (finite _ _ _ read ok).1
  have spans := (allFinite_operands_iff ((Scene.read_comesTo _).of_accepted read)).mp quiet
  exact absurd ((bouncing_spans_iff _ _ _).mp spans) (by decide +kernel)

end SceneSketch
