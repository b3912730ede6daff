import Mathlib.Data.List.Nodup
import SceneSketch.Proofs.Emission
import SceneSketch.Proofs.LeadingWord
import SceneSketch.Proofs.Survival

/-!
# Names that an element declares

A second declaration of a name in the body of a function is an error of the whole program. Among the
blocks that name an axis only the first is written, but circle paths and pursuits of the pointer
move both axes and name neither, and the wave of an element declares its position on its own. So the
names are distinct exactly under the condition of `declares_once_iff`.
-/

namespace SceneSketch

/-! ## Reading names -/

def declaredName? (line : String) : Option String :=
  if "  let ".toList.isPrefixOf line.toList then
    some (String.ofList ((line.toList.drop 6).takeWhile (· ≠ ' ')))
  else none

def declaredNames (lines : List String) : List String :=
  lines.filterMap declaredName?

theorem Variable.name_injective : Function.Injective Variable.name := by
  intro v w
  cases v <;> cases w <;> simp [name]

def Line.declared? : Line → Option Variable
  | code s => s.declared?
  | _ => none

theorem Line.keyword_ne_let {line : Line} (h : line.declared? = none) : line.keyword ≠ "let" := by
  intro hk
  cases line with
  | code s =>
    obtain ⟨v, signal, rfl⟩ := s.keyword_eq_let hk
    cases h
  | _ => simp [keyword] at hk

/-- **The names that are read off a line are those that it declares.** -/
theorem declaredName?_text (line : Line) :
    declaredName? line.text = line.declared?.map Variable.name := by
  cases hd : line.declared? with
  | none =>
    rw [declaredName?, if_neg]
    · rfl
    · intro h
      exact line.keyword_ne_let hd
        (Line.keyword_of_head (d := ' ') (by simp) (by decide) (List.isPrefixOf_iff_prefix.mp h))
  | some v =>
    obtain ⟨signal, rfl⟩ : ∃ signal, line = .code (.declare v signal) := by
      cases line with
      | code s => cases s <;> cases hd; exact ⟨_, rfl⟩
      | _ => cases hd
    obtain ⟨value, text⟩ : ∃ value, (Line.code (.declare v signal)).text.toList =
        "  let ".toList ++ (v.name.toList ++ ' ' :: value) := by
      refine ⟨"= ".toList ++ pieceChars signal.pieces ++ [';'], ?_⟩
      simp [Line.toList_text, Line.content, Statement.pieces, Piece.text]
    have letters : ∀ c ∈ v.name.toList, decide (c ≠ ' ') = true := by
      cases v <;> simp [Variable.name]
    have drop : ("  let ".toList ++ (v.name.toList ++ ' ' :: value)).drop 6 =
        v.name.toList ++ ' ' :: value :=
      List.drop_left' rfl
    rw [declaredName?, text, if_pos (List.isPrefixOf_iff_prefix.mpr (List.prefix_append _ _)), drop,
      takeWhile_append_cons letters (by decide), String.ofList_toList]
    rfl

def declaredVariables (ss : List Statement) : List Variable :=
  ss.filterMap Statement.declared?

@[simp]
theorem declaredVariables_nil : declaredVariables [] = [] := rfl

@[simp]
theorem declaredVariables_cons (s : Statement) (ss : List Statement) :
    declaredVariables (s :: ss) = s.declared?.toList ++ declaredVariables ss := by
  rw [declaredVariables, List.filterMap_cons]
  cases s.declared? <;> rfl

@[simp]
theorem declaredVariables_append (ss ts : List Statement) :
    declaredVariables (ss ++ ts) = declaredVariables ss ++ declaredVariables ts :=
  List.filterMap_append

theorem declaredNames_statementLines (ss : List Statement) :
    declaredNames (statementLines ss) = (declaredVariables ss).map Variable.name := by
  rw [declaredNames, statementLines, declaredVariables, List.filterMap_map, List.map_filterMap]
  exact List.filterMap_congr fun s _ => declaredName?_text (.code s)

theorem nodup_declaredNames {ss : List Statement} :
    (declaredNames (statementLines ss)).Nodup ↔ ∀ v, (declaredVariables ss).count v ≤ 1 := by
  rw [declaredNames_statementLines, List.nodup_map_iff Variable.name_injective,
    List.nodup_iff_count_le_one]

/-! ## What blocks move and set -/

namespace Block

/-- The block moves along the axis that it names. -/
def movesAlong (axis : Axis) : Block → Bool
  | oscillate b => b.axis = axis
  | bounce b => b.axis = axis
  | perlinNoise b => b.axis = axis
  | _ => false

/-- The block moves both axes and names neither. -/
def movesFreely (shape : Shape) : Block → Bool
  | circlePath _ => true
  | followMouse _ => shape.anchor?.isSome
  | _ => false

/-- The variable besides the position that the block sets; a jitter sets two at once. -/
def sets? : Block → Option Variable
  | jitter _ => some .jitterX
  | pulse _ => some .alpha
  | rainbow _ => some .hue
  | _ => none

def declares (shape : Shape) (v : Variable) (block : Block) : Bool :=
  match v with
  | .x => block.movesAlong .x || block.movesFreely shape
  | .y => block.movesAlong .y || block.movesFreely shape
  | .jitterX | .jitterY => block.sets? = some .jitterX
  | .alpha => block.sets? = some .alpha
  | .hue => block.sets? = some .hue
  | .buffer => false

theorem count_declared (shape : Shape) (v : Variable) (b : Block) :
    (declaredVariables (b.statements shape)).count v = if b.declares shape v then 1 else 0 := by
  cases b with
  | oscillate b => obtain ⟨axis, _, _⟩ := b; cases axis <;> cases v <;> rfl
  | bounce b => obtain ⟨axis, _, _, _⟩ := b; cases axis <;> cases v <;> rfl
  | perlinNoise b => obtain ⟨axis, _, _⟩ := b; cases axis <;> cases v <;> rfl
  | followMouse b =>
    rw [statements]
    cases h : shape.anchor? <;> cases v <;>
      simp [Statement.declared?, declares, movesAlong, movesFreely, sets?, h]
  | _ => cases v <;> rfl

theorem claims_of_movesAlong {axis : Axis} {b : Block} (h : b.movesAlong axis = true) :
    b.axisClaim = .claims (.text axis.name) := by
  have label : (Json.str axis.name).axisClaim = .claims (.text axis.name) := by cases axis <;> rfl
  cases b with
  | oscillate b | bounce b | perlinNoise b =>
    obtain rfl : b.axis = axis := by simpa [movesAlong] using h
    exact label
  | _ => cases h

theorem not_movesFreely_of_movesAlong {shape : Shape} {axis : Axis} {b : Block}
    (h : b.movesAlong axis = true) :
    b.movesFreely shape = false := by
  cases b <;> first | rfl | cases h

theorem free_of_movesFreely {shape : Shape} {b : Block} (h : b.movesFreely shape = true) :
    b.axisClaim = .free := by
  cases b <;> first | rfl | cases h

theorem free_of_sets {v : Variable} {b : Block} (h : b.sets? = some v) : b.axisClaim = .free := by
  cases b <;> first | rfl | cases h

section
variable {b : Block} (tagged : b.isTagged = true)
include tagged

theorem not_movesAlong_of_unknown (h : b.priority = .unknown) (axis : Axis) :
    b.movesAlong axis = false := by
  obtain ⟨u, rfl⟩ := (priority_eq_unknown tagged).mp h
  rfl

theorem movesAlong_iff (h : b.priority ≠ .unknown) (axis : Axis) :
    b.movesAlong axis = true ↔ b.axisClaim = .claims (.text axis.name) := by
  refine ⟨claims_of_movesAlong, ?_⟩
  have label : ∀ a : Axis, (Json.str a.name).axisClaim = .claims (.text axis.name) → a = axis := by
    intro a
    cases a <;> cases axis <;> simp [Axis.name, Json.axisClaim]
  cases b with
  | oscillate b | bounce b | perlinNoise b =>
    simpa [movesAlong, axisClaim, Block.axis] using label b.axis
  | unknown u => exact absurd ((priority_eq_unknown tagged).mpr ⟨u, rfl⟩) h
  | _ => simp [movesAlong, axisClaim, Block.axis, Json.axisClaim]

end

end Block

theorem countP_or {α : Type} {p q : α → Bool} (h : ∀ a, p a = true → q a = false) (l : List α) :
    (l.countP fun a => p a || q a) = l.countP p + l.countP q := by
  induction l with
  | nil => rfl
  | cons a l ih =>
    simp only [List.countP_cons, ih]
    cases hp : p a with
    | true => simp [h a hp, Nat.add_right_comm]
    | false => simp [Nat.add_assoc]

section
variable {blocks : List Block} (h : axisFault? blocks = none)
include h

theorem countP_keptBlocks_movesAlong_le (axis : Axis) :
    (keptBlocks blocks).countP (Block.movesAlong axis) ≤ 1 := by
  have comparable : ∀ b ∈ byPriority blocks, Comparable b := fun b hb =>
    axisFault?_eq_none.mp h b ((byPriority_perm blocks).mem_iff.mp hb)
  have claiming := countP_survivors_claims (p := fun b => b.axisClaim = .claims (.text axis.name))
    comparable (fun b _ => decide_eq_true_iff) []
  have moving : ∀ b ∈ keptBlocks blocks, b.movesAlong axis = true →
      decide (b.axisClaim = .claims (.text axis.name)) = true := fun b _ hb =>
    decide_eq_true (Block.claims_of_movesAlong hb)
  rw [← keptBlocks_eq, if_neg List.not_mem_nil] at claiming
  exact (List.countP_mono_left moving).trans (claiming ▸ Nat.min_le_left _ _)

/-- **Of the blocks that move along one axis exactly one is written, if there are any.** -/
theorem countP_keptBlocks_movesAlong (tagged : ∀ b ∈ blocks, b.isTagged = true) (axis : Axis) :
    (keptBlocks blocks).countP (Block.movesAlong axis) =
      min 1 (blocks.countP (Block.movesAlong axis)) := by
  obtain ⟨known, others, he, hknown, hothers⟩ := byPriority_split blocks
  -- an unknown block may claim any label, but comes last and so displaces none of the others
  obtain ⟨rest, hrest, hs⟩ := survivors_append known others []
  have given : ∀ b ∈ known ++ others, b ∈ blocks := fun b hb =>
    (byPriority_perm blocks).mem_iff.mp (he ▸ hb)
  have comparable : ∀ b ∈ known, Comparable b := fun b hb =>
    axisFault?_eq_none.mp h b (given b (List.mem_append_left _ hb))
  have still : ∀ b ∈ others, ¬ b.movesAlong axis = true := fun b hb => by
    simp [Block.not_movesAlong_of_unknown (tagged b (given b (List.mem_append_right _ hb)))
      (hothers b hb)]
  have kept := countP_survivors_claims comparable (fun b hb =>
    Block.movesAlong_iff (tagged b (given b (List.mem_append_left _ hb))) (hknown b hb) axis) []
  have written : rest.countP (Block.movesAlong axis) = 0 :=
    List.countP_eq_zero.mpr fun b hb => still b (hrest.subset hb)
  rw [← (byPriority_perm blocks).countP_eq, keptBlocks_eq, he, hs, List.countP_append,
    List.countP_append, kept, written, List.countP_eq_zero.mpr still]
  simp

end

/-! ## What an element declares -/

namespace Element

/-- How often both axes of an element are moved without being named. -/
def freeMoves (element : Element) (blocks : List Block) : Nat :=
  blocks.countP (Block.movesFreely element.shape) + if element.waves then 1 else 0

theorem declared_style (style : Style) : declaredVariables style.statements = [] := by
  have undeclared : ∀ s ∈ style.statements, s.declared? = none := by
    apply Style.forall_statements <;> intros <;> rfl
  exact List.filterMap_eq_nil_iff.mpr undeclared

theorem declared_position (e : Element) :
    declaredVariables e.position.declarations = if e.waves then [.x, .y] else [] := by
  obtain ⟨x, y, he⟩ := e.declarations_eq
  rw [he]
  by_cases hw : e.waves = true <;> simp [hw, Statement.declared?]

theorem declared_shapeStatements (e : Element) :
    declaredVariables e.shapeStatements = if e.waves then [.x, .y] else [] := by
  have style := declared_style e.style
  have still : e.shape.anchor? = none → e.position.declarations = [] :=
    fun h => by simp [position, h]
  rw [← declared_position, shapeStatements]
  cases he : e.shape with
  | circle c => simp [style, Statement.declared?]
  | rectangle r => simp [style, Statement.declared?]
  | line l => simp [style, Statement.declared?, still (by rw [he]; rfl)]
  | text t => simp [style, Statement.declared?, still (by rw [he]; rfl)]
  | background color => simp [Statement.declared?, still (by rw [he]; rfl)]

theorem count_shapeStatements (e : Element) (v : Variable) :
    (declaredVariables e.shapeStatements).count v =
    if e.waves && (v = .x || v = .y) then 1 else 0 := by
  rw [declared_shapeStatements]
  cases e.waves <;> cases v <;> rfl

theorem count_declared {e : Element} {blocks : List Block} (v : Variable) :
    (declaredVariables (blockStatements e.shape blocks ++ e.shapeStatements)).count v =
      (keptBlocks blocks).countP (Block.declares e.shape v) +
        if e.waves && (v = .x || v = .y) then 1 else 0 := by
  have block : ∀ bs : List Block,
      (declaredVariables (bs.flatMap fun b => b.statements e.shape)).count v =
      bs.countP (Block.declares e.shape v) := by
    intro bs
    induction bs with
    | nil => rfl
    | cons b bs ih =>
      rw [List.flatMap_cons, declaredVariables_append, List.count_append, Block.count_declared, ih,
        List.countP_cons, Nat.add_comm]
  rw [declaredVariables_append, List.count_append, count_shapeStatements, blockStatements, block]

section
variable {e : Element} {blocks : List Block}

theorem count_axis (h : axisFault? blocks = none) (axis : Axis) :
    (declaredVariables (blockStatements e.shape blocks ++ e.shapeStatements)).count
    axis.toVariable =
      (keptBlocks blocks).countP (Block.movesAlong axis) + e.freeMoves blocks := by
  have declares : Block.declares e.shape axis.toVariable =
      fun b => b.movesAlong axis || b.movesFreely e.shape := by
    cases axis <;> rfl
  have position : (axis.toVariable = .x || axis.toVariable = .y) = true := by cases axis <;> rfl
  rw [count_declared, declares, countP_or fun b => Block.not_movesFreely_of_movesAlong,
    countP_keptBlocks_free h fun b => Block.free_of_movesFreely, freeMoves, position, Bool.and_true,
    Nat.add_assoc]

theorem count_other (h : axisFault? blocks = none) {v u : Variable}
    (hv : (v = .x || v = .y) = false)
    (hd : Block.declares e.shape v = fun b => decide (b.sets? = some u)) :
    (declaredVariables (blockStatements e.shape blocks ++ e.shapeStatements)).count v =
      blocks.countP fun b => b.sets? = some u := by
  have free : ∀ b : Block, decide (b.sets? = some u) = true → b.axisClaim = .free := fun b hb =>
    Block.free_of_sets (of_decide_eq_true hb)
  rw [count_declared, hv, hd, countP_keptBlocks_free h free, Bool.and_false]
  rfl

end

theorem forall_movesAlong_iff {bs : List Block} : (∀ b ∈ bs, ∀ axis, b.movesAlong axis = false) ↔
    ∀ axis, bs.countP (Block.movesAlong axis) = 0 := by
  simp only [List.countP_eq_zero, Bool.not_eq_true]
  exact ⟨fun h axis b hb => h b hb axis, fun h b hb axis => h axis b hb⟩

theorem nodup_statements_iff {e : Element} {blocks : List Block} (h : axisFault? blocks = none) :
    (declaredNames (statementLines (blockStatements e.shape blocks ++ e.shapeStatements))).Nodup ↔
      (∀ v, (blocks.countP fun b => b.sets? = some v) ≤ 1) ∧ e.freeMoves blocks ≤ 1 ∧
        (e.freeMoves blocks = 1 → ∀ b ∈ keptBlocks blocks, ∀ axis, b.movesAlong axis = false) := by
  rw [nodup_declaredNames, forall_movesAlong_iff]
  have axes := count_axis (e := e) h
  have jitterX := count_other (e := e) h (v := .jitterX) (u := .jitterX) rfl rfl
  have jitterY := count_other (e := e) h (v := .jitterY) (u := .jitterX) rfl rfl
  have alpha := count_other (e := e) h (v := .alpha) (u := .alpha) rfl rfl
  have hue := count_other (e := e) h (v := .hue) (u := .hue) rfl rfl
  constructor
  · intro once
    have free (axis : Axis) :
        (keptBlocks blocks).countP (Block.movesAlong axis) + e.freeMoves blocks ≤ 1 :=
      axes axis ▸ once axis.toVariable
    refine ⟨fun v => ?_, (Nat.le_add_left _ _).trans (free .x), fun one axis => ?_⟩
    · cases v with
      | jitterX => exact jitterX ▸ once .jitterX
      | alpha => exact alpha ▸ once .alpha
      | hue => exact hue ▸ once .hue
      | _ =>
        rw [List.countP_eq_zero.mpr fun b _ => by cases b <;> simp [Block.sets?]]
        exact Nat.zero_le 1
    · have := free axis
      omega
  · rintro ⟨set, free, alone⟩ v
    have axis (axis : Axis) : (declaredVariables (blockStatements e.shape blocks ++
        e.shapeStatements)).count axis.toVariable ≤ 1 := by
      have kept := countP_keptBlocks_movesAlong_le h axis
      rw [axes]
      -- a free move is a declaration on each axis, so none may be named beside it
      rcases Nat.le_one_iff_eq_zero_or_eq_one.mp free with zero | one
      · omega
      · rw [alone one axis, one]
    cases v with
    | x => exact axis .x
    | y => exact axis .y
    | jitterX => exact jitterX ▸ set .jitterX
    | jitterY => exact jitterY ▸ set .jitterX
    | alpha => exact alpha ▸ set .alpha
    | hue => exact hue ▸ set .hue
    | buffer =>
      have undeclared : (keptBlocks blocks).countP (Block.declares e.shape .buffer) = 0 :=
        List.countP_eq_zero.mpr fun b _ => Bool.false_ne_true
      rw [count_declared, undeclared]
      simp

/-- **An element declares each name once exactly if every variable besides the position is set by at
most one block, both axes are moved without being named at most once, and then no block that is
written moves along a named axis.** Of blocks that elements hold one that moves along an axis is
always written, unless there is none. -/
theorem declares_once_iff {e : Element} {blocks : List Block} (h : axisFault? blocks = none) :
    ((declaredNames (statementLines (blockStatements e.shape blocks ++ e.shapeStatements))).Nodup ↔
      (∀ v, (blocks.countP fun b => b.sets? = some v) ≤ 1) ∧ e.freeMoves blocks ≤ 1 ∧
        (e.freeMoves blocks = 1 → ∀ b ∈ keptBlocks blocks, ∀ axis, b.movesAlong axis = false)) ∧
    ((∀ b ∈ blocks, b.isTagged = true) →
      ((∀ b ∈ keptBlocks blocks, ∀ axis, b.movesAlong axis = false) ↔
      ∀ b ∈ blocks, ∀ axis, b.movesAlong axis = false)) := by
  refine ⟨nodup_statements_iff h, fun tagged => ?_⟩
  rw [forall_movesAlong_iff, forall_movesAlong_iff]
  refine forall_congr' fun axis => ?_
  rw [countP_keptBlocks_movesAlong h tagged axis]
  omega

theorem declares_once_pulsing :
    let circle : Element := { id := "circle-1", shape := .circle ⟨400, 300, 50⟩ }
    let blocks : List Block := [.circlePath ⟨150, 0.02⟩, .pulse ⟨0.05, 100, 255⟩]
    (declaredNames (statementLines
      (blockStatements circle.shape blocks ++ circle.shapeStatements))).Nodup := by
  intro circle blocks
  obtain ⟨once, kept⟩ := @declares_once_iff circle blocks rfl
  refine once.mpr ⟨fun v => ?_, by decide, fun _ => (kept ?_).mpr ?_⟩
  · cases v <;> decide
  · simp [blocks, Block.isTagged]
  · simp [blocks, Block.movesAlong]

/-- A circle path and a noise along the horizontal axis declare `x` twice. -/
theorem declares_twice : ¬ ∀ (e : Element) (blocks : List Block), axisFault? blocks = none →
    (declaredNames (statementLines
      (blockStatements e.shape blocks ++ e.shapeStatements))).Nodup := by
  intro once
  have := once { id := "circle-1", shape := .circle ⟨400, 300, 50⟩ }
    [.circlePath ⟨150, 0.02⟩, .perlinNoise ⟨.x, 100, 0.01⟩] rfl
  rw [declaredNames_statementLines] at this
  exact absurd this (by decide)

end Element

end SceneSketch
