import SceneSketch.Proofs.DistinctKeys
import SceneSketch.Proofs.Emission
import SceneSketch.Proofs.Survival
import SceneSketch.Scene.Check

/-!
# Scenes without null members

A null member of a block of an unknown kind is not written to a document. Nothing else is made of
such a member: it claims no axis, so the scene without it has the same code and passes the same
checks.
-/

namespace SceneSketch

/-- The block without those of its members that are null; what is null inside a member stays. -/
def UnknownBlock.withoutNulls (block : UnknownBlock) : UnknownBlock :=
  { block with extras := block.extras.filter fun m => !m.2.isNull }

def Block.withoutNulls : Block → Block
  | unknown block => unknown block.withoutNulls
  | block => block

theorem Block.isTagged_withoutNulls (b : Block) : b.withoutNulls.isTagged = b.isTagged := by
  cases b <;> rfl

def PlacedBlock.withoutNulls (placed : PlacedBlock) : PlacedBlock :=
  ⟨placed.val.withoutNulls, placed.val.isTagged_withoutNulls.trans placed.property⟩

def Element.withoutNulls (element : Element) : Element :=
  { element with placed := element.placed.map PlacedBlock.withoutNulls }

def Scene.withoutNulls (scene : Scene) : Scene :=
  { scene with elements := scene.elements.map Element.withoutNulls }

/-! ## Documents -/

section
variable {σ α β : Type}

theorem Record.dump_map (f : α → β) (r : Record σ α) (whole : σ) :
    (f <$> r).dump whole = r.dump whole := rfl

theorem Record.dump_seq (r : Record σ (α → β)) (s : Record σ α) (whole : σ) :
    (r <*> s).dump whole = r.dump whole ++ s.dump whole := rfl

end

theorem Block.dump_withoutNulls (b : Block) :
    Block.codec.dump b.withoutNulls = Block.codec.dump b := by
  cases b with
  | unknown u =>
    change Json.obj (("type", Json.str u.kind) :: List.filter _ (List.filter _ u.extras)) =
      Json.obj (("type", Json.str u.kind) :: List.filter _ u.extras)
    simp
  | _ => rfl

theorem Element.blocks_withoutNulls (e : Element) :
    e.withoutNulls.blocks = e.blocks.map Block.withoutNulls := by
  simp only [blocks, withoutNulls, List.map_map]
  rfl

theorem PlacedBlock.dump_withoutNulls (b : PlacedBlock) :
    PlacedBlock.codec.dump b.withoutNulls = PlacedBlock.codec.dump b :=
  b.val.dump_withoutNulls

theorem Element.dump_withoutNulls (e : Element) :
    Element.codec.dump e.withoutNulls = Element.codec.dump e := by
  simp only [Element.codec, Record.codec, record, Record.dump_seq, Record.dump_map, Record.required,
    Record.defaulted,
    Codec.list, withoutNulls, List.map_map, Function.comp_def, PlacedBlock.dump_withoutNulls]

theorem Scene.dump_withoutNulls (s : Scene) :
    Scene.codec.dump s.withoutNulls = Scene.codec.dump s := by
  simp only [Scene.codec, Record.codec, record, Record.dump_seq, Record.dump_map, Record.required,
    Record.defaulted, Record.optional, Codec.list, withoutNulls, List.map_map, Function.comp_def,
    Element.dump_withoutNulls]

/-! ## Blocks -/

theorem getD_get?_filter {members : Members} (h : members.Distinct) (key : Text) :
    (Members.get? (members.filter fun m => !m.2.isNull) key).getD .null =
      (members.get? key).getD .null := by
  induction members with
  | nil => rfl
  | cons m members ih =>
    obtain ⟨k, v⟩ := m
    obtain ⟨hk, hmembers⟩ := List.nodup_cons.mp h
    specialize ih hmembers
    unfold Members.get? at ih ⊢
    cases hv : v.isNull with
    | true =>
      obtain rfl : v = .null := by
        cases v <;> first | rfl | cases hv
      by_cases same : key = k
      · -- the key has no other member that could now be found
        have absent : members.lookup key = none := by
          rw [List.lookup_eq_none_iff]
          intro m hm
          have other : m.1 ≠ key := fun e => hk (List.mem_map.mpr ⟨m, hm, e.trans same⟩)
          simpa using other.symm
        rw [absent] at ih
        simpa [hv, List.lookup_cons, same] using ih
      · simpa [hv, List.lookup_cons, beq_eq_false_iff_ne.mpr same] using ih
    | false =>
      by_cases same : key = k
      · simp [hv, same]
      · simpa [hv, List.lookup_cons, beq_eq_false_iff_ne.mpr same] using ih

namespace Block

def KeysOnce : Block → Prop
  | unknown b => Members.Distinct b.extras
  | _ => True

theorem priority_withoutNulls (b : Block) : b.withoutNulls.priority = b.priority := by
  cases b <;> rfl

theorem statements_withoutNulls (b : Block) (shape : Shape) :
    b.withoutNulls.statements shape = b.statements shape := by
  cases b <;> rfl

theorem isRotate_withoutNulls (b : Block) : b.withoutNulls.isRotate = b.isRotate := by
  cases b <;> rfl

theorem axisClaim_withoutNulls {b : Block} (h : b.KeysOnce) :
    b.withoutNulls.axisClaim = b.axisClaim := by
  cases b with
  | unknown u => exact congrArg Json.axisClaim (getD_get?_filter h "axis")
  | _ => rfl

end Block

theorem byPriority_map (blocks : List Block) :
    byPriority (blocks.map Block.withoutNulls) = (byPriority blocks).map Block.withoutNulls := by
  unfold byPriority
  rw [List.map_flatMap]
  refine List.flatMap_congr fun p _ => ?_
  rw [List.filter_map]
  simp only [Function.comp_def, Block.priority_withoutNulls]

theorem settle_map {blocks : List Block} (h : ∀ b ∈ blocks, b.KeysOnce) (claimed : List AxisLabel) :
    settle claimed (blocks.map Block.withoutNulls) =
      (settle claimed blocks).map (Prod.map Block.withoutNulls id) := by
  induction blocks generalizing claimed with
  | nil => rfl
  | cons b bs ih =>
    obtain ⟨hb, hbs⟩ := List.forall_mem_cons.mp h
    rw [List.map_cons, settle, settle, Block.axisClaim_withoutNulls hb]
    cases b.axisClaim with
    | free => simp [ih hbs]
    | claims label => by_cases hl : label ∈ claimed <;> simp [hl, ih hbs]
    | containerKey c => rfl

section
variable {blocks : List Block} (h : ∀ b ∈ blocks, b.KeysOnce)
include h

theorem arrange_map : arrange (blocks.map Block.withoutNulls) =
    (arrange blocks).map (Prod.map Block.withoutNulls id) := by
  unfold arrange
  rw [byPriority_map]
  exact settle_map (fun b hb => h b ((byPriority_perm blocks).mem_iff.mp hb)) []

theorem axisFault?_map : axisFault? (blocks.map Block.withoutNulls) = axisFault? blocks := by
  unfold axisFault?
  rw [arrange_map h, List.findSome?_map]
  refine congrArg (fun f => List.findSome? f _) (funext fun ⟨b, fate⟩ => ?_)
  cases fate <;> rfl

theorem keptBlocks_map :
    keptBlocks (blocks.map Block.withoutNulls) = (keptBlocks blocks).map Block.withoutNulls := by
  unfold keptBlocks
  rw [arrange_map h, List.filterMap_map, List.map_filterMap]
  refine List.filterMap_congr fun ⟨b, fate⟩ _ => ?_
  cases fate <;> rfl

theorem blockStatements_map (shape : Shape) :
    blockStatements shape (blocks.map Block.withoutNulls) = blockStatements shape blocks := by
  unfold blockStatements
  rw [keptBlocks_map h, List.flatMap_map]
  simp only [Block.statements_withoutNulls]

end

/-! ## Scenes -/

theorem Element.statements_withoutNulls {e : Element} (h : ∀ b ∈ e.blocks, b.KeysOnce) :
    e.withoutNulls.statements = e.statements := by
  have closing : e.withoutNulls.closing = e.closing := by
    unfold closing
    rw [blocks_withoutNulls, List.filter_map, List.map_map]
    simp only [Function.comp_def, Block.isRotate_withoutNulls]
  rw [statements, statements, closing, blocks_withoutNulls]
  exact congrArg (· ++ _ ++ _) (blockStatements_map h e.shape)

namespace Scene

theorem drawnElements_withoutNulls (scene : Scene) :
    scene.withoutNulls.drawnElements = scene.drawnElements.map Element.withoutNulls :=
  List.filter_map

theorem backgroundColor?_withoutNulls (scene : Scene) (static : Bool) :
    scene.withoutNulls.backgroundColor? static = scene.backgroundColor? static := by
  unfold backgroundColor? withoutNulls
  rw [List.findSome?_map]
  rfl

theorem problems_withoutNulls (scene : Scene) : scene.withoutNulls.problems = scene.problems := by
  have missing : scene.withoutNulls.missingIdProblems = scene.missingIdProblems := by
    unfold missingIdProblems withoutNulls
    rw [List.filter_map, List.map_map]
    rfl
  have duplicate : scene.withoutNulls.duplicateIdProblems = scene.duplicateIdProblems := by
    unfold duplicateIdProblems withoutNulls
    rw [List.map_map]
    rfl
  rw [problems, problems, missing, duplicate]
  rfl

section
variable {scene : Scene} (h : ∀ e ∈ scene.elements, ∀ b ∈ e.blocks, b.KeysOnce)
include h

theorem code_withoutNulls : scene.withoutNulls.code = scene.code := by
  have drawn : scene.withoutNulls.drawStatements = scene.drawStatements := by
    unfold drawStatements
    rw [backgroundColor?_withoutNulls, drawnElements_withoutNulls, List.flatMap_map]
    congr 1
    exact List.flatMap_congr fun e he =>
      Element.statements_withoutNulls (h e (List.mem_of_mem_filter he))
  have setup : scene.withoutNulls.setupStatements = scene.setupStatements := by
    unfold setupStatements
    rw [backgroundColor?_withoutNulls]
    rfl
  simp only [code, sketch, setupLines, drawLines, drawn, setup]
  rfl

theorem fault?_withoutNulls : scene.withoutNulls.fault? = scene.fault? := by
  unfold fault?
  rw [drawnElements_withoutNulls, List.findSome?_map, ← List.head?_filterMap,
    ← List.head?_filterMap]
  refine congrArg List.head? (List.filterMap_congr fun e he => ?_)
  have axis := axisFault?_map (h e (List.mem_of_mem_filter he))
  rw [Function.comp_apply, Element.fault?, Element.fault?, Element.blocks_withoutNulls, axis]
  rfl

/-- **A scene without its null members has the same code, or none for the same reason.** -/
theorem compile_withoutNulls : scene.withoutNulls.compile = scene.compile := by
  rw [compile, compile, fault?_withoutNulls h, code_withoutNulls h]

end

end Scene

end SceneSketch
