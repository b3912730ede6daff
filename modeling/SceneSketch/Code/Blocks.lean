import SceneSketch.Code.Statement

/-!
# The code of behavior blocks

Blocks are put in order by the priority of their kind, blocks of one priority staying in their
order. Along that order a block that names an axis claims it, and a block whose axis is already
claimed is displaced. What remains is written block after block.
-/

namespace SceneSketch

/-! ## Order -/

/-- The priority of a kind of blocks, the first drawn first. -/
inductive Priority
  | motion
  | noise
  | jitter
  | color
  | pointer
  | event
  | unknown
deriving DecidableEq

def Priority.all : List Priority :=
  [motion, noise, jitter, color, pointer, event, unknown]

def Priority.number : Priority → Nat
  | motion => 1
  | noise => 2
  | jitter => 3
  | color => 4
  | pointer => 5
  | event => 6
  | unknown => 10

def Priority.ofKinds : List (Text × Priority) :=
  [("oscillate", motion), ("bounce", motion), ("circlePath", motion), ("rotate", motion),
    ("perlinNoise", noise), ("jitter", jitter), ("pulse", color), ("rainbow", color),
    ("followMouse", pointer), ("clickToChange", event)]

/-- The priority goes by the kind that a block says it has. -/
def Block.priority (block : Block) : Priority :=
  (Priority.ofKinds.lookup block.kind).getD .unknown

/-- Blocks by priority, each priority in the given order. -/
def byPriority (blocks : List Block) : List Block :=
  Priority.all.flatMap fun p => blocks.filter fun b => b.priority = p

/-! ## Axes -/

/-- What claims of axes are compared by: texts by their letters, numbers and truth values by
their value. -/
inductive AxisLabel
  | text (name : Text)
  | number (units : Int)
  | infinite (negative : Bool)
  | nan
deriving DecidableEq

inductive AxisClaim
  | free
  | claims (label : AxisLabel)
  | containerKey (container : Container)
deriving DecidableEq

/-- The claim of an axis that may be any value: what is empty or zero claims nothing. -/
def Json.axisClaim : Json → AxisClaim
  | null => .free
  | bool b => if b then .claims (.number unitsPerOne) else .free
  | int n => if n = 0 then .free else .claims (.number (n * unitsPerOne))
  | num .nan => .claims .nan
  | num (.infinite negative) => .claims (.infinite negative)
  | num (.finite x) => if x.rank = 0 then .free else .claims (.number x.units)
  | str s => if s = "" then .free else .claims (.text s)
  | arr items => if items.isEmpty then .free else .containerKey .list
  | obj members => if members.isEmpty then .free else .containerKey .object

/-- The value of the axis of a block, null if it has none. -/
def Block.axis : Block → Json
  | oscillate b => .str b.axis.name
  | bounce b => .str b.axis.name
  | perlinNoise b => .str b.axis.name
  | unknown b => (Members.get? b.extras "axis").getD .null
  | _ => .null

def Block.axisClaim (block : Block) : AxisClaim :=
  block.axis.axisClaim

inductive Fate
  | kept
  | displaced
  | containerKey (container : Container)
deriving DecidableEq

/-- Goes along the blocks with the axes that are claimed so far. An axis that cannot be compared
ends the walk. -/
def settle : List AxisLabel → List Block → List (Block × Fate)
  | _, [] => []
  | claimed, block :: rest =>
    match block.axisClaim with
    | .free => (block, .kept) :: settle claimed rest
    | .claims label =>
      if label ∈ claimed then (block, .displaced) :: settle claimed rest
      else (block, .kept) :: settle (label :: claimed) rest
    | .containerKey c => [(block, .containerKey c)]

def arrange (blocks : List Block) : List (Block × Fate) :=
  settle [] (byPriority blocks)

def keptBlocks (blocks : List Block) : List Block :=
  (arrange blocks).filterMap fun
    | (block, .kept) => some block
    | _ => none

/-- The axis that could not be compared, if there is one. -/
def axisFault? (blocks : List Block) : Option Container :=
  (arrange blocks).findSome? fun
    | (_, .containerKey c) => some c
    | _ => none

/-! ## Code -/

/-- Where a shape stands on an axis, zero for shapes that nothing moves. -/
def Shape.base (shape : Shape) (axis : Axis) : Double :=
  match shape.anchor?, axis with
  | some (x, _), .x => x
  | some (_, y), .y => y
  | none, _ => 0

/-- The statements of a block on an element of that shape. A rotation opens a transformation that
is closed after the shape; blocks that wait for an event and unknown ones have no statements. -/
def Block.statements (shape : Shape) : Block → List Statement
  | oscillate b =>
    [.declare b.axis.toVariable
      (.around (.number (shape.base b.axis)) (.trig .sin) b.speed b.range)]
  | rotate b => [.push, .toMiddle, .rotate b.speed, .fromMiddle]
  | bounce b =>
    [.declare b.axis.toVariable (.around (.number b.min) .absSin b.speed (b.max - b.min))]
  | circlePath b =>
    [.declare .x (.around (.middle .x) (.trig .cos) b.speed b.radius),
      .declare .y (.around (.middle .y) (.trig .sin) b.speed b.radius)]
  | perlinNoise b =>
    [.declare b.axis.toVariable (.around (.number (shape.base b.axis)) .noise b.speed b.scale)]
  | jitter b => [.declare .jitterX (.random b.amount), .declare .jitterY (.random b.amount)]
  | pulse b => [.declare .alpha (.fade b.speed b.minAlpha b.maxAlpha)]
  | rainbow b => [.declare .hue (.wheel b.speed)]
  | followMouse b =>
    match shape.anchor? with
    | some (x, y) => [.declare .x (.towards x .x b.speed), .declare .y (.towards y .y b.speed)]
    | none => []
  | clickToChange _ => []
  | unknown _ => []

def blockStatements (shape : Shape) (blocks : List Block) : List Statement :=
  (keptBlocks blocks).flatMap fun b => b.statements shape

end SceneSketch
