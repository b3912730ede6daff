import SceneSketch.Proofs.Acceptance
import SceneSketch.Proofs.AxisFaults
import SceneSketch.Proofs.Operands
import SceneSketch.Proofs.Survival

/-!
# Signs in a row

A number has a minus sign at its head if it is below zero, and maybe one behind its exponent mark,
so no number has two of them in a row (`Double.not_paired_codeText`). Where numbers meet other text
there is a mark between them, with one exception: the lower bound of a jitter stands behind a minus
sign of the code. So two signs stand in a row exactly if that number is below zero
(`Scene.signs_apart_iff`).
-/

namespace SceneSketch

/-- Two minus signs stand in a row. -/
def Paired (cs : List Char) : Prop :=
  ['-', '-'] <:+: cs

instance (cs : List Char) : Decidable (Paired cs) :=
  inferInstanceAs (Decidable (['-', '-'] <:+: cs))

section
variable {a b cs : List Char} {d : Char}

theorem not_paired_of_not_mem (h : '-' ∉ cs) : ¬ Paired cs :=
  fun hp => h (hp.subset (by simp))

theorem paired_append_cons (hd : d ≠ '-') : Paired (a ++ d :: b) ↔ Paired a ∨ Paired b := by
  constructor
  · exact infix_append_cons (by simpa using hd)
  · rintro (h | h)
    · exact h.trans (List.prefix_append a _).isInfix
    · exact h.trans ((List.suffix_cons d b).trans (List.suffix_append a _)).isInfix

theorem paired_cons (hd : d ≠ '-') : Paired (d :: cs) ↔ Paired cs := by
  rw [← List.nil_append (d :: cs), paired_append_cons hd]
  exact or_iff_right (by decide)

theorem paired_minus : Paired ('-' :: cs) ↔ cs.head? = some '-' ∨ Paired cs := by
  rw [Paired, List.infix_cons_iff]
  refine or_congr ?_ Iff.rfl
  rw [List.cons_prefix_cons]
  cases cs <;> simp [eq_comm]

theorem paired_intercalate (hd : d ≠ '-') : ∀ ls : List (List Char),
    Paired ([d].intercalate ls) ↔ ∃ l ∈ ls, Paired l
  | [] => by simp [Paired]
  | [l] => by simp
  | l :: k :: ls => by
    rw [List.intercalate_cons_cons, List.append_assoc, List.singleton_append, paired_append_cons hd,
      paired_intercalate hd (k :: ls)]
    simp

end

/-! ## Numbers -/

theorem Digits.minus_not_mem {cs : List Char} (h : Digits cs) : '-' ∉ cs :=
  fun hm => absurd (h.digits '-' hm) (by decide)

theorem UnsignedLiteral.count_minus {cs : List Char} (h : UnsignedLiteral cs) :
    cs.count '-' ≤ 1 := by
  obtain ⟨whole, fraction, exponent⟩ := h
  have digits {cs : List Char} (h : Digits cs) : cs.count '-' = 0 :=
    List.count_eq_zero.mpr h.minus_not_mem
  have front : ∀ {fraction : List Char}, FractionPart fraction → fraction.count '-' = 0 := by
    rintro _ (_ | h)
    · rfl
    · simpa using digits h
  rw [List.count_append, List.count_append, digits whole.toDigits, front fraction]
  cases exponent with
  | none => simp
  | mark hs h =>
    rw [List.count_cons_of_ne (by decide), List.count_cons, digits h]
    split <;> simp

theorem UnsignedLiteral.head?_ne_minus {cs : List Char} (h : UnsignedLiteral cs) :
    cs.head? ≠ some '-' := by
  obtain ⟨whole, -, -⟩ := h
  intro head
  rw [List.append_assoc, List.head?_append_of_ne_nil _ whole.nonempty] at head
  exact whole.minus_not_mem (List.mem_of_mem_head? head)

theorem UnsignedLiteral.not_paired {cs : List Char} (h : UnsignedLiteral cs) : ¬ Paired cs := by
  intro hp
  have two : 2 ≤ cs.count '-' := hp.sublist.count_le '-'
  exact absurd (two.trans h.count_minus) (by decide)

namespace SignedLiteral

variable {negative : Bool} {cs : List Char}

theorem head?_eq_minus (h : SignedLiteral negative cs) : cs.head? = some '-' ↔ negative = true := by
  obtain ⟨h⟩ := h
  cases negative with
  | false => exact iff_of_false h.head?_ne_minus Bool.false_ne_true
  | true => exact iff_of_true rfl rfl

theorem not_paired (h : SignedLiteral negative cs) : ¬ Paired cs := by
  obtain ⟨h⟩ := h
  cases negative with
  | false => exact h.not_paired
  | true => exact fun hp => (paired_minus.mp hp).elim h.head?_ne_minus h.not_paired

end SignedLiteral

namespace Double

/-- Less than zero; a zero of either sign is not. -/
def isBelowZero : Double → Bool
  | nan => false
  | infinite negative => negative
  | finite x => x.isBelowZero

theorem not_paired_codeText (x : Double) : ¬ Paired x.codeText.toList := by
  cases x with
  | nan => decide
  | infinite negative => cases negative <;> decide
  | finite x => exact x.signed_codeText.not_paired

theorem head?_codeText (x : Double) : x.codeText.toList.head? = some '-' ↔
    x.isBelowZero = true := by
  cases x with
  | nan => decide
  | infinite negative => cases negative <;> decide
  | finite x => exact x.signed_codeText.head?_eq_minus

end Double

/-! ## Statements -/

def Piece.unpaired : Piece → Bool
  | fixed text => !containsWord "--" text
  | _ => true

theorem unpaired_arguments :
    ∀ {args : List (List Piece)}, (∀ a ∈ args, a.all Piece.unpaired = true) →
    (List.intercalate [.fixed ", "] args).all Piece.unpaired = true
  | [], _ => rfl
  | [a], h => by simpa using h
  | a :: b :: args, h => by
    obtain ⟨ha, hrest⟩ := List.forall_mem_cons.mp h
    have comma : (Piece.fixed ", ").unpaired = true := rfl
    rw [List.intercalate_cons_cons, List.all_append, List.all_append, ha, unpaired_arguments hrest]
    simp [comma]

theorem unpaired_call {function : String} (hf : (Piece.fixed (function ++ "(")).unpaired = true)
    {args : List (List Piece)} (h : ∀ a ∈ args, a.all Piece.unpaired = true) :
    (callPieces function args).all Piece.unpaired = true := by
  have closing : (Piece.fixed ")").unpaired = true := rfl
  rw [callPieces, List.all_cons, List.all_append, hf, unpaired_arguments h]
  simp [closing]

theorem unpaired_numbers {function : String} (hf : (Piece.fixed (function ++ "(")).unpaired = true)
    (xs : List Double) : (callPieces function (numberArguments xs)).all Piece.unpaired = true := by
  refine unpaired_call hf fun a ha => ?_
  obtain ⟨x, _, rfl⟩ := List.mem_map.mp ha
  rfl

theorem Signal.unpaired_pieces (signal : Signal) : signal.pieces.all Piece.unpaired = true := by
  cases signal with
  | around origin cycle speed factor =>
    rcases origin with x | ⟨⟨⟩⟩ <;> rcases cycle with ⟨⟨⟩⟩ | _ | _ <;> rfl
  | offset origin distance => rcases origin with x | ⟨⟨⟩⟩ <;> rfl
  | towards start axis speed => cases axis <;> rfl
  | _ => rfl

namespace Statement

theorem unpaired_pieces (s : Statement) : s.pieces.all Piece.unpaired = true := by
  have coordinate (c : Coordinate) : [c.piece].all Piece.unpaired = true := by
    rcases c with x | ⟨⟨⟩⟩ | ⟨⟨⟩⟩ <;> rfl
  have arguments {x y : Coordinate} {v w : Double} :
      ∀ a ∈ [[x.piece], [y.piece], [.number v], [.number w]], a.all Piece.unpaired = true := by
    simp only [List.forall_mem_cons]
    exact ⟨coordinate x, coordinate y, rfl, rfl, List.forall_mem_nil _⟩
  cases s with
  | createCanvas c => exact unpaired_numbers rfl _
  | colorMode mode => cases mode <;> rfl
  | background color => exact unpaired_numbers rfl _
  | fill color => exact unpaired_numbers rfl _
  | stroke color => exact unpaired_numbers rfl _
  | declare v signal =>
    rw [pieces, List.all_cons, signal.unpaired_pieces, Bool.and_true]
    cases v <;> rfl
  | ellipse x y diameter => exact unpaired_call rfl arguments
  | rect x y width height => exact unpaired_call rfl arguments
  | shadowColor color =>
    cases color with
    | none => rfl
    | some color =>
      rw [pieces, List.all_cons, List.all_append, colorArguments, unpaired_numbers rfl]
      rfl
  | _ => rfl

/-- The statement puts a minus sign in front of a number that has one. -/
def doublesSign : Statement → Bool
  | declare _ (.random amount) => amount.isBelowZero
  | _ => false

theorem not_paired_of_not_negates {s : Statement} (h : s.negates = false) :
    ¬ Paired (pieceChars s.pieces) := by
  intro hp
  have unmarked : ∀ c ∈ ['-', '-'], c ∉ seamMarks := by simp [seamMarks]
  have seams := (tidy_iff.mp s.tidy_pieces).1
  rw [h, if_neg Bool.false_ne_true] at seams
  obtain ⟨p, hmem, hp⟩ := exists_piece_of_infix (List.cons_ne_nil _ _) unmarked seams hp
  cases p with
  | fixed text =>
    have single := List.all_eq_true.mp s.unpaired_pieces _ hmem
    rw [Piece.unpaired, Bool.not_eq_true', ← Bool.not_eq_true, containsWord_iff] at single
    exact single hp
  | number x => exact x.not_paired_codeText hp
  | literal content =>
    exact not_paired_of_not_mem (fun hm => absurd (mem_literalChars '-' hm) (by decide)) hp

theorem paired_random (v : Variable) (amount : Double) :
    Paired (pieceChars (declare v (.random amount)).pieces) ↔ amount.isBelowZero = true := by
  have text : pieceChars (declare v (.random amount)).pieces =
      ("let " ++ v.name ++ " = random").toList ++
      '(' :: ('-' :: amount.codeText.toList ++ ',' :: ' ' ::
        (amount.codeText.toList ++ [')'])) := by
    simp [pieces, Signal.pieces, Piece.text]
  have front : ¬ Paired ("let " ++ v.name ++ " = random").toList :=
    not_paired_of_not_mem (by cases v <;> simp [Variable.name])
  have bound : Paired ('-' :: amount.codeText.toList) ↔ amount.isBelowZero = true := by
    rw [paired_minus, amount.head?_codeText, or_iff_left amount.not_paired_codeText]
  have behind : ¬ Paired (' ' :: (amount.codeText.toList ++ [')'])) := by
    rw [paired_cons (by decide), paired_append_cons (by decide)]
    exact not_or.mpr ⟨amount.not_paired_codeText, by decide⟩
  rw [text, paired_append_cons (by decide), or_iff_right front,
    paired_append_cons (by decide), bound, or_iff_left behind]

/-- **Two signs stand in a row exactly where a lower bound is below zero already.** -/
theorem paired_iff (s : Statement) : Paired (pieceChars s.pieces) ↔ s.doublesSign = true := by
  by_cases h : s.negates = true
  · cases s with
    | declare v signal =>
      cases signal with
      | random amount => exact paired_random v amount
      | _ => cases h
    | _ => cases h
  · have single : s.doublesSign = false := by
      cases s with
      | declare v signal =>
        cases signal with
        | random amount => exact absurd rfl h
        | _ => rfl
      | _ => rfl
    rw [single]
    exact iff_of_false (not_paired_of_not_negates (Bool.eq_false_iff.mpr h)) Bool.false_ne_true

end Statement

/-! ## Lines -/

theorem Remark.not_paired_text (remark : Remark) : ¬ Paired remark.text.toList := by
  have labelled (label : String) (h : ¬ Paired label.toList) (x : Double) {u : Char}
      (hu : u ≠ '-') :
      ¬ Paired (label.toList ++ ' ' :: (x.codeText.toList ++ [u])) := by
    rw [paired_append_cons (by decide), paired_append_cons hu]
    exact not_or.mpr ⟨h, not_or.mpr ⟨x.not_paired_codeText, by decide⟩⟩
  cases remark with
  | hueShift degrees =>
    have := labelled "Apply hue shift:" (by decide +kernel) degrees (u := '°') (by decide)
    change ¬ Paired ("Apply hue shift: " ++ degrees.codeText ++ "°").toList
    simpa using this
  | saturation percent =>
    have := labelled "Apply saturation:" (by decide +kernel) percent (u := '%') (by decide)
    change ¬ Paired ("Apply saturation: " ++ percent.codeText ++ "%").toList
    simpa using this
  | _ => exact not_paired_of_not_mem (by decide +kernel)

namespace Line

def doublesSign : Line → Bool
  | code s => s.doublesSign
  | _ => false

theorem not_paired_iff (line : Line) : ¬ Paired line.text.toList ↔ line.doublesSign = false := by
  rw [← Bool.not_eq_true, not_iff_not, toList_text]
  cases line with
  | blank => decide
  | remark r =>
    have slash : '/' ≠ '-' := by decide
    have space : ' ' ≠ '-' := by decide
    rw [if_neg (by simp [content]), content, paired_cons space, paired_cons space,
      paired_cons slash, paired_cons slash, paired_cons space]
    exact iff_of_false r.not_paired_text Bool.false_ne_true
  | code s =>
    rw [if_neg (by simp [content]), content, paired_cons (by decide), paired_cons (by decide),
      paired_append_cons (by decide), or_iff_left (by decide)]
    exact s.paired_iff

end Line

/-! ## Elements -/

def SingleSigns (statements : List Statement) : Prop :=
  ∀ s ∈ statements, s.doublesSign = false

theorem singleSigns_append {a b : List Statement} :
    SingleSigns (a ++ b) ↔ SingleSigns a ∧ SingleSigns b :=
  List.forall_mem_append

def Block.doublesSign : Block → Bool
  | jitter b => b.amount.isBelowZero
  | _ => false

theorem Block.singleSigns_iff (b : Block) (shape : Shape) :
    SingleSigns (b.statements shape) ↔ b.doublesSign = false := by
  unfold SingleSigns statements
  cases b with
  | followMouse b => cases shape.anchor? <;> simp [Statement.doublesSign, doublesSign]
  | _ => simp [Statement.doublesSign, doublesSign]

namespace Element

theorem singleSigns_declarations (e : Element) : SingleSigns e.position.declarations := by
  unfold SingleSigns position
  cases e.shape.anchor? with
  | none => exact List.forall_mem_nil _
  | some anchor =>
    cases e.behavior with
    | animated a =>
      obtain ⟨_, motion⟩ := a
      cases motion <;> simp [Statement.doublesSign]
    | _ => exact List.forall_mem_nil _

theorem singleSigns_shapeStatements (e : Element) : SingleSigns e.shapeStatements := by
  obtain ⟨before, he, hbefore⟩ := e.shapeStatements_split
  have style : SingleSigns e.style.statements :=
    Style.forall_statements rfl (fun _ _ => rfl) rfl (fun _ _ => rfl) fun _ _ => rfl
  have call : e.shapeCall.doublesSign = false := by
    unfold shapeCall
    cases e.shape <;> rfl
  intro s hs
  rw [he, List.mem_append, List.mem_singleton] at hs
  rcases hs with hs | rfl
  · rcases hbefore s hs with hs | hs | ⟨size, rfl⟩
    · exact style s hs
    · exact e.singleSigns_declarations s hs
    · rfl
  · exact call

theorem singleSigns_iff {e : Element} (h : axisFault? e.blocks = none) :
    SingleSigns e.statements ↔ ∀ b, .jitter b ∈ e.blocks → ¬ b.amount.isBelowZero = true := by
  have closing : SingleSigns e.closing := by
    intro s hs
    obtain ⟨_, _, rfl⟩ := List.mem_map.mp hs
    rfl
  have blocks : SingleSigns (blockStatements e.shape e.blocks) ↔
      ∀ b ∈ e.blocks, ¬ b.doublesSign = true := by
    -- a jitter claims no axis, so that it is kept
    have kept := countP_keptBlocks_free h (p := Block.doublesSign) fun b hb => by
      cases b with
      | jitter b => rfl
      | _ => cases hb
    rw [← List.countP_eq_zero, ← kept, List.countP_eq_zero]
    simp only [SingleSigns, blockStatements, List.forall_mem_flatMap]
    exact forall₂_congr fun b _ => (b.singleSigns_iff e.shape).trans (by rw [Bool.not_eq_true])
  rw [statements, singleSigns_append, singleSigns_append, and_iff_left closing,
    and_iff_left e.singleSigns_shapeStatements]
  refine blocks.trans ⟨fun all b hb => all _ hb, fun all b hb => ?_⟩
  cases b with
  | jitter b => exact all b hb
  | _ => exact Bool.false_ne_true

end Element

/-! ## Scenes -/

theorem Filter.single_lines (filter : Filter) :
    ∀ line ∈ filter.lines, line.doublesSign = false := by
  cases filter with
  | colorShift c =>
    rw [lines]
    split <;> simp [Line.doublesSign, Statement.doublesSign]
  | _ => simp [lines, Line.doublesSign, Statement.doublesSign]

namespace Scene

theorem single_effectSection (scene : Scene) :
    ∀ line ∈ scene.effectSection, line.doublesSign = false :=
  forall_effectSection rfl rfl fun e _ => e.filter.single_lines

theorem singleSigns_setup (scene : Scene) : SingleSigns scene.setupStatements := by
  unfold setupStatements SingleSigns
  simp only [List.forall_mem_cons, List.forall_mem_append, Option.mem_toList,
    Option.map_eq_some_iff]
  refine ⟨rfl, ⟨?_, ?_⟩, ?_⟩ <;> rintro _ ⟨_, _, rfl⟩ <;> rfl

theorem not_paired_code_iff (scene : Scene) :
    ¬ Paired scene.code.toList ↔ ∀ line ∈ scene.setupLines ++ scene.drawLines,
      line.doublesSign = false := by
  have fixed : ∀ l ∈ fixedLines, ¬ Paired l.toList := by decide +kernel
  rw [toList_eq_intercalate, paired_intercalate (by decide)]
  push Not
  rw [List.forall_mem_map, forall_textLines_code fixed]
  exact forall₂_congr fun line _ => line.not_paired_iff

/-- **Two minus signs stand in a row in the code of a scene exactly if an element that is drawn has
a jitter with an amount below zero.** -/
theorem signs_apart_iff {scene : Scene} {code : String} (ok : scene.compile = .ok code) :
    ¬ Paired code.toList ↔
      ∀ e ∈ scene.drawnElements, ∀ b, .jitter b ∈ e.blocks → ¬ b.amount.isBelowZero = true := by
  obtain ⟨fault, rfl⟩ := compile_eq_ok.mp ok
  have coded {statements : List Statement} :
      (∀ line ∈ statements.map Line.code, line.doublesSign = false) ↔ SingleSigns statements :=
    List.forall_mem_map
  have background : SingleSigns
      ((scene.backgroundColor? false).map Statement.background).toList := by
    intro s hs
    obtain ⟨_, _, rfl⟩ := Option.map_eq_some_iff.mp (Option.mem_toList.mp hs)
    rfl
  rw [not_paired_code_iff, List.forall_mem_append, setupLines, drawLines, List.forall_mem_append,
    coded, coded, drawStatements, singleSigns_append, and_iff_right scene.singleSigns_setup,
    and_iff_left scene.single_effectSection, and_iff_right background]
  refine List.forall_mem_flatMap.trans (forall₂_congr fun e he => ?_)
  exact Element.singleSigns_iff (fault?_eq_none fault e he)

end Scene

def shaking (size amount : FiniteDouble) : Scene where
  canvas := ⟨.finite size, .finite size⟩
  elements := [{
    id := "a"
    shape := .circle ⟨.finite size, .finite size, .finite size⟩
    placed := [⟨.jitter ⟨.finite amount⟩, rfl⟩] }]

def shakingDocument (size amount : FiniteDouble) : Json :=
  .obj [("canvas", .obj [("width", .num (.finite size)), ("height", .num (.finite size))]),
    ("elements", .arr [.obj [("id", .str "a"),
      ("type", .obj [("kind", .str "circle"), ("x", .num (.finite size)),
        ("y", .num (.finite size)),
        ("diameter", .num (.finite size))]),
      ("blocks", .arr [.obj [("type", .str "jitter"), ("amount", .num (.finite amount))]])]])]

theorem read_shaking (size amount : FiniteDouble) :
    Scene.codec.read (shakingDocument size amount) = .accepted (shaking size amount) ∧
      (shaking size amount).compile = .ok (shaking size amount).code :=
  ⟨rfl, rfl⟩

def five (negative : Bool) : FiniteDouble :=
  ⟨negative, 0x4014000000000000, by decide⟩

example : (5 : Double) = .finite (five false) := by decide +kernel

namespace Scene

theorem signs_apart_shaking :
    let scene := shaking fourHundred (five false)
    scene.compile = .ok scene.code ∧ ¬ Paired scene.code.toList := by
  have ok := (read_shaking fourHundred (five false)).2
  refine ⟨ok, (signs_apart_iff ok).mpr ?_⟩
  intro e he b hb
  obtain rfl : e = _ := List.mem_singleton.mp he
  cases List.mem_singleton.mp hb
  decide

/-- With `-5` for its amount the lower bound of a jitter is written as `--5`. -/
theorem signs_meet : ¬ ∀ document scene code, Scene.codec.read document = .accepted scene →
    scene.compile = .ok code → ¬ Paired code.toList := by
  intro apart
  obtain ⟨read, ok⟩ := read_shaking fourHundred (five true)
  have single := (not_paired_code_iff _).mp (apart _ _ _ read ok)
  have doubled : Line.code (.declare .jitterX (.random (.finite (five true)))) ∈
      (shaking fourHundred (five true)).setupLines ++ (shaking fourHundred (five true)).drawLines :=
    List.mem_append_right _ (.head _)
  exact absurd (single _ doubled) (by decide)

end Scene

end SceneSketch
