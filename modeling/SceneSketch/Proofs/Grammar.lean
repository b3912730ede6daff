import Mathlib.Data.List.Basic
import SceneSketch.Code.Compile
import SceneSketch.Proofs.NumberText

/-!
# The grammar of emitted code

Every statement and every remark of a compiled scene is derived from a fixed vocabulary, numbers,
and literals, put together by separators and parentheses (`Statement.derived`, `Remark.expression`).
Nothing of a scene enters its code in any other way, so what holds of every derivation holds of the
code of every scene.
-/

namespace SceneSketch

def vocabulary : List String :=
  ["createCanvas", "colorMode", "RGB", "HSB", "frameRate", "background", "noFill", "fill",
    "noStroke", "stroke", "strokeWeight", "let", "x", "y", "jitterX", "jitterY", "alpha", "hue",
    "pg", "ellipse", "rect", "line", "textSize", "text", "push", "pop", "translate", "width",
    "height", "rotate", "frameCount", "filter", "BLUR", "THRESHOLD", "INVERT",
    "drawingContext.shadowBlur", "drawingContext.shadowColor", "'rgba", "'", "color", ".toString",
    "loadPixels", "updatePixels", "pg.copy", "get", "pg.width", "pg.height", "image", "mouseX",
    "mouseY", "sin", "cos", "abs", "noise", "random", "map", "lerp", "createGraphics", "Apply",
    "visual", "effects", "Color", "shift", "effect", "Pixelate", "saturation"]

def separators : List Char :=
  [' ', ',', '+', '-', '*', '/', '%', '=', ':', '°']

theorem Variable.name_mem (v : Variable) : v.name ∈ vocabulary := by
  cases v <;> simp [name, vocabulary]

theorem Axis.pointerName_mem (axis : Axis) : axis.pointerName ∈ vocabulary := by
  cases axis <;> simp [pointerName, vocabulary]

theorem Trig.name_mem (t : Trig) : t.name ∈ vocabulary := by
  cases t <;> simp [name, vocabulary]

theorem ColorMode.name_mem (mode : ColorMode) : mode.name ∈ vocabulary := by
  cases mode <;> simp [name, vocabulary]

inductive Expression : List Char → Prop
  | empty : Expression []
  | word (w : String) (h : w ∈ vocabulary) : Expression w.toList
  | number {n : List Char} (h : Numeral n) : Expression n
  | literal (content : String) : Expression (scriptLiteral content).toList
  | join {a b : List Char} (d : Char) (h : d ∈ separators) :
    Expression a → Expression b → Expression (a ++ d :: b)
  | group {a b c : List Char} :
    Expression a → Expression b → Expression c → Expression (a ++ '(' :: (b ++ ')' :: c))

namespace Expression

variable {a b : List Char}

theorem double (x : Double) : Expression x.codeText.toList := .number x.numeral_codeText

theorem before (d : Char) (h : d ∈ separators) (hb : Expression b) : Expression (d :: b) :=
  .join d h .empty hb

theorem after (d : Char) (h : d ∈ separators) (ha : Expression a) : Expression (a ++ [d]) :=
  .join d h ha .empty

theorem operation (op : Char) (h : op ∈ separators) (ha : Expression a) (hb : Expression b) :
    Expression (a ++ ' ' :: op :: ' ' :: b) :=
  .join ' ' (by decide) ha (before op h (before ' ' (by decide) hb))

end Expression

/-! ## Pieces -/

def pieceChars (pieces : List Piece) : List Char :=
  pieces.flatMap fun p => p.text.toList

theorem toList_piecesText (pieces : List Piece) :
    (piecesText pieces).toList = pieceChars pieces := by
  rw [piecesText, String.toList_join, List.flatMap_map]
  rfl

@[simp]
theorem pieceChars_nil : pieceChars [] = [] := rfl

@[simp]
theorem pieceChars_cons (p : Piece) (pieces : List Piece) :
    pieceChars (p :: pieces) = p.text.toList ++ pieceChars pieces := rfl

@[simp]
theorem pieceChars_append (ps qs : List Piece) :
    pieceChars (ps ++ qs) = pieceChars ps ++ pieceChars qs := by
  simp [pieceChars]

def Derived (pieces : List Piece) : Prop := Expression (pieceChars pieces)

theorem derived_word {w : String} (h : w ∈ vocabulary) : Derived [.fixed w] := by
  simpa [Derived, Piece.text] using Expression.word w h

theorem derived_number (x : Double) : Derived [.number x] := by
  simpa [Derived, Piece.text] using Expression.double x

theorem derived_literal (s : String) : Derived [.literal s] := by
  simpa [Derived, Piece.text] using Expression.literal s

theorem derived_intercalate : ∀ {args : List (List Piece)}, args.Forall Derived →
    Derived (List.intercalate [.fixed ", "] args)
  | [], _ => .empty
  | [a], h => by simpa using h
  | a :: b :: args, h => by
    have hrest : Derived (List.intercalate [.fixed ", "] (b :: args)) := derived_intercalate h.2
    have := Expression.join ',' (by decide) h.1 (.before ' ' (by decide) hrest)
    rw [List.intercalate_cons_cons]
    simpa [Derived, Piece.text] using this

theorem derived_call {f : String} (hf : f ∈ vocabulary) {args : List (List Piece)}
    (h : args.Forall Derived) :
    Derived (callPieces f args) := by
  have := Expression.group (.word f hf) (derived_intercalate h) .empty
  simpa [Derived, callPieces, Piece.text] using this

theorem forall_derived_numbers (xs : List Double) : (numberArguments xs).Forall Derived := by
  rw [List.forall_iff_forall_mem]
  intro a ha
  obtain ⟨x, _, rfl⟩ := List.mem_map.mp ha
  exact derived_number x

theorem derived_numbers {function : String} (hf : function ∈ vocabulary) (xs : List Double) :
    Derived (callPieces function (numberArguments xs)) :=
      derived_call hf (forall_derived_numbers xs)

/-! ## Values -/

theorem Coordinate.derived (c : Coordinate) : Derived [c.piece] := by
  cases c with
  | number x => exact derived_number x
  | declared axis => exact derived_word axis.toVariable.name_mem
  | pointer axis => exact derived_word axis.pointerName_mem

theorem expression_half {w : String} (h : w ∈ vocabulary) :
    Expression (w.toList ++ [' ', '/', ' ', '2']) :=
  .operation '/' (by decide) (.word w h) (.number (by decide))

theorem Origin.derived (origin : Origin) : Derived [origin.piece] := by
  rcases origin with x | axis
  · exact derived_number x
  · cases axis
    · simpa [Derived, piece, Piece.text] using expression_half (w := "width") (by simp [vocabulary])
    · simpa [Derived, piece, Piece.text]
        using expression_half (w := "height") (by simp [vocabulary])

theorem expression_phase (speed : Double) :
    Expression ("frameCount * ".toList ++ speed.codeText.toList) := by
  simpa using Expression.operation '*' (by decide) (.word "frameCount" (by simp [vocabulary]))
    (.double speed)

theorem Cycle.derived (speed : Double) (cycle : Cycle) : Derived (cycle.pieces speed) := by
  have phase := expression_phase speed
  cases cycle with
  | trig t =>
    simpa [Derived, pieces, Piece.text] using Expression.group (.word _ t.name_mem) phase .empty
  | absSin =>
    have sine := Expression.group (.word "sin" (by simp [vocabulary])) phase .empty
    simpa [Derived, pieces, Piece.text] using
      Expression.group (.word "abs" (by simp [vocabulary])) sine .empty
  | noise =>
    simpa [Derived, pieces, Piece.text] using
      Expression.group (.word "noise" (by simp [vocabulary])) phase .empty

theorem Signal.derived (signal : Signal) : Derived signal.pieces := by
  cases signal with
  | around origin cycle speed factor =>
    have product := Expression.operation '*' (by decide) (cycle.derived speed) (.double factor)
    simpa [Derived, pieces, Piece.text]
      using Expression.operation '+' (by decide) origin.derived product
  | offset origin distance =>
    simpa [Derived, pieces, Piece.text] using
      Expression.operation '+' (by decide) origin.derived (.double distance)
  | random amount =>
    have bounds := Expression.join ',' (by decide) (.before '-' (by decide) (.double amount))
      (.before ' ' (by decide) (.double amount))
    have function := Expression.word "random" (by simp [vocabulary])
    simpa [Derived, pieces, Piece.text] using Expression.group function bounds .empty
  | fade speed low high =>
    refine derived_call (by simp [vocabulary])
      ⟨Cycle.derived speed _, ?_, ?_, derived_number low, derived_number high⟩
    · simpa [Derived, Piece.text] using Expression.number (n := ['-', '1']) (by decide)
    · simpa [Derived, Piece.text] using Expression.number (n := ['1']) (by decide)
  | wheel speed =>
    have turn : Expression " % 360".toList := by
      simpa using Expression.operation '%' (by decide) .empty
        (.number (n := ['3', '6', '0']) (by decide))
    simpa [Derived, pieces, Piece.text] using Expression.group .empty (expression_phase speed) turn
  | towards start axis speed =>
    exact derived_call (by simp [vocabulary])
      ⟨derived_number start, (Coordinate.pointer axis).derived, derived_number speed⟩
  | buffer size =>
    refine derived_call (by simp [vocabulary]) ⟨?_, ?_⟩
    · simpa [Derived, Piece.text] using
        Expression.operation '/' (by decide) (.word "width" (by simp [vocabulary])) (.double size)
    · simpa [Derived, Piece.text] using
        Expression.operation '/' (by decide) (.word "height" (by simp [vocabulary])) (.double size)

/-! ## Statements -/

namespace Statement

theorem derived_color {function : String} (hf : function ∈ vocabulary) (color : Color) :
    Derived (callPieces function (colorArguments color)) := derived_numbers hf _

theorem derived_declare (v : Variable) (signal : Signal) : Derived (declare v signal).pieces := by
  have name : Expression v.name.toList := .word _ v.name_mem
  have target : Expression ("let ".toList ++ v.name.toList) := by
    simpa using Expression.join ' ' (by decide) (.word "let" (by simp [vocabulary])) name
  have := Expression.operation '=' (by decide) target signal.derived
  simpa [Derived, pieces, Piece.text] using this

theorem derived_translate (sign : List Char) (h : sign = [] ∨ sign = ['-']) :
    Derived (callPieces "translate" [[.fixed (String.ofList sign ++ "width / 2")],
      [.fixed (String.ofList sign ++ "height / 2")]]) := by
  have signed : ∀ w ∈ vocabulary, Derived [.fixed (String.ofList sign ++ (w ++ " / 2"))] := by
    intro w hw
    rcases h with rfl | rfl
    · simpa [Derived, Piece.text] using expression_half hw
    · simpa [Derived, Piece.text] using Expression.before '-' (by decide) (expression_half hw)
  exact derived_call (by simp [vocabulary])
    ⟨signed "width" (by simp [vocabulary]), signed "height" (by simp [vocabulary])⟩

theorem derived_copyToBuffer : Derived copyToBuffer.pieces := by
  have zero : Derived [.fixed "0"] := by
    simpa [Derived, Piece.text] using Expression.number (n := ['0']) (by decide)
  have get : Derived [.fixed "get()"] := by
    simpa [Derived, Piece.text]
      using Expression.group (.word "get" (by simp [vocabulary])) .empty .empty
  have width : Derived [.fixed "width"] := derived_word (by simp [vocabulary])
  have height : Derived [.fixed "height"] := derived_word (by simp [vocabulary])
  have bufferWidth : Derived [.fixed "pg.width"] := derived_word (by simp [vocabulary])
  have bufferHeight : Derived [.fixed "pg.height"] := derived_word (by simp [vocabulary])
  have args : List.Forall Derived [[.fixed "get()"], [.fixed "0"], [.fixed "0"], [.fixed "width"],
      [.fixed "height"], [.fixed "0"], [.fixed "0"], [.fixed "pg.width"], [.fixed "pg.height"]] :=
    ⟨get, zero, zero, width, height, zero, zero, bufferWidth, bufferHeight⟩
  have call := derived_call (f := "pg.copy") (by simp [vocabulary]) args
  simpa [Derived, pieces, callPieces, Piece.text, List.intercalate] using call

theorem derived_drawBuffer : Derived drawBuffer.pieces := by
  have zero : Derived [.fixed "0"] := by
    simpa [Derived, Piece.text] using Expression.number (n := ['0']) (by decide)
  have buffer : Derived [.fixed "pg"] := derived_word (by simp [vocabulary])
  have width : Derived [.fixed "width"] := derived_word (by simp [vocabulary])
  have height : Derived [.fixed "height"] := derived_word (by simp [vocabulary])
  have args : List.Forall Derived [[.fixed "pg"], [.fixed "0"], [.fixed "0"], [.fixed "width"],
      [.fixed "height"]] := ⟨buffer, zero, zero, width, height⟩
  have call := derived_call (f := "image") (by simp [vocabulary]) args
  simpa [Derived, pieces, callPieces, Piece.text, List.intercalate] using call

theorem derived_shadowColor (color : Option Color) : Derived (shadowColor color).pieces := by
  have target : Expression "drawingContext.shadowColor".toList := .word _ (by simp [vocabulary])
  cases color with
  | none =>
    have arguments : Expression "255, 255, 255, 0.8".toList := by
      have white : Expression ['2', '5', '5'] := .number (by decide)
      have alpha : Expression ['0', '.', '8'] := .number (by decide)
      simpa using Expression.join ',' (by decide) white (.before ' ' (by decide)
        (.join ',' (by decide) white (.before ' ' (by decide)
          (.join ',' (by decide) white (.before ' ' (by decide) alpha)))))
    have function := Expression.word "'rgba" (by simp [vocabulary])
    have value := Expression.group function arguments (.word "'" (by simp [vocabulary]))
    simpa [Derived, pieces, Piece.text] using Expression.operation '=' (by decide) target value
  | some color =>
    have text : Expression ".toString()".toList := by
      simpa using Expression.group (.word ".toString" (by simp [vocabulary])) .empty .empty
    have arguments : Derived (List.intercalate [.fixed ", "] (colorArguments color)) :=
      derived_intercalate (forall_derived_numbers _)
    have value := Expression.group (.word "color" (by simp [vocabulary])) arguments text
    simpa [Derived, pieces, callPieces, Piece.text]
      using Expression.operation '=' (by decide) target value

/-- **Every statement is an expression of the grammar.** -/
theorem derived (s : Statement) : Derived s.pieces := by
  cases s with
  | createCanvas c => exact derived_numbers (by simp [vocabulary]) _
  | colorMode mode =>
    exact derived_call (by simp [vocabulary]) (derived_word mode.name_mem)
  | frameRate rate => exact derived_numbers (by simp [vocabulary]) _
  | background color => exact derived_color (by simp [vocabulary]) color
  | noFill => exact derived_call (by simp [vocabulary]) trivial
  | fill color => exact derived_color (by simp [vocabulary]) color
  | noStroke => exact derived_call (by simp [vocabulary]) trivial
  | stroke color => exact derived_color (by simp [vocabulary]) color
  | strokeWeight weight => exact derived_numbers (by simp [vocabulary]) _
  | declare v signal => exact derived_declare v signal
  | ellipse x y diameter =>
    exact derived_call (by simp [vocabulary])
      ⟨x.derived, y.derived, derived_number _, derived_number _⟩
  | rect x y width height =>
    exact derived_call (by simp [vocabulary])
      ⟨x.derived, y.derived, derived_number _, derived_number _⟩
  | line s => exact derived_numbers (by simp [vocabulary]) _
  | textSize size => exact derived_numbers (by simp [vocabulary]) _
  | text content x y =>
    exact derived_call (by simp [vocabulary])
      ⟨derived_literal content, derived_number x, derived_number y⟩
  | push => exact derived_call (by simp [vocabulary]) trivial
  | pop => exact derived_call (by simp [vocabulary]) trivial
  | toMiddle => exact derived_translate [] (.inl rfl)
  | rotate speed =>
    exact derived_call (by simp [vocabulary])
      (by simpa [Derived, Piece.text] using expression_phase speed)
  | fromMiddle => exact derived_translate ['-'] (.inr rfl)
  | blur amount =>
    exact derived_call (by simp [vocabulary])
      ⟨derived_word (by simp [vocabulary]), derived_number amount⟩
  | threshold level =>
    exact derived_call (by simp [vocabulary])
      ⟨derived_word (by simp [vocabulary]), derived_number level⟩
  | invert =>
    exact derived_call (by simp [vocabulary]) (derived_word (by simp [vocabulary]))
  | shadowBlur intensity =>
    have name := Expression.word "drawingContext.shadowBlur" (by simp [vocabulary])
    simpa [Derived, pieces, Piece.text]
      using Expression.operation '=' (by decide) name (.double intensity)
  | shadowColor color => exact derived_shadowColor color
  | loadPixels => exact derived_call (by simp [vocabulary]) trivial
  | updatePixels => exact derived_call (by simp [vocabulary]) trivial
  | copyToBuffer => exact derived_copyToBuffer
  | drawBuffer => exact derived_drawBuffer

end Statement

/-! ## Lines -/

theorem expression_words {v w : String} (hv : v ∈ vocabulary) (hw : w ∈ vocabulary) :
    Expression (v.toList ++ ' ' :: w.toList) := .join ' ' (by decide) (.word v hv) (.word w hw)

theorem expression_labelled {label : List Char} (h : Expression label) (x : Double) {u : Char}
    (hu : u ∈ separators) : Expression (label ++ ':' :: ' ' :: (x.codeText.toList ++ [u])) :=
  .join ':' (by decide) h (.before ' ' (by decide) (.after u hu (.double x)))

/-- **Every remark is an expression of the grammar.** -/
theorem Remark.expression (remark : Remark) : Expression remark.text.toList := by
  have apply : "Apply" ∈ vocabulary := by simp [vocabulary]
  have effect : "effect" ∈ vocabulary := by simp [vocabulary]
  cases remark with
  | effects =>
    have := Expression.join ' ' (by decide) (.word "Apply" apply)
      (expression_words (v := "visual") (w := "effects") (by simp [vocabulary])
        (by simp [vocabulary]))
    change Expression "Apply visual effects".toList
    simpa using this
  | colorShift =>
    have := Expression.join ' ' (by decide) (.word "Color" (by simp [vocabulary]))
      (expression_words (v := "shift") (by simp [vocabulary]) effect)
    change Expression "Color shift effect".toList
    simpa using this
  | hueShift degrees =>
    have label := Expression.join ' ' (by decide) (.word "Apply" apply)
      (expression_words (v := "hue") (w := "shift") (by simp [vocabulary]) (by simp [vocabulary]))
    have := expression_labelled label degrees (u := '°') (by decide)
    change Expression ("Apply hue shift: " ++ degrees.codeText ++ "°").toList
    simpa using this
  | saturation percent =>
    have label := expression_words (w := "saturation") apply (by simp [vocabulary])
    have := expression_labelled label percent (u := '%') (by decide)
    change Expression ("Apply saturation: " ++ percent.codeText ++ "%").toList
    simpa using this
  | pixelate =>
    have := expression_words (v := "Pixelate") (by simp [vocabulary]) effect
    change Expression "Pixelate effect".toList
    simpa using this

def Line.content : Line → List Char
  | blank => []
  | remark r => '/' :: '/' :: ' ' :: r.text.toList
  | code s => pieceChars s.pieces ++ [';']

theorem Line.toList_text (line : Line) :
    line.text.toList = if line.content = [] then [] else ' ' :: ' ' :: line.content := by
  cases line with
  | blank => rfl
  | remark r => simp [text, content]
  | code s => simp [text, content, toList_piecesText]

end SceneSketch
