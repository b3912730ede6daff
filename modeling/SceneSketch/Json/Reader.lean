import SceneSketch.Json.Basic

/-!
# Reading document text

A machine sees one character at a time and hands each token, once it is complete, to a builder that
keeps a stack of open lists and objects; so the first fault of the text is the one that is reported.
Of equal keys in an object the last one counts. Besides numerals the words `NaN`, `Infinity` and
`-Infinity` are numbers.
-/

namespace SceneSketch.Json

/-! ## Faults -/

inductive Limit
  | digits
  | depth
deriving DecidableEq

inductive TextFault
  | malformed
  | beyond (limit : Limit)
deriving DecidableEq

def maxDigits : Nat := 4300

/-- The greatest number of lists and objects that are open at a time. -/
def maxDepth : Nat := 975

/-! ## Words -/

/-- A point and a digit, or an exponent with at least one digit, stand at the head of a text. -/
def beginsFraction : List Char → Bool
  | '.' :: c :: _ => c.isDigit
  | 'e' :: rest | 'E' :: rest => (((Decimal.takeSign rest).2.head?).map Char.isDigit).getD false
  | _ => false

/-- A numeral of document text: no superfluous leading zero and no lone point; it is a whole
number if it has neither a point nor an exponent. Too many digits are reported before what follows
them. -/
def numeral (word : List Char) : Except TextFault Json :=
  let (negative, cs) := match word with
    | '-' :: rest => (true, rest)
    | _ => (false, word)
  let whole := cs.takeWhile Char.isDigit
  let rest := cs.dropWhile Char.isDigit
  if whole = [] ∨ (whole.head? = some '0' ∧ whole.length ≠ 1) then .error .malformed
  else if beginsFraction rest then
    match Decimal.unsigned? negative cs with
    | some d => .ok (num d.toDouble)
    | none => .error .malformed
  else if maxDigits < whole.length then .error (.beyond .digits)
  else if rest = [] then
    let n : Int := Nat.ofDigitChars 10 whole 0
    .ok (int (if negative then -n else n))
  else .error .malformed

def scalarOfWord (word : List Char) : Except TextFault Json :=
  match String.ofList word with
  | "null" => .ok null
  | "true" => .ok (bool true)
  | "false" => .ok (bool false)
  | "NaN" => .ok (num .nan)
  | "Infinity" => .ok (num (.infinite false))
  | "-Infinity" => .ok (num (.infinite true))
  | _ => numeral word

def isWordChar (c : Char) : Bool :=
  c.isAlphanum || c = '-' || c = '+' || c = '.'

/-! ## Texts -/

def shortEscape? (c : Char) : Option Nat :=
  match c with
  | '"' => some 0x22
  | '\\' => some 0x5C
  | '/' => some 0x2F
  | 'b' => some 8
  | 'f' => some 12
  | 'n' => some 10
  | 'r' => some 13
  | 't' => some 9
  | _ => none

/-! ## Values -/

inductive Token
  | openList
  | closeList
  | openObject
  | closeObject
  | comma
  | colon
  | text (value : Text)
  | word (chars : List Char)

def punctuation? (c : Char) : Option Token :=
  match c with
  | '[' => some .openList
  | ']' => some .closeList
  | '\x7b' => some .openObject
  | '\x7d' => some .closeObject
  | ',' => some .comma
  | ':' => some .colon
  | _ => none

/-- A list or an object that is still open. The items of a list come latest first; an object
knows the key whose value is next. -/
inductive Frame
  | list (items : List Json)
  | object (members : Members) (key : Text)

inductive Builder
  | value (frames : List Frame)
  | firstItem (frames : List Frame)
  | firstKey (frames : List Frame)
  | key (members : Members) (frames : List Frame)
  | colon (members : Members) (key : Text) (frames : List Frame)
  | more (frame : Frame) (frames : List Frame)
  | done (value : Json)

namespace Builder

/-- Puts a complete value into the innermost open list or object. -/
def place (value : Json) : List Frame → Builder
  | [] => done value
  | .list items :: frames => more (.list (value :: items)) frames
  | .object members k :: frames => more (.object (members.set k value) k) frames

def deeper (frames : List Frame) (inner : Builder) : Except TextFault Builder :=
  if frames.length < maxDepth then .ok inner else .error (.beyond .depth)

def begin (frames : List Frame) : Token → Except TextFault Builder
  | .openList => deeper frames (firstItem frames)
  | .openObject => deeper frames (firstKey frames)
  | .text s => .ok (place (str s) frames)
  | .word chars => (scalarOfWord chars).map (place · frames)
  | _ => .error .malformed

def step : Builder → Token → Except TextFault Builder
  | value frames, token => begin frames token
  | firstItem frames, .closeList => .ok (place (arr []) frames)
  | firstItem frames, token => begin (.list [] :: frames) token
  | firstKey frames, .closeObject => .ok (place (obj []) frames)
  | firstKey frames, .text s => .ok (colon [] s frames)
  | key members frames, .text s => .ok (colon members s frames)
  | colon members s frames, .colon => .ok (value (.object members s :: frames))
  | more (.list items) frames, .comma => .ok (value (.list items :: frames))
  | more (.list items) frames, .closeList => .ok (place (arr items.reverse) frames)
  | more (.object members _) frames, .comma => .ok (key members frames)
  | more (.object members _) frames, .closeObject => .ok (place (obj members) frames)
  | _, _ => .error .malformed

def takeWord (builder : Builder) (chars : List Char) : Except TextFault Builder :=
  if chars = [] then .ok builder else builder.step (.word chars)

end Builder

/-! ## Characters -/

/-- What the reader has in hand: a word, a text, or an escape in a text. The latest character
comes first. -/
inductive Pending
  | word (chars : List Char)
  | text (units : List Nat)
  | escape (units : List Nat)
  | code (units : List Nat) (missing value : Nat)

structure Reader where
  builder : Builder
  pending : Pending

namespace Reader

def behindWord (builder : Builder) (c : Char) : Except TextFault Reader :=
  if c = ' ' ∨ c = '\t' ∨ c = '\n' ∨ c = '\r' then .ok ⟨builder, .word []⟩
  else if c = '"' then .ok ⟨builder, .text []⟩
  else
    match punctuation? c with
    | some token => (builder.step token).map (⟨·, .word []⟩)
    | none => .error .malformed

def inText (reader : Reader) (units : List Nat) (c : Char) : Except TextFault Reader :=
  if c = '"' then
    (reader.builder.step (.text (.ofUnits [] units.reverse))).map (⟨·, .word []⟩)
  else if c = '\\' then .ok { reader with pending := .escape units }
  else if c.toNat < 0x20 then .error .malformed
  else .ok { reader with pending := .text (c.toNat :: units) }

/-- What is in hand after a character of an escape, if the escape goes on with it. -/
def inEscape? (units : List Nat) (c : Char) : Option Pending :=
  if c = 'u' then some (.code units 4 0)
  else (shortEscape? c).map fun n => .text (n :: units)

/-- What is in hand after a digit of a code point, the last of which ends the escape. -/
def inCode? (units : List Nat) (missing value : Nat) (c : Char) : Option Pending :=
  (hexValue? c).map fun digit =>
    let value := value * 16 + digit
    if missing ≤ 1 then .text (value :: units) else .code units (missing - 1) value

def step (reader : Reader) (c : Char) : Except TextFault Reader :=
  let goOn : Option Pending → Except TextFault Reader
    | some pending => .ok { reader with pending }
    | none => .error .malformed
  match reader.pending with
  | .word chars =>
    if isWordChar c then .ok { reader with pending := .word (c :: chars) }
    else (reader.builder.takeWord chars.reverse).bind (behindWord · c)
  | .text units => reader.inText units c
  | .escape units => goOn (inEscape? units c)
  | .code units missing value => goOn (inCode? units missing value c)

def finish (reader : Reader) : Except TextFault Json :=
  match reader.pending with
  | .word chars =>
    (reader.builder.takeWord chars.reverse).bind fun
      | .done value => .ok value
      | _ => .error .malformed
  | _ => .error .malformed

end Reader

def parse (text : String) : Except TextFault Json :=
  (text.toList.foldlM Reader.step ⟨.value [], .word []⟩).bind Reader.finish

def parse? (text : String) : Option Json :=
  (parse text).toOption

end SceneSketch.Json
