import SceneSketch.Text.Blank
import SceneSketch.Text.Lines

/-!
# The settings file

A settings file has an entry `NAME=value` on a line, and comments behind number signs. A value in
quotes may hold line breaks and escapes; a value without them ends with its line or before a
comment. A value refers to another one by a dollar sign and its name in braces. A line that is no
entry is passed over.
-/

namespace SceneSketch.SettingsFile

structure Entry where
  name : String
  value : Option String
deriving DecidableEq

/-! ## Entries -/

def isInnerBlank (c : Char) : Bool :=
  isBlankChar c && c ≠ '\n'

/-- The text behind the word `export` and a blank, if it begins with them. -/
def skipExport (cs : List Char) : List Char :=
  let rest := cs.drop 6
  if "export".toList.isPrefixOf cs && (rest.head?.map isInnerBlank).getD false then
    rest.dropWhile isInnerBlank
  else cs

def isNameChar (c : Char) : Bool :=
  c ≠ '=' && c ≠ '#' && !isBlankChar c

/-- A name, in single quotes or not, or none before a comment. An error is the text where there is
no name. -/
def takeName (cs : List Char) : Except (List Char) (Option String × List Char) :=
  let named (name : List Char) (rest : List Char) :=
    if name = [] then .error cs else .ok (some (String.ofList name), rest)
  match cs with
  | '#' :: _ => .ok (none, cs)
  | '\'' :: inner =>
    match inner.dropWhile (· ≠ '\'') with
    | _ :: rest => named (inner.takeWhile (· ≠ '\'')) rest
    | [] => .error cs
  | _ => named (cs.takeWhile isNameChar) (cs.dropWhile isNameChar)

/-- The text before the closing quote, and what follows the quote. A backslash and the character
behind it belong together, so that a quote behind a backslash closes nothing. -/
def beforeQuote? (quote : Char) : List Char → Option (List Char × List Char)
  | [] => none
  | '\\' :: c :: rest =>
    (beforeQuote? quote rest).map fun (text, after) => ('\\' :: c :: text, after)
  | c :: rest =>
    if c = quote then some ([], rest)
    else (beforeQuote? quote rest).map fun (text, after) => (c :: text, after)

def singleEscape? (c : Char) : Option Char :=
  if c = '\\' ∨ c = '\'' then some c else none

def doubleEscape? (c : Char) : Option Char :=
  match c with
  | '\\' => some '\\'
  | '\'' => some '\''
  | '"' => some '"'
  | 'a' => some '\x07'
  | 'b' => some '\x08'
  | 'f' => some '\x0c'
  | 'n' => some '\n'
  | 'r' => some '\r'
  | 't' => some '\t'
  | 'v' => some '\x0b'
  | _ => none

/-- Replaces each backslash that begins an escape, together with the character behind it. -/
def unescape (escape? : Char → Option Char) : List Char → List Char
  | [] => []
  | [c] => [c]
  | c :: d :: rest =>
    match if c = '\\' then escape? d else none with
    | some e => e :: unescape escape? rest
    | none => c :: unescape escape? (d :: rest)

/-- A line up to the first number sign that has a blank before it. -/
def beforeComment : List Char → List Char
  | [] => []
  | [c] => [c]
  | c :: d :: rest =>
    if isBlankChar c ∧ d = '#' then [] else c :: beforeComment (d :: rest)

/-- A value behind an equals sign, and what follows it. Blanks before the value are no part of it,
but one of them may stand before a comment. An error is the text where a quote is not closed. -/
def takeValue (cs : List Char) : Except (List Char) (String × List Char) :=
  let text := cs.dropWhile isInnerBlank
  let quoted (quote : Char) (escape? : Char → Option Char) (inner : List Char) :=
    match beforeQuote? quote inner with
    | some (value, rest) => .ok (String.ofList (unescape escape? value), rest)
    | none => .error text
  match text with
  | '\'' :: inner => quoted '\'' singleEscape? inner
  | '"' :: inner => quoted '"' doubleEscape? inner
  | _ =>
    let line := cs.takeWhile (· ≠ '\n')
    .ok (String.ofList (trimEnds isBlankChar (beforeComment line)), cs.dropWhile (· ≠ '\n'))

/-- What follows the end of a line, if only blanks and a comment stand before it. -/
def endLine (cs : List Char) : Except (List Char) (List Char) :=
  match cs.dropWhile isInnerBlank with
  | [] => .ok []
  | '\n' :: rest => .ok rest
  | '#' :: rest => .ok (afterLine rest)
  | _ => .error cs

/-- An entry or a comment, and what follows its line. An error is where the text is no entry. -/
def takeEntry (cs : List Char) : Except (List Char) (Option Entry × List Char) := do
  let (name, rest) ← takeName (skipExport cs)
  match name, rest.dropWhile isInnerBlank with
  | none, rest => return (none, ← endLine rest)
  | some name, '=' :: rest =>
    let (value, rest) ← takeValue rest
    return (some ⟨name, some value⟩, ← endLine rest)
  | some name, rest => return (some ⟨name, none⟩, ← endLine rest)

/-- The entries of a text. Reading one always takes up some of the text. -/
def entries (cs : List Char) : List Entry :=
  let text := cs.dropWhile isBlankChar
  if text = [] then []
  else
    let (entry, rest) := match takeEntry text with
      | .ok found => found
      | .error place => (none, afterLine place)
    entry.toList ++ if rest.length < cs.length then entries rest else []
termination_by cs.length

/-- A text without the byte order mark at its head; a second one is part of the text. -/
def dropOrderMark : List Char → List Char
  | '\ufeff' :: rest => rest
  | cs => cs

def entriesOfText (text : String) : List Entry :=
  entries (lineFeeds (dropOrderMark text.toList))

/-! ## References -/

/-- A piece of a value: a character, or a name whose value stands here. -/
inductive Piece
  | plain (c : Char)
  | reference (name default : String)

def isReferenceChar (c : Char) : Bool :=
  c ≠ ':' && c ≠ '\x7d'

/-- A name up to the closing brace, and maybe a default for it behind a colon and a dash. -/
def reference? (cs : List Char) : Option (Piece × List Char) :=
  match cs.dropWhile isReferenceChar with
  | '\x7d' :: rest => some (.reference (String.ofList (cs.takeWhile isReferenceChar)) "", rest)
  | ':' :: '-' :: inner =>
    match inner.dropWhile (· ≠ '\x7d') with
    | [] => none
    | _ :: rest =>
      some (.reference (String.ofList (cs.takeWhile isReferenceChar))
        (String.ofList (inner.takeWhile (· ≠ '\x7d'))), rest)
  | _ => none

theorem length_dropWhile_le (p : Char → Bool) (cs : List Char) :
    (cs.dropWhile p).length ≤ cs.length :=
  (List.dropWhile_suffix p).length_le

theorem length_lt_of_reference? {cs rest : List Char} {piece : Piece}
    (h : reference? cs = some (piece, rest)) : rest.length < cs.length := by
  have outer := length_dropWhile_le isReferenceChar cs
  unfold reference? at h
  split at h
  next r hr =>
    rw [hr] at outer
    cases h
    exact outer
  next inner hr =>
    rw [hr] at outer
    split at h
    · cases h
    next r hi =>
      have behind := length_dropWhile_le (· ≠ '\x7d') inner
      rw [hi] at behind
      cases h
      simp only [List.length_cons] at outer behind
      omega
  · cases h

def pieces : List Char → List Piece
  | [] => []
  | c :: rest =>
    if c = '$' ∧ rest.head? = some '\x7b' then
      match h : reference? (rest.drop 1) with
      | some (piece, after) =>
        have : after.length < rest.length :=
          Nat.lt_of_lt_of_le (length_lt_of_reference? h) (by simp)
        piece :: pieces after
      | none => .plain c :: pieces rest
    else .plain c :: pieces rest
termination_by cs => cs.length

/-- Names with their values; a name without a value is known all the same. -/
abbrev Bindings := List (String × Option String)

/-- Gives a name its value, in its place if it is known, and at the end if it is not. -/
def assign (name : String) (value : Option String) : Bindings → Bindings
  | [] => [(name, value)]
  | (n, v) :: rest =>
    if n = name then (n, value) :: rest else (n, v) :: assign name value rest

/-- What stands for a piece. The names that are known come before the environment. -/
def Piece.text (environment : List (String × String)) (known : Bindings) : Piece → List Char
  | plain c => [c]
  | reference name default =>
    match known.lookup name with
    | some value => (value.getD "").toList
    | none => ((environment.lookup name).getD default).toList

def expand (environment : List (String × String)) (known : Bindings) (value : String) : String :=
  String.ofList ((pieces value.toList).flatMap (·.text environment known))

/-- Adds entries one by one; a reference sees the entries before it. -/
def addEntries (environment : List (String × String)) : Bindings → List Entry → Bindings
  | known, [] => known
  | known, entry :: rest =>
    let value := entry.value.map (expand environment known)
    addEntries environment (assign entry.name value known) rest

def bindings (environment : List (String × String)) (text : String) : Bindings :=
  addEntries environment [] (entriesOfText text)

def referredNames (text : String) : List String :=
  (entriesOfText text).flatMap fun entry =>
    (pieces (entry.value.getD "").toList).filterMap fun
      | .plain _ => none
      | .reference name _ => some name

end SceneSketch.SettingsFile
