import SceneSketch.Text.Blank
import SceneSketch.Text.Search

/-!
# Patterns of the code checks

A pattern is a row of words, blanks and skipped characters. Blanks take as many characters as
there are and a word never begins with a blank, so there is one way to match at any place.
-/

namespace SceneSketch

inductive PatternPart
  | word (letters : List Char)
  | blanks
  | someBlanks
  | until (stop : Char)

/-- What follows the letters, compared by `same`, if `cs` begins with them. -/
def afterLetters? (same : Char → Char → Bool) : List Char → List Char → Option (List Char)
  | [], cs => some cs
  | _ :: _, [] => none
  | l :: letters, c :: cs => if same l c then afterLetters? same letters cs else none

def afterParts? (same : Char → Char → Bool) : List PatternPart → List Char → Option (List Char)
  | [], cs => some cs
  | .word letters :: parts, cs =>
    (afterLetters? same letters cs).bind (afterParts? same parts)
  | .blanks :: parts, cs => afterParts? same parts (cs.dropWhile isBlankChar)
  | .someBlanks :: parts, cs =>
    if (cs.head?.any isBlankChar) then afterParts? same parts (cs.dropWhile isBlankChar) else none
  | .until stop :: parts, cs => afterParts? same parts (cs.dropWhile (· ≠ stop))

/-- Equal up to case; `i`, `s` and `k` have further forms. -/
def sameLetter (l c : Char) : Bool :=
  l.toLower = c.toLower
    || (l.toLower = 'i' && (c.toNat = 0x130 || c.toNat = 0x131))
    || (l.toLower = 's' && c.toNat = 0x17F)
    || (l.toLower = 'k' && c.toNat = 0x212A)

def matchesSomewhere (same : Char → Char → Bool) (parts : List PatternPart)
    (text : String) : Bool :=
  someSuffix (fun cs => (afterParts? same parts cs).isSome) text.toList

end SceneSketch
