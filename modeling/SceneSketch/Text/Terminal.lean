/-!
# Terminal control sequences

A control sequence is the escape character, a bracket, parameters and a letter. A printed line goes
without them, since it may end up in a file.
-/

namespace SceneSketch

/-- Characters between the bracket and the letter of a control sequence. -/
def isSequenceParameter (c : Char) : Bool :=
  c.isDigit || c = ';' || c = '?'

/-- What follows the control sequence at the head of a text. -/
def afterSequence? : List Char → Option (List Char)
  | '\x1b' :: '[' :: inner =>
    match inner.dropWhile isSequenceParameter with
    | c :: rest => if c.isAlpha then some rest else none
    | [] => none
  | _ => none

theorem length_lt_of_afterSequence? {cs rest : List Char} (h : afterSequence? cs = some rest) :
    rest.length < cs.length := by
  unfold afterSequence? at h
  split at h
  next inner =>
    have shorter := (List.dropWhile_suffix (l := inner) isSequenceParameter).length_le
    split at h
    next c r hr =>
      rw [hr] at shorter
      split at h
      · cases h
        simp only [List.length_cons] at shorter ⊢
        omega
      · cases h
    · cases h
  · cases h

/-- A text without its control sequences. What is left is not looked at once more. -/
def dropSequences : List Char → List Char
  | [] => []
  | c :: cs =>
    match h : afterSequence? (c :: cs) with
    | some rest =>
      have : rest.length ≤ cs.length := Nat.le_of_lt_succ (length_lt_of_afterSequence? h)
      dropSequences rest
    | none => c :: dropSequences cs
termination_by cs => cs.length

end SceneSketch
