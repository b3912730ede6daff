import SceneSketch.Check.Verdict
import SceneSketch.Settings

/-!
# Replies of the code generator

The code of a reply stands in a fence of backticks or by itself. It is reviewed before it is
used: faults of the template are the first reason to refuse it, hazards the second.
-/

namespace SceneSketch

def fence : List Char :=
  [Char.ofNat 96, Char.ofNat 96, Char.ofNat 96]

def isAsciiLetter (c : Char) : Bool :=
  ('a' ≤ c && c ≤ 'z') || ('A' ≤ c && c ≤ 'Z')

def dropOpeningFence (cs : List Char) : List Char :=
  if fence.isPrefixOf cs then
    match (cs.drop 3).dropWhile isAsciiLetter with
    | '\n' :: rest => rest
    | _ => cs
  else cs

/-- Drops a fence, and a line break before it, from the end. -/
def dropClosingFence (cs : List Char) : List Char :=
  let reversed := cs.reverse
  if fence.isPrefixOf reversed then
    match reversed.drop 3 with
    | '\n' :: rest => rest.reverse
    | rest => rest.reverse
  else cs

/-- The code of a reply without its fences; either fence may be missing. -/
def unfence (reply : String) : String :=
  let trimmed := trimEnds isBlankChar reply.toList
  String.ofList (trimEnds isBlankChar (dropClosingFence (dropOpeningFence trimmed)))

inductive Refusal
  | template
  | unsafePatterns
deriving DecidableEq

def Refusal.message : Refusal → String
  | template => "Generated code does not comply with template"
  | unsafePatterns => "Generated code contains unsafe patterns"

structure Review where
  code : String
  verdict : Verdict
deriving DecidableEq

namespace Review

def ofCode (strict : Bool) (code : String) : Review where
  code := code
  verdict := .ofCode strict code

def refusal? (review : Review) : Option Refusal :=
  if !review.verdict.valid then some .template
  else if !review.verdict.safe then some .unsafePatterns
  else none

end Review

/-- The review of code that is accepted, or the reason why it is not, with the verdict. -/
def acceptCode (strict : Bool) (code : String) : Except (Refusal × Verdict) Review :=
  let review := Review.ofCode strict code
  match review.refusal? with
  | some refusal => .error (refusal, review.verdict)
  | none => .ok review

/-- Accepts the code of a reply, of which there may be none. The settings say how strict the review
is if nothing else does. -/
def acceptReply (settings : Settings) (strict : Option Bool) (reply : Option String) :
    Except (Refusal × Verdict) Review :=
  acceptCode (strict.getD settings.strictTemplateChecks) (unfence (reply.getD ""))

end SceneSketch
