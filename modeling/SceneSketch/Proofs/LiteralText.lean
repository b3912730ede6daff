import Mathlib.Tactic.IntervalCases
import SceneSketch.Text.ScriptLiteral

/-!
# The letters of literals

A literal is a row of escapes of four hexadecimal digits each between two double quotes
(`scriptLiteral_eq`). No letter of the text itself shows in it.
-/

namespace SceneSketch

def hexChars : List Char :=
  ['0', '1', '2', '3', '4', '5', '6', '7', '8', '9', 'a', 'b', 'c', 'd', 'e', 'f']

/-- A row of escapes, each a backslash, the letter `u` and four hexadecimal digits. -/
inductive Escapes : List Char → Prop
  | nil : Escapes []
  | cons {a b c d : Char} {rest : List Char} :
    a ∈ hexChars → b ∈ hexChars → c ∈ hexChars → d ∈ hexChars → Escapes rest →
    Escapes ('\\' :: 'u' :: a :: b :: c :: d :: rest)

theorem hexDigit_mem {n : Nat} (h : n < 16) : hexDigit n ∈ hexChars := by
  interval_cases n <;> decide

theorem escapes_of_units (units : List Nat) : Escapes (units.flatMap escapedUnit) := by
  induction units with
  | nil => exact .nil
  | cons unit units ih =>
    have digit : ∀ n : Nat, hexDigit (n % 16) ∈ hexChars := fun n =>
      hexDigit_mem (Nat.mod_lt n (by decide))
    exact .cons (digit _) (digit _) (digit _) (digit _) ih

/-- **The form of a literal.** -/
theorem scriptLiteral_eq (text : String) :
    ∃ body, (scriptLiteral text).toList = '"' :: (body ++ ['"']) ∧ Escapes body :=
  ⟨_, String.toList_ofList, escapes_of_units _⟩

def literalChars : List Char := '"' :: '\\' :: 'u' :: hexChars

theorem Escapes.mem {body : List Char} (h : Escapes body) : ∀ c ∈ body, c ∈ literalChars.tail := by
  induction h with
  | nil => exact fun _ h => nomatch h
  | cons ha hb hc hd _ ih =>
    simp only [List.forall_mem_cons]
    have hex : ∀ {e : Char}, e ∈ hexChars → e ∈ literalChars.tail :=
      fun he => by simp [literalChars, he]
    exact ⟨by decide, by decide, hex ha, hex hb, hex hc, hex hd, ih⟩

theorem mem_literalChars {text : String} : ∀ c ∈ (scriptLiteral text).toList, c ∈ literalChars := by
  obtain ⟨body, he, hb⟩ := scriptLiteral_eq text
  rw [he]
  simp only [List.forall_mem_cons, List.forall_mem_append]
  exact ⟨by decide, fun c hc => List.mem_cons_of_mem _ (hb.mem c hc),
    by decide, fun _ h => nomatch h⟩

end SceneSketch
