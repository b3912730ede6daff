import SceneSketch.Document.Codec
import SceneSketch.Number.IntegerText
import SceneSketch.Settings.File

/-!
# Settings

Settings are variables of the environment or entries of a settings file; the environment comes
first. The case of names does not matter.
-/

namespace SceneSketch

structure Settings where
  maxPromptLength : Int := 500
  strictTemplateChecks : Bool := true
  logLevel : String := "WARNING"
  canvasWidth : Int := 400
  canvasHeight : Int := 400
deriving DecidableEq

namespace Settings

/-- A letter of a name in small form; the Kelvin sign is a capital `k`. -/
def smallLetter (c : Char) : Char :=
  if c.toNat = 0x212A then 'k' else c.toLower

def smallName (name : String) : String :=
  String.ofList (name.toList.map smallLetter)

def names : List String :=
  ["max_prompt_length", "strict_template_checks", "artecode_log_level", "log_level",
    "default_canvas_width", "default_canvas_height"]

/-- The value of a name; of names that differ only in case the last one counts, even if it has no
value. -/
def valueOf? (bindings : SettingsFile.Bindings) (name : String) : Option String :=
  ((bindings.map fun (n, value) => (smallName n, value)).reverse.lookup name).join

def firstValue? (bindings : SettingsFile.Bindings) (names : List String) : Option String :=
  names.findSome? (valueOf? bindings)

/-- Reads one setting, or takes its default if it has no value. -/
def setting {α : Type} (name : String) (value : Option String) (default : α)
    (parse : String → Except Problem α) : Outcome α :=
  match value.map parse with
  | none => .accepted default
  | some (.ok a) => .accepted a
  | some (.error problem) => .rejected [⟨[.key name], problem⟩]

def intOfText (s : String) : Except Problem Int :=
  (IntegerText.parse s).mapError fun
    | .malformed => .unreadableInt
    | .tooLong => .oversizedInt

def truthOfText (s : String) : Except Problem Bool :=
  (Codec.truthOfText? s).elim (.error .unreadableBool) .ok

def read (environment file : SettingsFile.Bindings) : Outcome Settings :=
  let find (names : List String) := (firstValue? environment names).or (firstValue? file names)
  let int (name : String) (default : Int) := setting name (find [name]) default intOfText
  let defaults : Settings := {}
  Settings.mk <$> int "max_prompt_length" defaults.maxPromptLength
    <*> setting "strict_template_checks" (find ["strict_template_checks"])
      defaults.strictTemplateChecks truthOfText
    <*> .accepted ((find ["artecode_log_level", "log_level"]).getD defaults.logLevel)
    <*> int "default_canvas_width" defaults.canvasWidth
    <*> int "default_canvas_height" defaults.canvasHeight

/-- The settings of an environment and the text of a settings file, whose values may refer to the
environment. -/
def load (environment : List (String × String)) (file : String) : Outcome Settings :=
  read (environment.map fun (name, value) => (name, some value))
    (SettingsFile.bindings environment file)

end Settings

end SceneSketch
