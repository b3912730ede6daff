import SceneSketch.Command.Arguments
import SceneSketch.Command.Workspace
import SceneSketch.Drawing.Description
import SceneSketch.Gallery.Scenes
import SceneSketch.Json.Reader
import SceneSketch.Json.Writer
import SceneSketch.Log
import SceneSketch.Prompt.Basic
import SceneSketch.Scene.Check
import SceneSketch.Settings
import SceneSketch.Text.Terminal

/-!
# Running a command

A command sees the settings and the files and gives what it prints, how it ends and the files
after it. A file is written only after everything that can fail before it.
-/

namespace SceneSketch

inductive ReadFault
  | file (fault : FileFault)
  | notJson
deriving DecidableEq

inductive ArgumentFault
  | unreadable (path : String) (fault : ReadFault)
  | invalidScene (issues : List Issue)
  | invalidDrawing (issues : List Issue)
  | sceneProblems (problems : List SceneProblem)
  | unknownScene (name : String)
  | prompt (fault : PromptFault)

def ArgumentFault.message : ArgumentFault → Text
  | unreadable path _ => "Cannot read " ++ path
  | invalidScene _ => "Invalid scene"
  | invalidDrawing _ => "Invalid sketch"
  | sceneProblems problems => .intercalate "; " (problems.map SceneProblem.message)
  | unknownScene name => Gallery.unknownSceneMessage name
  | prompt fault => fault.message

inductive CommandFault
  | usage (fault : UsageFault)
  | argument (fault : ArgumentFault)
  | unknownLevel (name : String)
  | containerKey (container : Container)
  | compile (fault : CompileFault)
  | notUtf8
  | oversized (limit : Json.Limit)
  | unwritable (fault : FileFault)

def UsageFault.message : UsageFault → String
  | noCommand => "No such command"
  | extraArgument => "Too many arguments"
  | missingArgument => "Missing argument"
  | unknownOption => "No such option"
  | optionValue => "Option without its value, or with a value that it does not take"
  | nullInPath => Problem.nullCharacter.message

def unknownLevelMessage (name : String) : String :=
  "Unknown level: " ++ quoted name

def CommandFault.message : CommandFault → Text
  | usage fault => fault.message
  | argument fault => fault.message
  | unknownLevel name => unknownLevelMessage name
  | containerKey c => c.message
  | compile fault => fault.message
  | notUtf8 => "The file is not UTF-8"
  | oversized .digits => "A number of the document has too many digits"
  | oversized .depth => "The document is nested too deep"
  | unwritable _ => "The file cannot be written"

inductive Ending
  | exit (code : Nat)
  | failed (fault : CommandFault)

structure Report where
  out : String
  err : String
  ending : Ending
  files : Workspace

namespace Report

def success (files : Workspace) (out err : String) : Report :=
  ⟨out, err, .exit 0, files⟩

/-- A failure prints nothing but the notes so far. -/
def failure (files : Workspace) (err : String) (fault : CommandFault) : Report :=
  ⟨"", err, .failed fault, files⟩

end Report

def line (s : String) : String :=
  s ++ "\n"

def outLine (s : String) : String :=
  String.ofList (dropSequences (line s).toList)

def usageText : String :=
  "Usage: compile FILE | example [NAME] | validate FILE | describe FILE | prompt TEXT"

namespace Workspace

def readText (files : Workspace) (path : String) : Except CommandFault String :=
  match files.read path with
  | .error fault => .error (.argument (.unreadable path (.file fault)))
  | .ok bytes =>
    match textOfBytes? bytes with
    | some text => .ok text
    | none => .error .notUtf8

def readDocument (files : Workspace) (path : String) : Except CommandFault Json :=
  (files.readText path).bind fun text =>
    match Json.parse text with
    | .ok value => .ok value
    | .error .malformed => .error (.argument (.unreadable path .notJson))
    | .error (.beyond limit) => .error (.oversized limit)

/-- A document as a value of a type, or what `invalid` makes of its faults. -/
def readModel {α : Type} (files : Workspace) (path : String) (c : Codec α)
    (invalid : List Issue → ArgumentFault) : Except CommandFault α :=
  (files.readDocument path).bind fun value =>
    match c.read value with
    | .accepted a => .ok a
    | .rejected issues => .error (.argument (invalid issues))
    | .containerKey c => .error (.containerKey c)

def readScene (files : Workspace) (path : String) : Except CommandFault Scene :=
  (files.readModel path Scene.codec .invalidScene).bind fun scene =>
    match scene.checked with
    | .ok scene => .ok scene
    | .error problems => .error (.argument (.sceneProblems problems))

end Workspace

/-- Prints code, or writes it into a file, with a line break after it. -/
def emitCode (files : Workspace) (err code : String) (output : Option String) : Report :=
  match output.map normalPath with
  | none => .success files (outLine code) err
  | some path =>
    match files.write path (line code).toUTF8 with
    | .ok files => .success files (outLine ("Wrote " ++ path)) err
    | .error fault => .failure files err (.unwritable fault)

def emitScene (files : Workspace) (threshold : Nat) (scene : Scene) (output : Option String) :
    Report :=
  let err := notesText threshold scene.notes
  match scene.compile with
  | .ok code => emitCode files err code output
  | .error fault => .failure files err (.compile fault)

namespace Command

def runSample (files : Workspace) (threshold : Nat) (name output : Option String) : Report :=
  match name with
  | none => .success files (String.join (Gallery.sceneNames.map outLine)) ""
  | some name =>
    match Gallery.scene? name with
    | some scene => emitScene files threshold scene output
    | none => .failure files "" (.argument (.unknownScene name))

def runCompile (files : Workspace) (threshold : Nat) (file : String) (output : Option String) :
    Report :=
  match files.readScene (normalPath file) with
  | .ok scene => emitScene files threshold scene output
  | .error fault => .failure files "" fault

def runValidate (files : Workspace) (threshold : Nat) (file : String) (strict : Bool) : Report :=
  match files.readText (normalPath file) with
  | .ok code =>
    let verdict := Verdict.ofCode strict code
    { out := outLine (Json.obj verdict.members).indented
      err := notesText threshold verdict.notes
      ending := .exit (if verdict.accepted then 0 else 1)
      files }
  | .error fault => .failure files "" fault

def runDescribe (files : Workspace) (file : String) : Report :=
  match files.readModel (normalPath file) Drawing.codec .invalidDrawing with
  | .ok drawing =>
    .success files (outLine drawing.describe) (outLine ("(" ++ drawing.summary ++ ")"))
  | .error fault => .failure files "" fault

def runPrompt (files : Workspace) (limit : Int) (request : String) : Report :=
  match fullPrompt limit (.str request) with
  | .ok text => .success files (outLine text.escaped) ""
  | .error fault => .failure files "" (.argument (.prompt fault))

def run (settings : Settings) (files : Workspace) (threshold : Nat) : Command → Report
  | help => .success files (outLine usageText) ""
  | compile file output => runCompile files threshold file output
  | sample name output => runSample files threshold name output
  | validate file strict =>
    runValidate files threshold file (strict.getD settings.strictTemplateChecks)
  | describe file => runDescribe files file
  | prompt text => runPrompt files settings.maxPromptLength text

end Command

/-- Runs a command line. The name of the command is looked at first, then the level of the notes,
then the arguments of the command. -/
def runCommandLine (settings : Settings) (files : Workspace) (args : List String) : Report :=
  match commandName args with
  | .error fault => .failure files "" (.usage fault)
  | .ok (none, _) => Command.help.run settings files 0
  | .ok (some name, rest) =>
    let level := capitals settings.logLevel
    match threshold? level with
    | none => .failure files "" (.unknownLevel level)
    | some threshold =>
      match Command.parse name rest with
      | .error fault => .failure files "" (.usage fault)
      | .ok command => command.run settings files threshold

end SceneSketch
