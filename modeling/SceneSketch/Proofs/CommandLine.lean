import SceneSketch.Proofs.Histories
import SceneSketch.Proofs.Workspaces
import SceneSketch.Proofs.WrittenCode

/-!
# From a scene to a file and back

A run that does not end well leaves the files as they were (`careful_run`). A scene is compiled into
a file exactly if it is read without a fault, has no problem and has code, and the file is then
accepted by the checks, however strict they are (`compile_then_validate`).
-/

namespace SceneSketch

/-! ## Command lines -/

def Asks (args : List String) (command : Command) : Prop :=
  ∃ name rest, commandName args = .ok (some name, rest) ∧ Command.parse name rest = .ok command

theorem ne_dashes_of_argument {arg : String} (h : looksLikeOption arg = false) : arg ≠ "--" := by
  rintro rfl
  exact absurd h (by decide)

theorem usePath_eq_ok {path : String} (h : '\x00' ∉ path.toList) : usePath path = .ok path := by
  simp [usePath, h]

section
variable {path : String} (argument : looksLikeOption path = false) (noNull : '\x00' ∉ path.toList)
include argument noNull

theorem asks_compile {out : String} (noNullOut : '\x00' ∉ out.toList) :
    Asks ["compile", path, "-o", out] (.compile path (some out)) := by
  refine ⟨.compile, [path, "-o", out], rfl, ?_⟩
  have words : readWords CommandName.compile.options [path, "-o", out] =
      .ok ⟨[(.output, out)], [path]⟩ := by
    rw [readWords, if_neg (ne_dashes_of_argument argument), if_neg (by simp [argument])]
    rfl
  rw [Command.parse, words]
  have output : (Words.output? ⟨[(.output, out)], [path]⟩).mapM usePath = .ok (some out) := by
    change (usePath out).bind (fun o => .ok (some o)) = _
    rw [usePath_eq_ok noNullOut]
    rfl
  simp only [Except.bind, Command.ofWords, output, oneArgument, usePath_eq_ok noNull]
  rfl

theorem asks_validate : Asks ["validate", path] (.validate path none) ∧
    Asks ["validate", path, "--strict"] (.validate path (some true)) ∧
    Asks ["validate", path, "--lenient"] (.validate path (some false)) := by
  have asked (options : List (OptionName × String)) {flags : List String}
      (h : readWords CommandName.validate.options flags = .ok ⟨options, []⟩)
      (noHelp : (options.any fun o => o.1 = .help) = false) :
      Asks ("validate" :: path :: flags) (.validate path (Words.strict? ⟨options, [path]⟩)) := by
    refine ⟨.validate, path :: flags, rfl, ?_⟩
    have words : readWords CommandName.validate.options (path :: flags) =
        .ok ⟨options, [path]⟩ := by
      rw [readWords, if_neg (ne_dashes_of_argument argument), if_neg (by simp [argument]), h]
      rfl
    rw [Command.parse, words]
    simp only [Except.bind, Command.ofWords, noHelp]
    rw [if_neg Bool.false_ne_true, oneArgument, usePath_eq_ok noNull]
    rfl
  exact ⟨asked [] rfl rfl, asked [(.strict, "")] rfl rfl, asked [(.lenient, "")] rfl rfl⟩

end

/-! ## Runs that fail -/

/-- Unless the run ended well, the files are as they were. -/
def Report.Careful (files : Workspace) (report : Report) : Prop :=
  report.ending = .exit 0 ∨ report.files = files

section
variable (files : Workspace)

theorem careful_success (out err : String) :
    (Report.success files out err).Careful files := .inl rfl

theorem careful_failure (err : String) (fault : CommandFault) :
    (Report.failure files err fault).Careful files :=
  .inr rfl

theorem careful_emitCode (err code : String) (output : Option String) :
    (emitCode files err code output).Careful files := by
  unfold emitCode
  split
  · exact careful_success files _ err
  · split
    · exact .inl rfl
    · exact careful_failure files err _

theorem careful_emitScene (threshold : Nat) (scene : Scene) (output : Option String) :
    (emitScene files threshold scene output).Careful files := by
  unfold emitScene
  dsimp only
  split
  · exact careful_emitCode files _ _ output
  · exact careful_failure files _ _

theorem careful_runCompile (threshold : Nat) (file : String) (output : Option String) :
    (Command.runCompile files threshold file output).Careful files := by
  unfold Command.runCompile
  cases files.readScene (normalPath file) with
  | ok scene => exact careful_emitScene files threshold scene output
  | error fault => exact careful_failure files "" fault

theorem careful_runSample (threshold : Nat) (name output : Option String) :
    (Command.runSample files threshold name output).Careful files := by
  unfold Command.runSample
  cases name with
  | none => exact careful_success files _ ""
  | some name =>
    dsimp only
    cases Gallery.scene? name with
    | some scene => exact careful_emitScene files threshold scene output
    | none => exact careful_failure files "" _

theorem careful_runDescribe (file : String) : (Command.runDescribe files file).Careful files := by
  unfold Command.runDescribe
  cases files.readModel (normalPath file) Drawing.codec .invalidDrawing with
  | ok drawing => exact careful_success files _ _
  | error fault => exact careful_failure files "" fault

theorem careful_runValidate (threshold : Nat) (file : String) (strict : Bool) :
    (Command.runValidate files threshold file strict).Careful files := by
  unfold Command.runValidate
  cases files.readText (normalPath file) with
  | ok code => exact .inr rfl
  | error fault => exact careful_failure files "" fault

theorem careful_runPrompt (limit : Int) (request : String) :
    (Command.runPrompt files limit request).Careful files := by
  unfold Command.runPrompt
  cases fullPrompt limit (.str request) with
  | ok prompt => exact careful_success files _ ""
  | error fault => exact careful_failure files "" _

theorem Command.careful_run (settings : Settings) (threshold : Nat) (command : Command) :
    (command.run settings files threshold).Careful files := by
  cases command with
  | help => exact careful_success files _ ""
  | compile file output => exact careful_runCompile files threshold file output
  | sample name output => exact careful_runSample files threshold name output
  | validate file strict => exact careful_runValidate files threshold file _
  | describe file => exact careful_runDescribe files file
  | prompt text => exact careful_runPrompt files _ text

/-- **Whatever a command line asks for, a run of it that does not end well writes nothing.** -/
theorem careful_run (settings : Settings) (args : List String) :
    (runCommandLine settings files args).Careful files := by
  unfold runCommandLine
  split
  · exact careful_failure files _ _
  · exact Command.careful_run files settings 0 .help
  · dsimp only
    split
    · exact careful_failure files _ _
    · split
      · exact careful_failure files _ _
      · exact Command.careful_run files settings _ _

end

/-! ## Compiling into a file -/

theorem Scene.checked_eq_ok {scene checked : Scene} :
    scene.checked = .ok checked ↔ scene.problems = [] ∧ scene = checked := by
  unfold Scene.checked
  split
  · next h => simp [List.isEmpty_iff.mp h]
  · next h => simpa using fun valid _ => h (by simp [valid])

section
variable {files : Workspace} {path text : String}

theorem readScene_eq_ok (readable : files.readText path = .ok text) {scene : Scene} :
    files.readScene path = .ok scene ↔ ∃ document, Json.parse text = .ok document ∧
      Scene.codec.read document = .accepted scene ∧ scene.problems = [] := by
  have document {value : Json} : files.readDocument path = .ok value ↔
      Json.parse text = .ok value := by
    rw [Workspace.readDocument, readable, Except.bind]
    split <;> simp_all
  have model {scene : Scene} : files.readModel path Scene.codec .invalidScene = .ok scene ↔
      ∃ value, Json.parse text = .ok value ∧ Scene.codec.read value = .accepted scene := by
    rw [Workspace.readModel, bind_eq_ok]
    refine exists_congr fun value => and_congr document ?_
    cases Scene.codec.read value <;> simp
  rw [Workspace.readScene, bind_eq_ok]
  constructor
  · rintro ⟨read, hread, h⟩
    obtain ⟨value, parsed, accepted⟩ := model.mp hread
    cases hc : read.checked with
    | ok checked =>
      obtain ⟨valid, rfl⟩ := Scene.checked_eq_ok.mp hc
      rw [hc] at h
      cases h
      exact ⟨value, parsed, accepted, valid⟩
    | error problems =>
      rw [hc] at h
      cases h
  · rintro ⟨value, parsed, accepted, valid⟩
    refine ⟨scene, model.mpr ⟨value, parsed, accepted⟩, ?_⟩
    rw [Scene.checked_eq_ok.mpr ⟨valid, rfl⟩]

variable {out : String} (writable : files.Writable (normalPath out))
include writable

theorem emitScene_ends_well {threshold : Nat} {scene : Scene} :
    (emitScene files threshold scene (some out)).ending = .exit 0 ↔
    ∃ code, scene.compile = .ok code := by
  unfold emitScene
  cases scene.compile with
  | ok code =>
    obtain ⟨after, written⟩ := writable.write (line code).toUTF8
    simp only [emitCode, Option.map, written, Report.success, Except.ok.injEq, exists_eq']
  | error c => simp [Report.failure]

theorem emitScene_files (threshold : Nat) {scene : Scene} {code : String}
    (ok : scene.compile = .ok code) :
    (emitScene files threshold scene (some out)).files.read (normalPath out) =
      .ok (line code).toUTF8 := by
  obtain ⟨after, written⟩ := writable.write (line code).toUTF8
  have files : (emitScene files threshold scene (some out)).files = after := by
    simp only [emitScene, ok, emitCode, Option.map, written, Report.success]
  rw [files]
  exact Workspace.read_write written

end

/-! ## The written file -/

/-- What is printed about code without any fault, hazard or warning. -/
def cleanResult : String :=
  "\x7b\n  \"valid\": true,\n  \"safe\": true,\n  \"compatible\": true,\n  \"errors\": [],\n" ++
    "  \"violations\": [],\n  \"warnings\": []\n\x7d\n"

theorem runValidate_code {files : Workspace} {path : String} {scene : Scene}
    (h : files.read (normalPath path) = .ok (line scene.code).toUTF8) (threshold : Nat)
    (strict : Bool) :
    Command.runValidate files threshold path strict = ⟨cleanResult, "", .exit 0, files⟩ := by
  have text : files.readText (normalPath path) = .ok (line scene.code) := by
    simp only [Workspace.readText, h, scene.textOfBytes?_line]
  have printed : outLine (Json.obj (Verdict.members ⟨[], [], []⟩)).indented = cleanResult := by
    rw [outLine_eq (by decide +kernel)]
    decide +kernel
  unfold Command.runValidate
  simp only [text, scene.verdict_line strict, printed]
  rfl

theorem runCommandLine_of_asks {settings : Settings} {args : List String} {command : Command}
    {threshold : Nat}
    (asks : Asks args command) (level : threshold? (capitals settings.logLevel) = some threshold)
    (files : Workspace) :
    runCommandLine settings files args = command.run settings files threshold := by
  obtain ⟨name, rest, named, parsed⟩ := asks
  simp only [runCommandLine, named, level, parsed]

/-- **A scene is compiled into a file exactly if it is read without a fault, has no problem and has
code. The file has this code and a line break, and the checks accept it without a word, however
strict they are. A run that ends in any other way writes nothing.** -/
theorem compile_then_validate {settings : Settings} {files : Workspace} {args : List String}
    {file out text : String} {threshold : Nat} (asks : Asks args (.compile file (some out)))
    (level : threshold? (capitals settings.logLevel) = some threshold)
    (readable : files.readText (normalPath file) = .ok text)
    (writable : files.Writable (normalPath out)) :
    let report := runCommandLine settings files args
    (report.ending = .exit 0 ↔ ∃ document scene code, Json.parse text = .ok document ∧
      Scene.codec.read document = .accepted scene ∧ scene.problems = [] ∧
      scene.compile = .ok code) ∧
    (∀ document scene code, Json.parse text = .ok document →
      Scene.codec.read document = .accepted scene →
      scene.problems = [] → scene.compile = .ok code →
        report.files.read (normalPath out) = .ok (code ++ "\n").toUTF8 ∧
        ∀ later args strict, Asks args (.validate out strict) →
          (threshold? (capitals later.logLevel)).isSome = true →
          runCommandLine later report.files args = ⟨cleanResult, "", .exit 0, report.files⟩) ∧
    (report.ending ≠ .exit 0 → report.files = files) := by
  intro report
  have run : report = Command.runCompile files threshold file (some out) :=
    runCommandLine_of_asks asks level files
  have compiled {scene : Scene} (read : files.readScene (normalPath file) = .ok scene) :
      report = emitScene files threshold scene (some out) := by
    rw [run]
    unfold Command.runCompile
    rw [read]
  refine ⟨⟨fun ends => ?_, ?_⟩, ?_, (careful_run files settings args).resolve_left⟩
  · cases read : files.readScene (normalPath file) with
    | ok scene =>
      obtain ⟨document, parsed, accepted, valid⟩ := (readScene_eq_ok readable).mp read
      rw [compiled read] at ends
      obtain ⟨code, ok⟩ := (emitScene_ends_well writable).mp ends
      exact ⟨document, scene, code, parsed, accepted, valid, ok⟩
    | error fault =>
      have failed : report = .failure files "" fault := by
        rw [run]
        unfold Command.runCompile
        rw [read]
      rw [failed] at ends
      cases ends
  · rintro ⟨document, scene, code, parsed, accepted, valid, ok⟩
    rw [compiled ((readScene_eq_ok readable).mpr ⟨document, parsed, accepted, valid⟩)]
    exact (emitScene_ends_well writable).mpr ⟨code, ok⟩
  · intro document scene code parsed accepted valid ok
    rw [compiled ((readScene_eq_ok readable).mpr ⟨document, parsed, accepted, valid⟩)]
    have written := emitScene_files writable threshold ok
    refine ⟨written, fun later args strict asks known => ?_⟩
    obtain ⟨threshold, level⟩ := Option.isSome_iff_exists.mp known
    obtain ⟨_, rfl⟩ := Scene.compile_eq_ok.mp ok
    exact (runCommandLine_of_asks asks level _).trans (runValidate_code written threshold _)

def canvasText : String :=
  "\x7b\"canvas\": \x7b\"width\": 400, \"height\": 400\x7d\x7d"

theorem parse_canvasText :
    Json.parse canvasText =
      .ok (.obj [("canvas", .obj [("width", .int 400), ("height", .int 400)])]) := by
  rfl

theorem read_canvasText : ∃ document scene code, Json.parse canvasText = .ok document ∧
    Scene.codec.read document = .accepted scene ∧ scene.problems = [] ∧
    scene.compile = .ok code := by
  have size {n : Int} {x : Double} (whole : Double.ofInt? n = some x) :
      Codec.number.read (.int n) = .accepted x := by
    simp only [Codec.number, Codec.readNumber, Outcome.ofOption_eq_accepted, whole]
  have whole : Double.ofInt? 400 = some 400 := by decide +kernel
  have canvas := Scene.read_canvas (size whole) (size whole)
  exact ⟨_, { canvas := ⟨400, 400⟩ }, _, parse_canvasText, Scene.read_empty canvas,
    by decide +kernel, rfl⟩

theorem compile_then_validate_canvas :
    let files : Workspace := { files := [("scene.json", canvasText.toUTF8)] }
    let report := runCommandLine {} files ["compile", "scene.json", "-o", "sketch.js"]
    report.ending = .exit 0 ∧ runCommandLine {} report.files ["validate", "sketch.js", "--strict"] =
      ⟨cleanResult, "", .exit 0, report.files⟩ := by
  intro files report
  have asks : Asks ["compile", "scene.json", "-o", "sketch.js"]
      (.compile "scene.json" (some "sketch.js")) :=
    asks_compile (by decide) (by decide) (by decide)
  have level : threshold? (capitals (Settings.logLevel {})) = some 30 := by decide +kernel
  have readable : files.readText (normalPath "scene.json") = .ok canvasText := by
    have bytes : files.read (normalPath "scene.json") = .ok canvasText.toUTF8 := by
      rfl
    simp only [Workspace.readText, bytes, textOfBytes?_toUTF8 (s := canvasText) (by decide +kernel)]
  have writable : files.Writable (normalPath "sketch.js") := by
    have free : files.occupant ["sketch.js"] = .nothing := by rfl
    refine ⟨["sketch.js"], by rfl, ?_⟩
    rw [free]
    exact Occupant.noConfusion
  obtain ⟨ends, written, -⟩ := compile_then_validate asks level readable writable
  obtain ⟨document, scene, code, parsed, accepted, valid, ok⟩ := read_canvasText
  have validated := (written document scene code parsed accepted valid ok).2 {} _ (some true)
    (asks_validate (by decide) (by decide)).2.1 (by decide)
  exact ⟨ends.mpr read_canvasText, validated⟩

end SceneSketch
