/-!
# Arguments of the command line

The first word that is no option names a command; the words behind it are the options and arguments
of the command in any order. A value stands behind its option, in the same word or in the next,
whatever it looks like. Two dashes end the options.
-/

namespace SceneSketch

inductive CommandName
  | compile
  | sample
  | validate
  | describe
  | prompt
deriving DecidableEq

inductive Command
  | help
  | compile (file : String) (output : Option String)
  | sample (name : Option String) (output : Option String)
  | validate (file : String) (strict : Option Bool)
  | describe (file : String)
  | prompt (text : String)
deriving DecidableEq

inductive UsageFault
  | noCommand
  | extraArgument
  | missingArgument
  | unknownOption
  | optionValue
  | nullInPath
deriving DecidableEq

namespace CommandName

def ofText? (s : String) : Option CommandName :=
  [("compile", compile), ("example", sample), ("validate", validate), ("describe", describe),
    ("prompt", prompt)].lookup s

end CommandName

/-! ## Options -/

inductive OptionName
  | help
  | output
  | strict
  | lenient
deriving DecidableEq

def OptionName.takesValue : OptionName → Bool
  | output => true
  | _ => false

def CommandName.options : CommandName → List (String × OptionName)
  | compile | sample => [("--help", .help), ("--output", .output)]
  | validate => [("--help", .help), ("--strict", .strict), ("--lenient", .lenient)]
  | describe | prompt => [("--help", .help)]

/-- Words that begin with a dash are options, a single dash apart. -/
def looksLikeOption (arg : String) : Bool :=
  match arg.toList with
  | '-' :: _ :: _ => true
  | _ => false

/-- An option in a word, with the value that the word has for it. -/
def optionOfWord (options : List (String × OptionName)) (arg : String) :
    Except UsageFault (OptionName × Option String) :=
  let cs := arg.toList
  let value : Option String := match cs.dropWhile (· ≠ '=') with
    | _ :: rest => some (String.ofList rest)
    | [] => none
  match options.lookup (String.ofList (cs.takeWhile (· ≠ '='))) with
  | some option =>
    if value.isSome && !option.takesValue then .error .optionValue else .ok (option, value)
  | none =>
    match cs with
    | '-' :: 'o' :: rest =>
      if options.any fun o => o.2 = .output then
        .ok (.output, if rest = [] then none else some (String.ofList rest))
      else .error .unknownOption
    | _ => .error .unknownOption

structure Words where
  options : List (OptionName × String)
  arguments : List String

def Words.addOption (option : OptionName) (value : String) (words : Words) : Words :=
  { words with options := (option, value) :: words.options }

def Words.addArgument (argument : String) (words : Words) : Words :=
  { words with arguments := argument :: words.arguments }

def readWords (options : List (String × OptionName)) : List String → Except UsageFault Words
  | [] => .ok ⟨[], []⟩
  | arg :: rest =>
    if arg = "--" then .ok ⟨[], rest⟩
    else if looksLikeOption arg then
      match optionOfWord options arg with
      | .error fault => .error fault
      | .ok (option, some value) => (readWords options rest).map (·.addOption option value)
      | .ok (option, none) =>
        if option.takesValue then
          match rest with
          | [] => .error .optionValue
          | value :: rest => (readWords options rest).map (·.addOption option value)
        else (readWords options rest).map (·.addOption option "")
    else (readWords options rest).map (·.addArgument arg)

/-! ## Commands -/

/-- The only argument, in the form that it is used in. -/
def oneArgument {α : Type} (use : String → Except UsageFault α) :
    List String → Except UsageFault α
  | [] => .error .missingArgument
  | a :: rest => (use a).bind fun a => if rest = [] then .ok a else .error .extraArgument

def atMostOneArgument : List String → Except UsageFault (Option String)
  | [] => .ok none
  | [a] => .ok (some a)
  | _ => .error .extraArgument

def usePath (path : String) : Except UsageFault String :=
  if path.toList.contains '\x00' then .error .nullInPath else .ok path

namespace Words

def output? (words : Words) : Option String :=
  words.options.reverse.lookup .output

def strict? (words : Words) : Option Bool :=
  words.options.reverse.findSome? fun
    | (.strict, _) => some true
    | (.lenient, _) => some false
    | _ => none

end Words

def Command.paths : Command → List String
  | compile file output => file :: output.toList
  | sample _ output => output.toList
  | validate file _ => [file]
  | describe file => [file]
  | _ => []

/-- A command from its words. The options are looked at before the arguments. -/
def Command.ofWords (name : CommandName) (words : Words) : Except UsageFault Command :=
  if words.options.any fun o => o.1 = .help then .ok .help
  else
    let output := words.output?.mapM usePath
    match name with
    | .compile => output.bind fun o => (oneArgument usePath words.arguments).map (.compile · o)
    | .sample => output.bind fun o => (atMostOneArgument words.arguments).map (.sample · o)
    | .validate => (oneArgument usePath words.arguments).map (.validate · words.strict?)
    | .describe => (oneArgument usePath words.arguments).map .describe
    | .prompt => (oneArgument .ok words.arguments).map .prompt

def Command.parse (name : CommandName) (args : List String) : Except UsageFault Command :=
  (readWords name.options args).bind (ofWords name)

/-- The options before the name of a command: whether they ask for help, and the words behind
them. -/
def leadingOptions : List String → Except UsageFault (Bool × List String)
  | [] => .ok (false, [])
  | arg :: rest =>
    if arg = "--" then .ok (false, rest)
    else if looksLikeOption arg then
      (optionOfWord [("--help", .help)] arg).bind fun _ =>
        (leadingOptions rest).map fun (_, words) => (true, words)
    else .ok (false, arg :: rest)

/-- The name of the command, none for help, and the words behind it. A word behind two dashes that
names no command is looked at once more, now as an option. -/
def commandName (args : List String) : Except UsageFault (Option CommandName × List String) :=
  (leadingOptions args).bind fun
    | (true, rest) => .ok (none, rest)
    | (false, []) => .error .noCommand
    | (false, name :: rest) =>
      match CommandName.ofText? name with
      | some command => .ok (some command, rest)
      | none =>
        (leadingOptions (name :: rest)).bind fun (help, words) =>
          if help then .ok (none, words) else .error .noCommand

end SceneSketch
