import EntityViews.Command

/-! The arguments of the program.
Options may stand anywhere among the other arguments of a command; a value follows its option as
the next argument or behind an equals sign.
-/

namespace EntityViews

/-- What the arguments ask for. -/
inductive Request where
  | help
  | version
  | run (settingsFile : Option String) (command : Command)
deriving DecidableEq, Repr

/-- Why arguments cannot be understood. -/
inductive UsageError where
  | unexpected (argument : String)
  | unknownCommand (word : String)
  | valueMissing (option : String)
  | valueInvalid (option value : String)
  | repeated (option : String)
  | argumentMissing (name : String)
  | commandMissing
deriving DecidableEq, Repr

def UsageError.message : UsageError → String
  | .unexpected argument => s!"unexpected argument '{argument}'"
  | .unknownCommand word => s!"unrecognized subcommand '{word}'"
  | .valueMissing option => s!"a value is required for '--{option}'"
  | .valueInvalid option value => s!"invalid value '{value}' for '{option}'"
  | .repeated option => s!"'--{option}' cannot be used multiple times"
  | .argumentMissing name => s!"missing argument '{name}'"
  | .commandMissing => "a subcommand is required"

namespace CommandLine

/-- The commands by name. -/
inductive Verb where
  | schema
  | entity
  | check
deriving DecidableEq, Repr

def Verb.parse? : String → Option Verb
  | "schema" => some .schema
  | "entity" => some .entity
  | "check" => some .check
  | _ => none

def Verb.positions : Verb → List String
  | .schema => ["MANIFEST", "MODEL"]
  | .entity => ["MANIFEST", "MODEL"]
  | .check => ["MANIFEST"]

def Verb.options : Verb → List String
  | .schema => ["config", "view", "prefix"]
  | .entity => ["config"]
  | .check => ["config"]

/-- Whether a value fits an option or a position. Paths are not empty, and a view has one of
its names.
-/
def accepts (name value : String) : Bool :=
  if ["config", "MANIFEST"].contains name then value ≠ ""
  else if name = "view" then (View.parse? value).isSome
  else true

/-- Arguments as they are taken apart. -/
inductive Token where
  /-- The end of the options. -/
  | stop
  /-- An option by its name, perhaps with a value behind an equals sign. -/
  | option (name : String) (value : Option String)
  /-- Letters behind a single hyphen. -/
  | letters (first : Char)
  | word (text : String)
deriving DecidableEq, Repr

/-- The name of an option and the value behind its first equals sign. -/
def splitOption (text : List Char) : Token :=
  let name := text.takeWhile (· ≠ '=')
  match text.drop name.length with
  | _ :: value => .option (String.ofList name) (some (String.ofList value))
  | [] => .option (String.ofList name) none

/-- Takes an argument apart; a hyphen alone is a word. -/
def tokenOf (argument : String) : Token :=
  match argument.toList with
  | ['-', '-'] => .stop
  | '-' :: '-' :: rest => splitOption rest
  | ['-'] => .word argument
  | '-' :: first :: _ => .letters first
  | _ => .word argument

/-- The values that options and positions have been given. -/
structure Given where
  options : List (String × String) := []
  words : List String := []

/-- The request that arguments make, or why they cannot be understood. -/
abbrev Outcome := Except UsageError Request

/-- Gives an option its value, once. -/
def Given.setOption (given : Given) (name value : String) : Except UsageError Given :=
  if (given.options.lookup name).isSome then .error (.repeated name)
  else if accepts name value then .ok { given with options := (name, value) :: given.options }
  else .error (.valueInvalid name value)

/-- Gives the next free position its value. -/
def Given.addWord (positions : List String) (given : Given) (word : String)
    : Except UsageError Given :=
  match positions[given.words.length]? with
  | none => .error (.unexpected word)
  | some name =>
      if accepts name word then .ok { given with words := given.words ++ [word] }
      else .error (.valueInvalid name word)

def commandOf (verb : Verb) (given : Given) : Except UsageError Command :=
  match verb, given.words with
  | .schema, [manifest, model] =>
      let view := ((given.options.lookup "view").bind View.parse?).getD (.base .create)
      .ok (.schema manifest model view (given.options.lookup "prefix"))
  | .entity, [manifest, model] => .ok (.entity manifest model)
  | .check, [manifest] => .ok (.check manifest)
  | verb, words =>
      .error (.argumentMissing (", ".intercalate (verb.positions.drop words.length)))

def addWords (positions : List String) : Given → List String → Except UsageError Given
  | given, [] => .ok given
  | given, word :: rest => do
      addWords positions (← given.addWord positions word) rest

/-- The request that the values given to a command make. A settings file given to the command
itself counts before one given ahead of it.
-/
def finish (outer : Option String) (verb : Verb) (given : Given) : Outcome := do
  let command ← commandOf verb given
  return .run ((given.options.lookup "config").or outer) command

/-- Reads the arguments of a command; a settings file may have been given ahead of it. -/
def readArguments (outer : Option String) (verb : Verb) : Given → List String → Outcome
  | given, [] => finish outer verb given
  | given, argument :: rest =>
      match tokenOf argument with
      | .stop => do finish outer verb (← addWords verb.positions given rest)
      | .word text => do
          readArguments outer verb (← given.addWord verb.positions text) rest
      | .letters first => if first = 'h' then .ok .help else .error (.unexpected argument)
      | .option "help" none => .ok .help
      | .option name value? =>
          if !verb.options.contains name then .error (.unexpected argument)
          else
            match value?, rest with
            | some value, rest => do
                readArguments outer verb (← given.setOption name value) rest
            | none, [] => .error (.valueMissing name)
            | none, next :: rest =>
                match tokenOf next with
                | .word value => do
                    readArguments outer verb (← given.setOption name value) rest
                | _ => .error (.valueMissing name)

def readHelp : List String → Outcome
  | [] => .ok .help
  | [word] =>
      if word = "help" ∨ (Verb.parse? word).isSome then .ok .help
      else .error (.unknownCommand word)
  | _ :: word :: _ => .error (.unknownCommand word)

def readOuter : Given → List String → Outcome
  | _, [] => .error .commandMissing
  | given, argument :: rest =>
      match tokenOf argument with
      | .stop =>
          match rest with
          | [] => .error .commandMissing
          | word :: _ => .error (.unexpected word)
      | .word "help" => readHelp rest
      | .word text =>
          match Verb.parse? text with
          | some verb => readArguments (given.options.lookup "config") verb {} rest
          | none => .error (.unknownCommand text)
      | .letters first =>
          if first = 'h' then .ok .help
          else if first = 'V' then .ok .version
          else .error (.unexpected argument)
      | .option "help" none => .ok .help
      | .option "version" none => .ok .version
      | .option "config" (some value) => do
          readOuter (← given.setOption "config" value) rest
      | .option "config" none =>
          match rest with
          | [] => .error (.valueMissing "config")
          | next :: rest =>
              match tokenOf next with
              | .word value => do readOuter (← given.setOption "config" value) rest
              | _ => .error (.valueMissing "config")
      | .option .. => .error (.unexpected argument)

def read (arguments : List String) : Outcome :=
  readOuter {} arguments

end CommandLine

end EntityViews
