/-
# Command lines

The commands with their options.  An option is given at most once, by its long name or its
letter; its value may follow as the next argument or at once, also after an equals sign.  After
`--` every argument is taken as it stands.
-/

namespace ClassGen

/-- How the code model is shown. -/
inductive ReportFormat where
  | yaml
  | json
deriving DecidableEq, Repr

/-- A shell that completions can be made for. -/
inductive Shell where
  | bash
  | elvish
  | fish
  | powershell
  | zsh
deriving DecidableEq, Repr

/-- A command. -/
inductive Command where
  /-- Write the source files of a model. -/
  | generate (input output : Option String) (noComments : Bool) (pluginArgs : List String)
  /-- Check a model. -/
  | validate (input : String)
  /-- Show a model after the plugins have run. -/
  | inspect (input : String) (format : ReportFormat) (pluginArgs : List String)
  /-- Show the usage of the plugins. -/
  | usage
  /-- Write a configuration file. -/
  | init (force : Bool)
  /-- Show the completions for a shell. -/
  | completions (shell : Shell)
deriving DecidableEq, Repr

/-- What a command line asks for. -/
inductive Request where
  | command (c : Command)
  /-- The version of the program. -/
  | version
  /-- Help on the command line. -/
  | help
deriving DecidableEq, Repr

/-- Why a command line is refused. -/
inductive UsageError where
  /-- There is no command. -/
  | noCommand
  /-- There is no such command. -/
  | unknownCommand (name : String)
  /-- There is no such option, or an argument where none may be. -/
  | unexpected (argument : String)
  /-- The option has no value, or an empty one. -/
  | missingValue (option : String)
  /-- The option takes no value. -/
  | needlessValue (option : String)
  /-- The option is given twice. -/
  | repeated (option : String)
  /-- The option or argument has to be given. -/
  | missing (name : String)
  /-- The value is none of those that may be given. -/
  | invalidValue (name value : String)
deriving DecidableEq, Repr

/-- The wording of the error. -/
def UsageError.message : UsageError → String
  | .noCommand => "a command is required"
  | .unknownCommand name => "unknown command " ++ name
  | .unexpected argument => "unexpected argument " ++ argument
  | .missingValue option => "a value is required for --" ++ option
  | .needlessValue option => "no value can be given for --" ++ option
  | .repeated option => "--" ++ option ++ " cannot be given more than once"
  | .missing name => "a value is required: " ++ name
  | .invalidValue name value => "invalid value for " ++ name ++ ": " ++ value

/-- An option of a command. -/
structure OptionSpec where
  /-- Its long name. -/
  long : String
  /-- Its letter, if it has one. -/
  letter : Option Char
  /-- Does it take a value? -/
  takesValue : Bool
deriving DecidableEq, Repr

namespace OptionSpec

/-- The path of the model file. -/
def input : OptionSpec := ⟨"input", some 'i', true⟩

/-- The directory of generated files. -/
def output : OptionSpec := ⟨"output", some 'o', true⟩

/-- Leave the comments out. -/
def noComments : OptionSpec := ⟨"no-javadoc", none, false⟩

/-- How the model is shown. -/
def format : OptionSpec := ⟨"format", none, true⟩

/-- Write over what is there. -/
def force : OptionSpec := ⟨"force", none, false⟩

/-- Help on the command line; every command has it. -/
def help : OptionSpec := ⟨"help", some 'h', false⟩

/-- The version of the program. -/
def version : OptionSpec := ⟨"version", some 'V', false⟩

end OptionSpec

/-- An argument by its shape. -/
inductive ArgumentShape where
  /-- `--name` or `--name=value`. -/
  | long (name : String) (value : Option String)
  /-- `-x`, with what follows the letter. -/
  | short (letter : Char) (attached : Option String)
  /-- Anything else. -/
  | plain
deriving DecidableEq, Repr

/-- The characters before the first equals sign, and those after it if there is one. -/
def splitAtEquals : List Char → List Char × Option (List Char)
  | [] => ([], none)
  | c :: cs =>
    if c = '=' then ([], some cs)
    else
      let (before, after) := splitAtEquals cs
      (c :: before, after)

/-- The shape of an argument before `--`. -/
def ArgumentShape.of (argument : String) : ArgumentShape :=
  match argument.toList with
  | '-' :: '-' :: cs =>
    let (name, value) := splitAtEquals cs
    .long (String.ofList name) (value.map String.ofList)
  | '-' :: c :: cs =>
    .short c (match cs with
      | [] => none
      | '=' :: value => some (String.ofList value)
      | value => some (String.ofList value))
  | _ => .plain

/-- The arguments of a command, sorted. -/
structure Arguments where
  /-- The options that are given, with their values. -/
  options : List (String × String)
  /-- The arguments that are no options. -/
  plain : List String
  /-- The arguments after `--`. -/
  trailing : List String
  /-- Is help asked for?  Nothing after that matters. -/
  helpWanted : Bool
deriving DecidableEq, Repr

namespace Arguments

/-- No arguments. -/
def none : Arguments := ⟨[], [], [], false⟩

/-- Is the option given? -/
def has (args : Arguments) (spec : OptionSpec) : Bool :=
  args.options.any fun o => o.1 == spec.long

/-- The value of the option. -/
def value? (args : Arguments) (spec : OptionSpec) : Option String :=
  args.options.lookup spec.long

/-- The arguments with one more option. -/
def add (args : Arguments) (spec : OptionSpec) (value : String) : Except UsageError Arguments :=
  if args.has spec then .error (.repeated spec.long)
  else if spec.takesValue && value == "" then .error (.missingValue spec.long)
  else .ok { args with options := args.options ++ [(spec.long, value)] }

/-- The option that an argument names, with the value that comes with it. -/
def named? (specs : List OptionSpec) : ArgumentShape → Option (OptionSpec × Option String)
  | .long name value => (specs.find? fun s => s.long == name).map fun s => (s, value)
  | .short letter value => (specs.find? fun s => s.letter == some letter).map fun s => (s, value)
  | .plain => Option.none

/-- Sort the arguments of a command that has these options.  Of the `pending` option the value
is still to come. -/
def sort (specs : List OptionSpec) (args : Arguments) (pending : Option OptionSpec) :
    List String → Except UsageError Arguments
  | [] =>
    match pending with
    | some spec => .error (.missingValue spec.long)
    | Option.none => .ok args
  | argument :: rest =>
    match pending, ArgumentShape.of argument with
    | some spec, .plain =>
      match args.add spec argument with
      | .error e => .error e
      | .ok args => sort specs args Option.none rest
    | some spec, _ => .error (.missingValue spec.long)
    | Option.none, .plain =>
      sort specs { args with plain := args.plain ++ [argument] } Option.none rest
    | Option.none, shape =>
      if argument = "--" then .ok { args with trailing := rest }
      else
        match named? (.help :: specs) shape with
        | Option.none => .error (.unexpected argument)
        | some (spec, value) =>
          if spec = .help then
            if value.isSome && shape matches .long _ _ then .error (.needlessValue spec.long)
            else .ok { args with helpWanted := true }
          else if spec.takesValue then
            match value with
            | Option.none => sort specs args (some spec) rest
            | some value =>
              match args.add spec value with
              | .error e => .error e
              | .ok args => sort specs args Option.none rest
          else if value.isSome then .error (.needlessValue spec.long)
          else
            match args.add spec "" with
            | .error e => .error e
            | .ok args => sort specs args Option.none rest

/-- The arguments of a command that has these options.  Plain arguments are allowed for a
command that takes `positions` of them, arguments after `--` if `takesTrailing`; a plain argument
may also stand after `--`. -/
def parse (specs : List OptionSpec) (positions : Nat) (takesTrailing : Bool)
    (args : List String) : Except UsageError Arguments :=
  match sort specs none Option.none args with
  | .error e => .error e
  | .ok args =>
    let plain := if takesTrailing then args.plain else args.plain ++ args.trailing
    match plain.drop positions with
    | [] => .ok { args with plain := plain }
    | argument :: _ => .error (.unexpected argument)

/-- The value of an option that has to be given. -/
def require (args : Arguments) (spec : OptionSpec) : Except UsageError String :=
  match args.value? spec with
  | some value => .ok value
  | Option.none => .error (.missing ("--" ++ spec.long))

end Arguments

/-- The format of that name. -/
def ReportFormat.ofName (name : String) : Except UsageError ReportFormat :=
  match name with
  | "yaml" => .ok .yaml
  | "json" => .ok .json
  | _ => .error (.invalidValue "--format" name)

/-- The shell of that name. -/
def Shell.ofName (name : String) : Except UsageError Shell :=
  match name with
  | "bash" => .ok .bash
  | "elvish" => .ok .elvish
  | "fish" => .ok .fish
  | "powershell" => .ok .powershell
  | "zsh" => .ok .zsh
  | _ => .error (.invalidValue "shell" name)

namespace Request

/-- The command that sorted arguments make, unless they ask for help. -/
def orHelp (parsed : Except UsageError Arguments)
    (make : Arguments → Except UsageError Command) : Except UsageError Request :=
  match parsed with
  | .error e => .error e
  | .ok args =>
    if args.helpWanted then .ok .help
    else
      match make args with
      | .error e => .error e
      | .ok c => .ok (.command c)

/-- The command `generate`. -/
def generate (args : List String) : Except UsageError Request :=
  orHelp (Arguments.parse [.input, .output, .noComments] 0 true args) fun args =>
    .ok (.generate (args.value? .input) (args.value? .output) (args.has .noComments)
      args.trailing)

/-- The command `validate`. -/
def validate (args : List String) : Except UsageError Request :=
  orHelp (Arguments.parse [.input] 0 false args) fun args => do
    return .validate (← args.require .input)

/-- The command `inspect`. -/
def inspect (args : List String) : Except UsageError Request :=
  orHelp (Arguments.parse [.input, .format] 0 true args) fun args => do
    let format ← ReportFormat.ofName ((args.value? .format).getD "yaml")
    return .inspect (← args.require .input) format args.trailing

/-- The command `usage`. -/
def usage (args : List String) : Except UsageError Request :=
  orHelp (Arguments.parse [] 0 false args) fun _ => .ok .usage

/-- The command `init`. -/
def init (args : List String) : Except UsageError Request :=
  orHelp (Arguments.parse [.force] 0 false args) fun args => .ok (.init (args.has .force))

/-- The command `completions`. -/
def completions (args : List String) : Except UsageError Request :=
  orHelp (Arguments.parse [] 1 false args) fun args =>
    match args.plain with
    | [] => .error (.missing "shell")
    | name :: _ => (Shell.ofName name).map .completions

/-- The commands by their names. -/
def commands : List (String × (List String → Except UsageError Request)) :=
  [("generate", generate), ("validate", validate), ("inspect", inspect), ("usage", usage),
    ("init", init), ("completions", completions)]

/-- The command `help`, which takes the name of a command. -/
def helpOn : List String → Except UsageError Request
  | [] => .ok .help
  | name :: rest =>
    match commands.lookup name, rest with
    | some _, [] => .ok .help
    | some _, argument :: _ => .error (.unexpected argument)
    | none, _ => if name = "help" then .ok .help else .error (.unknownCommand name)

/-- What the arguments of the program ask for. -/
def parse : List String → Except UsageError Request
  | [] => .error .noCommand
  | first :: rest =>
    match ArgumentShape.of first with
    | .plain =>
      match commands.lookup first with
      | some read => read rest
      | none => if first = "help" then helpOn rest else .error (.unknownCommand first)
    | shape =>
      match Arguments.named? [.help, .version] shape with
      | none => .error (.unexpected first)
      | some (spec, value) =>
        if value.isSome && shape matches .long _ _ then .error (.needlessValue spec.long)
        else if spec = .help then .ok .help
        else .ok .version

end Request

end ClassGen
