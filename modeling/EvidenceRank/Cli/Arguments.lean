import EvidenceRank.Json.Numeral

/-!
# Command-line arguments

What the arguments ask for (`Cli`, `Command`). Options that belong to the program as a whole may
stand in front of the command or behind it; of two, the one behind the command counts, and an option
counts before the environment. An option may be given once in front of the command and once behind
it.

Help may also be asked for as a command, which names what the help is to be about.

An option's value is the next argument, or stands in the same argument: `--topk 3`, `--topk=3`,
`-ifile`, `-i=file`. An argument that starts with a dash is no value of the option before it.

* `Invocation.ofArguments`: what is to be run, or the reason why nothing is.
-/

namespace EvidenceRank.Cli

/-- Whose arguments are read: those of the program, or those of a command. -/
inductive Level where
  | program
  | rank
  | faq
deriving DecidableEq

/-- The name under which a level reports its version. -/
def Level.title : Level → String
  | program => "citerank"
  | rank => "citerank-rank"
  | faq => "citerank-faq"

/-- The commands of the program; commands have none of their own. -/
def Level.command? : Level → String → Option Level
  | program, "rank" => some rank
  | program, "faq" => some faq
  | _, _ => none

/-- What an option sets or asks for. -/
inductive Flag where
  | verbose
  | config
  | help
  | version
  | input
  | json
  | topRows
  | method
  | maxSlices
deriving DecidableEq

namespace Flag

def long : Flag → String
  | verbose => "verbose"
  | config => "config"
  | help => "help"
  | version => "version"
  | input => "input"
  | json => "json"
  | topRows => "topk"
  | method => "method"
  | maxSlices => "max-slices"

def short? : Flag → Option Char
  | verbose => some 'v'
  | help => some 'h'
  | version => some 'V'
  | input => some 'i'
  | _ => none

def takesValue : Flag → Bool
  | config | input | topRows | method | maxSlices => true
  | verbose | help | version | json => false

end Flag

/-- The options that may stand at a level. -/
def Level.flags (level : Level) : List Flag :=
  [.verbose, .config, .help, .version] ++ match level with
    | program => []
    | rank => [.input, .json, .topRows, .method, .maxSlices]
    | faq => [.input, .json]

/-- A count of 64 bits in decimal digits, after a plus sign at most. -/
def count? (text : String) : Option Nat :=
  let digits := match text.toList with
    | '+' :: cs => cs
    | cs => cs
  let n := Json.natOfDigits digits
  if !digits.isEmpty && digits.all Char.isDigit && n < Nat.pow 2 64 then some n else none

/-- The value of a switch that is on. -/
def on : String := "true"

/-- The values that an option can take: paths are not empty, and limits are counts. A switch is on
or off. -/
def Flag.accepts : Flag → String → Bool
  | config, value | input, value => !value.isEmpty
  | topRows, value | maxSlices, value => (count? value).isSome
  | method, _ => true
  | _, value => [on, "false"].contains value

/-- The options that the environment may give. -/
def Flag.ofEnvironment : List Flag := [verbose, config]

/-- What is wrong with the arguments. -/
inductive ArgumentFault where
  | unexpected (argument : String)
  | missingValue (flag : Flag)
  | badValue (flag : Flag) (value : String)
  | valueOnSwitch (flag : Flag)
  | repeated (flag : Flag)
  | noCommand
  | noInput

def ArgumentFault.message : ArgumentFault → String
  | unexpected argument => s!"unexpected argument '{argument}'"
  | missingValue flag => s!"'--{flag.long}' needs a value"
  | badValue flag value => s!"invalid value '{value}' for '--{flag.long}'"
  | valueOnSwitch flag => s!"'--{flag.long}' takes no value"
  | repeated flag => s!"'--{flag.long}' is given more than once"
  | noCommand => "a command is needed: rank or faq"
  | noInput => "'--input' is needed"

/-- What there is help about: a level, or help itself. -/
inductive HelpTopic where
  | level (level : Level)
  | help
deriving DecidableEq

/-- Why the arguments leave nothing to be run. -/
inductive Stop where
  | version (level : Level)
  | help (topic : HelpTopic)
  | refused (fault : ArgumentFault)

/-! ## Reading the arguments of a level -/

/-- The options of a level that have been read. -/
structure Options where
  given : List (Flag × String) := []
  /-- The option named last, while its value is still to come or to be taken. -/
  pending : Option (Flag × Option String) := none

namespace Options

/-- The value of an option that was given. -/
def value? (o : Options) (flag : Flag) : Option String :=
  (o.given.find? (·.1 == flag)).map (·.2)

def has (o : Options) (flag : Flag) : Bool := (o.value? flag).isSome

/-- Take the value of an option, once. -/
def store (o : Options) (flag : Flag) (value : String) : Except Stop Options :=
  if o.has flag then .error (.refused (.repeated flag))
  else if flag.accepts value then .ok { o with given := o.given ++ [(flag, value)] }
  else .error (.refused (.badValue flag value))

/-- Take the value that is pending. -/
def settle (o : Options) : Except Stop Options :=
  match o.pending with
  | none => .ok o
  | some (flag, none) => .error (.refused (.missingValue flag))
  | some (flag, some value) => store { o with pending := none } flag value

/-- Take an option that stands with its value, or has none. -/
def give (o : Options) (level : Level) (flag : Flag) (value : String) : Except Stop Options := do
  let o ← o.settle
  match flag with
  | .version => throw (.version level)
  | .help => throw (.help (.level level))
  | _ => o.store flag value

/-- Take the name of an option whose value is the next argument. -/
def await (o : Options) (flag : Flag) : Except Stop Options := do
  return { ← o.settle with pending := some (flag, none) }

/-- Take an argument behind two dashes. -/
def takeLong (o : Options) (level : Level) (cs : List Char) : Except Stop Options :=
  let name := cs.takeWhile (· != '=')
  match level.flags.find? (·.long.toList == name), cs.dropWhile (· != '=') with
  | none, _ => .error (.refused (.unexpected (String.ofList ('-' :: '-' :: cs))))
  | some flag, [] => if flag.takesValue then o.await flag else o.give level flag on
  | some flag, _ :: value =>
    if flag.takesValue then o.give level flag (String.ofList value)
    else .error (.refused (.valueOnSwitch flag))

/-- Take the letters of options behind one dash. What follows the letter of an option with a value
is the value. -/
def takeShort (o : Options) (level : Level) : List Char → Except Stop Options
  | [] => .ok o
  | c :: cs =>
    match level.flags.find? (·.short? == some c) with
    | none => .error (.refused (.unexpected (String.ofList ['-', c])))
    | some flag =>
      if flag.takesValue then
        match cs with
        | [] => o.await flag
        | '=' :: value => o.give level flag (String.ofList value)
        | value => o.give level flag (String.ofList value)
      else do takeShort (← o.give level flag on) level cs

/-- Take an argument that is neither a value nor a command. -/
def take (o : Options) (level : Level) (argument : String) : Except Stop Options :=
  match argument.toList with
  | '-' :: '-' :: cs => o.takeLong level cs
  | '-' :: c :: cs => o.takeShort level (c :: cs)
  | _ => .error (.refused (.unexpected argument))

/-- The argument starts like an option. -/
def isDashed (argument : String) : Bool :=
  argument.startsWith "-" && argument != "-"

/-- The answer to a call for help: its topic, which the arguments name. -/
def helpOn : List String → Stop
  | [] => .help (.level .program)
  | ["help"] => .help .help
  | name :: names =>
    match Level.program.command? name, names with
    | some level, [] => .help (.level level)
    | some _, extra :: _ => .refused (.unexpected extra)
    | none, _ => .refused (.unexpected name)

/-- Read the arguments of a level up to a command; also the command and what follows it. Nothing
may stand behind two lone dashes. -/
def read (level : Level) (o : Options) :
    List String → Except Stop (Options × Option (Level × List String))
  | [] => .ok (o, none)
  | argument :: arguments =>
    match o.pending with
    | some (flag, none) =>
      if isDashed argument then .error (.refused (.missingValue flag))
      else read level { o with pending := some (flag, some argument) } arguments
    | _ =>
      match level.command? argument with
      | some command => .ok (o, some (command, arguments))
      | none =>
        if level == .program && argument == "help" then .error (helpOn arguments)
        else if argument == "--" then
          match arguments with
          | [] => .ok (o, none)
          | extra :: _ => .error (.refused (.unexpected extra))
        else do read level (← o.take level argument) arguments

/-- Take what is pending. What the environment gives and the level does not has to be accepted. -/
def underEnvironment (o : Options) (environment : Flag → Option String) : Except Stop Options := do
  let o ← o.settle
  let refused? (flag : Flag) : Option ArgumentFault :=
    if o.has flag then none
    else ((environment flag).filter (!flag.accepts ·)).map (.badValue flag)
  match Flag.ofEnvironment.findSome? refused? with
  | some fault => throw (.refused fault)
  | none => return o

/-- The switch is on, by the arguments or else by the environment. -/
def isOn (o : Options) (environment : Flag → Option String) (flag : Flag) : Bool :=
  (o.value? flag).or (environment flag) == some on

end Options

/-! ## What is to be run -/

structure RankOptions where
  input : String
  json : Bool
  topRows : Option Nat
  method : Option String
  maxSlices : Option Nat

structure FaqOptions where
  input : String
  json : Bool

inductive Command where
  | rank (options : RankOptions)
  | faq (options : FaqOptions)

structure Invocation where
  /-- The path of the configuration, if one was named. -/
  config : Option String
  /-- Notes are wanted. -/
  verbose : Bool
  command : Command

/-- The command that the options of its level describe. -/
def Command.ofOptions (level : Level) (o : Options) : Except Stop Command :=
  match level, o.value? .input with
  | .program, _ => .error (.refused .noCommand)
  | _, none => .error (.refused .noInput)
  | .rank, some input => .ok (.rank
    { input
      json := o.has .json
      topRows := o.value? .topRows >>= count?
      method := o.value? .method
      maxSlices := o.value? .maxSlices >>= count? })
  | .faq, some input => .ok (.faq { input, json := o.has .json })

/-- What the arguments ask for, given what the environment says for each option. -/
def Invocation.ofArguments (environment : Flag → Option String) (arguments : List String) :
    Except Stop Invocation := do
  match ← Options.read .program {} arguments with
  | (outer, none) =>
    let _ ← outer.settle
    throw (.refused .noCommand)
  | (outer, some (level, rest)) =>
    let (inner, _) ← Options.read level {} rest
    let inner ← inner.underEnvironment environment
    let command ← Command.ofOptions level inner
    let outer ← outer.underEnvironment environment
    return {
      config := ((inner.value? .config).or (outer.value? .config)).or (environment .config)
      verbose := inner.isOn environment .verbose || outer.isOn environment .verbose
      command }

end EvidenceRank.Cli
