import Waterworks.Collect
import Waterworks.Store.Host

namespace Waterworks.CommandLine

open Files

/-!
# Options and commands

* `OptionRule` — an option that a command takes.
* `Settings` — the options that have been given.
* `readOptions` — the options at the beginning of some arguments, up to the first other word.
* `Command` — what the program is told to do.
* `Invocation` — a command with the options that all commands share.
* `Invocation.ofArguments?` — the invocation that arguments spell.
* `ChildrenOptions.toRequest` — the request for which the options of a command stand.
-/

/-! ### Options -/

/-- What an option is given for in place of running a command. -/
inductive Notice where
  | version | help
  deriving DecidableEq, Repr

/-- What an option takes. -/
inductive OptionForm where
  /-- The option takes nothing. -/
  | flag
  /-- The option ends the reading. -/
  | notice (n : Notice)
  /-- The option takes a value, which has to be accepted. -/
  | value (accepts : String → Bool) (repeats : Bool)

/-- An option that a command takes. -/
structure OptionRule where
  /-- The name after two hyphens. -/
  name : String
  /-- The letter after one hyphen. -/
  letter : Option Char
  form : OptionForm

/-- The options that have been given, latest first, each with its value; a flag has an empty one. -/
abbrev Settings := List (String × String)

namespace Settings

/-- Whether an option is given. -/
def has (s : Settings) (name : String) : Bool :=
  s.any fun x => x.1 == name

/-- The value of an option. -/
def value? (s : Settings) (name : String) : Option String :=
  s.lookup name

/-- The values of an option, in the order in which they were given. -/
def values (s : Settings) (name : String) : List String :=
  (s.reverse.filter fun x => x.1 == name).map (·.2)

end Settings

/-- What follows the options of a command. -/
inductive Ending where
  | done
  /-- A word that is no option, and the arguments after it. -/
  | word (w : String) (rest : List String)
  | notice (n : Notice)

/-- Adds an option. Only options that repeat may be given again. -/
def addSetting (rule : OptionRule) (value : String) (s : Settings) : Option Settings :=
  match rule.form with
  | .flag => if s.has rule.name then none else some ((rule.name, value) :: s)
  | .notice _ => none
  | .value accepts repeats =>
    if accepts value && (repeats || !s.has rule.name) then some ((rule.name, value) :: s) else none

/-- Reads a group of letters, each of which is an option that takes nothing. -/
def readLetters (rules : List OptionRule) : List Char → Settings → Option (Settings × Option Notice)
  | [], s => some (s, none)
  | c :: rest, s =>
    match rules.find? fun rule => rule.letter == some c with
    | none => none
    | some rule =>
      match rule.form with
      | .notice n => some (s, some n)
      | .flag => (addSetting rule "" s).bind (readLetters rules rest)
      -- No option with a value has a letter.
      | .value _ _ => none

/-- The name of an option, and the value that is attached to it by an equals sign. -/
def splitAttached (option : List Char) : String × Option String :=
  let name := String.ofList (option.takeWhile (· != '='))
  match option.dropWhile (· != '=') with
  | [] => (name, none)
  | _ :: value => (name, some (String.ofList value))

/-- Whether an argument can be the value of the option before it. -/
def isFreeValue (argument : String) : Bool :=
  match argument.toList with
  | '-' :: _ :: _ => false
  | _ => true

/-- Reads the options at the beginning of some arguments. After two hyphens alone nothing may
follow. -/
def readOptions (rules : List OptionRule) : List String → Settings → Option (Settings × Ending)
  | [], s => some (s, .done)
  | argument :: rest, s =>
    match argument.toList with
    | ['-', '-'] => if rest.isEmpty then some (s, .done) else none
    | '-' :: '-' :: option =>
      let (name, attached) := splitAttached option
      match rules.find? fun rule => rule.name == name with
      | none => none
      | some rule =>
        match rule.form, attached, rest with
        -- A notice ends the reading: what follows may be anything.
        | .notice n, none, _ => some (s, .notice n)
        | .flag, none, rest => (addSetting rule "" s).bind (readOptions rules rest)
        | .value _ _, some value, rest => (addSetting rule value s).bind (readOptions rules rest)
        | .value _ _, none, value :: rest =>
          if isFreeValue value then (addSetting rule value s).bind (readOptions rules rest)
          else none
        | _, _, _ => none
    | '-' :: c :: letters =>
      match readLetters rules (c :: letters) s with
      | none => none
      | some (s, some n) => some (s, .notice n)
      | some (s, none) => readOptions rules rest s
    | _ => some (s, .word argument rest)

/-! ### Commands -/

/-- How summaries are printed. -/
inductive Format where
  | text | json
  deriving DecidableEq, Repr

/-- The format of a name, which has to be spelt exactly. -/
def Format.ofName? : String → Option Format
  | "text" => some .text
  | "json" => some .json
  | _ => none

/-- The options of the command for summaries. -/
structure ChildrenOptions where
  office : Option String
  projectLike : Option String
  /-- A pattern for the names of kinds. -/
  kindPattern : Option String
  /-- Kinds that are named one by one. -/
  kinds : List String
  format : Format
  deriving DecidableEq, Repr

/-- How the kinds of a request are chosen: by the pattern or else by the names that are given, and
all kinds without either. Names that no kind has choose nothing. -/
def ChildrenOptions.kindChoice (o : ChildrenOptions) : KindChoice :=
  match o.kindPattern with
  | some text => .pattern text
  | none => if o.kinds.isEmpty then .all else .explicit (.ofTokens o.kinds)

/-- The request for which the options stand. The default office is used if they name none. -/
def ChildrenOptions.toRequest (o : ChildrenOptions) (defaultOffice : Option String) :
    Except Refusal Request :=
  match o.office <|> defaultOffice with
  | some office => .ok ⟨office, o.projectLike, o.kindChoice⟩
  | none => .error .noOffice

/-- What the program is told to do. -/
inductive Command where
  | create
  | load (file : FilePath)
  | kinds (pattern : Option String)
  | children (o : ChildrenOptions)
  | version
  /-- A text about the program in place of a command. -/
  | notice (n : Notice)
  deriving DecidableEq, Repr

/-- A command with the options that all commands share. -/
structure Invocation where
  root : Option FilePath
  configuration : Option FilePath
  command : Command
  deriving DecidableEq, Repr

/-! ### Rules -/

/-- Any value will do. -/
def acceptsAll (_ : String) : Bool := true

/-- A path is not empty. -/
def acceptsPath (value : String) : Bool := value != ""

/-- A format is one of those that there are. -/
def acceptsFormat (value : String) : Bool := (Format.ofName? value).isSome

/-- An option with a value that may be anything. -/
def textRule (name : String) : OptionRule := ⟨name, none, .value acceptsAll false⟩

/-- An option that takes a path, at most once. -/
def pathRule (name : String) : OptionRule := ⟨name, none, .value acceptsPath false⟩

/-- The options that may be given before a command or after it. -/
def sharedRules : List OptionRule :=
  [pathRule "root", pathRule "config", ⟨"verbose", some 'v', .flag⟩,
    ⟨"help", some 'h', .notice .help⟩]

/-- The options that may be given before a command. -/
def outerRules : List OptionRule :=
  sharedRules ++ [⟨"version", some 'V', .notice .version⟩]

/-- The options of the command for summaries. -/
def childrenRules : List OptionRule :=
  [textRule "office", textRule "project-like", textRule "kinds",
    ⟨"kind", none, .value acceptsAll true⟩, ⟨"format", none, .value acceptsFormat false⟩]

/-! ### Reading -/

/-- The options of the command for summaries, of which a pattern excludes names of kinds. -/
def childrenOptions? (s : Settings) : Option ChildrenOptions :=
  if s.has "kinds" && s.has "kind" then none
  else some {
    office := s.value? "office"
    projectLike := s.value? "project-like"
    kindPattern := s.value? "kinds"
    kinds := s.values "kind"
    format := ((s.value? "format").bind Format.ofName?).getD .text }

/-- Reads the options after the name of a command, with nothing else after it. -/
def readCommand (rules : List OptionRule) (command? : Settings → Option Command)
    (arguments : List String) : Option (Settings × Command) :=
  match readOptions (sharedRules ++ rules) arguments [] with
  | some (s, .done) => (command? s).map fun c => (s, c)
  | some (s, .notice n) => some (s, .notice n)
  | _ => none

/-- The names of the commands. -/
def commandNames : List String := ["init", "load", "kinds", "children", "version", "help"]

/-- Whether arguments can follow the command for help: at most the name of one command. -/
def isHelpTopic : List String → Bool
  | [] => true
  | [name] => commandNames.contains name
  | _ => false

/-- Reads the arguments after the name of a command. -/
def readNamed (arguments : List String) : (name : String) → Option (Settings × Command)
  | "init" => readCommand [] (fun _ => some .create) arguments
  | "load" =>
    readCommand [pathRule "file"] (fun s => (s.value? "file").map fun f => .load ⟨f⟩) arguments
  | "kinds" =>
    readCommand [textRule "pattern"] (fun s => some (.kinds (s.value? "pattern"))) arguments
  | "children" => readCommand childrenRules (fun s => (childrenOptions? s).map .children) arguments
  | "version" => readCommand [] (fun _ => some .version) arguments
  | "help" => if isHelpTopic arguments then some ([], .notice .help) else none
  | _ => none

/-- The path that a shared option gives; the one after the command counts before the one in front
of it. -/
def sharedPath (inner outer : Settings) (name : String) : Option FilePath :=
  (inner.value? name <|> outer.value? name).map FilePath.mk

/-- The invocation that arguments spell, if they are in order. -/
def Invocation.ofArguments? (arguments : List String) : Option Invocation := do
  match ← readOptions outerRules arguments [] with
  | (_, .done) => none
  | (_, .notice n) => some ⟨none, none, .notice n⟩
  | (outer, .word name rest) =>
    let (inner, command) ← readNamed rest name
    some ⟨sharedPath inner outer "root", sharedPath inner outer "config", command⟩

end Waterworks.CommandLine
