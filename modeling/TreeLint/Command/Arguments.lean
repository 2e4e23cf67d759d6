import TreeLint.Text.Digits

/-!
# Command-line arguments

Arguments are read from left to right on two levels: the options of the program
and, behind the name of a command, the options and operands of that command.
The general options may be given on either level.  An option that takes a value
takes it from behind an equals sign, from the rest of a cluster of short
options, or from the next argument, which then must not look like an option
itself.  Everything behind `--` is an operand.
-/

namespace TreeLint

inductive ReportFormat where
  | human
  | json
deriving DecidableEq, Repr

/-- What the program is asked to do. -/
inductive Command where
  | lint (paths : List String) (format : ReportFormat) (included excluded : List String)
  | rules (detailed : Bool)
  | render (file : String) (kind : Option String)
deriving DecidableEq, Repr

/-- A command with the general options. -/
structure Invocation where
  command : Option Command
  config : Option String
  noColor : Bool
deriving DecidableEq, Repr

/-- Why no invocation results: a fault of usage, or a request for the version or
for help. -/
inductive Refusal where
  | usage
  | version
  | help
deriving DecidableEq, Repr

/-- All options of the program and its commands. -/
inductive Setting where
  | config
  | verbose
  | noColor
  | threads
  | help
  | version
  | format
  | included
  | excluded
  | detailed
  | kind
deriving DecidableEq, Repr

namespace Setting

def long : Setting → String
  | .config => "config"
  | .verbose => "verbose"
  | .noColor => "no-color"
  | .threads => "threads"
  | .help => "help"
  | .version => "version"
  | .format => "format"
  | .included => "include"
  | .excluded => "exclude"
  | .detailed => "detailed"
  | .kind => "kind"

def short? : Setting → Option Char
  | .config => some 'c'
  | .verbose => some 'v'
  | .threads => some 'j'
  | .help => some 'h'
  | .version => some 'V'
  | .format => some 'f'
  | _ => none

def takesValue : Setting → Bool
  | .config => true
  | .threads => true
  | .format => true
  | .included => true
  | .excluded => true
  | .kind => true
  | _ => false

/-- Whether an option may be given more than once on its level. -/
def repeatable : Setting → Bool
  | .verbose => true
  | .included => true
  | .excluded => true
  | _ => false

/-- The options that may stand on either level. -/
def general : List Setting :=
  [.config, .verbose, .noColor, .threads, .help]

/-- Whether a text writes a natural number of 64 bits, with at most one plus sign
in front. -/
def isCount (text : String) : Bool :=
  (Text.word? text.toList).isSome

def accepts (setting : Setting) (value : String) : Bool :=
  match setting with
  | .config => !value.isEmpty
  | .threads => isCount value
  | .format => value == "human" || value == "json"
  | _ => true

end Setting

/-- What was given on one level, in order. -/
structure Given where
  options : Array (Setting × String) := #[]
  operands : Array String := #[]

namespace Given

def value? (given : Given) (setting : Setting) : Option String :=
  (given.options.toList.reverse.find? fun option => option.1 == setting).map Prod.snd

def values (given : Given) (setting : Setting) : List String :=
  (given.options.toList.filter fun option => option.1 == setting).map Prod.snd

def has (given : Given) (setting : Setting) : Bool :=
  given.options.toList.any fun option => option.1 == setting

def add (given : Given) (setting : Setting) (value : String) : Except Refusal Given :=
  if setting == .help then .error .help
  else if setting == .version then .error .version
  else if !setting.accepts value then .error .usage
  else if !setting.repeatable && given.has setting then .error .usage
  else .ok { given with options := given.options.push (setting, value) }

/-- Adds an operand, which is a path and so not empty, unless there are as many as
the level takes. -/
def addOperand (limit : Option Nat) (given : Given) (operand : String) :
    Except Refusal Given :=
  let full :=
    match limit with
    | some limit => limit ≤ given.operands.size
    | none => false
  if operand.isEmpty || full then .error .usage
  else .ok { given with operands := given.operands.push operand }

end Given

def looksLikeOption (argument : String) : Bool :=
  argument.startsWith "-" && argument != "-"

/-- An option that still waits for its value after a cluster of short options. -/
abbrev Waiting := Option Setting

def addShort (settings : List Setting) (given : Given) :
    List Char → Except Refusal (Given × Waiting)
  | [] => .ok (given, none)
  | c :: rest =>
    match settings.find? fun setting => setting.short? == some c with
    | none => .error .usage
    | some setting =>
      if setting.takesValue then
        match rest with
        | [] => .ok (given, some setting)
        | '=' :: value =>
          (given.add setting (String.ofList value)).map fun given => (given, none)
        | value => (given.add setting (String.ofList value)).map fun given => (given, none)
      else
        match given.add setting "" with
        | .ok given => addShort settings given rest
        | .error refusal => .error refusal

def addLong (settings : List Setting) (given : Given) (text : List Char) :
    Except Refusal (Given × Waiting) :=
  let name := String.ofList (text.takeWhile (· != '='))
  match settings.find? fun setting => setting.long == name with
  | none => .error .usage
  | some setting =>
    match text.dropWhile (· != '=') with
    | [] =>
      if setting.takesValue then .ok (given, some setting)
      else (given.add setting "").map fun given => (given, none)
    | _ :: value =>
      if setting.takesValue then
        (given.add setting (String.ofList value)).map fun given => (given, none)
      else .error .usage

def addOption (settings : List Setting) (given : Given) (argument : String) :
    Except Refusal (Given × Waiting) :=
  match argument.toList with
  | '-' :: '-' :: text => addLong settings given text
  | '-' :: text => addShort settings given text
  | _ => .error .usage

/-- What the arguments of a level may be. -/
structure Level where
  settings : List Setting
  /-- Whether an operand ends the level, as the name of a command does. -/
  operandsEnd : Bool
  /-- How many operands the level takes, if they are limited. -/
  limit : Option Nat

/-- Reads the arguments of a level.  Every argument is judged before the next one is
looked at.  The arguments from an operand that ends the level are left over. -/
def readLevel (level : Level) (given : Given) (waiting : Waiting) :
    List String → Except Refusal (Given × List String)
  | [] => if waiting.isSome then .error .usage else .ok (given, [])
  | argument :: rest =>
    match waiting with
    | some setting =>
      if looksLikeOption argument then .error .usage
      else
        match given.add setting argument with
        | .ok given => readLevel level given none rest
        | .error refusal => .error refusal
    | none =>
      if argument == "--" then
        if level.operandsEnd && !rest.isEmpty then .error .usage
        else
          (rest.foldlM (Given.addOperand level.limit) given).map fun given => (given, [])
      else if looksLikeOption argument then
        match addOption level.settings given argument with
        | .ok (given, waiting) => readLevel level given waiting rest
        | .error refusal => .error refusal
      else if level.operandsEnd then .ok (given, argument :: rest)
      else
        match given.addOperand level.limit argument with
        | .ok given => readLevel level given none rest
        | .error refusal => .error refusal

/-- The command of a name with what was given for it. -/
def Command.ofGiven (name : String) (given : Given) : Except Refusal Command :=
  match name with
  | "rules" => .ok (.rules (given.has .detailed))
  | "render" =>
    match given.operands.toList with
    | [file] => .ok (.render file (given.value? .kind))
    | _ => .error .usage
  | _ =>
    .ok (.lint given.operands.toList
      (if given.value? .format == some "json" then .json else .human)
      (given.values .included) (given.values .excluded))

def Level.program : Level := ⟨.version :: Setting.general, true, none⟩

/-- The arguments of a command; none for a name of no command. -/
def Level.command? : String → Option Level
  | "lint" => some ⟨.format :: .included :: .excluded :: Setting.general, false, none⟩
  | "check" => some ⟨.format :: .included :: .excluded :: Setting.general, false, none⟩
  | "rules" => some ⟨.detailed :: Setting.general, false, some 0⟩
  | "render" => some ⟨.kind :: Setting.general, false, some 1⟩
  | _ => none

/-- What a request for help comes to: help about the program or about one command
that there is. -/
def helpFor : List String → Refusal
  | [] => .help
  | [name] => if name == "help" || (Level.command? name).isSome then .help else .usage
  | _ => .usage

def Invocation.ofArguments (arguments : List String) : Except Refusal Invocation :=
  match readLevel .program {} none arguments with
  | .error refusal => .error refusal
  | .ok (given, []) => .ok ⟨none, given.value? .config, given.has .noColor⟩
  | .ok (given, name :: rest) =>
    if name == "help" then .error (helpFor rest)
    else
      match Level.command? name with
      | none => .error .usage
      | some level =>
        match readLevel level {} none rest with
        | .error refusal => .error refusal
        | .ok (inner, _) =>
          match Command.ofGiven name inner with
          | .error refusal => .error refusal
          | .ok command =>
            .ok ⟨some command, (inner.value? .config).or (given.value? .config),
              inner.has .noColor || given.has .noColor⟩

end TreeLint
