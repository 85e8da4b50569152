import Commissioner.Program.Log
import Commissioner.Render
import Commissioner.Text.Decimal

/-!
# Options

The words of the command line set options. A setting is named by a word that
begins with two dashes, and its value is the rest of that word behind an equals
sign or else the next word. A value in a word of its own is not looked at before
the next setting or switch or the end, so an unknown word is refused ahead of a
bad value. Each setting can be given once. Two of them fall back on a variable of
the environment and then on what is usual, the others on what is usual alone.
-/

set_option autoImplicit false

namespace Commissioner

/-! ## Settings and their values -/

/-- What can be set. -/
inductive Setting where
  | credentialsDirectory
  | serverName
  | simulation
  | simulationHost
  | scanSeconds
  | format
  | logFormat
  | logLevel
  deriving DecidableEq, Inhabited

namespace Setting

/-- The name of a setting on the command line, behind its two dashes. -/
def name : Setting → String
  | .credentialsDirectory => "auth-dir"
  | .serverName => "server-name"
  | .simulation => "simulation"
  | .simulationHost => "simulation-host"
  | .scanSeconds => "ble-scan-secs"
  | .format => "format"
  | .logFormat => "log-format"
  | .logLevel => "log-level"

def all : List Setting :=
  [.credentialsDirectory, .serverName, .simulation, .simulationHost, .scanSeconds, .format,
    .logFormat, .logLevel]

def ofName? (name : String) : Option Setting :=
  all.find? fun setting => setting.name = name

/-- The variable of the environment that a setting falls back on. -/
def environmentName? : Setting → Option String
  | .credentialsDirectory => some "TCAT_AUTH_DIR"
  | .serverName => some "TCAT_SERVER_NAME"
  | _ => none

end Setting

/-- The switches, which take no value. -/
inductive Switch where
  /-- Show how the program is used. -/
  | help
  /-- Show the version of the program. -/
  | version
  deriving DecidableEq, Inhabited

namespace Switch

/-- The name of a switch, behind its two dashes. -/
def name : Switch → String
  | .help => "help"
  | .version => "version"

/-- The letter of a switch, behind its single dash. -/
def letter : Switch → Char
  | .help => 'h'
  | .version => 'V'

def all : List Switch :=
  [.help, .version]

def ofName? (name : String) : Option Switch :=
  all.find? fun switch => switch.name = name

def ofLetter? (letter : Char) : Option Switch :=
  all.find? fun switch => switch.letter = letter

end Switch

/-- Why the words of the command line do not come to options. -/
inductive Refusal where
  /-- A switch asks for something else than running. -/
  | switch (switch : Switch)
  /-- There is no such word. -/
  | unknown (word : String)
  /-- A setting has no value. -/
  | missing (setting : Setting)
  /-- A value is none of those that the setting can take. -/
  | invalid (setting : Setting) (value : String)
  /-- A value is no number, or is out of bounds. -/
  | notNumber (setting : Setting) (value : String)
  /-- A setting is given twice. -/
  | repeated (setting : Setting)
  /-- A switch is given a value. -/
  | valued (switch : Switch)
  deriving DecidableEq

/-- The options of the program. -/
structure Options where
  credentialsDirectory : String
  /-- The name that a device has to bear. -/
  serverName : String
  /-- The number of the simulated node to talk to. -/
  simulation : Option Nat
  /-- The host on which nodes are simulated. -/
  simulationHost : String
  /-- How long a search by radio takes, in seconds. -/
  scanSeconds : Nat
  /-- The format in which records are shown. -/
  format : Option Format
  logFormat : LogFormat
  logLevel : LogLevel
  deriving DecidableEq

namespace Options

/-- What is usual. -/
def default : Options :=
  ⟨"auth", "DeviceType", none, "127.0.0.1", 10, none, .text, .warn⟩

instance : Inhabited Options := ⟨default⟩

/-- Every format of records with its name. -/
def formats : List (String × Format) :=
  [("json", .json), ("table", .table), ("pretty", .pretty), ("raw", .raw)]

/-- The largest number of a node. -/
def maxNode : Nat := 65535

/-- The number of a node that a text spells, which may have a sign. -/
def node? (text : String) : Option Nat :=
  match Decimal.readInt? text with
  | some (.ofNat n) => if n ≤ maxNode then some n else none
  | _ => none

def set (options : Options) (setting : Setting) (value : String) : Except Refusal Options :=
  match setting with
  | .credentialsDirectory =>
      if value.isEmpty then .error (.invalid setting value)
      else .ok { options with credentialsDirectory := value }
  | .serverName => .ok { options with serverName := value }
  | .simulation =>
      match node? value with
      | some node => .ok { options with simulation := some node }
      | none => .error (.notNumber setting value)
  | .simulationHost => .ok { options with simulationHost := value }
  | .scanSeconds =>
      match Decimal.read? Decimal.wordBound value with
      | some seconds => .ok { options with scanSeconds := seconds }
      | none => .error (.notNumber setting value)
  | .format =>
      match formats.lookup value with
      | some format => .ok { options with format := some format }
      | none => .error (.invalid setting value)
  | .logFormat =>
      match LogFormat.names.lookup value with
      | some format => .ok { options with logFormat := format }
      | none => .error (.invalid setting value)
  | .logLevel =>
      match LogLevel.names.lookup value with
      | some level => .ok { options with logLevel := level }
      | none => .error (.invalid setting value)

end Options

/-! ## Words -/

/-- What a word of the command line looks like. -/
inductive Word where
  /-- Two dashes alone, behind which no word is looked at. -/
  | separator
  /-- Two dashes and a name, with or without a value behind an equals sign. -/
  | long (name : String) (value : Option String)
  /-- One dash and letters. -/
  | short (letter : Char)
  /-- Anything else. -/
  | plain
  deriving DecidableEq

/-- What a word looks like. -/
def Word.ofText (text : String) : Word :=
  match text.toList with
  | ['-', '-'] => .separator
  | '-' :: '-' :: rest =>
      .long (String.ofList (rest.takeWhile (· ≠ '=')))
        (match rest.dropWhile (· ≠ '=') with
        | _ :: value => some (String.ofList value)
        | [] => none)
  | '-' :: letter :: _ => .short letter
  | _ => .plain

/-! ## The command line -/

/-- A setting named last, and the word given for it. -/
inductive Pending where
  /-- None. -/
  | none
  /-- A setting that waits for a word. -/
  | waiting (setting : Setting)
  /-- A setting with a word that has not been looked at. -/
  | given (setting : Setting) (value : String)
  deriving DecidableEq

/-- What is known behind some words of the command line. -/
structure CommandLine where
  /-- The options set so far. -/
  options : Options
  /-- The settings given so far. -/
  seen : List Setting
  /-- The setting named last. -/
  pending : Pending

namespace CommandLine

/-- What is known before the first word. -/
def start : CommandLine :=
  ⟨Options.default, [], .none⟩

/-- Gives a setting a value. -/
def give (line : CommandLine) (setting : Setting) (value : String) :
    Except Refusal CommandLine :=
  if setting ∈ line.seen then .error (.repeated setting)
  else
    match line.options.set setting value with
    | .error refusal => .error refusal
    | .ok options => .ok ⟨options, setting :: line.seen, .none⟩

/-- Looks at the setting named last. -/
def settle (line : CommandLine) : Except Refusal CommandLine :=
  match line.pending with
  | .none => .ok line
  | .waiting setting => .error (.missing setting)
  | .given setting value => { line with pending := .none }.give setting value

/-- Takes a word that names nothing: a value, if one is waited for. -/
def takePlain (line : CommandLine) (text : String) : Except Refusal CommandLine :=
  match line.pending with
  | .waiting setting => .ok { line with pending := .given setting text }
  | _ => .error (.unknown text)

/-- Takes a switch. -/
def takeSwitch (line : CommandLine) (switch : Switch) : Except Refusal CommandLine :=
  match line.settle with
  | .error refusal => .error refusal
  | .ok _ => .error (.switch switch)

/-- Takes a word that names a setting or a switch. -/
def takeLong (line : CommandLine) (text name : String) (value : Option String) :
    Except Refusal CommandLine :=
  match Setting.ofName? name, Switch.ofName? name with
  | some setting, _ =>
      match line.settle with
      | .error refusal => .error refusal
      | .ok line =>
          match value with
          | some value => line.give setting value
          | none => .ok { line with pending := .waiting setting }
  | none, some switch =>
      match value with
      | some _ => .error (.valued switch)
      | none => line.takeSwitch switch
  | none, none => .error (.unknown text)

/-- Takes a word. -/
def take (line : CommandLine) (text : String) : Except Refusal CommandLine :=
  match Word.ofText text with
  | .separator => .ok line
  | .long name value => line.takeLong text name value
  | .short letter =>
      match Switch.ofLetter? letter with
      | some switch => line.takeSwitch switch
      | none => .error (.unknown text)
  | .plain => line.takePlain text

/-- Takes words up to the separator, behind which there must be none. -/
def takeAll (line : CommandLine) : List String → Except Refusal CommandLine
  | [] => .ok line
  | text :: rest =>
      if Word.ofText text = .separator then
        match rest with
        | [] => .ok line
        | next :: _ => .error (.unknown next)
      else
        match line.take text with
        | .error refusal => .error refusal
        | .ok line => line.takeAll rest

/-- Sets from the environment what was not given and has a variable there. -/
def fallBack (environment : String → Option String) (line : CommandLine) :
    List Setting → Except Refusal CommandLine
  | [] => .ok line
  | setting :: rest =>
      match setting.environmentName?.bind environment with
      | none => line.fallBack environment rest
      | some value =>
          if setting ∈ line.seen then line.fallBack environment rest
          else
            match line.give setting value with
            | .error refusal => .error refusal
            | .ok line => line.fallBack environment rest

end CommandLine

/-- The options that words of the command line and an environment come to. -/
def Options.ofWords (environment : String → Option String) (words : List String) :
    Except Refusal Options := do
  let line ← CommandLine.start.takeAll words
  let line ← line.settle
  let line ← line.fallBack environment Setting.all
  return line.options

end Commissioner
