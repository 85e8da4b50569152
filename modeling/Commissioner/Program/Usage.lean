import Commissioner.Program.Options

/-!
# Usage

The program says how it is used, which version it is, and why words of the
command line were refused.
-/

set_option autoImplicit false

namespace Commissioner

namespace Setting

/-- What stands for the value of a setting in texts. -/
def placeholder : Setting → String
  | .credentialsDirectory => "<DIR>"
  | .serverName => "<NAME>"
  | .simulation => "<NODE_ID>"
  | .simulationHost => "<HOST>"
  | .scanSeconds => "<SECS>"
  | .format => "<FORMAT>"
  | .logFormat => "<FORMAT>"
  | .logLevel => "<LEVEL>"

/-- A setting as it is written on the command line. -/
def form (setting : Setting) : String :=
  "--" ++ setting.name ++ " " ++ setting.placeholder

/-- What a setting is for. -/
def help : Setting → String
  | .credentialsDirectory =>
      "Directory with commissioner_cert.pem, commissioner_key.pem and ca_cert.pem"
  | .serverName => "Identity the device must present in the handshake"
  | .simulation => "Talk to simulated node NODE_ID over UDP instead of Bluetooth"
  | .simulationHost => "Host running the simulated nodes"
  | .scanSeconds => "How long a Bluetooth scan listens for devices"
  | .format => "Result output format"
  | .logFormat => "Log output format (stderr)"
  | .logLevel => "Minimum log level (stderr)"

/-- The value that is usual for a setting, if there is one. -/
def usual? : Setting → Option String
  | .credentialsDirectory => some Options.default.credentialsDirectory
  | .serverName => some Options.default.serverName
  | .simulation => none
  | .simulationHost => some Options.default.simulationHost
  | .scanSeconds => some (toString Options.default.scanSeconds)
  | .format => none
  | .logFormat => some "text"
  | .logLevel => some Options.default.logLevel.name

/-- The values that a setting can take, where they can be listed. -/
def values : Setting → List String
  | .format => Options.formats.map Prod.fst
  | .logFormat => LogFormat.names.map Prod.fst
  | .logLevel => LogLevel.names.map Prod.fst
  | _ => []

end Setting

namespace Switch

/-- What a switch is for. -/
def about : Switch → String
  | .help => "Print help"
  | .version => "Print version"

/-- A switch as it is written on the command line. -/
def form (switch : Switch) : String :=
  String.ofList ['-', switch.letter] ++ ", --" ++ switch.name

end Switch

namespace Usage

def programName : String := "tcat"

/-- The version of the program. -/
def version : String := "0.1.0"

/-- The line that tells the version. -/
def versionLine : String :=
  programName ++ " " ++ version

/-- A text filled up with blanks to a width. -/
def padded (width : Nat) (text : String) : String :=
  text ++ String.ofList (List.replicate (width - text.length) ' ')

/-- The width of the column with settings and switches. -/
def columnWidth : Nat :=
  (Setting.all.map fun setting => setting.form.length).foldl max 0

/-- What is said about a setting behind what it is for. -/
def notes (setting : Setting) : String :=
  let environment := match setting.environmentName? with
    | some name => " [env: " ++ name ++ "=]"
    | none => ""
  let usual := match setting.usual? with
    | some value => " [default: " ++ value ++ "]"
    | none => ""
  let values := match setting.values with
    | [] => ""
    | values => " [possible values: " ++ ", ".intercalate values ++ "]"
  environment ++ usual ++ values

/-- The line about a setting. -/
def settingLine (setting : Setting) : String :=
  "      " ++ padded columnWidth setting.form ++ "  " ++ setting.help ++ notes setting

/-- The line about a switch. -/
def switchLine (switch : Switch) : String :=
  "  " ++ padded (columnWidth + 4) switch.form ++ "  " ++ switch.about

/-- The text that tells how the program is used. -/
def text : String :=
  "\n".intercalate
    (["TCAT commissioning client", "", "Usage: " ++ programName ++ " [OPTIONS]", "", "Options:"]
      ++ Setting.all.map settingLine ++ Switch.all.map switchLine)

end Usage

/-- The refusal in words. A switch that asks for something else than running is
none. -/
def Refusal.message : Refusal → String
  | .switch _ => ""
  | .unknown word => "unexpected argument '" ++ word ++ "' found"
  | .missing setting =>
      "a value is required for '" ++ setting.form ++ "' but none was supplied"
  | .invalid setting value | .notNumber setting value =>
      "invalid value '" ++ value ++ "' for '" ++ setting.form ++ "'"
  | .repeated setting =>
      "the argument '" ++ setting.form ++ "' cannot be used multiple times"
  | .valued named =>
      "unexpected value for '--" ++ named.name ++ "' found; no more were expected"

end Commissioner
