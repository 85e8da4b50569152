import Commissioner.Client.Loop
import Commissioner.Command.BuiltIn
import Commissioner.Console.Lines
import Commissioner.Credentials.Directory
import Commissioner.Program.Exit
import Commissioner.Program.Usage
import Commissioner.Udp.Simulation

/-!
# The program

The program reads options off its command line and runs the command loop against
a simulated node. What it needs of the machine it runs on is given to it: the
environment, the files, the way to a device, and whether its output is shown on a
terminal. A run is then a function of all that and of what the user enters, and
leaves a transcript.
-/

set_option autoImplicit false

namespace Commissioner

/-- What the program needs of the machine it runs on. -/
structure Machine where
  /-- The variables of the environment. -/
  environment : String → Option String
  /-- The file at a path. -/
  file : String → Except FileFault Octets
  /-- The far end of a link to an address. -/
  link : String → Except TransportError Script
  /-- Whether output is shown on a terminal. -/
  isTerminal : Bool

/-- What a run of the program leaves. -/
structure Transcript where
  /-- What it put out. -/
  output : String
  /-- How it ended, if it did and does not wait for the user. -/
  exit : Option Exit
  deriving DecidableEq, Inhabited

namespace Program

/-- What an event puts out. -/
def shown : Event → String
  | .printed line => line ++ "\n"
  | .prompted prompt => prompt
  | _ => ""

/-- What the events of a log put out. -/
def output (log : List Event) : String :=
  String.join (log.map shown)

/-- The format in which records are shown unless one is asked for. -/
def usualFormat (isTerminal : Bool) : Format :=
  if isTerminal then .pretty else .json

/-- The settings that options come to. -/
def settings (machine : Machine) (options : Options) : Settings :=
  { Settings.default with
    serverName := options.serverName
    format := options.format.getD (usualFormat machine.isTerminal) }

/-- The simulated node with a number. -/
def simulation (options : Options) (node : Nat) : Simulation :=
  { Simulation.default with host := options.simulationHost, node := node }

/-- What a client finds around it when it talks to a simulated node. -/
def surroundings (machine : Machine) (options : Options) (node : Nat) : Surroundings :=
  let peer := (simulation options node).peer
  ⟨[⟨some 0, .ok [peer]⟩], [⟨some 0, machine.link peer.address⟩],
    [Material.loadDirectory machine.file options.credentialsDirectory], []⟩

/-- The moment at which a run gives up waiting, which is later than any deadline
within it. -/
def patience : Nat := 1000000000000000

/-- How the program ends after its command loop. -/
def exitOf : Except CommandError Unit → Exit
  | .ok () => Exit.success
  | .error error => ⟨Exit.failureCode, some error.message⟩

/-- Runs the command loop against a simulated node. -/
def converse (machine : Machine) (options : Options) (node : Nat) (inputs : List Input) :
    Transcript :=
  let client := Client.start Registry.builtIn (settings machine options)
    (surroundings machine options node) inputs
  let (result, client) := Client.run patience client
  ⟨output client.timeline.log, result.map exitOf⟩

/-- How the program ends when it is to talk to devices by radio, which it cannot. -/
def noRadio : Exit :=
  ⟨Exit.usageCode, some ("built without Bluetooth support; pass --simulation <NODE_ID> "
    ++ "or rebuild with --features ble")⟩

/-- What the program leaves when its command line makes no options. -/
def refuse : Refusal → Transcript
  | .switch .help => ⟨Usage.text ++ "\n", some Exit.success⟩
  | .switch .version => ⟨Usage.versionLine ++ "\n", some Exit.success⟩
  | refusal => ⟨"", some ⟨Exit.refusalCode, some refusal.message⟩⟩

def run (machine : Machine) (words : List String) (inputs : List Input) : Transcript :=
  match Options.ofWords machine.environment words with
  | .error refusal => refuse refusal
  | .ok options =>
      match options.simulation with
      | none => ⟨"", some noRadio⟩
      | some node => converse machine options node inputs

end Program

end Commissioner
