import Commissioner.Client.Basic
import Commissioner.Wifi.Batch

/-!
# What commands do

Each command is an act on the client that hands back a record to be shown, or
nothing, or fails. A command that needs a session says so before it prints
anything else; the reboot of a border router is the exception, which prints
nothing before it asks.
-/

set_option autoImplicit false

namespace Commissioner

/-- The built-in actions. -/
inductive Action where
  | help
  | hello
  | commission
  | threadStart
  | threadStop
  | scan
  | wifiScan
  | wifiStatus
  | reboot
  | datasetPrint
  | datasetSet
  | datasetReset
  | exit
  deriving DecidableEq

/-- An act of a command, which may fail. -/
abbrev Work (α : Type) : Type :=
  ExceptT CommandError (Act (Client Action)) α

namespace Work

variable {α : Type}

/-! ## Steps -/

/-- An act that cannot fail. -/
def always (act : Act (Client Action) α) : Work α :=
  ExceptT.lift act

/-- An act that may fail. -/
def attempt (act : Act (Client Action) (Except CommandError α)) : Work α :=
  ExceptT.mk act

/-- An act that may fail for a reason of its own. -/
def attemptWith {ε : Type} (reason : ε → CommandError)
    (act : Act (Client Action) (Except ε α)) : Work α :=
  ExceptT.mk do return (← act).mapError reason

def print (line : String) : Work Unit :=
  always (Client.print line)

/-- Prints lines. -/
def printAll : List String → Work Unit
  | [] => pure ()
  | line :: rest => do
      print line
      printAll rest

/-- The client as it is. -/
def client : Work (Client Action) :=
  always Act.state

/-- Fails unless there is an established session. -/
def needSession : Work Unit := do
  if (← client).isConnected then pure () else throw .notConnected

/-- Asks the user. -/
def ask (prompt : Act Terminal (Except Fault (Prompted α))) : Work (Prompted α) :=
  attemptWith .fault (Client.atTerminal prompt)

/-! ## Requests -/

/-- A record that carries a text for the application. -/
def application (text : String) : Tlv :=
  .named .application (Octets.ofText text)

/-- Sends a request and takes its answer. -/
def request (record : Tlv) : Work (Option Tlv) :=
  attempt (Client.onCurrent (Conversation.request record))

/-- Takes a batch of records. -/
def receiveBatch : Work (Option (List Tlv)) := do
  let settings := (← client).settings
  attempt (Client.onCurrent (Conversation.receive settings.batchSize settings.batchTimeout))

/-- Announces a request, sends it and shows its answer. -/
def announced (line : String) (record : Tlv) : Work Outcome := do
  needSession
  print line
  return .ofAnswer (← request record)

/-- Sends a round trip of greetings. -/
def hello : Work Outcome :=
  announced "Sending hello world..." (application "Hello world!")

/-- Sends the dataset. -/
def commission : Work Outcome := do
  needSession
  print "Commissioning..."
  return .ofAnswer (← request (.named .activeDataset (← client).dataset.octets))

/-- Enables the Thread interface. -/
def threadStart : Work Outcome :=
  announced "Enabling Thread..." (.named .threadStart [])

/-- Disables the Thread interface. -/
def threadStop : Work Outcome :=
  announced "Disabling Thread..." (.named .threadStop [])

/-- Reboots the border router. -/
def reboot : Work Outcome := do
  match ← request (application "reboot") with
  | none => return .none
  | some answer =>
      if Reply.ofRecord answer = .failed then print "Command execution fail"
      return .record answer

/-! ## The dataset -/

def datasetPrint : Work Outcome := do
  print (← client).dataset.toHex
  return .none

/-- Makes the dataset the one that the only argument spells. -/
def datasetSet (arguments : List String) : Work Outcome := do
  match arguments with
  | [hex] =>
      match Dataset.ofHex hex with
      | .error error => throw (.dataset error)
      | .ok dataset =>
          always (Act.change fun client => { client with dataset := dataset })
          print ("Dataset updated (" ++ toString dataset.size ++ " bytes).")
          return .none
  | _ => throw (.usage "dataset set <hex>")

/-- Makes the dataset the built-in one. -/
def datasetReset : Work Outcome := do
  always (Act.change fun client => { client with dataset := .builtIn })
  print "Dataset reset to default."
  return .none

/-! ## Scanning for devices -/

/-- Lets go of a session that did not become the current one. -/
def abandon (session : Session) : Work Unit :=
  always (Act.change fun client =>
    { client with timeline := client.timeline.release session.link })

/-- Searches for devices, lets the user pick one and opens a session to it. The
session before is closed first, and the new one becomes current only once its
handshake has succeeded. -/
def scan : Work Outcome := do
  always Client.invalidate
  let peers ← attemptWith .transport Client.search
  match ← ask (Terminal.selectPeer peers) with
  | .cancelled => return .none
  | .value peer =>
      print ("Connecting to " ++ peer.text)
      let link ← attemptWith (fun error => .session (.transport error)) (Client.openLink peer)
      let settings := (← client).settings
      let session := Session.onLink link settings.limits
      match ← always Client.takeCredentials with
      | .error error =>
          abandon session
          throw (.session error)
      | .ok credentials =>
          match session.load credentials with
          | .error error =>
              abandon session
              throw (.session error)
          | .ok session =>
              print "Setting up secure channel..."
              match ← always (Client.onSession session (Conversation.handshake settings.serverName)) with
              | (.error error, session) =>
                  abandon session
                  throw (.session error)
              | (.ok (), session) =>
                  print "Done"
                  always (Client.install session)
                  return .none

/-! ## Wi-Fi -/

/-- The line printed when a border router does not know a command. -/
def notSupportedLine : String := "Command not supported"

/-- The line printed when a border router reports a failure. -/
def failedLine : String := "Wi-Fi status get fail"

/-- The lines printed before the user is asked whether to store a network. -/
def consentLine : String :=
  "Connect to Wi-Fi network?\nAfter you continue, the network is saved as default "
    ++ "and TBR automatically connects to this network."

/-- Asks for a password and stores a network with it. -/
def storeNetwork (network : Network) : Work Outcome := do
  match ← ask (Terminal.password network.ssid) with
  | .cancelled => return .none
  | .value password =>
      print "Store Wi-Fi network..."
      match ← request (application (network.addRequest password)) with
      | none => return .none
      | some answer =>
          if Reply.ofRecord answer = .failed then print "Connection fail"
          print "Wi-Fi network is saved"
          return .none

/-- Shows networks and lets the user pick one to store. -/
def offerNetworks (networks : List Network) : Work Outcome := do
  print "Found Wi-Fi networks:"
  print (Render.networkTable networks)
  print consentLine
  match ← ask Terminal.confirm with
  | .cancelled => return .none
  | .value false => return .none
  | .value true =>
      print "Select Wi-Fi network number to connect to it"
      match ← ask (Terminal.selectIndex networks.length) with
      | .cancelled => return .none
      | .value number =>
          match networks[number - 1]? with
          | some network => storeNetwork network
          | none => return .none

/-- Gathers the networks that a border router found and offers them. -/
def gatherNetworks : Work Outcome := do
  match ← receiveBatch with
  | none => return .none
  | some records =>
      let batch := NetworkBatch.gather records
      if batch.failed then print failedLine
      if batch.networks.isEmpty then
        print "No Wi-Fi networks found."
        return .none
      else offerNetworks batch.networks

/-- Lets a border router scan for networks and stores one of them. -/
def wifiScan : Work Outcome := do
  needSession
  print "Wi-Fi scanning..."
  match ← request (application "wifi_scan") with
  | none => return .none
  | some answer =>
      match Reply.ofRecord answer with
      | .notSupported =>
          print notSupportedLine
          return .none
      | .failed =>
          print failedLine
          return .none
      | .ok | .data => gatherNetworks

/-- Shows the state of the border router's station. -/
def wifiStatus : Work Outcome := do
  needSession
  print "Wi-Fi status get..."
  attempt (Client.onCurrent (Conversation.send (application "wifi_status")))
  match ← receiveBatch with
  | none => return .none
  | some records =>
      let batch := StationBatch.gather records
      match batch.terminator with
      | some .notSupported => print notSupportedLine
      | some .failed => print failedLine
      | _ => pure ()
      match batch.station with
      | some station => print ("\t" ++ station.text)
      | none => pure ()
      return .none

/-! ## Help and leaving -/

/-- Prints the lines of help. -/
def help : Work Outcome := do
  printAll (← client).registry.helpLines
  return .none

/-- Closes the session and asks to leave. -/
def exit : Work Outcome := do
  always Client.invalidate
  always (Act.change fun client => { client with exitRequested := true })
  return .none

/-! ## Dispatch -/

/-- What an action does with its arguments. -/
def perform : Action → List String → Work Outcome
  | .help, _ => help
  | .hello, _ => hello
  | .commission, _ => commission
  | .threadStart, _ => threadStart
  | .threadStop, _ => threadStop
  | .scan, _ => scan
  | .wifiScan, _ => wifiScan
  | .wifiStatus, _ => wifiStatus
  | .reboot, _ => reboot
  | .datasetPrint, _ => datasetPrint
  | .datasetSet, arguments => datasetSet arguments
  | .datasetReset, _ => datasetReset
  | .exit, _ => exit

/-- Carries out one line. -/
def dispatch (line : String) : Work Outcome := do
  let words := Text.words line
  if words.isEmpty then return .none
  else
    match (← client).registry.resolve words with
    | .run action consumed => perform action (words.drop consumed)
    | .missingSubcommand =>
        print "Invalid usage. Provide a subcommand."
        return .none
    | .unknown name => throw (.unknownCommand name)

end Work

end Commissioner
