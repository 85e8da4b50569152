import Commissioner.Program.Run
import Commissioner.Udp.Address

/-!
# The command line

The outer layer of the program: it collects what a run needs of the machine,
hands over the lines that the user enters, and shows what the run puts out. It
decides nothing of its own. Because a run is a function of the lines entered so
far, each line entered is added to them and the run is made again; what it put
out before is not shown twice.

The program holds neither sockets nor session keys, so a device is reached as on
a machine without a network.
-/

set_option autoImplicit false

namespace Commissioner.Main

/-- A file of the machine. -/
def readFile (path : String) : IO (Except FileFault Octets) := do
  try
    return .ok (← IO.FS.readBinFile path).toList
  catch fault =>
    match fault with
    | .noFileOrDirectory .. => return .error .missing
    | .inappropriateType .. => return .error .isDirectory
    | .resourceExhausted .. => return .error .tooLong
    | _ => return .error .notDirectory

/-- The machine, with the files of credentials that options name. -/
def collect (words : List String) : IO Machine := do
  let names := Setting.all.filterMap Setting.environmentName?
  let values ← names.mapM fun name => do
    return (name, ← IO.getEnv name)
  let environment (name : String) : Option String := (values.lookup name).join
  let directory := match Options.ofWords environment words with
    | .ok options => options.credentialsDirectory
    | .error _ => Options.default.credentialsDirectory
  let files ← Material.fileNames.mapM fun name => do
    let path := FilePath.join directory name
    return (path, ← readFile path)
  let isTerminal ← (← IO.getStdout).isTty
  return ⟨environment, fun path => (files.lookup path).getD (.error .missing),
    fun address => .error (Offline.refusal address), isTerminal⟩

/-- The next line entered, with its end. -/
partial def nextLine (stdin : IO.FS.Stream) (line : ByteArray) : IO ByteArray := do
  let octet ← stdin.read 1
  if octet.isEmpty then return line
  let line := line ++ octet
  if octet.toList = [0x0A] then return line
  nextLine stdin line

/-- Puts out what a run puts out behind so many characters. -/
def put (transcript : Transcript) (shown : Nat) : IO Unit := do
  let stdout ← IO.getStdout
  stdout.putStr (String.ofList (transcript.output.toList.drop shown))
  stdout.flush

/-- Says why the program fails, if it does, and hands over its code. -/
def leave (exit : Exit) : IO UInt32 := do
  if let some message := exit.message then
    IO.eprintln ("error: " ++ message)
  return UInt32.ofNat exit.code

/-- Runs the program on the lines entered so far, and on the next one while it
waits for the user, behind so many characters already put out. -/
partial def converse (machine : Machine) (words : List String) (entered : Octets)
    (shown : Nat) : IO UInt32 := do
  let sofar := Lines.inputs entered
  let waiting := Program.run machine words (sofar ++ [⟨none, .finished⟩])
  put waiting shown
  match waiting.exit with
  | some exit => leave exit
  | none =>
      let line ← nextLine (← IO.getStdin) ByteArray.empty
      if line.isEmpty then
        let ended := Program.run machine words sofar
        put ended waiting.output.length
        leave (ended.exit.getD Exit.success)
      else converse machine words (entered ++ line.toList) waiting.output.length

end Commissioner.Main

/-- Runs the program. -/
def main (words : List String) : IO UInt32 := do
  let machine ← Commissioner.Main.collect words
  Commissioner.Main.converse machine words [] 0
