import Commissioner.Client.Work

/-!
# The command loop

The loop shows its prompt, carries out the line that the user enters and shows
what comes of it, until the user leaves, ends the input or interrupts the
prompt. An interrupt while a command runs drops the command; a session that is
left with an unfinished request is closed then. After each command a session
that is closed is let go.

Every turn of the loop takes one of the user's answers, so as many turns as there
are answers, and one for the end of the input, are enough.
-/

set_option autoImplicit false

namespace Commissioner.Client

/-- The prompt of the loop. -/
def prompt : String := "> "

/-- How a command came out that the user could interrupt. -/
inductive Ran where
  /-- It ran to its end. -/
  | ended (result : Except CommandError Outcome)
  /-- The user interrupted it. -/
  | interrupted

/-- Runs a command until it ends or the user interrupts it. -/
def runInterruptible (work : Work Outcome) : Act (Client Action) Ran := fun limit client =>
  let (interrupt, interrupts) := takeFirst client.surroundings.interrupts
  let client := { client with surroundings := { client.surroundings with interrupts := interrupts } }
  match interrupt with
  | none =>
      match work limit client with
      | (some result, client) => (some (.ended result), client)
      | (none, client) => (none, client)
  | some delay =>
      let moment := client.timeline.now + delay
      match work (min moment limit) client with
      | (some result, client) => (some (.ended result), client)
      | (none, client) =>
          if moment ≤ limit then (some .interrupted, client) else (none, client)
where
  /-- The first of the user's interrupts and those after it. -/
  takeFirst : List (Option Nat) → Option Nat × List (Option Nat)
    | [] => (none, [])
    | first :: rest => (first, rest)

/-- Shows what came of a command. -/
def showRan : Ran → Act (Client Action) Unit
  | .ended (.ok .none) => pure ()
  | .ended (.ok (.record record)) => do
      print (Render.record (← Act.state).settings.format record)
  | .ended (.error error) => print ("error: " ++ error.message)
  | .interrupted => do
      print Terminal.interruptedLine
      let _ ← discardUnfinished

/-- Carries out a line of the loop. -/
def runLine (line : String) : Act (Client Action) Unit := do
  showRan (← runInterruptible (Work.dispatch line))
  let _ ← discardClosed

/-- Runs so many turns of the loop. -/
def runTurns : Nat → Act (Client Action) (Except CommandError Unit)
  | 0 => fun _ client => (none, client)
  | turns + 1 => do
      if (← Act.state).exitRequested then
        invalidate
        return .ok ()
      else
        match ← atTerminal (Terminal.readAnswer prompt) with
        | .line line =>
            runLine line
            runTurns turns
        | .interrupted | .finished =>
            invalidate
            return .ok ()
        | .fault fault => return .error (.fault fault)

/-- Runs the loop to its end. -/
def run : Act (Client Action) (Except CommandError Unit) := fun limit client =>
  runTurns (client.inputs.length + 1) limit client

end Commissioner.Client
