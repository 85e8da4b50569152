import Commissioner.Peer
import Commissioner.Text.Blank
import Commissioner.Text.Decimal
import Commissioner.Text.Lowercase
import Commissioner.Timeline

/-!
# Prompts

The user answers prompts with lines, with an interrupt, or by ending the input.
Every prompt asks until a line is decisive, and prints one line for each that is
not. An interrupt and the end of input cancel a prompt; they are no error.
-/

set_option autoImplicit false

namespace Commissioner

/-! ## What the user does -/

/-- What comes of one prompt shown. -/
inductive Answer where
  /-- A line, without its end. -/
  | line (text : String)
  | interrupted
  /-- The end of the input. -/
  | finished
  /-- The input cannot be read. -/
  | fault (fault : Fault)
  deriving DecidableEq

/-- An answer and the time it takes the user, who may never give it. -/
structure Input where
  /-- The time that it takes, if it is ever given. -/
  delay : Option Nat
  answer : Answer
  deriving DecidableEq

/-- What the user does from now on, and the timeline on which it happens. Behind
the last answer the input is at its end. -/
structure Terminal where
  /-- The answers to come. -/
  inputs : List Input
  timeline : Timeline
  deriving Inhabited

/-- What comes of a prompt. -/
inductive Prompted (α : Type) where
  /-- A decisive answer. -/
  | value (value : α)
  /-- The user called it off. -/
  | cancelled
  deriving DecidableEq

namespace Terminal

/-- The line printed when the user calls something off. -/
def interruptedLine : String := "Interrupted by user."

def print (line : String) : Act Terminal Unit :=
  Act.change fun terminal => { terminal with timeline := terminal.timeline.note (.printed line) }

/-! ## Asking -/

/-- Shows a prompt and takes one answer. -/
def readAnswer (prompt : String) : Act Terminal Answer := fun limit terminal =>
  let timeline := terminal.timeline.note (.prompted prompt)
  match terminal.inputs with
  | [] => (some .finished, ⟨[], timeline⟩)
  | input :: rest =>
      match timeline.wait (input.delay.map (timeline.now + ·)) none limit with
      | (.ready, timeline) => (some input.answer, ⟨rest, timeline⟩)
      | (_, timeline) => (none, ⟨rest, timeline⟩)

/-- Shows a prompt for each answer until a line is decisive, with `retry` printed
for each line that is not. -/
def askAmong {α : Type} (prompt retry : String) (decisive : String → Option α) (limit : Nat) :
    List Input → Timeline → Option (Except Fault (Prompted α)) × Terminal
  | [], timeline =>
      (some (.ok .cancelled),
        ⟨[], (timeline.note (.prompted prompt)).note (.printed interruptedLine)⟩)
  | input :: rest, timeline =>
      let timeline := timeline.note (.prompted prompt)
      match timeline.wait (input.delay.map (timeline.now + ·)) none limit with
      | (.ready, timeline) =>
          match input.answer with
          | .line text =>
              match decisive text with
              | some value => (some (.ok (.value value)), ⟨rest, timeline⟩)
              | none => askAmong prompt retry decisive limit rest (timeline.note (.printed retry))
          | .interrupted | .finished =>
              (some (.ok .cancelled), ⟨rest, timeline.note (.printed interruptedLine)⟩)
          | .fault fault => (some (.error fault), ⟨rest, timeline⟩)
      | (_, timeline) => (none, ⟨rest, timeline⟩)

/-- Asks until a line is decisive. -/
def ask {α : Type} (prompt retry : String) (decisive : String → Option α) :
    Act Terminal (Except Fault (Prompted α)) := fun limit terminal =>
  askAmong prompt retry decisive limit terminal.inputs terminal.timeline

/-! ## The prompts -/

/-- What a line says to a question, in either case and with blanks around it. -/
def yesOrNo? (line : String) : Option Bool :=
  let answer := Text.lowercase (Text.trim line)
  if answer = "y" ∨ answer = "yes" then some true
  else if answer = "n" ∨ answer = "no" then some false
  else none

/-- Asks whether to go on. -/
def confirm : Act Terminal (Except Fault (Prompted Bool)) :=
  ask "Do you want to continue? [Y]es/[n]o\n> " "Try again." yesOrNo?

/-- The number from 1 to `greatest` that a line spells, blanks around it apart. -/
def index? (greatest : Nat) (line : String) : Option Nat :=
  match Decimal.read? Decimal.wordBound (Text.trim line) with
  | some n => if 1 ≤ n ∧ n ≤ greatest then some n else none
  | none => none

/-- Asks for a number from 1 to `greatest`. -/
def selectIndex (greatest : Nat) : Act Terminal (Except Fault (Prompted Nat)) :=
  ask "> " ("Enter a number between 1 and " ++ toString greatest ++ ".") (index? greatest)

/-- Asks for a password for a network, which has to hold something. -/
def password (network : String) : Act Terminal (Except Fault (Prompted String)) :=
  ask ("Password for \"" ++ network ++ "\"\n> ") "The password is too short. Try again."
    fun line => if line.isEmpty then none else some line

/-- Lists the devices under their numbers. -/
def printPeers (number : Nat) : List Peer → Act Terminal Unit
  | [] => pure ()
  | peer :: rest => do
      print (toString number ++ ": " ++ peer.text)
      printPeers (number + 1) rest

/-- Lists devices and asks for one of them. -/
def selectPeer (peers : List Peer) : Act Terminal (Except Fault (Prompted Peer)) := do
  if peers.isEmpty then
    print "No devices found."
    return .ok .cancelled
  else
    print "Found devices:"
    printPeers 1 peers
    print "Select device number"
    match ← selectIndex peers.length with
    | .error fault => return .error fault
    | .ok .cancelled => return .ok .cancelled
    | .ok (.value number) =>
        match peers[number - 1]? with
        | some peer => return .ok (.value peer)
        | none => return .ok .cancelled

end Terminal

end Commissioner
