import Commissioner.Octets

/-!
# Timelines and acts

Time is counted in milliseconds and passes only while everything waits. A
timeline holds the present moment and the log of what has happened.

An act is a step that may wait. Whoever runs it gives up at a moment of its own;
an act that still waits then is dropped where it stands, which leaves no value
but keeps everything it did. When a result and a deadline fall on the same
moment, the result wins, and of two deadlines the inner one.
-/

set_option autoImplicit false

namespace Commissioner

/-! ## The log -/

/-- What happens on the way. -/
inductive Event where
  /-- A link accepted these octets. -/
  | wrote (link : Nat) (octets : Octets)
  /-- A link was told to pass on what it holds. -/
  | flushing (link : Nat)
  /-- It has done so. -/
  | flushed (link : Nat)
  | delivered (link : Nat) (octets : Octets)
  /-- The orderly shutdown of a link began. -/
  | shutDown (link : Nat)
  /-- A link was let go. -/
  | released (link : Nat)
  /-- A handshake against this name began. -/
  | handshake (name : String)
  /-- The search for devices began. -/
  | discovering
  /-- The opening of a link to this address began. -/
  | opening (address : String)
  | opened (link : Nat)
  /-- A handshake came to a link on which records may travel. -/
  | secured (link : Nat)
  | printed (line : String)
  /-- A prompt was shown. -/
  | prompted (prompt : String)
  deriving DecidableEq

/-- The present moment and what has happened up to it, oldest first. -/
structure Timeline where
  /-- The present, in milliseconds. -/
  now : Nat
  /-- What has happened. -/
  log : List Event
  deriving DecidableEq, Inhabited

namespace Timeline

/-- The beginning of time. -/
def start : Timeline :=
  ⟨0, []⟩

/-- Notes an event at the present moment. -/
def note (timeline : Timeline) (event : Event) : Timeline :=
  { timeline with log := timeline.log ++ [event] }

/-- Lets time pass up to a moment, which does nothing when it has passed already. -/
def advance (timeline : Timeline) (moment : Nat) : Timeline :=
  { timeline with now := max timeline.now moment }

/-! ## Waiting -/

/-- How a wait ended. -/
inductive Waited where
  /-- What was waited for came. -/
  | ready
  /-- The deadline of the wait itself passed first. -/
  | expired
  /-- Whoever runs the wait gave up first. -/
  | dropped
  deriving DecidableEq

/-- Whether something due at a moment comes no later than another moment, or has
come already. -/
def reaches (timeline : Timeline) (due : Option Nat) (moment : Nat) : Bool :=
  match due with
  | some due => due ≤ max timeline.now moment
  | none => false

/-- Waits for something due at a moment, or never, under a deadline of its own
and a limit at which the wait is dropped. -/
def wait (timeline : Timeline) (due deadline : Option Nat) (limit : Nat) : Waited × Timeline :=
  match deadline with
  | none =>
      if timeline.reaches due limit then (.ready, timeline.advance (due.getD 0))
      else (.dropped, timeline.advance limit)
  | some deadline =>
      if timeline.reaches due (min deadline limit) then (.ready, timeline.advance (due.getD 0))
      else if deadline ≤ max timeline.now limit then (.expired, timeline.advance deadline)
      else (.dropped, timeline.advance limit)

/-- A wait leaves the log alone. -/
theorem log_wait (timeline : Timeline) (due deadline : Option Nat) (limit : Nat) :
    (timeline.wait due deadline limit).2.log = timeline.log := by
  cases deadline with
  | none =>
    simp only [wait]
    split <;> rfl
  | some moment =>
    simp only [wait]
    split
    · rfl
    · split <;> rfl

end Timeline

/-! ## Acts -/

/-- A step that may wait. Given the moment at which whoever runs it gives up, it
leaves a value, or none if it was dropped where it waited, and the state that it
made. -/
def Act (σ α : Type) : Type :=
  Nat → σ → Option α × σ

namespace Act

variable {σ α β : Type}

/-- The act that does nothing and leaves a value. -/
protected def pure (value : α) : Act σ α :=
  fun _ state => (some value, state)

/-- One act and then another, which is not begun when the first is dropped. -/
protected def bind (first : Act σ α) (next : α → Act σ β) : Act σ β :=
  fun limit state =>
    match first limit state with
    | (some value, state) => next value limit state
    | (none, state) => (none, state)

instance : Monad (Act σ) where
  pure := Act.pure
  bind := Act.bind

def state : Act σ σ :=
  fun _ state => (some state, state)

/-- Changes the state at once. -/
def change (f : σ → σ) : Act σ Unit :=
  fun _ state => (some (), f state)

/-- Reads a value off the state and changes it at once. -/
def exchange (f : σ → α × σ) : Act σ α :=
  fun _ state => (some (f state).1, (f state).2)

/-- The act that leaves a value at once. -/
theorem pure_apply (value : α) (limit : Nat) (state : σ) :
    (pure value : Act σ α) limit state = (some value, state) :=
  rfl

/-- What two acts in a row do. -/
theorem bind_apply (first : Act σ α) (next : α → Act σ β) (limit : Nat) (state : σ) :
    (first >>= next) limit state =
      match first limit state with
      | (some value, state) => next value limit state
      | (none, state) => (none, state) :=
  rfl

instance : LawfulMonad (Act σ) := by
  refine LawfulMonad.mk' (Act σ) ?_ ?_ ?_
  · intro _ act
    funext limit state
    show (match act limit state with
      | (some value, state) => (some value, state)
      | (none, state) => (none, state)) = act limit state
    rcases act limit state with ⟨_ | value, state⟩ <;> rfl
  · intro _ _ _ _
    rfl
  · intro _ _ _ act _ _
    funext limit state
    show _ = (match act limit state with
      | (some value, state) => _
      | (none, state) => (none, state))
    simp only [Bind.bind, Act.bind]
    rcases act limit state with ⟨_ | value, state⟩ <;> rfl

end Act

end Commissioner
