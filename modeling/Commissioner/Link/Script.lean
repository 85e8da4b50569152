import Commissioner.Fault
import Commissioner.Timeline

/-!
# How the far end of a link behaves

The far end is given by what it will do: what arrives from it and when, how and
when it takes each write and each flush, and how it shuts down. What arrives is
taken in order, and the time of an arrival counts only once it is the first. A
read takes no more than it asks for and never crosses from one arrival to the
next. A write and a flush that the far end keeps waiting go on once it is ready.
-/

set_option autoImplicit false

namespace Commissioner

/-! ## What the far end does -/

/-- What arrives from the far end. -/
inductive Arrival where
  /-- Octets, from a moment on. No octets at all read as the end, once. -/
  | octets (octets : Octets) (due : Nat)
  /-- The end of everything, from a moment on. -/
  | finish (due : Nat)
  /-- A fault, once, from a moment on. -/
  | fault (fault : Fault) (due : Nat)
  deriving DecidableEq

/-- How the far end takes one write. -/
inductive Acceptance where
  /-- All of it. -/
  | all
  /-- At most this many octets. -/
  | upTo (count : Nat)
  /-- It fails. -/
  | fault (fault : Fault)
  /-- Nothing before a moment. Then it is taken like the next one. -/
  | busy (due : Nat)
  /-- It never answers, now and later. -/
  | stall
  deriving DecidableEq

/-- What the far end makes of one flush. -/
inductive Flushing where
  /-- Everything is passed on. -/
  | done
  /-- It fails. -/
  | fault (fault : Fault)
  /-- Nothing before a moment. Then it ends like the next one. -/
  | busy (due : Nat)
  /-- It never answers, now and later. -/
  | stall
  deriving DecidableEq

/-- How the far end shuts down. -/
inductive Shutdown where
  /-- At once. -/
  | orderly
  /-- It fails. -/
  | fault (fault : Fault)
  /-- It never ends. -/
  | stall
  deriving DecidableEq

/-- How the far end of a link behaves. -/
structure Script where
  /-- What arrives, in order; after that nothing ever does. -/
  arrivals : List Arrival
  /-- How it takes writes, in order; after that it takes everything. -/
  acceptances : List Acceptance
  /-- What it makes of flushes, in order; after that everything is passed on. -/
  flushes : List Flushing
  /-- How it shuts down. -/
  shutdown : Shutdown
  deriving DecidableEq

/-- A far end that takes everything and says nothing. -/
def Script.silent : Script :=
  ⟨[], [], [], .orderly⟩

instance : Inhabited Script := ⟨Script.silent⟩

/-! ## Reading -/

namespace Arrival

/-- The moment from which an arrival is there. -/
def due : Arrival → Nat
  | .octets _ due => due
  | .finish due => due
  | .fault _ due => due

/-- How much is left to read of an arrival, the arrival itself counted as one. -/
def weight : Arrival → Nat
  | .octets content _ => content.length + 1
  | .finish _ => 1
  | .fault _ _ => 1

end Arrival

/-- What a read gives. -/
inductive ReadResult where
  /-- Octets, at least one. -/
  | octets (octets : Octets)
  /-- The end. -/
  | finished
  | fault (fault : Fault)
  deriving DecidableEq

namespace Script

/-- The moment from which a read has something to give, if ever. -/
def readDue (script : Script) : Option Nat :=
  match script.arrivals with
  | [] => none
  | arrival :: _ => some arrival.due

/-- How much is left to read of arrivals. -/
def weigh : List Arrival → Nat
  | [] => 0
  | arrival :: rest => arrival.weight + weigh rest

/-- How much is left to read. -/
def unread (script : Script) : Nat :=
  weigh script.arrivals

/-- What a read of at most `count + 1` octets gives once it is due, and the far
end after it. -/
def take (script : Script) (count : Nat) : ReadResult × Script :=
  match script.arrivals with
  | [] => (.finished, script)
  | .octets [] _ :: rest => (.finished, { script with arrivals := rest })
  | .octets (octet :: more) due :: rest =>
      let left := more.drop count
      (.octets (octet :: more.take count),
        { script with
          arrivals := if left.isEmpty then rest else .octets left due :: rest })
  | .finish _ :: _ => (.finished, script)
  | .fault fault _ :: rest => (.fault fault, { script with arrivals := rest })

/-- A read that gives octets leaves less to read. -/
theorem unread_take {script after : Script} {count : Nat} {octets : Octets}
    (given : script.take count = (.octets octets, after)) : after.unread < script.unread := by
  unfold take at given
  split at given
  next => cases given
  next => cases given
  next octet more due rest arrivals =>
    simp only [Prod.mk.injEq] at given
    obtain ⟨-, rfl⟩ := given
    simp only [unread, arrivals, weigh, Arrival.weight, List.length_cons]
    split
    · omega
    · simp only [weigh, Arrival.weight, List.length_drop]
      omega
  next => cases given
  next => cases given

/-! ## Writing -/

/-- How writing octets, or passing them on, ended. -/
inductive WriteEnd where
  /-- All of them were taken. -/
  | done
  /-- A write failed, or took nothing. -/
  | fault (fault : Fault)
  /-- There was no answer in time. -/
  | stalled
  deriving DecidableEq

/-- Writes octets until all are taken, one write at a time, and waits for each of them up to a
limit. The first write that fails is the last one, whatever its fault is; a write that takes
nothing fails. The pieces that were taken come first, in order, and the moment at which the
last write ended, or was waited for in vain, comes last. -/
def writeAll (limit : Nat) :
    List Acceptance → Octets → Nat → List Octets × WriteEnd × List Acceptance × Nat
  | acceptances, [], now => ([], .done, acceptances, now)
  | [], octets, now => ([octets], .done, [], now)
  | .all :: rest, octets, now => ([octets], .done, rest, now)
  | .upTo 0 :: rest, _, now => ([], .fault (Fault.plain .writeZero), rest, now)
  | .upTo (count + 1) :: rest, octets, now =>
      let (pieces, ending, after, now) := writeAll limit rest (octets.drop (count + 1)) now
      (octets.take (count + 1) :: pieces, ending, after, now)
  | .fault fault :: rest, _, now => ([], .fault fault, rest, now)
  | .busy due :: rest, octets, now =>
      if due ≤ max now limit then writeAll limit rest octets (max now due)
      else ([], .stalled, .busy due :: rest, now)
  | .stall :: rest, _, now => ([], .stalled, .stall :: rest, now)

/-- Waits up to a limit for what was taken to be passed on. The flushes to come and the moment
at which this one ended, or was waited for in vain, come behind. -/
def passOn (limit : Nat) : List Flushing → Nat → WriteEnd × List Flushing × Nat
  | [], now => (.done, [], now)
  | .done :: rest, now => (.done, rest, now)
  | .fault fault :: rest, now => (.fault fault, rest, now)
  | .busy due :: rest, now =>
      if due ≤ max now limit then passOn limit rest (max now due)
      else (.stalled, .busy due :: rest, now)
  | .stall :: rest, now => (.stalled, .stall :: rest, now)

/-- What comes of a flush, the far end after it, and the moment. -/
def flush (script : Script) (limit now : Nat) : WriteEnd × Script × Nat :=
  let (ending, flushes, now) := passOn limit script.flushes now
  (ending, { script with flushes := flushes }, now)

/-- A flush changes nothing about what arrives. -/
@[simp] theorem arrivals_flush (script : Script) (limit now : Nat) :
    (script.flush limit now).2.1.arrivals = script.arrivals :=
  rfl

end Script

/-! ## Links -/

/-- A link, known by its number, to a far end. -/
structure Link where
  /-- The number. -/
  id : Nat
  /-- How the far end behaves from now on. -/
  far : Script
  deriving DecidableEq, Inhabited

/-- Notes that a link accepted pieces of octets, one after another. -/
def Timeline.noteWrites (timeline : Timeline) (link : Nat) (pieces : List Octets) : Timeline :=
  { timeline with log := timeline.log ++ pieces.map (Event.wrote link) }

end Commissioner
