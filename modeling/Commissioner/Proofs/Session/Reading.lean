import Commissioner.Proofs.Timeline
import Commissioner.Proofs.Session.Correlation

/-!
# Reading until a record is complete

A far end sends octets in parts, each from a moment on. A read takes octets off the
first part that is left, as many as it asks for and the part has (`read_fetched`).

Reads in a row go on while no record is complete (`Reads`), which is what both loops
do that wait for records. When parts that are there in time complete a record, such
reads end with the one that completed it, and the rest of the parts is still to come
(`exists_reads`).
-/

set_option autoImplicit false

namespace Commissioner

/-! ## Parts -/

/-- Octets that arrive together, from a moment on. -/
structure Part where
  octets : Octets
  due : Nat

def Part.arrival (part : Part) : Arrival :=
  .octets part.octets part.due

/-- The octets of parts, one behind another. -/
def joined (parts : List Part) : Octets :=
  parts.flatMap Part.octets

@[simp] theorem joined_nil : joined [] = [] := rfl

@[simp] theorem joined_cons (part : Part) (parts : List Part) :
    joined (part :: parts) = part.octets ++ joined parts := rfl

@[simp] theorem joined_append (early late : List Part) :
    joined (early ++ late) = joined early ++ joined late :=
  List.flatMap_append

theorem length_le_joined {parts : List Part} (full : ∀ part ∈ parts, part.octets ≠ []) :
    parts.length ≤ (joined parts).length := by
  induction parts with
  | nil => exact Nat.le_refl _
  | cons part parts ih =>
      obtain ⟨first, others⟩ := List.forall_mem_cons.mp full
      have some := List.length_pos_iff.mpr first
      have behind := ih others
      rw [joined_cons, List.length_append, List.length_cons]
      omega

/-- Each of the parts left is there as soon as one of the parts. -/
def AsSoonAs (left parts : List Part) : Prop :=
  ∀ part ∈ left, ∃ whole ∈ parts, part.due = whole.due

namespace AsSoonAs

theorem refl (parts : List Part) : AsSoonAs parts parts :=
  fun part member => ⟨part, member, rfl⟩

theorem trans {left between parts : List Part} (second : AsSoonAs left between)
    (first : AsSoonAs between parts) : AsSoonAs left parts := by
  intro part member
  obtain ⟨middle, among, same⟩ := second part member
  obtain ⟨whole, inside, equal⟩ := first middle among
  exact ⟨whole, inside, same.trans equal⟩

/-- Parts that come behind are there as soon as they were. -/
theorem append {left parts : List Part} (soon : AsSoonAs left parts) (late : List Part) :
    AsSoonAs (left ++ late) (parts ++ late) := by
  intro part member
  rcases List.mem_append.mp member with inside | behind
  · obtain ⟨whole, among, same⟩ := soon part inside
    exact ⟨whole, List.mem_append_left late among, same⟩
  · exact ⟨part, List.mem_append_right parts behind, rfl⟩

/-- What holds of every moment of the parts holds of every moment of those left. -/
theorem forall_due {left parts : List Part} {timely : Nat → Prop} (soon : AsSoonAs left parts)
    (every : ∀ part ∈ parts, timely part.due) : ∀ part ∈ left, timely part.due := by
  intro part member
  obtain ⟨whole, among, same⟩ := soon part member
  rw [same]
  exact every whole among

end AsSoonAs

/-- A read takes octets off the first part, and what is left of it stays the first. -/
theorem Script.take_part {script : Script} {part : Part} {parts : List Part}
    {later : List Arrival} (count : Nat)
    (arrivals : script.arrivals = (part :: parts).map Part.arrival ++ later)
    (full : part.octets ≠ []) :
    ∃ piece left far, script.take count = (.octets piece, far) ∧
      far.arrivals = left.map Part.arrival ++ later ∧
      piece ++ joined left = joined (part :: parts) ∧ AsSoonAs left (part :: parts) ∧
      ((∀ other ∈ parts, other.octets ≠ []) → ∀ other ∈ left, other.octets ≠ []) := by
  cases content : part.octets with
  | nil => exact absurd content full
  | cons octet more =>
      have taken : script.take count =
          (.octets (octet :: more.take count),
            { script with
              arrivals :=
                if (more.drop count).isEmpty then parts.map Part.arrival ++ later
                else .octets (more.drop count) part.due :: (parts.map Part.arrival ++ later) }) := by
        simp only [take, arrivals, List.map_cons, List.cons_append, Part.arrival, content]
      -- Either the read takes the whole part, or the rest of it is a part of its own.
      by_cases whole : (more.drop count).isEmpty = true
      · rw [if_pos whole] at taken
        rw [List.isEmpty_iff, List.drop_eq_nil_iff] at whole
        refine ⟨_, parts, _, taken, rfl, ?_, ?_, fun others => others⟩
        · rw [List.take_of_length_le whole, joined_cons, content]
        · exact fun other member => ⟨other, List.mem_cons_of_mem part member, rfl⟩
      · rw [if_neg whole] at taken
        rw [List.isEmpty_iff] at whole
        refine ⟨_, ⟨more.drop count, part.due⟩ :: parts, _, taken, rfl, ?_, ?_, ?_⟩
        · rw [joined_cons, joined_cons, content, List.cons_append, ← List.append_assoc,
            List.take_append_drop, List.cons_append]
        · intro other member
          rcases List.mem_cons.mp member with rfl | behind
          · exact ⟨part, List.mem_cons_self, rfl⟩
          · exact ⟨other, List.mem_cons_of_mem part behind, rfl⟩
        · intro others other member
          rcases List.mem_cons.mp member with rfl | behind
          · exact whole
          · exact others other behind

namespace Timeline

/-- What is due then comes no later than a limit, and than the deadline if there is one. -/
def InTime (deadline : Option Nat) (limit due : Nat) : Prop :=
  due ≤ limit ∧ ∀ moment, deadline = some moment → due ≤ moment

/-- What comes in time is waited for. -/
theorem wait_inTime {timeline : Timeline} {deadline : Option Nat} {limit due : Nat}
    (inTime : InTime deadline limit due) :
    timeline.wait (some due) deadline limit = (.ready, timeline.advance due) := by
  obtain ⟨beforeLimit, beforeDeadline⟩ := inTime
  have reached : due ≤ max timeline.now limit := Nat.le_trans beforeLimit (Nat.le_max_right _ _)
  refine wait_of_le_horizon ?_
  cases deadline with
  | none => exact reached
  | some moment => exact Nat.le_min.mpr ⟨beforeDeadline moment rfl, reached⟩

end Timeline

/-- Sessions with the same bounds frame their records alike. -/
theorem Session.framing_congr {session other : Session} (same : session.limits = other.limits) :
    session.framing = other.framing := by
  unfold framing
  rw [same]

namespace Conversation

/-- The link of a conversation, known by its number, brings parts that are not empty,
and then whatever comes later. -/
def Feeding (talk : Conversation) (id : Nat) (parts : List Part) (later : List Arrival) : Prop :=
  ∃ link, talk.session.link = some link ∧ link.id = id ∧
    link.far.arrivals = parts.map Part.arrival ++ later ∧ ∀ part ∈ parts, part.octets ≠ []

namespace Feeding

variable {talk : Conversation} {id : Nat} {early late : List Part} {later : List Arrival}

/-- Some of the parts come first, and the others later. -/
theorem front (feeding : Feeding talk id (early ++ late) later) :
    Feeding talk id early (late.map Part.arrival ++ later) := by
  obtain ⟨link, held, same, arrivals, full⟩ := feeding
  refine ⟨link, held, same, ?_, fun part member => full part (List.mem_append_left late member)⟩
  rw [arrivals, List.map_append, List.append_assoc]

/-- Parts that come later come behind the others. -/
theorem append (feeding : Feeding talk id early (late.map Part.arrival ++ later))
    (fullLate : ∀ part ∈ late, part.octets ≠ []) : Feeding talk id (early ++ late) later := by
  obtain ⟨link, held, same, arrivals, full⟩ := feeding
  refine ⟨link, held, same, ?_, fun part member => ?_⟩
  · rw [arrivals, List.map_append, List.append_assoc]
  · rcases List.mem_append.mp member with inside | behind
    · exact full part inside
    · exact fullLate part behind

end Feeding

/-! ## One read -/

/-- What happened while a conversation took octets off the front of parts: the events
noted, and the parts left. -/
structure Fetched (talk : Conversation) (id : Nat) (parts : List Part) (later : List Arrival)
    (events : List Event) (left : List Part) (after : Conversation) : Prop where
  /-- The parts left are still to come. -/
  feeding : Feeding after id left later
  soon : AsSoonAs left parts
  log : after.timeline.log = talk.timeline.log ++ events
  /-- They are deliveries. -/
  delivered : ∀ event ∈ events, ∃ octets, event = .delivered id octets
  /-- What was delivered is the front of the parts. -/
  octets : deliveries events ++ joined left = joined parts
  /-- It is in the buffer now, and nothing else about the session has changed but the link. -/
  session : after.session =
    { talk.session with
      link := after.session.link, received := talk.session.received ++ deliveries events }

namespace Fetched

theorem refl {talk : Conversation} {id : Nat} {parts : List Part} {later : List Arrival}
    (feeding : Feeding talk id parts later) : Fetched talk id parts later [] parts talk where
  feeding := feeding
  soon := .refl parts
  log := (List.append_nil _).symm
  delivered := nofun
  octets := rfl
  session := by rw [deliveries_nil, List.append_nil]

theorem trans {talk middle after : Conversation} {id : Nat} {parts between left : List Part}
    {later : List Arrival} {events more : List Event}
    (first : Fetched talk id parts later events between middle)
    (second : Fetched middle id between later more left after) :
    Fetched talk id parts later (events ++ more) left after where
  feeding := second.feeding
  soon := second.soon.trans first.soon
  log := by rw [second.log, first.log, List.append_assoc]
  delivered := by
    intro event member
    rcases List.mem_append.mp member with now | behind
    · exact first.delivered event now
    · exact second.delivered event behind
  octets := by rw [deliveries_append, List.append_assoc, second.octets, first.octets]
  session := by
    rw [second.session, first.session]
    simp only [deliveries_append, List.append_assoc]

variable {talk after : Conversation} {id : Nat} {parts left : List Part} {later : List Arrival}
  {events : List Event}

theorem received_eq (fetched : Fetched talk id parts later events left after) :
    after.session.received = talk.session.received ++ deliveries events := by
  rw [fetched.session]

theorem limits_eq (fetched : Fetched talk id parts later events left after) :
    after.session.limits = talk.session.limits := by
  rw [fetched.session]

theorem phase_eq (fetched : Fetched talk id parts later events left after) :
    after.session.phase = talk.session.phase := by
  rw [fetched.session]

end Fetched

/-- **A read takes octets off the first part** when that is there in time. -/
theorem read_fetched {limit id : Nat} {deadline : Option Nat} {talk : Conversation}
    {part : Part} {parts : List Part} {later : List Arrival} (size : Nat)
    (feeding : Feeding talk id (part :: parts) later)
    (inTime : Timeline.InTime deadline limit part.due) :
    ∃ piece left after,
      read size deadline limit talk = (some (.ok .more), after) ∧
      Fetched talk id (part :: parts) later [.delivered id piece] left after := by
  obtain ⟨link, held, rfl, arrivals, full⟩ := feeding
  have due : link.far.readDue = some part.due := by
    simp only [Script.readDue, arrivals, List.map_cons, List.cons_append, Part.arrival,
      Arrival.due]
  obtain ⟨piece, left, far, taken, behind, octets, soon, stillFull⟩ :=
    Script.take_part (size - 1) arrivals (full part List.mem_cons_self)
  have brought : read size deadline limit talk =
      (some (.ok .more),
        ⟨{ talk.session with
            link := some { link with far := far }
            received := talk.session.received ++ piece },
          (talk.timeline.advance part.due).note (.delivered link.id piece)⟩) := by
    simp only [read, held, due, Timeline.wait_inTime inTime, taken]
  refine ⟨piece, left, _, brought, ?_⟩
  constructor
  case feeding =>
    exact ⟨_, rfl, rfl, behind,
      stillFull fun other member => full other (List.mem_cons_of_mem part member)⟩
  case soon => exact soon
  case log => rfl
  case delivered =>
    intro event member
    exact ⟨piece, List.mem_singleton.mp member⟩
  case octets => rw [deliveries_delivered, octets]
  case session => rw [deliveries_delivered]

/-! ## Reads in a row -/

/-- Reads that bring octets, each while the buffer starts with no complete record. -/
inductive Reads (size : Nat) (deadline : Option Nat) (limit : Nat) :
    Conversation → Conversation → Prop where
  | refl (talk : Conversation) : Reads size deadline limit talk talk
  | more {talk middle after : Conversation}
      (nothing : Tlv.split? talk.session.received = none)
      (brought : read size deadline limit talk = (some (.ok .more), middle))
      (bounds : middle.session.limits = talk.session.limits)
      (further : Reads size deadline limit middle after) :
      Reads size deadline limit talk after

/-- Events end with the delivery that completed a record: before it the buffer started
with none. -/
def JustComplete (id : Nat) (buffer : Octets) (events : List Event) : Prop :=
  ∃ before piece, events = before ++ [.delivered id piece] ∧
    Tlv.split? (buffer ++ deliveries before) = none

/-- **Parts that complete a record in time are read until it is complete**, and no
further. -/
theorem exists_reads (size : Nat) (deadline : Option Nat) {limit id : Nat} {talk : Conversation}
    {parts : List Part} {later : List Arrival} (feeding : Feeding talk id parts later)
    (inTime : ∀ part ∈ parts, Timeline.InTime deadline limit part.due)
    (complete : Tlv.split? (talk.session.received ++ joined parts) ≠ none) :
    ∃ events left after,
      Reads size deadline limit talk after ∧
      Fetched talk id parts later events left after ∧
      Tlv.split? after.session.received ≠ none ∧
      (events = [] ∨ JustComplete id talk.session.received events) := by
  -- Each read that brings octets leaves less to read on the link.
  induction left : talk.unread using Nat.strongRecOn generalizing talk parts with
  | ind _ ih =>
    cases nothing : Tlv.split? talk.session.received with
    | some found =>
        refine ⟨[], parts, talk, .refl talk, .refl feeding, ?_, .inl rfl⟩
        rw [nothing]
        exact Option.some_ne_none found
    | none =>
        cases parts with
        | nil =>
            rw [joined_nil, List.append_nil] at complete
            exact absurd nothing complete
        | cons part parts =>
            obtain ⟨piece, between, middle, brought, now⟩ := read_fetched size feeding
              (inTime part List.mem_cons_self)
            have received : middle.session.received = talk.session.received ++ piece := by
              rw [now.received_eq, deliveries_delivered]
            have octets : piece ++ joined between = joined (part :: parts) := by
              rw [← now.octets, deliveries_delivered]
            have whole : Tlv.split? (middle.session.received ++ joined between) ≠ none := by
              rw [received, List.append_assoc, octets]
              exact complete
            obtain ⟨events, rest, after, reads, later, full, ending⟩ := ih _
              (left ▸ unread_read brought) now.feeding (now.soon.forall_due inTime) whole rfl
            refine ⟨.delivered id piece :: events, rest, after,
              .more nothing brought now.limits_eq reads, now.trans later, full, .inr ?_⟩
            rcases ending with rfl | ⟨before, last, rfl, none⟩
            · refine ⟨[], piece, rfl, ?_⟩
              rw [deliveries_nil, List.append_nil]
              exact nothing
            · refine ⟨.delivered id piece :: before, last, rfl, ?_⟩
              rw [received, List.append_assoc] at none
              exact none

end Conversation

end Commissioner
