import Commissioner.Proofs.Timeline
import Commissioner.Proofs.Session.Exchange

/-!
# What arrives, in pieces

A read takes no more than it asks for, so the far end's arrivals come in pieces of at most
that size (`Script.pieces`). Reading takes pieces in order until a record is complete
(`Consumes`), and every such wait ends in exactly one of four ways: a record is complete, or the
stream ends, fails or stays silent up to the deadline (`Consumes.exists_course`).

Of the pieces those are read that are there by the horizon of the wait, which is the deadline or
the moment at which the call is dropped (`Timeline.horizon`). A read takes the first of them
(`read_of_piece`); when there is none it expires or is dropped, whichever comes first
(`read_of_lapsed`, `read_of_dropped`). So both kinds of waits read the same parts, and go on
behind them (`exists_heard`).
-/

set_option autoImplicit false

namespace Commissioner

/-! ## Pieces -/

/-- Octets in pieces of at most `size` octets, or of one if that is none. -/
def Octets.cut (size : Nat) : Octets → List Octets
  | [] => []
  | octet :: more => (octet :: more.take (size - 1)) :: cut size (more.drop (size - 1))
termination_by octets => octets.length
decreasing_by
  simp only [List.length_drop, List.length_cons]
  omega

@[simp] theorem Octets.cut_nil (size : Nat) : cut size [] = [] := by
  rw [cut]

theorem Octets.cut_cons (size : Nat) (octet : UInt8) (more : Octets) :
    cut size (octet :: more) =
      (octet :: more.take (size - 1)) :: cut size (more.drop (size - 1)) := by
  rw [cut]

/-- The pieces of octets are these octets, one behind another. -/
theorem Octets.flatten_cut (size : Nat) (octets : Octets) : (cut size octets).flatten = octets := by
  fun_induction cut size octets with
  | case1 => rfl
  | case2 octet more ih =>
      rw [List.flatten_cons, ih, List.cons_append, List.take_append_drop]

/-- No piece is empty, and none is too long. -/
theorem Octets.bounds_of_mem_cut {size : Nat} {octets piece : Octets}
    (member : piece ∈ cut size octets) : piece ≠ [] ∧ piece.length ≤ max size 1 := by
  fun_induction cut size octets with
  | case1 => cases member
  | case2 octet more ih =>
      rcases List.mem_cons.mp member with rfl | behind
      · refine ⟨List.cons_ne_nil _ _, ?_⟩
        simp only [List.length_cons, List.length_take]
        omega
      · exact ih behind

/-- The pieces in which an arrival is read. -/
def Arrival.pieces (size : Nat) : Arrival → List Arrival
  | .octets (octet :: more) due =>
      (Octets.cut size (octet :: more)).map fun piece => .octets piece due
  | arrival => [arrival]

/-- What a read that takes all of an arrival gives. -/
def Arrival.given : Arrival → ReadResult
  | .octets [] _ => .finished
  | .octets content _ => .octets content
  | .finish _ => .finished
  | .fault cause _ => .fault cause

namespace Script

/-- The pieces in which everything that arrives is read. -/
def pieces (size : Nat) (script : Script) : List Arrival :=
  script.arrivals.flatMap (Arrival.pieces size)

theorem readDue_of_pieces_nil {size : Nat} {script : Script} (nothing : script.pieces size = []) :
    script.readDue = none := by
  unfold readDue
  cases arrivals : script.arrivals with
  | nil => rfl
  | cons arrival rest =>
      rw [pieces, arrivals, List.flatMap_cons, List.append_eq_nil_iff] at nothing
      obtain ⟨none, -⟩ := nothing
      unfold Arrival.pieces at none
      split at none
      · rw [Octets.cut_cons] at none
        cases none
      · cases none

/-- **A read takes the first piece** when it is there, and leaves the others. -/
theorem take_of_pieces {size : Nat} {script : Script} {piece : Arrival} {later : List Arrival}
    (pieces : script.pieces size = piece :: later) :
    script.readDue = some piece.due ∧
      ∃ far, script.take (size - 1) = (piece.given, far) ∧
        ∀ octets, piece.given = .octets octets → far.pieces size = later := by
  unfold Script.pieces at pieces
  unfold readDue take
  cases arrivals : script.arrivals with
  | nil =>
      rw [arrivals] at pieces
      cases pieces
  | cons arrival rest =>
      rw [arrivals, List.flatMap_cons] at pieces
      cases arrival with
      | finish due =>
          cases pieces
          exact ⟨rfl, script, rfl, nofun⟩
      | fault fault due =>
          cases pieces
          exact ⟨rfl, { script with arrivals := rest }, rfl, nofun⟩
      | octets octets due =>
          cases octets with
          | nil =>
              cases pieces
              exact ⟨rfl, { script with arrivals := rest }, rfl, nofun⟩
          | cons octet more =>
              simp only [Arrival.pieces, Octets.cut_cons, List.map_cons, List.cons_append,
                List.cons.injEq] at pieces
              obtain ⟨rfl, rfl⟩ := pieces
              refine ⟨rfl, _, rfl, fun _ _ => ?_⟩
              simp only [Script.pieces]
              -- What is left of the arrival, if anything, is the first to be cut next.
              cases left : more.drop (size - 1) with
              | nil =>
                  rw [List.isEmpty_nil, if_pos rfl, Octets.cut_nil, List.map_nil, List.nil_append]
              | cons _ _ =>
                  rw [List.isEmpty_cons, if_neg Bool.false_ne_true, List.flatMap_cons]
                  rfl

end Script

/-! ## The course of a wait -/

/-- Parts are read off the front of pieces, each there by a deadline and each while the
buffer starts with no complete record. -/
inductive Consumes (deadline : Nat) : Octets → List Arrival → List Part → List Arrival → Prop where
  | none (buffer : Octets) (pieces : List Arrival) : Consumes deadline buffer pieces [] pieces
  | more {buffer : Octets} {pieces later : List Arrival} {part : Part} {parts : List Part}
      (nothing : Tlv.split? buffer = none) (full : part.octets ≠ []) (inTime : part.due ≤ deadline)
      (further : Consumes deadline (buffer ++ part.octets) pieces parts later) :
      Consumes deadline buffer (part.arrival :: pieces) (part :: parts) later

/-- These parts complete a record, and the last of them is needed for it. -/
def Completes (deadline : Nat) (buffer : Octets) (pieces : List Arrival) (parts : List Part) :
    Prop :=
  ∃ later, Consumes deadline buffer pieces parts later ∧
    Tlv.split? (buffer ++ joined parts) ≠ none

/-- Before a record is complete comes a piece that gives this, by the deadline. -/
def Meets (deadline : Nat) (buffer : Octets) (pieces : List Arrival) (given : ReadResult) : Prop :=
  ∃ parts piece later, Consumes deadline buffer pieces parts (piece :: later) ∧
    Tlv.split? (buffer ++ joined parts) = none ∧ piece.due ≤ deadline ∧ piece.given = given

/-- The deadline passes before a record is complete, behind these parts. -/
def Lapses (deadline : Nat) (buffer : Octets) (pieces : List Arrival) (parts : List Part) : Prop :=
  ∃ later, Consumes deadline buffer pieces parts later ∧
    Tlv.split? (buffer ++ joined parts) = none ∧ ∀ piece ∈ later.head?, deadline < piece.due

/-- A piece that gives octets is a part. -/
theorem Arrival.eq_arrival {piece : Arrival} {octets : Octets}
    (gives : piece.given = .octets octets) :
    octets ≠ [] ∧ piece = (⟨octets, piece.due⟩ : Part).arrival := by
  cases piece with
  | finish => cases gives
  | fault => cases gives
  | octets content due =>
      cases content with
      | nil => cases gives
      | cons octet more =>
          cases gives
          exact ⟨List.cons_ne_nil _ _, rfl⟩

theorem Part.given_arrival {part : Part} (full : part.octets ≠ []) :
    part.arrival.given = .octets part.octets := by
  obtain ⟨_ | ⟨octet, more⟩, due⟩ := part
  · exact absurd rfl full
  · rfl

namespace Consumes

variable {deadline : Nat} {buffer : Octets} {pieces later : List Arrival} {parts : List Part}

/-- The pieces that are read stand in front of those to come, and none of them is empty. -/
theorem eq_append (consumes : Consumes deadline buffer pieces parts later) :
    pieces = parts.map Part.arrival ++ later ∧ ∀ part ∈ parts, part.octets ≠ [] := by
  induction consumes with
  | none => exact ⟨rfl, List.forall_mem_nil _⟩
  | more _ full _ _ ih =>
      obtain ⟨same, others⟩ := ih
      exact ⟨by rw [same]; rfl, List.forall_mem_cons.mpr ⟨full, others⟩⟩

/-- Parts are read until a record is complete, or no part is there in time. -/
theorem exists_furthest (deadline : Nat) (buffer : Octets) (pieces : List Arrival) :
    ∃ parts later, Consumes deadline buffer pieces parts later ∧
      (Tlv.split? (buffer ++ joined parts) = .none → ∀ piece ∈ later.head?,
        piece.due ≤ deadline → ∀ octets, piece.given ≠ .octets octets) := by
  induction pieces generalizing buffer with
  | nil => exact ⟨[], [], .none buffer [], fun _ => nofun⟩
  | cons piece pieces ih =>
      by_cases goesOn : Tlv.split? buffer = .none ∧ piece.due ≤ deadline ∧
        ∃ octets, piece.given = .octets octets
      · obtain ⟨nothing, inTime, octets, gives⟩ := goesOn
        obtain ⟨full, same⟩ := Arrival.eq_arrival gives
        obtain ⟨parts, later, further, furthest⟩ := ih (buffer ++ octets)
        rw [same]
        refine ⟨_, later, .more nothing full inTime further, ?_⟩
        rw [joined_cons, ← List.append_assoc]
        exact furthest
      · refine ⟨[], piece :: pieces, .none buffer _,
          fun nothing first head inTime octets gives => ?_⟩
        cases head
        rw [joined_nil, List.append_nil] at nothing
        exact goesOn ⟨nothing, inTime, octets, gives⟩

/-- **Every wait takes one of four courses**: a record is complete, or the stream ends,
fails, or stays silent up to the deadline before one is. -/
theorem exists_course (deadline : Nat) (buffer : Octets) (pieces : List Arrival) :
    (∃ parts, Completes deadline buffer pieces parts) ∨
      Meets deadline buffer pieces .finished ∨
      (∃ fault, Meets deadline buffer pieces (.fault fault)) ∨
      ∃ parts, Lapses deadline buffer pieces parts := by
  obtain ⟨parts, later, consumes, furthest⟩ := exists_furthest deadline buffer pieces
  by_cases nothing : Tlv.split? (buffer ++ joined parts) = .none
  case neg => exact .inl ⟨parts, later, consumes, nothing⟩
  by_cases late : ∀ piece ∈ later.head?, deadline < piece.due
  · exact .inr (.inr (.inr ⟨parts, later, consumes, nothing, late⟩))
  · cases later with
    | nil => exact absurd nofun late
    | cons piece later =>
        have inTime : piece.due ≤ deadline := by simpa using late
        have noPart := furthest nothing piece rfl inTime
        cases gives : piece.given with
        | octets octets => exact absurd gives (noPart octets)
        | finished =>
            exact .inr (.inl ⟨parts, piece, later, consumes, nothing, inTime, gives⟩)
        | fault fault =>
            exact .inr (.inr (.inl ⟨fault, parts, piece, later, consumes, nothing, inTime, gives⟩))

end Consumes

/-! ## Up to one moment and another -/

namespace Consumes

variable {moment last : Nat} {buffer : Octets} {pieces later : List Arrival} {parts : List Part}

theorem mono (consumes : Consumes moment buffer pieces parts later) (sooner : moment ≤ last) :
    Consumes last buffer pieces parts later := by
  induction consumes with
  | none => exact .none ..
  | more nothing full inTime _ ih => exact .more nothing full (Nat.le_trans inTime sooner) ih

/-- What is read by one moment is read by another, or that other one passes first. -/
theorem restrict (consumes : Consumes moment buffer pieces parts later) (last : Nat) :
    Consumes last buffer pieces parts later ∨ ∃ front, Lapses last buffer pieces front := by
  induction consumes with
  | none => exact .inl (.none ..)
  | @more buffer pieces later part parts nothing full _ _ ih =>
      by_cases inTime : part.due ≤ last
      case pos =>
        rcases ih with consumes | ⟨front, rest, further, still, late⟩
        · exact .inl (.more nothing full inTime consumes)
        · refine .inr ⟨part :: front, rest, .more nothing full inTime further, ?_, late⟩
          rw [joined_cons, ← List.append_assoc]
          exact still
      case neg =>
        refine .inr ⟨[], _, .none .., ?_, fun piece first => ?_⟩
        · rw [joined_nil, List.append_nil]
          exact nothing
        · cases first
          exact Nat.not_le.mp inTime

end Consumes

section Restrict

variable {deadline : Option Nat} {moment last : Nat} {buffer : Octets} {pieces : List Arrival}
  {parts : List Part}

/-- What is complete in time is complete by the horizon, unless that passes first. -/
theorem Completes.restrict (completes : Completes moment buffer pieces parts)
    (decided : (∀ front, ¬ Lapses last buffer pieces front) ∨ last ∈ deadline)
    (timely : ∀ bound ∈ deadline, moment ≤ bound) : Completes last buffer pieces parts := by
  obtain ⟨later, consumes, complete⟩ := completes
  rcases decided with never | bounded
  · rcases consumes.restrict last with within | ⟨front, lapses⟩
    · exact ⟨later, within, complete⟩
    · exact absurd lapses (never front)
  · exact ⟨later, consumes.mono (timely last bounded), complete⟩

/-- So it is with the end of the stream and its failures. -/
theorem Meets.restrict {given : ReadResult} (meets : Meets moment buffer pieces given)
    (decided : (∀ front, ¬ Lapses last buffer pieces front) ∨ last ∈ deadline)
    (timely : ∀ bound ∈ deadline, moment ≤ bound) : Meets last buffer pieces given := by
  obtain ⟨parts, piece, later, consumes, nothing, inTime, gives⟩ := meets
  rcases decided with never | bounded
  · rcases consumes.restrict last with within | ⟨front, lapses⟩
    · refine ⟨parts, piece, later, within, nothing, Nat.not_lt.mp fun beyond => ?_, gives⟩
      refine never parts ⟨_, within, nothing, fun first head => ?_⟩
      cases head
      exact beyond
    · exact absurd lapses (never front)
  · have sooner := timely last bounded
    exact ⟨parts, piece, later, consumes.mono sooner, nothing, Nat.le_trans inTime sooner, gives⟩

/-- When the deadline passes before a record is complete, it is the horizon. -/
theorem Lapses.restrict {bound : Nat} (lapses : Lapses bound buffer pieces parts)
    (decided : (∀ front, ¬ Lapses last buffer pieces front) ∨ last ∈ deadline)
    (bounded : bound ∈ deadline) (sooner : last ≤ bound) : last = bound := by
  rcases decided with never | same
  · obtain ⟨later, consumes, nothing, late⟩ := lapses
    rcases consumes.restrict last with within | ⟨front, other⟩
    · refine absurd ⟨later, within, nothing, fun piece first => ?_⟩ (never parts)
      exact Nat.lt_of_le_of_lt sooner (late piece first)
    · exact absurd other (never front)
  · cases same.symm.trans bounded
    rfl

end Restrict

theorem Script.shutdown_take (script : Script) (count : Nat) :
    (script.take count).2.shutdown = script.shutdown := by
  unfold take
  split <;> rfl

namespace Conversation

/-! ## Reading by the horizon -/

section Horizon

variable {size limit : Nat} {deadline : Option Nat} {talk : Conversation} {link : Link}

/-- **A read takes the first piece that is there by the horizon**: octets go into the buffer,
and the end or a fault closes the session. -/
theorem read_of_piece {piece : Arrival} {later : List Arrival}
    (held : talk.session.link = some link) (pieces : link.far.pieces size = piece :: later)
    (there : piece.due ≤ talk.timeline.horizon deadline limit) :
    let timeline := talk.timeline.advance piece.due
    match piece.given with
    | .octets octets =>
        ∃ far, far.pieces size = later ∧ far.shutdown = link.far.shutdown ∧
          read size deadline limit talk =
            (some (.ok .more),
              ⟨{ talk.session with
                  link := some { link with far := far }
                  received := talk.session.received ++ octets },
                timeline.note (.delivered link.id octets)⟩)
    | .finished =>
        read size deadline limit talk =
          (some (.ok .finished), { talk with timeline := timeline }.shut)
    | .fault fault =>
        read size deadline limit talk =
          (some (.error (.fault fault)), { talk with timeline := timeline }.shut) := by
  obtain ⟨due, far, taken, behind⟩ := Script.take_of_pieces pieces
  have shutdown := link.far.shutdown_take (size - 1)
  rw [taken] at shutdown
  simp only [read, held, due, Timeline.wait_of_le_horizon there, taken]
  cases gives : piece.given with
  | octets octets => exact ⟨far, behind octets gives, shutdown, rfl⟩
  | finished => rfl
  | fault fault => rfl

/-- What comes first is due when its first piece is. -/
theorem readDue_of_late {bound : Nat}
    (late : ∀ piece ∈ (link.far.pieces size).head?, bound < piece.due) :
    ∀ due ∈ link.far.readDue, bound < due := by
  intro due first
  cases pieces : link.far.pieces size with
  | nil => cases (Script.readDue_of_pieces_nil pieces).symm.trans first
  | cons piece later =>
      obtain ⟨same, -⟩ := Script.take_of_pieces pieces
      cases same.symm.trans first
      exact late piece (by rw [pieces]; rfl)

/-- A read expires when no piece is there by a deadline before the limit. -/
theorem read_of_lapsed {moment : Nat} (held : talk.session.link = some link)
    (early : talk.timeline.now ≤ moment) (near : moment ≤ max talk.timeline.now limit)
    (late : ∀ piece ∈ (link.far.pieces size).head?, moment < piece.due) :
    read size (some moment) limit talk =
      (some (.ok .expired), { talk with timeline := talk.timeline.advance moment }) := by
  simp only [read, held, Timeline.wait_of_lapsed early near (readDue_of_late late)]

/-- A read is dropped when no piece is there by the limit, and the deadline lies behind it. -/
theorem read_of_dropped (held : talk.session.link = some link)
    (late : ∀ piece ∈ (link.far.pieces size).head?, max talk.timeline.now limit < piece.due)
    (ahead : ∀ bound ∈ deadline, max talk.timeline.now limit < bound) :
    read size deadline limit talk =
      (none, { talk with timeline := talk.timeline.advance limit }) := by
  simp only [read, held, Timeline.wait_of_dropped (readDue_of_late late) ahead]

end Horizon

/-! ## Reading parts by the horizon -/

/-- The state behind parts that were read by a moment. -/
structure Heard (talk : Conversation) (link : Link) (size last : Nat) (parts : List Part)
    (later : List Arrival) (after : Conversation) : Prop where
  held : ∃ far, after.session.link = some ⟨link.id, far⟩ ∧ far.pieces size = later ∧
    far.shutdown = link.far.shutdown
  session : after.session =
    { talk.session with
      link := after.session.link, received := talk.session.received ++ joined parts }
  /-- Nothing else was noted meanwhile. -/
  log : after.timeline.log =
    talk.timeline.log ++ parts.map fun part => .delivered link.id part.octets
  notBefore : talk.timeline.now ≤ after.timeline.now
  inTime : after.timeline.now ≤ last

namespace Heard

variable {size last : Nat} {talk after : Conversation} {link : Link} {parts : List Part}
  {later : List Arrival}

theorem received_eq (heard : Heard talk link size last parts later after) :
    after.session.received = talk.session.received ++ joined parts := by
  rw [heard.session]

theorem limits_eq (heard : Heard talk link size last parts later after) :
    after.session.limits = talk.session.limits := by
  rw [heard.session]

theorem phase_eq (heard : Heard talk link size last parts later after) :
    after.session.phase = talk.session.phase := by
  rw [heard.session]

end Heard

section Heard

variable {size limit : Nat} {deadline : Option Nat} {talk : Conversation} {link : Link}

/-- A wait that is not over yet lasts no further than its horizon. -/
theorem now_le_horizon (early : ∀ bound ∈ deadline, talk.timeline.now ≤ bound) :
    talk.timeline.now ≤ talk.timeline.horizon deadline limit := by
  cases deadline with
  | none => exact Nat.le_max_left ..
  | some moment => exact Nat.le_min.mpr ⟨early moment rfl, Nat.le_max_left ..⟩

/-- **Parts that are there by the horizon are read**, each while no record is complete. -/
theorem exists_heard {last : Nat} {pieces later : List Arrival} {buffer : Octets}
    {parts : List Part} (consumes : Consumes last buffer pieces parts later)
    (held : talk.session.link = some link) (same : link.far.pieces size = pieces)
    (received : talk.session.received = buffer)
    (ends : talk.timeline.horizon deadline limit = last) (early : talk.timeline.now ≤ last) :
    ∃ middle, Heard talk link size last parts later middle ∧
      middle.timeline.horizon deadline limit = last ∧ Reads size deadline limit talk middle := by
  induction consumes generalizing talk link with
  | none buffer pieces =>
      refine ⟨talk, ⟨⟨link.far, held, same, rfl⟩, ?_, ?_, Nat.le_refl _, early⟩, ends, .refl talk⟩
      · rw [joined_nil, List.append_nil]
      · rw [List.map_nil, List.append_nil]
  | @more buffer pieces later part parts nothing full inTime further ih =>
      rw [← received] at nothing
      have there : part.arrival.due ≤ talk.timeline.horizon deadline limit := by
        rw [ends]
        exact inTime
      have taken := read_of_piece held same there
      rw [Part.given_arrival full] at taken
      obtain ⟨far, rest, shutdown, brought⟩ := taken
      let next : Conversation :=
        ⟨{ talk.session with
            link := some { link with far := far }
            received := talk.session.received ++ part.octets },
          (talk.timeline.advance part.due).note (.delivered link.id part.octets)⟩
      have linked : next.session.link = some { link with far := far } := rfl
      obtain ⟨middle, heard, stays, reads⟩ := ih linked rest
        (congrArg (· ++ part.octets) received) ((Timeline.horizon_advance there).trans ends)
        (Nat.max_le.mpr ⟨early, inTime⟩)
      refine ⟨middle, ?_, stays, .more nothing brought rfl reads⟩
      constructor
      case held =>
        obtain ⟨final, linked, left, still⟩ := heard.held
        exact ⟨final, linked, left, still.trans shutdown⟩
      case session =>
        rw [heard.session]
        simp only [next, joined_cons, List.append_assoc]
      case log =>
        rw [heard.log, List.map_cons]
        exact List.append_assoc ..
      case notBefore => exact Nat.le_trans (Nat.le_max_left ..) heard.notBefore
      case inTime => exact heard.inTime

end Heard

end Conversation

end Commissioner
