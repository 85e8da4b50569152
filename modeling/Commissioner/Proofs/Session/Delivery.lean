import Commissioner.Proofs.Session.Moves

/-!
# Every record delivered is returned once

Between two moments of a conversation the link delivers octets, records are
taken off the buffer, and octets are left in it. Taking the records off what was
in the buffer and what was delivered leaves what is in the buffer now
(`Conversation.Ledger`): nothing is lost on the way, doubled, moved or changed.
Every move keeps such a ledger, and so does every chain of them (`Moves.exists_ledger`).

So the records returned by a history without errors and those still in the buffer
are the records of everything delivered. They are the first records of what the far
end sends in all, which does not depend on how that is cut into arrivals, when it
arrives, in what sizes it is read, or where calls give up.
-/

set_option autoImplicit false

namespace Commissioner

/-- A read takes its octets off the front of what the far end sends. -/
theorem Script.content_take {script after : Script} {count : Nat} {octets : Octets}
    (given : script.take count = (.octets octets, after)) :
    script.content = octets ++ after.content := by
  unfold take at given
  split at given
  next => cases given
  next => cases given
  next octet more due rest arrivals =>
    simp only [Prod.mk.injEq, ReadResult.octets.injEq] at given
    obtain ⟨rfl, rfl⟩ := given
    simp only [content, arrivals, List.flatMap_cons, Arrival.content]
    by_cases whole : (more.drop count).isEmpty = true
    · rw [if_pos whole]
      rw [List.isEmpty_iff, List.drop_eq_nil_iff] at whole
      rw [List.take_of_length_le whole]
    · rw [if_neg whole, List.flatMap_cons, List.cons_append, List.cons_append]
      simp only [Arrival.content]
      rw [← List.append_assoc, List.take_append_drop]
  next => cases given
  next => cases given

/-- A session on which records may travel, or could before it was closed. -/
def Session.Opened (session : Session) : Prop :=
  session.phase = .established ∨ session.phase = .closed

namespace Conversation

/-! ## Ledgers -/

/-- What happened between two moments of a conversation: the records taken, the
octets written, and the events noted. -/
structure Ledger (talk : Conversation) (taken : List Tlv) (written : Octets)
    (events : List Event) (after : Conversation) : Prop where
  /-- The events are those noted since. -/
  log : after.timeline.log = talk.timeline.log ++ events
  /-- The octets are those that the link accepted among the events. -/
  wrote : writes events = written
  /-- The records are taken off what was in the buffer and what was delivered. -/
  takes : Tlv.Takes taken (talk.session.received ++ deliveries events) after.session.received
  /-- A session that was opened stays so, and what was delivered and is to come is
  what was to come, or less when the link is gone. -/
  flows : talk.session.Opened →
    after.session.Opened ∧ deliveries events ++ after.pending <+: talk.pending

namespace Ledger

theorem refl (talk : Conversation) : Ledger talk [] [] [] talk where
  log := (List.append_nil _).symm
  wrote := rfl
  takes := by
    rw [deliveries_nil, List.append_nil]
    exact .nil _
  flows := fun opened => ⟨opened, List.prefix_refl _⟩

theorem trans {talk middle after : Conversation} {first second : List Tlv}
    {piece written : Octets} {events more : List Event}
    (earlier : Ledger talk first piece events middle)
    (later : Ledger middle second written more after) :
    Ledger talk (first ++ second) (piece ++ written) (events ++ more) after where
  log := by rw [later.log, earlier.log, List.append_assoc]
  wrote := by rw [writes_append, earlier.wrote, later.wrote]
  takes := by
    rw [deliveries_append, ← List.append_assoc]
    exact (earlier.takes.append (deliveries more)).trans later.takes
  flows := by
    intro opened
    obtain ⟨stays, before⟩ := earlier.flows opened
    obtain ⟨still, behind⟩ := later.flows stays
    refine ⟨still, List.IsPrefix.trans ?_ before⟩
    rw [deliveries_append, List.append_assoc]
    exact (List.prefix_append_right_inj (deliveries events)).mpr behind

/-- Nothing was delivered or taken, and no link was gained. -/
theorem of_quiet {talk after : Conversation} {written : Octets} {events : List Event}
    (log : after.timeline.log = talk.timeline.log ++ events) (none : deliveries events = [])
    (wrote : writes events = written)
    (same : after.session.received = talk.session.received)
    (flows : talk.session.Opened → after.session.Opened ∧ after.pending <+: talk.pending) :
    Ledger talk [] written events after where
  log := log
  wrote := wrote
  takes := by
    rw [none, same, List.append_nil]
    exact .nil _
  flows := by
    rw [none]
    exact flows

end Ledger

/-- **Every move keeps a ledger.** -/
theorem Move.exists_ledger {talk after : Conversation} {taken : List Tlv} {written : Octets}
    (move : Move talk taken written after) : ∃ events, Ledger talk taken written events after := by
  cases move with
  | idle quiet =>
      obtain ⟨events, log, quiet⟩ := quiet
      exact ⟨events, .of_quiet log (deliveries_of_quiet quiet) (writes_of_quiet quiet) rfl
        fun opened => ⟨opened, List.prefix_refl _⟩⟩
  | mark =>
      exact ⟨[], .of_quiet (List.append_nil _).symm rfl rfl rfl
        fun opened => ⟨opened, List.prefix_refl _⟩⟩
  | load _ fresh =>
      -- Before the handshake has come to its end, no session is open.
      refine ⟨[], .of_quiet (List.append_nil _).symm rfl rfl rfl fun opened => ?_⟩
      rcases opened with phase | phase <;> cases fresh.symm.trans phase
  | surrender handshaking =>
      refine ⟨[], .of_quiet (List.append_nil _).symm rfl rfl rfl fun opened => ?_⟩
      rcases opened with phase | phase <;> cases handshaking.symm.trans phase
  | secure link handshaking =>
      refine ⟨[.secured link.id], .of_quiet rfl rfl rfl rfl fun opened => ?_⟩
      rcases opened with phase | phase <;> cases handshaking.symm.trans phase
  | @write link octets pieces _ _ _ _ _ established held taken =>
      refine ⟨pieces.map (Event.wrote link.id),
        .of_quiet rfl (deliveries_wrote ..) (writes_wrote ..) rfl fun opened => ⟨opened, ?_⟩⟩
      simp only [pending, held]
      exact List.prefix_refl _
  | @flush link _ far _ _ _ established held told =>
      refine ⟨[.flushing _], .of_quiet rfl rfl rfl rfl fun opened => ⟨opened, ?_⟩⟩
      rw [Script.eq_of_flush told]
      simp only [pending, held]
      exact List.prefix_refl _
  | @flushed link =>
      exact ⟨[.flushed link.id],
        .of_quiet rfl rfl rfl rfl fun opened => ⟨opened, List.prefix_refl _⟩⟩
  | @deliver link far octets count established held nothing given =>
      refine ⟨[.delivered link.id octets], rfl, rfl, ?_, fun opened => ⟨opened, ?_⟩⟩
      · simp only [deliveries, List.flatMap_singleton, Event.delivery]
        exact .nil _
      · simp only [pending, held, deliveries, List.flatMap_singleton, Event.delivery,
          Script.content_take given]
        exact List.prefix_refl _
  | take taken =>
      refine ⟨[], (List.append_nil _).symm, rfl, ?_, fun opened => ⟨opened, List.prefix_refl _⟩⟩
      rw [deliveries_nil, List.append_nil]
      exact .single taken
  | @part link held =>
      exact ⟨[.released link.id],
        .of_quiet rfl rfl rfl rfl fun opened => ⟨opened, List.nil_prefix⟩⟩
  | shut =>
      obtain ⟨events, log, quiet⟩ := quiet_shut talk
      exact ⟨events, .of_quiet log (deliveries_of_quiet quiet) (writes_of_quiet quiet) rfl
        fun _ => ⟨.inr rfl, List.nil_prefix⟩⟩

theorem Moves.exists_ledger {talk after : Conversation} {taken : List Tlv} {written : Octets}
    (moves : Moves talk taken written after) :
    ∃ events, Ledger talk taken written events after := by
  induction moves with
  | refl talk => exact ⟨[], .refl talk⟩
  | head move _ ih =>
      obtain ⟨events, now⟩ := move.exists_ledger
      obtain ⟨more, later⟩ := ih
      exact ⟨events ++ more, now.trans later⟩

/-! ## Histories -/

/-- **No record is lost, doubled, moved or changed.** The records that a history
returned without an error, and behind them those that the buffer still holds, are
the records of all octets that the buffer held and the link delivered, and the same
octets are left. On an established session the records returned are the first
records of all that the far end sends, whatever the arrivals, times, sizes and
limits of the history are. -/
theorem run_records (calls : List (Call × Nat)) (talk : Conversation)
    (clean : ∀ answer ∈ (run calls talk).1, answer.isError = false) :
    ∃ events,
      (run calls talk).2.timeline.log = talk.timeline.log ++ events ∧
      Tlv.parse (talk.session.received ++ deliveries events) =
        ⟨returned (run calls talk).1 ++ (Tlv.parse (run calls talk).2.session.received).records,
          (Tlv.parse (run calls talk).2.session.received).rest⟩ ∧
      (talk.session.phase = .established →
        returned (run calls talk).1 <+:
          (Tlv.parse (talk.session.received ++ talk.pending)).records) := by
  obtain ⟨taken, written, moves, same⟩ := run_moves calls talk
  obtain ⟨events, ledger⟩ := moves.exists_ledger
  rw [same clean] at ledger
  refine ⟨events, ledger.log, ledger.takes.parse_eq, fun established => ?_⟩
  -- What was delivered is the front of what was still to come.
  have delivered : deliveries events <+: talk.pending :=
    (List.prefix_append _ _).trans (ledger.flows (.inl established)).2
  have front : talk.session.received ++ deliveries events <+:
      talk.session.received ++ talk.pending :=
    (List.prefix_append_right_inj talk.session.received).mpr delivered
  refine List.IsPrefix.trans ?_ (Tlv.records_isPrefix front)
  rw [ledger.takes.parse_eq]
  exact List.prefix_append _ _

/-- An established session on whose link two records and the first octet of a third
arrive in four parts. -/
def fragmented : Conversation where
  session := ⟨.established,
    some ⟨0, ⟨[.octets [0x82] 0, .octets [2, 65] 5, .octets [66, 1, 0, 0x82] 9, .octets [0] 20],
      [.upTo 1], [], .orderly⟩⟩,
    none, [], .default, false⟩
  timeline := .start

/-- One batch is given up for its timeout and one is dropped, both with part of a
record in the buffer; then comes a request, and the batch behind its answer. -/
theorem run_records_fragmented :
    ∃ events,
      (run [(.receive 1 3, 100), (.receive 4096 50, 6), (.request ⟨0x82, []⟩, 100),
        (.receive 0 30, 100)] fragmented).2.timeline.log = [] ++ events ∧
      Tlv.parse ([] ++ deliveries events) = ⟨[⟨0x82, [65, 66]⟩, ⟨0x01, []⟩], [0x82]⟩ := by
  obtain ⟨events, log, parsed, -⟩ :=
    run_records [(.receive 1 3, 100), (.receive 4096 50, 6), (.request ⟨0x82, []⟩, 100),
      (.receive 0 30, 100)] fragmented (by decide +kernel)
  refine ⟨events, log, parsed.trans ?_⟩
  decide +kernel

end Conversation

end Commissioner
