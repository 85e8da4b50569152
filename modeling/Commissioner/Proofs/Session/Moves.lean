import Commissioner.Proofs.Session.History
import Commissioner.Proofs.Session.Steps
import Commissioner.Proofs.Tlv.Framing

/-!
# What calls on a session are made of

Every call on a session is a chain of a few kinds of moves (`Conversation.Move`):
octets are written or delivered, a record is taken off the buffer, time passes,
the session is shut, and so on. A move says all that it changes and what has to
hold for it to happen, so what every move keeps, every call keeps, and with it
every history (`run_moves`).

Moves are labelled with the records that they take off the buffer. A call that
returns no error returns exactly the records that it took (`perform_accounts`).
-/

set_option autoImplicit false

namespace Commissioner

/-! ## Quiet times -/

/-- An event by which nothing travels on a link and no link is gained. -/
def Event.quiet : Event → Bool
  | .shutDown _ | .released _ | .handshake _ | .printed _ | .prompted _ => true
  | _ => false

/-- Nothing is delivered in quiet events. -/
theorem deliveries_of_quiet {events : List Event} (quiet : ∀ event ∈ events, event.quiet = true) :
    deliveries events = [] := by
  refine List.flatMap_eq_nil_iff.mpr fun event member => ?_
  have still := quiet event member
  cases event with
  | delivered => cases still
  | _ => rfl

/-- Nothing is written in quiet events. -/
theorem writes_of_quiet {events : List Event} (quiet : ∀ event ∈ events, event.quiet = true) :
    writes events = [] := by
  refine List.flatMap_eq_nil_iff.mpr fun event member => ?_
  have still := quiet event member
  cases event with
  | wrote => cases still
  | _ => rfl

/-- Nothing is noted while something is waited for. -/
theorem Timeline.log_of_wait {timeline after : Timeline} {due deadline : Option Nat} {limit : Nat}
    {ending : Waited} (waited : timeline.wait due deadline limit = (ending, after)) :
    after.log = timeline.log := by
  rw [← log_wait timeline due deadline limit, waited]

/-- From one moment to another only events of a kind were noted. -/
def Timeline.Adds (kind : Event → Bool) (before after : Timeline) : Prop :=
  ∃ events, after.log = before.log ++ events ∧ ∀ event ∈ events, kind event = true

namespace Timeline.Adds

variable {kind : Event → Bool}

theorem of_log {before after : Timeline} (same : after.log = before.log) :
    before.Adds kind after :=
  ⟨[], by rw [same, List.append_nil], nofun⟩

theorem trans {first second third : Timeline} (earlier : first.Adds kind second)
    (later : second.Adds kind third) : first.Adds kind third := by
  obtain ⟨events, log, all⟩ := earlier
  obtain ⟨more, logMore, allMore⟩ := later
  refine ⟨events ++ more, ?_, fun event member => ?_⟩
  · rw [logMore, log, List.append_assoc]
  · rcases List.mem_append.mp member with early | late
    · exact all event early
    · exact allMore event late

theorem note {timeline : Timeline} {event : Event} (is : kind event = true) :
    timeline.Adds kind (timeline.note event) :=
  ⟨[event], rfl, fun _ member => List.mem_singleton.mp member ▸ is⟩

theorem noteWrites {timeline : Timeline} {link : Nat} {pieces : List Octets}
    (is : ∀ octets, kind (.wrote link octets) = true) :
    timeline.Adds kind (timeline.noteWrites link pieces) := by
  refine ⟨pieces.map (Event.wrote link), rfl, fun event member => ?_⟩
  obtain ⟨octets, -, rfl⟩ := List.mem_map.mp member
  exact is octets

theorem of_wait {timeline after : Timeline} {due deadline : Option Nat} {limit : Nat}
    {ending : Waited} (waited : timeline.wait due deadline limit = (ending, after)) :
    timeline.Adds kind after :=
  of_log (log_of_wait waited)

theorem mono {other : Event → Bool} {before after : Timeline} (adds : before.Adds kind after)
    (weaker : ∀ event, kind event = true → other event = true) : before.Adds other after := by
  obtain ⟨events, log, all⟩ := adds
  exact ⟨events, log, fun event member => weaker event (all event member)⟩

theorem prefix_log {before after : Timeline} (adds : before.Adds kind after) :
    before.log <+: after.log := by
  obtain ⟨events, log, -⟩ := adds
  exact ⟨events, log.symm⟩

end Timeline.Adds

/-- From one moment to another nothing travelled on a link. -/
def Timeline.Quiet (before after : Timeline) : Prop :=
  ∃ events, after.log = before.log ++ events ∧ ∀ event ∈ events, event.quiet = true

namespace Timeline.Quiet

/-- It is quiet while nothing is noted. -/
theorem of_log {before after : Timeline} (same : after.log = before.log) : before.Quiet after :=
  Adds.of_log same

theorem refl (timeline : Timeline) : timeline.Quiet timeline :=
  of_log rfl

theorem trans {first second third : Timeline} (earlier : first.Quiet second)
    (later : second.Quiet third) : first.Quiet third :=
  Adds.trans earlier later

/-- It is quiet while time passes. -/
theorem advance (timeline : Timeline) (moment : Nat) : timeline.Quiet (timeline.advance moment) :=
  of_log rfl

/-- A quiet event leaves it quiet. -/
theorem note {timeline : Timeline} {event : Event} (quiet : event.quiet = true) :
    timeline.Quiet (timeline.note event) :=
  Adds.note quiet

theorem released {timeline : Timeline} {link : Nat} :
    timeline.Quiet (timeline.note (.released link)) :=
  note rfl

theorem of_wait {timeline after : Timeline} {due deadline : Option Nat} {limit : Nat}
    {ending : Waited} (waited : timeline.wait due deadline limit = (ending, after)) :
    timeline.Quiet after :=
  Adds.of_wait waited

end Timeline.Quiet

/-! ## Handshakes are quiet -/

namespace Handshake

/-- What comes of a verdict is quiet. -/
theorem quiet_settle (verdict : Verdict) (name : String) (link : Link) (timeline : Timeline) :
    timeline.Quiet (settle verdict name link timeline).2 := by
  cases verdict with
  | accept => exact .refl _
  | refuse _ => exact .released
  | refuseName => exact .released
  | replace _ => exact .released

/-- Following TLS is quiet: what it reads and writes is no part of the records. -/
theorem quiet_followTls (link : Link) (deadline limit : Nat) (exchange : Tls.Exchange)
    (timeline : Timeline) :
    timeline.Quiet (followTls link deadline limit exchange timeline).2 := by
  -- Either the link is let go, at once or behind a wait, or the exchange goes on there.
  fun_induction followTls link deadline limit exchange timeline
  case case1 | case4 => exact (Timeline.Quiet.advance ..).trans .released
  case case2 | case3 => exact (Timeline.Quiet.of_wait ‹_›).trans .released
  case case10 ih =>
    exact ((Timeline.Quiet.advance ..).trans (.of_wait ‹_›)).trans ih
  all_goals exact ((Timeline.Quiet.advance ..).trans (.of_wait ‹_›)).trans .released

/-- Carrying out a handshake is quiet. -/
theorem quiet_negotiate (handshake : Handshake) (name : String) (link : Link)
    (deadline limit : Nat) (timeline : Timeline) :
    timeline.Quiet (handshake.negotiate name link deadline limit timeline).2 := by
  cases handshake with
  | tls authorities =>
      simp only [negotiate, carryOutTls]
      split
      · exact quiet_followTls ..
      · exact .released
  | settled delay verdict =>
      simp only [negotiate]
      have begun : timeline.Quiet (timeline.note (.handshake name)) := .note rfl
      refine begun.trans ?_
      split
      next waited => exact (Timeline.Quiet.of_wait waited).trans (quiet_settle ..)
      next waited => exact (Timeline.Quiet.of_wait waited).trans .released
      next waited => exact (Timeline.Quiet.of_wait waited).trans .released

end Handshake

namespace Conversation

/-! ## Moves -/

/-- One thing that a conversation can do, with the records that it takes off the
buffer by it and the octets that the link accepts. -/
inductive Move : Conversation → List Tlv → Octets → Conversation → Prop where
  /-- Time passes, and nothing travels on the link meanwhile. -/
  | idle {talk : Conversation} {timeline : Timeline} (quiet : talk.timeline.Quiet timeline) :
      Move talk [] [] { talk with timeline := timeline }
  /-- A request is begun or finished. -/
  | mark {talk : Conversation} (unfinished : Bool) : Move talk [] [] (talk.mark unfinished)
  | load {talk : Conversation} (credentials : Handshake)
      (fresh : talk.session.phase = .uninitialized) :
      Move talk [] []
        { talk with
          session := { talk.session with phase := .handshaking, handshake := some credentials } }
  /-- Link and credentials are handed to the handshake. -/
  | surrender {talk : Conversation} (handshaking : talk.session.phase = .handshaking) :
      Move talk [] []
        { talk with session := { talk.session with handshake := none, link := none } }
  /-- The handshake hands a link back on which records may travel. -/
  | secure {talk : Conversation} (link : Link) (handshaking : talk.session.phase = .handshaking) :
      Move talk [] []
        ⟨{ talk.session with phase := .established, link := some link },
          talk.timeline.note (.secured link.id)⟩
  /-- The link accepts octets in pieces, all of them or the first ones. -/
  | write {talk : Conversation} {link : Link} {octets : Octets} {pieces : List Octets}
      {ending : Script.WriteEnd} {acceptances : List Acceptance} {limit now later : Nat}
      (established : talk.session.phase = .established)
      (held : talk.session.link = some link)
      (taken : Script.writeAll limit link.far.acceptances octets now =
        (pieces, ending, acceptances, later)) :
      Move talk [] pieces.flatten
        ⟨{ talk.session with
            link := some { link with far := { link.far with acceptances := acceptances } } },
          talk.timeline.noteWrites link.id pieces⟩
  /-- The link is told to pass on what it holds, whatever comes of it. -/
  | flush {talk : Conversation} {link : Link} {ending : Script.WriteEnd} {far : Script}
      {limit now later : Nat} (established : talk.session.phase = .established)
      (held : talk.session.link = some link)
      (told : link.far.flush limit now = (ending, far, later)) :
      Move talk [] []
        ⟨{ talk.session with link := some { link with far := far } },
          talk.timeline.note (.flushing link.id)⟩
  /-- It has passed that on. -/
  | flushed {talk : Conversation} (link : Link) (established : talk.session.phase = .established)
      (held : talk.session.link = some link) :
      Move talk [] [] { talk with timeline := talk.timeline.note (.flushed link.id) }
  /-- The link delivers octets while the buffer starts with no complete record. -/
  | deliver {talk : Conversation} {link : Link} {far : Script} {octets : Octets} {count : Nat}
      (established : talk.session.phase = .established)
      (held : talk.session.link = some link)
      (nothing : Tlv.split? talk.session.received = none)
      (given : link.far.take count = (.octets octets, far)) :
      Move talk [] []
        ⟨{ talk.session with
            link := some { link with far := far }
            received := talk.session.received ++ octets },
          talk.timeline.note (.delivered link.id octets)⟩
  /-- A record is taken off the buffer. -/
  | take {talk : Conversation} {record : Tlv} {rest : Octets}
      (taken : Tlv.split? talk.session.received = some (record, rest)) :
      Move talk [record] [] { talk with session := { talk.session with received := rest } }
  /-- The link is let go, and nothing else changes. -/
  | part {talk : Conversation} {link : Link} (held : talk.session.link = some link) :
      Move talk [] []
        ⟨{ talk.session with link := none }, talk.timeline.note (.released link.id)⟩
  /-- The session is closed for good. -/
  | shut {talk : Conversation} : Move talk [] [] talk.shut

/-- Moves one after another, with the records that they take and the octets that the
link accepts in all. -/
inductive Moves : Conversation → List Tlv → Octets → Conversation → Prop where
  | refl (talk : Conversation) : Moves talk [] [] talk
  | head {talk middle after : Conversation} {first rest : List Tlv} {piece written : Octets}
      (move : Move talk first piece middle) (further : Moves middle rest written after) :
      Moves talk (first ++ rest) (piece ++ written) after

namespace Moves

theorem single {talk after : Conversation} {records : List Tlv} {written : Octets}
    (move : Move talk records written after) : Moves talk records written after := by
  have chain := head move (.refl after)
  rwa [List.append_nil, List.append_nil] at chain

theorem trans {talk middle after : Conversation} {first second : List Tlv}
    {piece written : Octets} (earlier : Moves talk first piece middle)
    (later : Moves middle second written after) :
    Moves talk (first ++ second) (piece ++ written) after := by
  induction earlier with
  | refl => exact later
  | head move _ ih =>
      rw [List.append_assoc, List.append_assoc]
      exact .head move (ih later)

/-- A move that takes and writes nothing, and further moves. -/
theorem cons {talk middle after : Conversation} {records : List Tlv} {written : Octets}
    (move : Move talk [] [] middle) (further : Moves middle records written after) :
    Moves talk records written after :=
  .head move further

theorem snoc {talk middle after : Conversation} {records : List Tlv} {written : Octets}
    (earlier : Moves talk records written middle) (move : Move middle [] [] after) :
    Moves talk records written after := by
  have chain := earlier.trans (.single move)
  rwa [List.append_nil, List.append_nil] at chain

end Moves

/-! ## Closing and the handshake -/

/-- Closing for good notes no more than that the link is released. -/
theorem adds_shut {kind : Event → Bool} (released : ∀ link, kind (.released link) = true)
    (talk : Conversation) : talk.timeline.Adds kind talk.shut.timeline := by
  unfold shut Timeline.release
  split
  next => exact .note (released _)
  next => exact .of_log rfl

theorem quiet_shut (talk : Conversation) : talk.timeline.Quiet talk.shut.timeline :=
  adds_shut (fun _ => rfl) talk

theorem close_moves (limit : Nat) (talk : Conversation) : Moves talk [] [] (close limit talk).2 := by
  have idle : ∀ {link due deadline ending timeline},
      (talk.timeline.note (.shutDown link)).wait due deadline limit = (ending, timeline) →
        Move talk [] [] { talk with timeline := timeline } := by
    intro link due deadline ending timeline waited
    have told : talk.timeline.Quiet (talk.timeline.note (.shutDown link)) := .note rfl
    exact .idle (told.trans (.of_wait waited))
  rcases ended : close limit talk with ⟨result, after⟩
  cases closes ended with
  | unlinked => exact .single .shut
  | dropped held waited => exact .cons (idle waited) (.single (.part held))
  | done _ waited => exact .cons (idle waited) (.single .shut)

theorem handshake_moves (name : String) (limit : Nat) (talk : Conversation) :
    Moves talk [] [] (handshake name limit talk).2 := by
  unfold handshake
  split
  next => exact .refl talk
  next expected =>
    have handshaking := phase_of_expect expected
    split
    next credentials link _ held =>
      have quiet := credentials.quiet_negotiate name link
        (talk.timeline.now + talk.session.limits.handshakeTimeout) limit talk.timeline
      have surrendered : ∀ timeline, talk.timeline.Quiet timeline → Moves talk [] []
          ⟨{ talk.session with handshake := none, link := none }, timeline⟩ :=
        fun _ quiet => .cons (.surrender handshaking) (.single (.idle quiet))
      simp only
      split
      next link timeline ended =>
        rw [ended] at quiet
        exact (surrendered timeline quiet).snoc (.secure link handshaking)
      next timeline ended =>
        rw [ended] at quiet
        exact (surrendered timeline quiet).snoc .shut
      next timeline ended =>
        rw [ended] at quiet
        exact (surrendered timeline quiet).snoc .shut
      next timeline ended =>
        rw [ended] at quiet
        exact surrendered timeline quiet
    next => exact .single .shut

/-! ## Writing -/

/-- Passing on what the link holds takes and writes nothing. -/
theorem flush_moves {talk after : Conversation} {link : Link} {limit : Nat}
    {result : Option (Except SessionError Unit)} (passed : flush link limit talk = (result, after))
    (established : talk.session.phase = .established) (held : talk.session.link = some link) :
    Moves talk [] [] after := by
  have waited : ∀ {ending far now},
      link.far.flush limit talk.timeline.now = (ending, far, now) →
        Moves talk [] [] (talk.behindFlush link far now) :=
    fun told => .cons (.flush established held told) (.single (.idle (.of_log rfl)))
  cases flushes passed with
  | stalled told => exact (waited told).snoc (.idle (.of_log rfl))
  | failed told => exact (waited told).snoc .shut
  | @done far _ told =>
      -- Told apart from the link that was held, this one has fewer flushes to come.
      let left : Link := { link with far := far }
      exact (waited told).snoc (.flushed left established rfl)

/-- Writing a record takes none. -/
theorem send_moves (record : Tlv) (limit : Nat) (talk : Conversation) :
    ∃ written, Moves talk [] written (send record limit talk).2 := by
  rcases ended : send record limit talk with ⟨result, after⟩
  -- The pieces are written in any case, whatever their writing comes to.
  have wrote : ∀ {link wire pieces ending acceptances now},
      Writes talk record limit link wire pieces ending acceptances now →
        Moves talk [] pieces.flatten (talk.behindWrites link pieces acceptances now) :=
    fun writes => (Moves.single (.write writes.established writes.held writes.taken)).snoc
      (.idle (.of_log rfl))
  cases sends ended with
  | refused => exact ⟨_, .refl talk⟩
  | unwritable => exact ⟨_, .refl talk⟩
  | unlinked => exact ⟨_, .single .shut⟩
  | stalled writes => exact ⟨_, (wrote writes).snoc (.idle (.of_log rfl))⟩
  | failed writes => exact ⟨_, (wrote writes).snoc .shut⟩
  | passing writes passed =>
      exact ⟨_, (wrote writes).trans (flush_moves passed writes.established rfl)⟩

/-- A record that a framing writes is written like any other. -/
theorem Framing.encode_eq_of_ok {framing : Framing} {record : Tlv} {octets : Octets}
    (encoded : framing.encode record = .ok octets) : record.encode = .ok octets := by
  unfold Framing.encode at encoded
  split at encoded
  · exact encoded
  · cases encoded

/-- A record was written in pieces on a link, and the link has passed them on. Nothing else about
the session has changed. -/
structure Wrote (talk : Conversation) (record : Tlv) (link : Link) (pieces : List Octets)
    (after : Conversation) : Prop where
  held : talk.session.link = some link
  stillHeld : ∃ far, after.session.link = some ⟨link.id, far⟩ ∧ far.arrivals = link.far.arrivals
  encoded : record.encode = .ok pieces.flatten
  phase : after.session.phase = .established
  received : after.session.received = talk.session.received
  limits : after.session.limits = talk.session.limits
  log : after.timeline.log = talk.timeline.log ++ transmission link.id pieces

/-- **Sending a record that succeeds has written it**, all of it and nothing else. -/
theorem send_ok {record : Tlv} {limit : Nat} {talk after : Conversation}
    (sent : send record limit talk = (some (.ok ()), after)) :
    ∃ link pieces, Wrote talk record link pieces after := by
  cases sends sent with
  | @passing link wire pieces _ _ _ _ writes passed =>
      have encoded := Framing.encode_eq_of_ok writes.framed
      rw [← writes.takes.whole rfl] at encoded
      cases flushes passed with
      | done told =>
          have same := Script.eq_of_flush told
          refine ⟨link, pieces, writes.held, ⟨_, rfl, by rw [same]⟩, encoded, writes.established,
            rfl, rfl, ?_⟩
          simp only [behindFlush, behindWrites, transmission, Timeline.note, Timeline.noteWrites,
            Timeline.advance, List.append_assoc, List.cons_append, List.nil_append]

theorem now_shut (talk : Conversation) : talk.shut.timeline.now = talk.timeline.now := by
  unfold shut Timeline.release
  split <;> rfl

/-- Passing on lasts no further than up to its limit. -/
theorem now_flush {link : Link} {limit : Nat} {talk after : Conversation}
    {result : Option (Except SessionError Unit)}
    (passed : flush link limit talk = (result, after)) :
    talk.timeline.now ≤ after.timeline.now ∧
      after.timeline.now ≤ max talk.timeline.now limit := by
  cases flushes passed with
  | done told =>
      obtain ⟨notBefore, inTime⟩ := Script.moment_of_flush told
      simp only [Timeline.note, now_behindFlush]
      omega
  | failed told =>
      obtain ⟨notBefore, inTime⟩ := Script.moment_of_flush told
      simp only [now_shut, now_behindFlush]
      omega
  | stalled told =>
      obtain ⟨notBefore, inTime⟩ := Script.moment_of_flush told
      simp only [Timeline.advance, now_behindFlush]
      omega

/-- So does sending. -/
theorem now_send {record : Tlv} {limit : Nat} {talk after : Conversation}
    {result : Option (Except SessionError Unit)}
    (ended : send record limit talk = (result, after)) :
    talk.timeline.now ≤ after.timeline.now ∧
      after.timeline.now ≤ max talk.timeline.now limit := by
  have still : talk.timeline.now ≤ talk.timeline.now ∧
      talk.timeline.now ≤ max talk.timeline.now limit :=
    ⟨Nat.le_refl _, Nat.le_max_left ..⟩
  cases sends ended with
  | refused => exact still
  | unwritable => exact still
  | unlinked => rwa [now_shut]
  | stalled writes =>
      obtain ⟨-, -, -, notBefore, inTime⟩ := writes.takes
      simp only [Timeline.advance, now_behindWrites]
      omega
  | failed writes =>
      obtain ⟨-, -, -, notBefore, inTime⟩ := writes.takes
      simp only [now_shut, now_behindWrites]
      omega
  | passing writes passed =>
      obtain ⟨-, -, -, notBefore, inTime⟩ := writes.takes
      obtain ⟨later, further⟩ := now_flush passed
      rw [now_behindWrites] at later further
      omega

/-- Passing on notes that it is begun and done, and what is released, and nothing else. -/
theorem adds_flush {kind : Event → Bool} (flushing : ∀ link, kind (.flushing link) = true)
    (flushed : ∀ link, kind (.flushed link) = true)
    (released : ∀ link, kind (.released link) = true) {link : Link} {limit : Nat}
    {talk after : Conversation} {result : Option (Except SessionError Unit)}
    (passed : flush link limit talk = (result, after)) :
    talk.timeline.Adds kind after.timeline := by
  have told : ∀ {ending far now}, link.far.flush limit talk.timeline.now = (ending, far, now) →
      talk.timeline.Adds kind (talk.behindFlush link far now).timeline := by
    intro ending far now _
    have noted : talk.timeline.Adds kind (talk.timeline.note (.flushing link.id)) :=
      .note (flushing link.id)
    exact noted.trans (.of_log rfl)
  cases flushes passed with
  | done ended => exact (told ended).trans (.note (flushed link.id))
  | failed ended => exact (told ended).trans (adds_shut released _)
  | stalled ended => exact (told ended).trans (.of_log rfl)

/-- Sending notes what is written besides. -/
theorem adds_send {kind : Event → Bool} (wrote : ∀ link octets, kind (.wrote link octets) = true)
    (flushing : ∀ link, kind (.flushing link) = true)
    (flushed : ∀ link, kind (.flushed link) = true)
    (released : ∀ link, kind (.released link) = true)
    (record : Tlv) (limit : Nat) (talk : Conversation) :
    talk.timeline.Adds kind (send record limit talk).2.timeline := by
  have noted : ∀ {link wire pieces ending acceptances now},
      Writes talk record limit link wire pieces ending acceptances now →
        talk.timeline.Adds kind (talk.behindWrites link pieces acceptances now).timeline :=
    fun {link _ _ _ _ _} _ => .noteWrites (wrote link.id)
  rcases ended : send record limit talk with ⟨result, after⟩
  cases sends ended with
  | refused => exact .of_log rfl
  | unwritable => exact .of_log rfl
  | unlinked => exact adds_shut released talk
  | stalled writes => exact (noted writes).trans (.of_log rfl)
  | failed writes => exact (noted writes).trans (adds_shut released _)
  | passing writes passed =>
      exact (noted writes).trans (adds_flush flushing flushed released passed)

/-! ## Reading -/

/-- A read takes and writes nothing, and while it brings octets the session stays established. -/
theorem read_moves {size limit : Nat} {deadline : Option Nat} {talk after : Conversation}
    {result : Option (Except SessionError Reading)}
    (established : talk.session.phase = .established)
    (nothing : Tlv.split? talk.session.received = none)
    (ended : read size deadline limit talk = (result, after)) :
    Moves talk [] [] after ∧ (result = some (.ok .more) → after.session.phase = .established) := by
  have passed : ∀ {due ending timeline},
      talk.timeline.wait due deadline limit = (ending, timeline) →
        Move talk [] [] { talk with timeline := timeline } :=
    fun waited => .idle (.of_wait waited)
  cases fetches ended with
  | unlinked => exact ⟨.refl talk, fun _ => established⟩
  | dropped _ waited => exact ⟨.single (passed waited), nofun⟩
  | expired _ waited => exact ⟨.single (passed waited), nofun⟩
  | finished _ waited => exact ⟨.cons (passed waited) (.single .shut), nofun⟩
  | failed _ waited => exact ⟨.cons (passed waited) (.single .shut), nofun⟩
  | more held waited given =>
      exact ⟨.cons (passed waited) (.single (.deliver established held nothing given)),
        fun _ => established⟩

/-- Taking every complete record is taking them one by one. -/
theorem moves_of_takes {records : List Tlv} {talk : Conversation} {buffer rest : Octets}
    (takes : Tlv.Takes records buffer rest) (holds : talk.session.received = buffer) :
    Moves talk records [] { talk with session := { talk.session with received := rest } } := by
  induction takes generalizing talk with
  | nil buffer =>
      subst holds
      exact .refl talk
  | cons taken _ ih =>
      subst holds
      exact .head (.take taken) (ih rfl)

/-- Draining takes the records that it returns; when it returns none at all, the
session is as before. -/
theorem drain_moves {talk after : Conversation} {result : Except SessionError (List Tlv)}
    (drained : drain talk = (result, after)) :
    ∃ taken, Moves talk taken [] after ∧ ∀ records, result = .ok records →
      taken = records ∧ Tlv.split? after.session.received = none ∧
        (records = [] → after = talk) := by
  -- The record that was refused is taken as well, but then the session is shut.
  obtain ⟨refused, takes, clean⟩ := talk.session.framing.takes_drain talk.session.received
  have chain := moves_of_takes takes rfl
  cases drains drained with
  | all whole =>
      obtain ⟨rfl, left⟩ := clean whole
      rw [List.append_nil] at chain takes
      refine ⟨_, chain, fun records same => ?_⟩
      cases same
      refine ⟨rfl, Framing.next_eq_incomplete.mp left, fun empty => ?_⟩
      rw [empty] at takes
      rw [takes.eq_of_nil]
  | refused => exact ⟨_, chain.snoc .shut, nofun⟩

/-! ## What an answer accounts for -/

/-- A conversation has moved on to where an answer was given, the link has accepted
these octets, and the answer returns exactly the records taken on the way, unless it
is an error. -/
def Accounts (talk : Conversation) (written : Octets) (answer : Answer) (after : Conversation) :
    Prop :=
  ∃ taken, Moves talk taken written after ∧ (answer.isError = false → taken = answer.records)

namespace Accounts

theorem of_moves {talk after : Conversation} {written : Octets} {answer : Answer}
    (moves : Moves talk [] written after) (none : answer.records = []) :
    Accounts talk written answer after :=
  ⟨[], moves, fun _ => none.symm⟩

theorem of_error {talk after : Conversation} {records : List Tlv} {written : Octets}
    {error : SessionError} (moves : Moves talk records written after) :
    Accounts talk written (.failed error) after :=
  ⟨records, moves, nofun⟩

theorem cons {talk middle after : Conversation} {piece written : Octets} {answer : Answer}
    (earlier : Moves talk [] piece middle) (later : Accounts middle written answer after) :
    Accounts talk (piece ++ written) answer after := by
  obtain ⟨taken, moves, exact⟩ := later
  exact ⟨taken, earlier.trans moves, exact⟩

theorem snoc {talk middle after : Conversation} {written : Octets} {answer : Answer}
    (earlier : Accounts talk written answer middle) (move : Move middle [] [] after) :
    Accounts talk written answer after := by
  obtain ⟨taken, moves, exact⟩ := earlier
  exact ⟨taken, moves.snoc move, exact⟩

end Accounts

/-- Waiting for an answer takes the record that it returns, and writes nothing. -/
theorem awaitAnswer_accounts (deadline : Option Nat) (limit : Nat) {talk : Conversation}
    (established : talk.session.phase = .established) :
    Accounts talk [] (.ofResult .answer (awaitAnswer deadline limit talk).1)
      (awaitAnswer deadline limit talk).2 := by
  -- Only a read that brings octets is followed by another one, and it keeps the phase.
  fun_induction awaitAnswer deadline limit talk with
  | case1 talk record rest found =>
      exact ⟨[record], .single (.take (Framing.next_eq_record.mp found).1), fun _ => rfl⟩
  | case2 talk size rest found =>
      obtain ⟨big, taken, -⟩ := Framing.next_eq_tooLarge.mp found
      exact .of_error ((Moves.single (.take taken)).snoc .shut)
  | case3 talk nothing after ended =>
      obtain ⟨moves, -⟩ := read_moves established (Framing.next_eq_incomplete.mp nothing) ended
      exact .of_moves moves rfl
  | case4 talk nothing error after ended =>
      obtain ⟨moves, -⟩ := read_moves established (Framing.next_eq_incomplete.mp nothing) ended
      exact .of_error moves
  | case5 talk nothing after ended =>
      obtain ⟨moves, -⟩ := read_moves established (Framing.next_eq_incomplete.mp nothing) ended
      exact .of_moves moves rfl
  | case6 talk nothing after ended ih =>
      obtain ⟨moves, stays⟩ := read_moves established (Framing.next_eq_incomplete.mp nothing) ended
      exact .cons moves (ih (stays rfl))
  | case7 talk nothing after ended closed shut =>
      obtain ⟨moves, -⟩ := read_moves established (Framing.next_eq_incomplete.mp nothing) ended
      have closing := close_moves limit after
      rw [shut] at closing
      exact .of_moves (moves.trans closing) rfl
  | case8 talk nothing after ended closed shut =>
      obtain ⟨moves, -⟩ := read_moves established (Framing.next_eq_incomplete.mp nothing) ended
      have closing := close_moves limit after
      rw [shut] at closing
      exact .of_moves (moves.trans closing) rfl

theorem drain_accounts {talk after : Conversation} {records : List Tlv}
    (drained : drain talk = (.ok records, after)) :
    Accounts talk [] (.batch (some records)) after := by
  obtain ⟨taken, moves, clean⟩ := drain_moves drained
  obtain ⟨same, -⟩ := clean records rfl
  exact ⟨taken, moves, fun _ => same⟩

/-- Waiting for a batch takes the records that it returns, and writes nothing. -/
theorem awaitRecords_accounts {size deadline limit : Nat} {talk : Conversation}
    (established : talk.session.phase = .established)
    (nothing : Tlv.split? talk.session.received = none) :
    Accounts talk [] (.ofResult .batch (awaitRecords size deadline limit talk).1)
      (awaitRecords size deadline limit talk).2 := by
  fun_induction awaitRecords size deadline limit talk with
  | case1 talk after ended =>
      exact .of_moves (read_moves established nothing ended).1 rfl
  | case2 talk error after ended =>
      exact .of_error (read_moves established nothing ended).1
  | case3 talk after ended =>
      exact .of_moves (read_moves established nothing ended).1 rfl
  | case4 talk after ended =>
      exact .of_moves (read_moves established nothing ended).1 rfl
  | case5 talk middle ended error after drained =>
      obtain ⟨moves, -⟩ := read_moves established nothing ended
      obtain ⟨taken, further, -⟩ := drain_moves drained
      exact .of_error (moves.trans further)
  | case6 talk middle ended record records after drained =>
      obtain ⟨moves, -⟩ := read_moves established nothing ended
      exact .cons moves (drain_accounts drained)
  | case7 talk middle ended after drained ih =>
      -- What drained to nothing is as it was, so the next read finds nothing complete.
      obtain ⟨moves, stays⟩ := read_moves established nothing ended
      obtain ⟨taken, -, clean⟩ := drain_moves drained
      obtain ⟨-, left, same⟩ := clean [] rfl
      rw [same rfl] at left
      exact .cons moves (ih (stays rfl) left)

/-! ## Calls and histories -/

/-- How a marked act ends: the mark goes when the act has a result, and stays when the
act was dropped. -/
def finished {α : Type} : Option α × Conversation → Option α × Conversation
  | (some value, after) => (some value, mark false after)
  | (none, after) => (none, after)

/-- An act that is finished with a result had it before. -/
theorem exists_of_finished {α : Type} {ended : Option α × Conversation} {value : α}
    {after : Conversation} (finish : finished ended = (some value, after)) :
    ∃ middle, ended = (some value, middle) ∧ after = mark false middle := by
  obtain ⟨_ | result, middle⟩ := ended
  case none => cases finish
  case some =>
    cases finish
    exact ⟨middle, rfl, rfl⟩

theorem marked_apply {α : Type} (act : Act Conversation α) (limit : Nat) (talk : Conversation) :
    marked act limit talk = finished (act limit (mark true talk)) := by
  simp only [marked, Act.bind_apply, Act.change]
  rcases act limit (mark true talk) with ⟨_ | value, after⟩ <;> rfl

/-- A marked act accounts for what the act itself accounts for. -/
theorem marked_accounts {α : Type} {act : Act Conversation (Except SessionError α)} {limit : Nat}
    {talk : Conversation} {written : Octets} {success : α → Answer}
    (accounts : Accounts (mark true talk) written
      (.ofResult success (act limit (mark true talk)).1) (act limit (mark true talk)).2) :
    Accounts talk written (.ofResult success (marked act limit talk).1)
      (marked act limit talk).2 := by
  have begun := Accounts.cons (.single (.mark true)) accounts
  rw [marked_apply]
  cases ended : act limit (mark true talk) with
  | mk result after =>
    rw [ended] at begun
    cases result with
    | none => exact begun
    | some value => exact begun.snoc (.mark false)

/-- **A request takes the answer that it returns, and nothing else.** -/
theorem request_accounts (record : Tlv) (limit : Nat) (talk : Conversation) :
    ∃ written, Accounts talk written (.ofResult .answer (request record limit talk).1)
      (request record limit talk).2 := by
  unfold request
  obtain ⟨written, sending⟩ := send_moves record limit (mark true talk)
  refine ⟨written, marked_accounts ?_⟩
  rw [Act.bind_apply]
  cases sent : send record limit (mark true talk) with
  | mk result middle =>
    rw [sent] at sending
    cases result with
    | none => exact .of_moves sending rfl
    | some result =>
        cases result with
        | error error => exact .of_error sending
        | ok =>
            obtain ⟨_, _, wrote⟩ := send_ok sent
            rw [← List.append_nil written]
            exact .cons sending (awaitAnswer_accounts _ limit wrote.phase)

/-- **A batch is what was taken, and nothing else.** -/
theorem receive_accounts (size timeout limit : Nat) (talk : Conversation) :
    Accounts talk [] (.ofResult .batch (receive size timeout limit talk).1)
      (receive size timeout limit talk).2 := by
  unfold receive
  refine marked_accounts ?_
  split
  next => exact .of_error (.refl _)
  next expected =>
    have established := phase_of_expect expected
    split
    next error after drained =>
      obtain ⟨taken, moves, -⟩ := drain_moves drained
      exact .of_error moves
    next record records after drained => exact drain_accounts drained
    next after drained =>
      obtain ⟨taken, -, clean⟩ := drain_moves drained
      obtain ⟨-, left, same⟩ := clean [] rfl
      rw [same rfl] at left
      exact awaitRecords_accounts established left

theorem exists_moves_send (record : Tlv) (limit : Nat) (talk : Conversation) :
    ∃ taken written, Moves talk taken written (send record limit talk).2 := by
  obtain ⟨written, moves⟩ := send_moves record limit talk
  exact ⟨_, written, moves⟩

theorem exists_moves_request (record : Tlv) (limit : Nat) (talk : Conversation) :
    ∃ taken written, Moves talk taken written (request record limit talk).2 := by
  obtain ⟨written, taken, moves, -⟩ := request_accounts record limit talk
  exact ⟨taken, written, moves⟩

theorem exists_moves_receive (size timeout limit : Nat) (talk : Conversation) :
    ∃ taken written, Moves talk taken written (receive size timeout limit talk).2 := by
  obtain ⟨taken, moves, -⟩ := receive_accounts size timeout limit talk
  exact ⟨taken, _, moves⟩

/-- **Every call returns the records that it took**, unless it returns an error. -/
theorem perform_accounts (limit : Nat) (talk : Conversation) (call : Call) :
    ∃ written, Accounts talk written (call.perform limit talk).1 (call.perform limit talk).2 := by
  cases call with
  | pass span => exact ⟨_, .of_moves (.single (.idle (.of_log rfl))) rfl⟩
  | load credentials =>
      simp only [Call.perform, Session.load]
      cases expected : talk.session.expect .uninitialized with
      | error error => exact ⟨_, .of_error (.refl talk)⟩
      | ok => exact ⟨_, .of_moves (.single (.load credentials (phase_of_expect expected))) rfl⟩
  | handshake name =>
      refine ⟨_, .of_moves (handshake_moves name limit talk) ?_⟩
      simp only [Call.perform]
      rcases (handshake name limit talk).1 with _ | _ | _ <;> rfl
  | send record =>
      obtain ⟨written, moves⟩ := send_moves record limit talk
      refine ⟨written, .of_moves moves ?_⟩
      simp only [Call.perform]
      rcases (send record limit talk).1 with _ | _ | _ <;> rfl
  | request record => exact request_accounts record limit talk
  | receive size timeout => exact ⟨_, receive_accounts size timeout limit talk⟩
  | close =>
      refine ⟨_, .of_moves (close_moves limit talk) ?_⟩
      simp only [Call.perform]
      rcases (close limit talk).1 with _ | _ <;> rfl

/-- **A history takes records off the buffer**, and they are the ones that its calls
returned, as long as none of them returned an error. -/
theorem run_moves (calls : List (Call × Nat)) (talk : Conversation) :
    ∃ taken written, Moves talk taken written (run calls talk).2 ∧
      ((∀ answer ∈ (run calls talk).1, answer.isError = false) →
        taken = returned (run calls talk).1) := by
  induction calls generalizing talk with
  | nil => exact ⟨_, _, .refl talk, fun _ => rfl⟩
  | cons next calls ih =>
      obtain ⟨call, limit⟩ := next
      obtain ⟨_, first, now, exactNow⟩ := perform_accounts limit talk call
      obtain ⟨rest, _, later, exactLater⟩ := ih (call.perform limit talk).2
      refine ⟨first ++ rest, _, now.trans later, fun clean => ?_⟩
      rw [exactNow (clean _ List.mem_cons_self),
        exactLater fun answer member => clean answer (List.mem_cons_of_mem _ member)]
      rfl

end Conversation

end Commissioner
