import Commissioner.Proofs.Session.Willing

/-!
# Sessions that lose their link

An established session holds its link, with one exception. Closing takes the link out of the
session before it waits for the shutdown, and the phase changes only behind that wait. A call
that is dropped in between leaves the session established without a link. It is a call to
close, or a request whose answer did not come in time (`Conversation.Abandons`).

No other call takes the link of an established session and leaves it established, and no call
brings a link back. So an established session holds its link exactly when no call was
abandoned before (`Conversation.link_run`). Waiting for a batch tells the difference, since
without a link the stream counts as ended, and the session is not closed for it.
-/

set_option autoImplicit false

namespace Commissioner

/-- An event by which no link is shut down. -/
def Event.unshut : Event → Bool
  | .shutDown _ => false
  | _ => true

/-- A wait expires no earlier than at its deadline. -/
theorem Timeline.le_now_of_expired {timeline after : Timeline} {due deadline : Option Nat}
    {limit : Nat} (waited : timeline.wait due deadline limit = (.expired, after)) :
    ∀ moment ∈ deadline, moment ≤ after.now := by
  rintro moment rfl
  simp only [wait] at waited
  split at waited
  next => cases waited
  next =>
    split at waited
    next =>
      cases waited
      exact Nat.le_max_right ..
    next => cases waited

namespace Conversation

/-! ## What an act leaves of a usable session -/

/-- The session is usable as before, and no link was shut down. -/
structure Kept (talk after : Conversation) : Prop where
  usable : after.session.Usable
  adds : talk.timeline.Adds Event.unshut after.timeline

/-- The session is established still, but its link was shut down and is gone. -/
structure Loses (talk after : Conversation) : Prop where
  phase : after.session.phase = .established
  unlinked : after.session.link = none
  shut : ∃ link events, after.timeline.log = talk.timeline.log ++ events ∧
    .shutDown link ∈ events

/-- How an act that may close a usable session ends. Only where it is dropped the session may
have lost its link. -/
inductive Ends {α : Type} (talk : Conversation) : Option α → Conversation → Prop where
  | kept {result : Option α} {after : Conversation} (kept : Kept talk after) :
      Ends talk result after
  | closed {value : α} {after : Conversation} (closed : after.session.phase = .closed) :
      Ends talk (some value) after
  | lost {after : Conversation} (loses : Loses talk after) : Ends talk none after

theorem Ends.or {α : Type} {talk after : Conversation} {result : Option α}
    (ends : Ends talk result after) :
    Kept talk after ∨ after.session.phase = .closed ∨ result = none ∧ Loses talk after := by
  cases ends with
  | kept kept => exact .inl kept
  | closed closed => exact .inr (.inl closed)
  | lost loses => exact .inr (.inr ⟨rfl, loses⟩)

namespace Kept

theorem refl {talk : Conversation} (usable : talk.session.Usable) : Kept talk talk :=
  ⟨usable, .of_log rfl⟩

theorem trans {talk middle after : Conversation} (earlier : Kept talk middle)
    (later : Kept middle after) : Kept talk after :=
  ⟨later.usable, earlier.adds.trans later.adds⟩

theorem loses {talk middle after : Conversation} (kept : Kept talk middle)
    (loses : Loses middle after) : Loses talk after := by
  obtain ⟨link, events, log, shut⟩ := loses.shut
  obtain ⟨before, logBefore, -⟩ := kept.adds
  refine ⟨loses.phase, loses.unlinked, link, before ++ events, ?_, ?_⟩
  · rw [log, logBefore, List.append_assoc]
  · exact List.mem_append_right before shut

theorem ends {α : Type} {talk middle after : Conversation} {result : Option α}
    (kept : Kept talk middle) (ends : Ends middle result after) : Ends talk result after := by
  cases ends with
  | kept later => exact .kept (kept.trans later)
  | closed closed => exact .closed closed
  | lost loses => exact .lost (kept.loses loses)

/-- No link was shut down among the events of an act that keeps the session. -/
theorem not_mem {talk after : Conversation} (kept : Kept talk after) {link : Nat}
    {events : List Event} (log : after.timeline.log = talk.timeline.log ++ events) :
    .shutDown link ∉ events := by
  intro member
  obtain ⟨noted, same, unshut⟩ := kept.adds
  cases List.append_cancel_left (log.symm.trans same)
  cases unshut _ member

end Kept

/-! ## Writing and reading -/

theorem send_keeps {record : Tlv} {limit : Nat} {talk after : Conversation}
    {result : Option (Except SessionError Unit)} (usable : talk.session.Usable)
    (ended : send record limit talk = (result, after)) :
    Kept talk after ∨ after.session.phase = .closed ∧ result ≠ none := by
  have adds : talk.timeline.Adds Event.unshut after.timeline := by
    have noted : talk.timeline.Adds Event.unshut (send record limit talk).2.timeline :=
      adds_send (fun _ _ => rfl) (fun _ => rfl) (fun _ => rfl) (fun _ => rfl) record limit talk
    rwa [ended] at noted
  cases send_ends ended with
  | refused other => exact absurd usable.1 other
  | tooLong => exact .inl (.refl usable)
  | unlinked none => exact absurd none usable.2
  | broken _ _ _ _ closed => exact .inr ⟨closed, nofun⟩
  | done sent =>
      obtain ⟨far, held, -⟩ := sent.stillHeld
      exact .inl ⟨⟨sent.phase, by rw [held]; exact Option.some_ne_none _⟩, adds⟩
  | dropped dropped =>
      obtain ⟨far, held⟩ := dropped.stillHeld
      exact .inl ⟨⟨dropped.established, by rw [held]; exact Option.some_ne_none _⟩, adds⟩

/-- How a read on a usable session ends. It keeps the session, unless the stream ends or
fails. -/
inductive ReadEnds (deadline : Option Nat) (talk : Conversation) :
    Option (Except SessionError Reading) → Conversation → Prop where
  | dropped {after : Conversation} (kept : Kept talk after) : ReadEnds deadline talk none after
  | expired {after : Conversation} (kept : Kept talk after)
      (passed : ∀ moment ∈ deadline, moment ≤ after.timeline.now) :
      ReadEnds deadline talk (some (.ok .expired)) after
  | more {after : Conversation} (kept : Kept talk after) :
      ReadEnds deadline talk (some (.ok .more)) after
  | finished {after : Conversation} (closed : after.session.phase = .closed) :
      ReadEnds deadline talk (some (.ok .finished)) after
  | failed {error : SessionError} {after : Conversation}
      (closed : after.session.phase = .closed) :
      ReadEnds deadline talk (some (.error error)) after

theorem read_ends {size limit : Nat} {deadline : Option Nat} {talk after : Conversation}
    {result : Option (Except SessionError Reading)} (usable : talk.session.Usable)
    (ended : read size deadline limit talk = (result, after)) :
    ReadEnds deadline talk result after := by
  cases fetches ended with
  | unlinked none => exact absurd none usable.2
  | dropped _ waited => exact .dropped ⟨usable, .of_wait waited⟩
  | expired _ waited => exact .expired ⟨usable, .of_wait waited⟩ (Timeline.le_now_of_expired waited)
  | finished => exact .finished rfl
  | failed => exact .failed rfl
  | more _ waited =>
      exact .more ⟨⟨usable.1, Option.some_ne_none _⟩,
        (Timeline.Adds.of_wait waited).trans (.note rfl)⟩

theorem drain_keeps {talk after : Conversation} {result : Except SessionError (List Tlv)}
    (usable : talk.session.Usable) (drained : drain talk = (result, after)) :
    Kept talk after ∨ after.session.phase = .closed ∧ ∃ error, result = .error error := by
  cases drains drained with
  | all => exact .inl ⟨usable, .of_log rfl⟩
  | refused => exact .inr ⟨rfl, _, rfl⟩

/-! ## Closing and waiting for an answer -/

theorem ends_close {talk after : Conversation} {limit : Nat} {result : Option Unit}
    (usable : talk.session.Usable) (ended : close limit talk = (result, after)) :
    Ends talk result after := by
  cases result with
  | some => exact .closed (phase_of_close ended)
  | none =>
      obtain ⟨established, linked⟩ := usable
      obtain ⟨link, held⟩ := Option.ne_none_iff_exists'.mp linked
      have log := log_close limit talk
      have unlinked := link_close limit talk
      rw [ended] at log unlinked
      refine .lost ⟨?_, unlinked, link.id, _, log, ?_⟩
      · -- A call to close that is dropped has not come to the change of the phase.
        cases closes ended with
        | dropped => exact established
      · rw [held]
        exact List.mem_cons_self

theorem ends_awaitAnswer {deadline : Option Nat} {limit : Nat} {talk after : Conversation}
    {result : Option (Except SessionError (Option Tlv))} (usable : talk.session.Usable)
    (ended : awaitAnswer deadline limit talk = (result, after)) : Ends talk result after := by
  fun_induction awaitAnswer deadline limit talk with
  | case1 =>
      cases ended
      exact .kept ⟨usable, .of_log rfl⟩
  | case2 =>
      cases ended
      exact .closed rfl
  | case3 talk _ middle brought =>
      cases ended
      cases read_ends usable brought with
      | dropped kept => exact .kept kept
  | case4 talk _ error middle brought =>
      cases ended
      cases read_ends usable brought with
      | failed closed => exact .closed closed
  | case5 talk _ middle brought =>
      cases ended
      cases read_ends usable brought with
      | finished closed => exact .closed closed
  | case6 talk _ middle brought ih =>
      cases read_ends usable brought with
      | more kept => exact kept.ends (ih kept.usable ended)
  | case7 talk _ middle brought closed shut =>
      cases ended
      exact .closed (phase_of_close shut)
  | case8 talk _ middle brought closed shut =>
      cases ended
      cases read_ends usable brought with
      | expired kept =>
          -- The deadline has passed, and the call to close is dropped in its turn.
          cases ends_close kept.usable shut with
          | kept later => exact .kept (kept.trans later)
          | lost loses => exact .lost (kept.loses loses)

theorem ends_request {record : Tlv} {limit : Nat} {talk after : Conversation}
    {result : Option (Except SessionError (Option Tlv))} (usable : talk.session.Usable)
    (ended : request record limit talk = (result, after)) : Ends talk result after := by
  have begun : (mark true talk).session.Usable := usable
  -- The mark of an unfinished request touches neither phase nor link nor log.
  have finish : ∀ {ending}, Ends (mark true talk) ending.1 ending.2 →
      finished ending = (result, after) → Ends talk result after := by
    rintro ⟨_ | value, last⟩ ends same
    · cases same
      cases ends with
      | kept kept => exact .kept ⟨kept.usable, kept.adds⟩
      | lost loses => exact .lost ⟨loses.phase, loses.unlinked, loses.shut⟩
    · cases same
      cases ends with
      | kept kept => exact .kept ⟨kept.usable, kept.adds⟩
      | closed closed => exact .closed closed
  rw [request, marked_apply] at ended
  refine finish ?_ ended
  rw [Act.bind_apply]
  rcases sent : send record limit (mark true talk) with ⟨_ | _ | _, middle⟩
  · rcases send_keeps begun sent with kept | ⟨-, came⟩
    · exact .kept kept
    · exact absurd rfl came
  · rcases send_keeps begun sent with kept | ⟨closed, -⟩
    · exact .kept kept
    · exact .closed closed
  · rcases send_keeps begun sent with kept | ⟨closed, -⟩
    · exact kept.ends (ends_awaitAnswer kept.usable rfl)
    · obtain ⟨_, _, wrote⟩ := send_ok sent
      cases wrote.phase.symm.trans closed

/-! ## Waiting for a batch -/

/-- How the wait for a batch ends on a usable session. Where it brings nothing before the
deadline, it was dropped or the session is closed. -/
structure CollectEnds (deadline : Nat) (talk : Conversation)
    (result : Option (Except SessionError (Option (List Tlv)))) (after : Conversation) : Prop where
  keeps : Kept talk after ∨ after.session.phase = .closed
  nothing : result = some (.ok none) → after.timeline.now < deadline →
    after.session.phase = .closed

theorem collectEnds_awaitRecords {size deadline limit : Nat} {talk after : Conversation}
    {result : Option (Except SessionError (Option (List Tlv)))} (usable : talk.session.Usable)
    (ended : awaitRecords size deadline limit talk = (result, after)) :
    CollectEnds deadline talk result after := by
  fun_induction awaitRecords size deadline limit talk with
  | case1 talk middle brought =>
      cases ended
      cases read_ends usable brought with
      | dropped kept => exact ⟨.inl kept, fun other => by cases other⟩
  | case2 talk error middle brought =>
      cases ended
      cases read_ends usable brought with
      | failed closed => exact ⟨.inr closed, fun other => by cases other⟩
  | case3 talk middle brought =>
      cases ended
      cases read_ends usable brought with
      | finished closed => exact ⟨.inr closed, fun _ _ => closed⟩
  | case4 talk middle brought =>
      cases ended
      cases read_ends usable brought with
      | expired kept passed =>
          exact ⟨.inl kept, fun _ early => absurd (passed deadline rfl) (Nat.not_le.mpr early)⟩
  | case5 talk middle brought error drained failed =>
      cases ended
      cases read_ends usable brought with
      | more kept =>
          rcases drain_keeps kept.usable failed with later | ⟨closed, -⟩
          · exact ⟨.inl (kept.trans later), fun other => by cases other⟩
          · exact ⟨.inr closed, fun other => by cases other⟩
  | case6 talk middle brought record records drained taken =>
      cases ended
      cases read_ends usable brought with
      | more kept =>
          rcases drain_keeps kept.usable taken with later | ⟨closed, -⟩
          · exact ⟨.inl (kept.trans later), fun other => by cases other⟩
          · exact ⟨.inr closed, fun other => by cases other⟩
  | case7 talk middle brought drained taken ih =>
      cases read_ends usable brought with
      | more kept =>
          obtain ⟨keeps, nothing⟩ := ih kept.usable ended
          exact ⟨keeps.imp_left kept.trans, nothing⟩

theorem collectEnds_receive {size timeout limit : Nat} {talk after : Conversation}
    {result : Option (Except SessionError (Option (List Tlv)))} (usable : talk.session.Usable)
    (ended : receive size timeout limit talk = (result, after)) :
    CollectEnds (talk.timeline.now + timeout) talk result after := by
  have begun : (mark true talk).session.Usable := usable
  rw [receive_eq_collect size timeout limit usable.1] at ended
  have collected : CollectEnds (talk.timeline.now + timeout) (mark true talk)
      (collect size (talk.timeline.now + timeout) limit (mark true talk)).1
      (collect size (talk.timeline.now + timeout) limit (mark true talk)).2 := by
    unfold collect
    split
    next drained =>
      exact ⟨(drain_keeps begun drained).imp_right And.left, fun other => by cases other⟩
    next drained =>
      exact ⟨(drain_keeps begun drained).imp_right And.left, fun other => by cases other⟩
    next => exact collectEnds_awaitRecords begun rfl
  rcases same : collect size (talk.timeline.now + timeout) limit (mark true talk) with
    ⟨_ | value, last⟩
  all_goals
    rw [same] at ended collected
    cases ended
    obtain ⟨keeps, nothing⟩ := collected
    refine ⟨keeps.imp_left fun kept => ⟨kept.usable, kept.adds⟩, nothing⟩

/-- A batch is waited for on established sessions only. -/
theorem established_of_receive {size timeout limit : Nat} {talk after : Conversation}
    {batch : Option (List Tlv)}
    (received : receive size timeout limit talk = (some (.ok batch), after)) :
    talk.session.phase = .established := by
  by_contra other
  have belongs : (Call.receive size timeout).phase? = some .established := rfl
  obtain ⟨_, refused⟩ := perform_of_phase_ne belongs other limit
  simp only [Call.perform, received] at refused
  cases refused

/-- Without a link the stream has ended, and waiting for a batch changes nothing. -/
theorem receive_of_unlinked {size timeout limit : Nat} {talk after : Conversation}
    (established : talk.session.phase = .established) (unlinked : talk.session.link = none)
    (received : receive size timeout limit talk = (some (.ok none), after)) :
    after = mark false talk := by
  rw [receive_eq_collect size timeout limit established] at received
  obtain ⟨last, collected, rfl⟩ := exists_of_finished received
  have ended : read size (some (talk.timeline.now + timeout)) limit (mark true talk) =
      (some (.ok .finished), mark true talk) := by
    have gone : (mark true talk).session.link = none := unlinked
    rw [read, gone]
  unfold collect at collected
  split at collected
  next => cases collected
  next => cases collected
  next =>
    rw [awaitRecords, ended] at collected
    cases collected
    rfl

/-! ## Calls -/

/-- Whether a call may shut the link of an established session down and wait for it. -/
def Call.shuts : Call → Bool
  | .close | .request _ => true
  | _ => false

/-- A call on an established session is dropped after it began to shut the link down. -/
structure Abandons (talk : Conversation) (call : Call) (limit : Nat) : Prop where
  established : talk.session.phase = .established
  shuts : call.shuts = true
  dropped : (call.perform limit talk).1 = .dropped
  begun : ∃ link events,
    (call.perform limit talk).2.timeline.log = talk.timeline.log ++ events ∧
      .shutDown link ∈ events

/-- **A call on a usable session keeps it or closes it**, unless it is dropped while it shuts
the link down. -/
theorem perform_keeps {talk : Conversation} (usable : talk.session.Usable) (call : Call)
    (limit : Nat) :
    Kept talk (call.perform limit talk).2 ∨
      (call.perform limit talk).2.session.phase = .closed ∨
      Abandons talk call limit ∧ Loses talk (call.perform limit talk).2 := by
  have refused : ∀ expected, call.phase? = some expected → expected ≠ .established →
      Kept talk (call.perform limit talk).2 := by
    intro expected belongs other
    obtain ⟨unfinished, same⟩ :=
      perform_of_phase_ne belongs (fun phase => other (phase.symm.trans usable.1)) limit
    rw [same]
    exact ⟨usable, .of_log rfl⟩
  cases call with
  | pass span => exact .inl ⟨usable, .of_log rfl⟩
  | load credentials => exact .inl (refused _ rfl nofun)
  | handshake name => exact .inl (refused _ rfl nofun)
  | send record =>
      rcases send_keeps usable rfl with kept | ⟨closed, -⟩
      · exact .inl kept
      · exact .inr (.inl closed)
  | receive size timeout =>
      exact (collectEnds_receive usable rfl).keeps.imp_right .inl
  | request record =>
      rcases (ends_request usable (Prod.eta (request record limit talk)).symm).or with
        kept | closed | ⟨none, loses⟩
      · exact .inl kept
      · exact .inr (.inl closed)
      · refine .inr (.inr ⟨⟨usable.1, rfl, ?_, loses.shut⟩, loses⟩)
        simp only [Call.perform, none]
        rfl
  | close =>
      rcases (ends_close usable (Prod.eta (close limit talk)).symm).or with
        kept | closed | ⟨none, loses⟩
      · exact .inl kept
      · exact .inr (.inl closed)
      · refine .inr (.inr ⟨⟨usable.1, rfl, ?_, loses.shut⟩, loses⟩)
        simp only [Call.perform, none]
        rfl

/-! ## Histories -/

/-- A call of a history is abandoned. -/
def Abandoned (calls : List (Call × Nat)) (talk : Conversation) : Prop :=
  ∃ earlier call limit later, calls = earlier ++ (call, limit) :: later ∧
    Abandons (run earlier talk).2 call limit

theorem Abandoned.head {talk : Conversation} {call : Call} {limit : Nat}
    (abandons : Abandons talk call limit) (later : List (Call × Nat)) :
    Abandoned ((call, limit) :: later) talk :=
  ⟨[], call, limit, later, rfl, abandons⟩

theorem Abandoned.tail {talk : Conversation} {call : Call} {limit : Nat}
    {calls : List (Call × Nat)} (abandoned : Abandoned calls (call.perform limit talk).2) :
    Abandoned ((call, limit) :: calls) talk := by
  obtain ⟨earlier, other, moment, later, rfl, abandons⟩ := abandoned
  exact ⟨(call, limit) :: earlier, other, moment, later, rfl, abandons⟩

/-- No call brings the link of an opened session back. -/
theorem unlinked_run (calls : List (Call × Nat)) {talk : Conversation}
    (opened : talk.session.Opened) (unlinked : talk.session.link = none) :
    (run calls talk).2.session.link = none := by
  obtain ⟨_, _, moves, -⟩ := run_moves calls talk
  obtain ⟨events, -, carries⟩ := moves.exists_carries opened
  refine Option.eq_none_iff_forall_not_mem.mpr fun link held => ?_
  obtain ⟨earlier, same, -⟩ := carries.exists_id_eq held
  cases unlinked.symm.trans same

/-- A session that is established behind an abandoned call has lost its link. -/
theorem unlinked_of_abandoned {calls : List (Call × Nat)} {talk : Conversation}
    (abandoned : Abandoned calls talk)
    (established : (run calls talk).2.session.phase = .established) :
    (run calls talk).2.session.link = none := by
  obtain ⟨earlier, call, limit, later, rfl, abandons⟩ := abandoned
  rw [run_append, run_cons] at established ⊢
  have opened : (run earlier talk).2.session.Opened := .inl abandons.established
  obtain ⟨_, _, moves, -⟩ := perform_accounts limit (run earlier talk).2 call
  refine unlinked_run later (moves.opened opened) ?_
  by_cases linked : (run earlier talk).2.session.link = none
  case pos =>
    have kept := unlinked_run [(call, limit)] opened linked
    exact kept
  case neg =>
    rcases perform_keeps ⟨abandons.established, linked⟩ call limit with kept | closed | ⟨-, loses⟩
    · obtain ⟨link, events, log, begun⟩ := abandons.begun
      exact absurd begun (kept.not_mem log)
    · obtain ⟨_, _, onward, -⟩ := run_moves later (call.perform limit (run earlier talk).2).2
      have forward := onward.place_le
      rw [closed] at forward
      cases (Phase.eq_closed_of_le forward).symm.trans established
    · exact loses.unlinked

/-- **A link is lost only by a call that is abandoned.** -/
theorem abandoned_of_unlinked {calls : List (Call × Nat)} {talk : Conversation}
    (held : talk.session.phase = .established → talk.session.link ≠ none)
    (established : (run calls talk).2.session.phase = .established)
    (unlinked : (run calls talk).2.session.link = none) : Abandoned calls talk := by
  induction calls generalizing talk with
  | nil => exact absurd unlinked (held established)
  | cons next calls ih =>
      obtain ⟨call, limit⟩ := next
      rw [run_cons] at established unlinked
      by_cases phase : talk.session.phase = .established
      case neg =>
        -- A session that becomes established is handed its link.
        refine (ih (fun entered => ?_) established unlinked).tail
        obtain ⟨_, _, _, _, _, -, -, -, -, same⟩ :=
          exists_secures_of_established (Prod.eta _).symm entered phase
        rw [same]
        exact Option.some_ne_none _
      case pos =>
        rcases perform_keeps ⟨phase, held phase⟩ call limit with kept | closed | ⟨abandons, -⟩
        · exact (ih (fun _ => kept.usable.2) established unlinked).tail
        · refine (ih (fun still => ?_) established unlinked).tail
          cases closed.symm.trans still
        · exact .head abandons calls

/-- **An established session holds its link unless a call was abandoned.** Whatever calls are
made on a new session, and wherever they are dropped: if the session is established, it has
lost its link exactly when an earlier call was dropped while it shut the link down. And when a
batch does not come although there was time left, the session is closed exactly when no call
was abandoned. -/
theorem link_run (link : Link) (limits : Limits) (timeline : Timeline)
    (calls : List (Call × Nat)) :
    let start : Conversation := ⟨Session.onLink link limits, timeline⟩
    let ended := (run calls start).2
    (ended.session.phase = .established → (ended.session.link ≠ none ↔ ¬ Abandoned calls start)) ∧
    ∀ size timeout limit after,
      receive size timeout limit ended = (some (.ok none), after) →
      after.timeline.now < ended.timeline.now + timeout →
      (after.session.phase = .closed ↔ ¬ Abandoned calls start) := by
  intro start ended
  have holds : ended.session.phase = .established →
      (ended.session.link ≠ none ↔ ¬ Abandoned calls start) := by
    intro established
    refine not_congr ⟨abandoned_of_unlinked nofun established, fun abandoned => ?_⟩
    exact unlinked_of_abandoned abandoned established
  refine ⟨holds, fun size timeout limit after received early => ?_⟩
  have established : ended.session.phase = .established := established_of_receive received
  rw [← holds established]
  by_cases linked : ended.session.link = none
  case pos =>
    have same := receive_of_unlinked established linked received
    rw [same, linked]
    refine iff_of_false (fun closed => ?_) (fun held => held rfl)
    cases established.symm.trans closed
  case neg =>
    have ends := collectEnds_receive ⟨established, linked⟩ received
    exact iff_of_true (ends.nothing rfl early) linked

/-- A new session over a link whose shutdown never ends. -/
def lingering : Conversation :=
  ⟨Session.onLink ⟨0, ⟨[], [], [], .stall⟩⟩ .default, .start⟩

/-- The handshake, and a call to close that is dropped a tenth of a second later. -/
def abandoning : List (Call × Nat) :=
  [(.load (.settled (some 0) .accept), 1000), (.handshake "DeviceType", 1000), (.close, 100)]

/-- The call to close is abandoned, and the batch behind it does not close the session. -/
theorem link_run_abandoned :
    (run abandoning lingering).2.session.phase = .established ∧
      Abandoned abandoning lingering ∧
      ∃ after, receive 4096 1000 2000 (run abandoning lingering).2 = (some (.ok none), after) ∧
        after.timeline.now < (run abandoning lingering).2.timeline.now + 1000 ∧
        after.session.phase ≠ .closed := by
  have established : (run abandoning lingering).2.session.phase = .established := by
    decide +kernel
  have unlinked : (run abandoning lingering).2.session.link = none := by decide +kernel
  have received : receive 4096 1000 2000 (run abandoning lingering).2 = (some (.ok none), _) :=
    Prod.ext (by decide +kernel) rfl
  have early : (receive 4096 1000 2000 (run abandoning lingering).2).2.timeline.now <
      (run abandoning lingering).2.timeline.now + 1000 := by
    decide +kernel
  obtain ⟨held, ending⟩ := link_run ⟨0, ⟨[], [], [], .stall⟩⟩ .default .start abandoning
  have abandoned : Abandoned abandoning lingering :=
    not_not.mp fun none => (held established).mpr none unlinked
  refine ⟨established, abandoned, _, received, early, fun closed => ?_⟩
  exact (ending 4096 1000 2000 _ received early).mp closed abandoned

/-- Behind the dropped call the session is established without a link, and a batch ends at once
with nothing, a second before its timeout, with the session established still. -/
theorem established_without_link :
    ∃ after,
      (run abandoning lingering).2.session.phase = .established ∧
      (run abandoning lingering).2.session.link = none ∧
      receive 4096 1000 2000 (run abandoning lingering).2 = (some (.ok none), after) ∧
      (run abandoning lingering).2.timeline.now = 100 ∧ after.timeline.now = 100 ∧
      after.session.phase = .established := by
  refine ⟨(receive 4096 1000 2000 (run abandoning lingering).2).2, ?_, ?_, Prod.ext ?_ rfl,
    ?_, ?_, ?_⟩
  all_goals decide +kernel

end Conversation

end Commissioner
