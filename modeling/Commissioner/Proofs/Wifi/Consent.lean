import Commissioner.Proofs.Console.Prompt
import Commissioner.Proofs.Session.Willing
import Commissioner.Proofs.Wifi.Scan

/-!
# Networks are stored with the user's consent

A scan writes one request, and goes on to store a network only when the border router
offers some (`Work.Offers`) and the user agrees, picks one of them and enters a password
(`Work.Picks`). Then the second request of the scan carries the name and the security of
the network that was picked and the password as it was entered, and nothing else is
written. When the user calls the scan off at any of its three prompts
(`Work.CallsOff`), the session is left as the offer found it.

Each part of the dialogue is followed along its steps, and at every way out it is settled
whether the user has consented (`Work.Stored`). The whole of it is
`Work.wifiScan_consented`.
-/

set_option autoImplicit false

namespace Commissioner

open Terminal (Answers yesOrNo? index?)

/-! ## The networks of a batch -/

/-- Whether an answer is the mark that ends a batch of networks. -/
def Reply.endsBatch : Reply → Bool
  | .ok | .failed => true
  | .notSupported | .data => false

/-- The networks that records tell in front of the mark that ends them. -/
def Network.told (records : List Tlv) : List Network :=
  (records.takeWhile fun record => !(Reply.ofRecord record).endsBatch).filterMap
    fun record => (Network.read record.text).toOption

/-- The networks that are gathered are those that the records tell. -/
theorem NetworkBatch.networks_gather (records : List Tlv) :
    (gather records).networks = Network.told records := by
  unfold Network.told
  induction records with
  | nil => rfl
  | cons record records ih =>
      rw [gather]
      cases mark : Reply.ofRecord record with
      | ok => simp [mark, Reply.endsBatch]
      | failed => simp [mark, Reply.endsBatch]
      | notSupported =>
          cases told : Network.read record.text <;>
            simp [mark, Reply.endsBatch, told, Except.toOption, ih]
      | data =>
          cases told : Network.read record.text <;>
            simp [mark, Reply.endsBatch, told, Except.toOption, ih]

namespace Work

/-! ## Consent -/

/-- A password that holds something. -/
def password? (line : String) : Option String :=
  if line.isEmpty then none else some line

/-- The user agrees, picks a network by its number, and enters a password for it. -/
def Picks (networks : List Network) (inputs : List Input) (network : Network)
    (password : String) : Prop :=
  ∃ agreed picked left number,
    Answers yesOrNo? inputs (.value true) agreed ∧
    Answers (index? networks.length) agreed (.value number) picked ∧
    1 ≤ number ∧ number ≤ networks.length ∧ networks[number - 1]? = some network ∧
    Answers password? picked (.value password) left ∧ password ≠ ""

/-- The user declines, or calls it off at one of the three prompts. -/
def CallsOff (networks : List Network) (inputs : List Input) : Prop :=
  (∃ left, Answers yesOrNo? inputs (.value false) left) ∨
  (∃ left, Answers yesOrNo? inputs .cancelled left) ∨
  ∃ agreed, Answers yesOrNo? inputs (.value true) agreed ∧
    ((∃ left, Answers (index? networks.length) agreed .cancelled left) ∨
      ∃ number picked left, Answers (index? networks.length) agreed (.value number) picked ∧
        Answers password? picked .cancelled left)

/-- The border router answers the scan and goes on to tell networks; `talk` is what has
become of the session then. -/
def Offers (client : Client Action) (session : Session) (limit : Nat) (networks : List Network)
    (talk : Conversation) : Prop :=
  ∃ answer middle batch,
    Conversation.request scanRequest limit
      ⟨session, client.timeline.note (.printed "Wi-Fi scanning...")⟩ =
        (some (.ok (some answer)), middle) ∧
    Reply.ofRecord answer ≠ .notSupported ∧ Reply.ofRecord answer ≠ .failed ∧
    Conversation.receive client.settings.batchSize client.settings.batchTimeout limit middle =
      (some (.ok (some batch)), talk) ∧
    networks = Network.told batch ∧ networks ≠ []

theorem password?_ne {line password : String} (decides : password? line = some password) :
    password ≠ "" := by
  unfold password? at decides
  split at decides
  next => cases decides
  next full =>
    cases decides
    rintro rfl
    exact full rfl

/-! ## Steps of the dialogue -/

/-- Since `start` the link has accepted these octets, and no others. -/
def Emits (start : Client Action) (octets : Octets) (client : Client Action) : Prop :=
  ∃ events, client.timeline.log = start.timeline.log ++ events ∧ writes events = octets

/-- What the user is shown writes nothing. -/
theorem Emits.nothing {start client : Client Action} (shown : Client.Shown start client) :
    Emits start [] client := by
  obtain ⟨events, log, seen⟩ := shown.shows
  exact ⟨events, log,
    writes_of_quiet fun event member => Event.quiet_of_shown (seen event member)⟩

theorem Emits.trans {start middle client : Client Action} {octets more : Octets}
    (first : Emits start octets middle) (second : Emits middle more client) :
    Emits start (octets ++ more) client := by
  obtain ⟨events, log, wrote⟩ := first
  obtain ⟨later, behind, wroteMore⟩ := second
  refine ⟨events ++ later, ?_, ?_⟩
  · rw [behind, log, List.append_assoc]
  · rw [writes_append, wrote, wroteMore]

/-- What was shown before writes nothing. -/
theorem Emits.of_shown {start middle client : Client Action} {octets : Octets}
    (sent : Emits middle octets client) (shown : Client.Shown start middle) :
    Emits start octets client := by
  have whole := (Emits.nothing shown).trans sent
  rwa [List.nil_append] at whole

/-- Nothing was written since. -/
theorem Emits.idle {start middle client : Client Action} {octets : Octets}
    (sent : Emits start octets middle) (idle : Emits middle [] client) :
    Emits start octets client := by
  have whole := sent.trans idle
  rwa [List.append_nil] at whole

/-- A line that is printed writes nothing. -/
theorem Emits.noted {start client : Client Action} {octets : Octets}
    (sent : Emits start octets client) (line : String) :
    Emits start octets (client.noted (.printed line)) :=
  sent.idle (.nothing ((Client.Shown.refl client).noted line))

/-- What a command leads to from every single client it leads to. -/
theorem Leads.of_each {α : Type} {before failed dropped : Client Action → Prop} {work : Work α}
    {after : α → Client Action → Prop}
    (each : ∀ start, before start →
      Leads (fun client => client = start) work after failed dropped) :
    Leads before work after failed dropped :=
  fun limit client holds => each client holds limit client rfl

theorem leads_print (start : Client Action) (line : String)
    {failed dropped : Client Action → Prop} :
    Leads (fun client => client = start) (print line)
      (fun _ client => client = start.noted (.printed line)) failed dropped :=
  .print fun _ same => by rw [same]

/-- Asking shows the user something, and comes to what the user decides. -/
theorem leads_ask {α : Type} (start : Client Action) (prompt retry : String)
    (decisive : String → Option α) :
    Leads (fun client => client = start) (ask (Terminal.ask prompt retry decisive))
      (fun outcome client =>
        Client.Shown start client ∧ Answers decisive start.inputs outcome client.inputs)
      (fun client => Client.Shown start client ∧
        ∀ outcome left, ¬ Answers decisive start.inputs outcome left)
      (Client.Shown start) := by
  refine Leads.attemptWith (Act.Leads.atTerminal fun client same => ?_)
  subst same
  rintro limit terminal rfl
  have shown := Terminal.Silent.ask prompt retry decisive limit ⟨client.inputs, client.timeline⟩
  rcases asked : Terminal.ask prompt retry decisive limit ⟨client.inputs, client.timeline⟩ with
    ⟨_ | result, terminal⟩
  all_goals rw [asked] at shown
  case none => exact ⟨rfl, rfl, shown⟩
  case some =>
    have decided := Terminal.answers_of_askAmong asked
    cases result with
    | ok outcome => exact ⟨⟨rfl, rfl, shown⟩, decided⟩
    | error fault => exact ⟨⟨rfl, rfl, shown⟩, decided⟩

/-- The current session is usable, takes records of any length, and has a willing link. -/
structure Ready (client : Client Action) (session : Session) : Prop where
  current : client.session = some session
  usable : session.Usable
  willing : session.Willing
  roomy : session.limits.maxValue = maxValueLength

theorem Ready.of_shown {start client : Client Action} {session : Session}
    (ready : Ready start session) (shown : Client.Shown start client) : Ready client session :=
  ⟨shown.session.trans ready.current, ready.usable, ready.willing, ready.roomy⟩

theorem Ready.encode_eq {client : Client Action} {session : Session}
    (ready : Ready client session) (record : Tlv) :
    session.framing.encode record = record.encode := by
  unfold Framing.encode
  rw [Session.framing, Framing.ofLimit, ready.roomy, Nat.min_self]
  by_cases fits : record.value.length ≤ maxValueLength
  · rw [if_pos fits]
  · rw [if_neg fits, Tlv.encode, if_neg fits]
    rfl

theorem Ready.run_request {client : Client Action} {session : Session}
    (ready : Ready client session) (record : Tlv) (limit : Nat) :
    (request record).run limit client =
      ((Conversation.request record limit ⟨session, client.timeline⟩).1.map
          fun result => result.mapError .session,
        client.holding (Conversation.request record limit ⟨session, client.timeline⟩).2) :=
  run_onCurrent_eq limit ready.current ready.usable.1

/-- A request that is not dropped writes its record, if it can be written, and no more. -/
theorem Ready.emits_request {client : Client Action} {session : Session} {talk : Conversation}
    {record : Tlv} {limit : Nat} {result : Except SessionError (Option Tlv)}
    (ready : Ready client session)
    (ended : Conversation.request record limit ⟨session, client.timeline⟩ =
      (some result, talk)) :
    Emits client (spelled record.encode) (client.holding talk) := by
  have came : (Conversation.request record limit ⟨session, client.timeline⟩).1 ≠ none := by
    rw [ended]
    exact Option.some_ne_none _
  obtain ⟨events, log, wrote⟩ := Conversation.writes_request ready.usable ready.willing came
  rw [ended] at log
  rw [ready.encode_eq] at wrote
  exact ⟨events, log, wrote⟩

theorem Ready.leads_request {start : Client Action} {session : Session}
    (ready : Ready start session) (record : Tlv) :
    Leads (fun client => client = start) (request record)
      (fun _ => Emits start (spelled record.encode)) (Emits start (spelled record.encode))
      fun _ => True := by
  rintro limit client rfl
  rw [ready.run_request record limit]
  rcases ended : Conversation.request record limit ⟨session, client.timeline⟩ with ⟨_ | _ | _, talk⟩
  case none => trivial
  case some.error => exact ready.emits_request ended
  case some.ok => exact ready.emits_request ended

/-! ## Ways out of the dialogue -/

/-- How a part of the dialogue ends: either the user consents to a request, which is then
written if it can be, or nothing is. When the user calls it off the session stays as it is. -/
structure Stored (start : Client Action) (consents : String → Prop) (callsOff : Prop)
    (client : Client Action) : Prop where
  sent : (∃ text, consents text ∧ Emits start (spelled (application text).encode) client) ∨
    (∀ text, ¬ consents text) ∧ Emits start [] client
  kept : callsOff → client.session = start.session ∧ ∀ text, ¬ consents text

namespace Stored

variable {start client : Client Action} {consents : String → Prop} {callsOff : Prop}

/-- Nothing more happens when the user has not consented. -/
theorem refused (none : ∀ text, ¬ consents text) (shown : Client.Shown start client) :
    Stored start consents callsOff client :=
  ⟨.inr ⟨none, .nothing shown⟩, fun _ => ⟨shown.session, none⟩⟩

theorem noted (stored : Stored start consents callsOff client) (line : String)
    (goesOn : ¬ callsOff) : Stored start consents callsOff (client.noted (.printed line)) := by
  refine ⟨?_, fun off => absurd off goesOn⟩
  rcases stored.sent with ⟨text, consented, sent⟩ | ⟨none, sent⟩
  · exact .inl ⟨text, consented, sent.noted line⟩
  · exact .inr ⟨none, sent.noted line⟩

/-- What was shown before a part of the dialogue does not matter. -/
theorem of_shown {middle : Client Action} {later : String → Prop} {laterOff : Prop}
    (stored : Stored middle later laterOff client) (shown : Client.Shown start middle)
    (same : ∀ text, consents text ↔ later text) (off : callsOff → laterOff) :
    Stored start consents callsOff client := by
  refine ⟨?_, fun calledOff => ?_⟩
  · rcases stored.sent with ⟨text, consented, sent⟩ | ⟨none, sent⟩
    · exact .inl ⟨text, (same text).mpr consented, sent.of_shown shown⟩
    · exact .inr ⟨fun text consented => none text ((same text).mp consented), sent.of_shown shown⟩
  · obtain ⟨kept, none⟩ := stored.kept (off calledOff)
    exact ⟨kept.trans shown.session, fun text consented => none text ((same text).mp consented)⟩

end Stored

/-- From this client on a part of the dialogue that began at `start` ends as it should, unless
it is dropped. -/
def Settles {α : Type} (start : Client Action) (consents : String → Prop) (callsOff : Prop)
    (asked : Client Action) (work : Work α) : Prop :=
  Leads (fun client => client = asked) work (fun _ => Stored start consents callsOff)
    (Stored start consents callsOff) fun _ => True

namespace Settles

variable {α β : Type} {start asked : Client Action} {consents : String → Prop} {callsOff : Prop}

theorem refused (shown : Client.Shown start asked) (none : ∀ text, ¬ consents text) (value : α) :
    Settles start consents callsOff asked (pure value) :=
  Leads.pure fun _ same => same ▸ .refused none shown

theorem print {line : String} {next : Unit → Work α}
    (later : Settles start consents callsOff (asked.noted (.printed line)) (next ())) :
    Settles start consents callsOff asked (Work.print line >>= next) :=
  Leads.bind (leads_print asked line) fun _ => later

/-- A part of the dialogue goes on behind a prompt with what the user decides. -/
theorem ask {prompt retry : String} {decisive : String → Option α} {next : Prompted α → Work β}
    (shown : Client.Shown start asked)
    (needs : ∀ text, consents text → ∃ outcome left, Answers decisive asked.inputs outcome left)
    (later : ∀ outcome answered, Client.Shown start answered →
      Answers decisive asked.inputs outcome answered.inputs →
        Settles start consents callsOff answered (next outcome)) :
    Settles start consents callsOff asked
      (Work.ask (Terminal.ask prompt retry decisive) >>= next) := by
  refine Leads.bind ((leads_ask asked prompt retry decisive).mono (fun _ same => same)
    (fun _ _ holds => holds) (fun client holds => ?_) fun _ _ => trivial) fun outcome =>
      .of_each fun answered holds => later outcome answered (shown.trans holds.1) holds.2
  obtain ⟨seen, nothing⟩ := holds
  refine .refused (fun text consented => ?_) (shown.trans seen)
  obtain ⟨outcome, left, answers⟩ := needs text consented
  exact nothing outcome left answers

/-- A part of the dialogue is settled by a further part of it. -/
theorem of_shown {later : String → Prop} {laterOff : Prop} {work : Work α}
    (settles : Settles asked later laterOff asked work) (shown : Client.Shown start asked)
    (same : ∀ text, consents text ↔ later text) (off : callsOff → laterOff) :
    Settles start consents callsOff asked work :=
  Leads.mono settles (fun _ same => same) (fun _ _ stored => stored.of_shown shown same off)
    (fun _ stored => stored.of_shown shown same off) fun _ drops => drops

end Settles

/-! ## The parts of the dialogue -/

/-- What the user enters for a network consents to the request that stores it. -/
def Enters (network : Network) (inputs : List Input) (text : String) : Prop :=
  ∃ password left, Answers password? inputs (.value password) left ∧
    text = network.addRequest password

/-- When a network has been picked, the request that stores it is written just when the user
enters a password. -/
theorem settles_storeNetwork {start : Client Action} {session : Session}
    (ready : Ready start session) (network : Network) :
    Settles start (Enters network start.inputs)
      (∃ left, Answers password? start.inputs .cancelled left) start (storeNetwork network) := by
  refine .ask (.refl start) ?_ fun outcome asked shown answers => ?_
  · rintro text ⟨password, left, answers, -⟩
    exact ⟨_, left, answers⟩
  cases outcome with
  | cancelled =>
      refine .refused shown ?_ _
      rintro text ⟨password, left, entered, -⟩
      cases (answers.unique entered).1
  | value password =>
      have goesOn : ¬ ∃ left, Answers password? start.inputs .cancelled left := by
        rintro ⟨left, off⟩
        cases (answers.unique off).1
      have told := shown.noted "Store Wi-Fi network..."
      have entered : Enters network start.inputs (network.addRequest password) :=
        ⟨password, _, answers, rfl⟩
      have stored : ∀ client, Emits (asked.noted (.printed "Store Wi-Fi network..."))
          (spelled (application (network.addRequest password)).encode) client →
          Stored start (Enters network start.inputs)
            (∃ left, Answers password? start.inputs .cancelled left) client :=
        fun client sent => ⟨.inl ⟨_, entered, sent.of_shown told⟩, fun off => absurd off goesOn⟩
      refine .print ?_
      refine Leads.bind (((ready.of_shown told).leads_request _).mono (fun _ same => same)
        (fun _ => stored) stored fun _ drops => drops) fun answered => ?_
      have prints : ∀ line client, Stored start (Enters network start.inputs)
          (∃ left, Answers password? start.inputs .cancelled left) client →
          Stored start (Enters network start.inputs)
            (∃ left, Answers password? start.inputs .cancelled left)
              (client.noted (.printed line)) :=
        fun line client stored => stored.noted line goesOn
      cases answered with
      | none => exact .pure fun _ stored => stored
      | some answer =>
          simp only
          split
          next =>
            exact .bind (.print (prints _)) fun _ => .bind (.print (prints _)) fun _ =>
              .pure fun _ stored => stored
          next => exact .bind (.print (prints _)) fun _ => .pure fun _ stored => stored

/-- What the user enters consents to the request that stores the network picked. -/
def Consents (networks : List Network) (inputs : List Input) (text : String) : Prop :=
  ∃ network password, Picks networks inputs network password ∧ text = network.addRequest password

/-- Behind the two decisions that come first, consent is a matter of the password. -/
theorem consents_iff {networks : List Network} {inputs agreed picked : List Input} {number : Nat}
    {network : Network} (agrees : Answers yesOrNo? inputs (.value true) agreed)
    (picks : Answers (index? networks.length) agreed (.value number) picked)
    (there : networks[number - 1]? = some network) (text : String) :
    Consents networks inputs text ↔ Enters network picked text := by
  constructor
  · rintro ⟨chosen, password, ⟨_, _, left, other, again, once, -, -, same, enters, -⟩, rfl⟩
    obtain ⟨-, rfl⟩ := agrees.unique again
    obtain ⟨⟨⟩, rfl⟩ := picks.unique once
    cases there.symm.trans same
    exact ⟨password, left, enters, rfl⟩
  · rintro ⟨password, left, enters, rfl⟩
    obtain ⟨line, spelled⟩ := picks.exists_text
    obtain ⟨-, low, high⟩ := Terminal.index?_eq_some_iff.mp spelled
    obtain ⟨typed, entered⟩ := enters.exists_text
    exact ⟨network, password,
      ⟨agreed, picked, left, number, agrees, picks, low, high, there, enters,
        password?_ne entered⟩, rfl⟩

/-- **When networks are offered, the request that stores one is written just when the user
consents to it.** -/
theorem settles_offerNetworks {start : Client Action} {session : Session}
    (ready : Ready start session) (networks : List Network) :
    Settles start (Consents networks start.inputs) (CallsOff networks start.inputs) start
      (offerNetworks networks) := by
  refine .print (.print (.print (.ask ((((Client.Shown.refl start).noted _).noted _).noted _) ?_
    fun outcome asked shown agrees => ?_)))
  · rintro text ⟨_, _, ⟨agreed, _, _, _, again, -⟩, -⟩
    exact ⟨_, agreed, again⟩
  -- Without the word of the user there is no consent.
  have needsWord : outcome ≠ .value true → ∀ text, ¬ Consents networks start.inputs text := by
    rintro other text ⟨_, _, ⟨agreed, _, _, _, again, -⟩, -⟩
    exact other (again.unique agrees).1
  split
  next => exact .refused shown (needsWord nofun) _
  next => exact .refused shown (needsWord nofun) _
  next =>
    refine .print (.ask (shown.noted _) ?_ fun outcome answered shown picks => ?_)
    · rintro text ⟨_, _, ⟨agreed, picked, _, number, again, once, -⟩, -⟩
      obtain ⟨-, rfl⟩ := agrees.unique again
      exact ⟨_, picked, once⟩
    cases outcome with
    | cancelled =>
        refine .refused shown ?_ _
        rintro text ⟨_, _, ⟨agreed, picked, _, number, again, once, -⟩, -⟩
        obtain ⟨-, rfl⟩ := agrees.unique again
        cases (picks.unique once).1
    | value number =>
        have there : ∃ network, networks[number - 1]? = some network := by
          obtain ⟨line, spelled⟩ := picks.exists_text
          obtain ⟨-, low, high⟩ := Terminal.index?_eq_some_iff.mp spelled
          have within : number - 1 < networks.length := by omega
          exact ⟨networks[number - 1], List.getElem?_eq_getElem within⟩
        obtain ⟨network, there⟩ := there
        simp only [there]
        refine (settles_storeNetwork (ready.of_shown shown) network).of_shown shown
          (consents_iff agrees picks there) ?_
        rintro (⟨_, off⟩ | ⟨_, off⟩ | ⟨_, again, ⟨_, off⟩ | ⟨_, _, left, once, off⟩⟩)
        · cases (agrees.unique off).1
        · cases (agrees.unique off).1
        · obtain ⟨-, rfl⟩ := agrees.unique again
          cases (picks.unique off).1
        · obtain ⟨-, rfl⟩ := agrees.unique again
          obtain ⟨-, rfl⟩ := picks.unique once
          exact ⟨left, off⟩

/-! ## The scan -/

section Scan

variable {client after : Client Action} {session : Session} {limit : Nat}

theorem Ready.of_moves {talk : Conversation} {taken : List Tlv} {written : Octets}
    (ready : Ready client session)
    (moves : Conversation.Moves ⟨session, client.timeline⟩ taken written talk)
    (usable : talk.session.Usable) : Ready (client.holding talk) talk.session where
  current := rfl
  usable := usable
  willing := moves.willing (.inl ready.usable.1) ready.willing
  roomy := (congrArg Limits.maxValue moves.limits).trans ready.roomy

/-- Behind an answer the session is as ready as before. -/
theorem Ready.answered {record answer : Tlv} {middle : Conversation} (ready : Ready client session)
    (answered : Conversation.request record limit ⟨session, client.timeline⟩ =
      (some (.ok (some answer)), middle)) : Ready (client.holding middle) middle.session := by
  obtain ⟨_, _, moves⟩ := Conversation.exists_moves_request record limit ⟨session, client.timeline⟩
  rw [answered] at moves
  exact ready.of_moves moves (Conversation.request_usable answered)

/-- Behind a batch the session is as ready as before. -/
theorem Ready.received {size timeout : Nat} {batch : List Tlv} {talk : Conversation}
    (ready : Ready client session)
    (received : Conversation.receive size timeout limit ⟨session, client.timeline⟩ =
      (some (.ok (some batch)), talk)) : Ready (client.holding talk) talk.session := by
  obtain ⟨_, _, moves⟩ :=
    Conversation.exists_moves_receive size timeout limit ⟨session, client.timeline⟩
  rw [received] at moves
  exact ready.of_moves moves (Conversation.receive_usable ready.usable received)

/-- Waiting for a batch writes nothing. -/
theorem sent_receive (client : Client Action) (session : Session) (size timeout limit : Nat) :
    Emits client [] (client.holding
      (Conversation.receive size timeout limit ⟨session, client.timeline⟩).2) := by
  obtain ⟨_, moves, -⟩ :=
    Conversation.receive_accounts size timeout limit ⟨session, client.timeline⟩
  obtain ⟨events, ledger⟩ := moves.exists_ledger
  exact ⟨events, ledger.log, ledger.wrote⟩

/-- The text of a request consents to what a batch of records offers. -/
def Consented (client : Client Action) (session : Session) (limit : Nat) (text : String) : Prop :=
  ∃ batch talk, Conversation.receive client.settings.batchSize client.settings.batchTimeout limit
      ⟨session, client.timeline⟩ = (some (.ok (some batch)), talk) ∧
    Consents (Network.told batch) client.inputs text

/-- Nobody picks a network when there are none. -/
theorem not_consents_nil (inputs : List Input) (text : String) : ¬ Consents [] inputs text := by
  rintro ⟨_, _, ⟨_, _, _, _, _, _, _, _, there, _⟩, _⟩
  cases there

/-- Networks of a batch are offered when there are any. -/
theorem settles_batch {start : Client Action} (ready : Ready start session)
    (networks : List Network) :
    Settles start (Consents networks start.inputs) (CallsOff networks start.inputs) start
      (if networks.isEmpty then do
          Work.print "No Wi-Fi networks found."
          return .none
        else offerNetworks networks) := by
  split
  next empty =>
    rw [List.isEmpty_iff.mp empty]
    exact .print (.refused ((Client.Shown.refl start).noted _) (not_consents_nil _) _)
  next => exact settles_offerNetworks ready networks

/-- What is gathered is written just when the user consents to it, and calling it off leaves
the session as the batch did. -/
theorem stored_gatherNetworks {result : Except CommandError Outcome} (ready : Ready client session)
    (ended : gatherNetworks.run limit client = (some result, after)) :
    ((∃ text, Consented client session limit text ∧
        Emits client (spelled (application text).encode) after) ∨
      (∀ text, ¬ Consented client session limit text) ∧ Emits client [] after) ∧
    ∀ batch talk, Conversation.receive client.settings.batchSize client.settings.batchTimeout limit
        ⟨session, client.timeline⟩ = (some (.ok (some batch)), talk) →
      CallsOff (Network.told batch) client.inputs →
        after.session = some talk.session ∧ talk.session.Usable ∧ Emits client [] after := by
  have waited := sent_receive client session client.settings.batchSize
    client.settings.batchTimeout limit
  have read : Work.client.run limit client = (some (.ok client), client) := rfl
  rw [gatherNetworks, run_bind, receiveBatch, run_bind, read] at ended
  simp only at ended
  rw [run_onCurrent_eq limit ready.current ready.usable.1] at ended
  rcases received : Conversation.receive client.settings.batchSize client.settings.batchTimeout
    limit ⟨session, client.timeline⟩ with ⟨_ | _ | _ | batch, talk⟩
  all_goals rw [received] at ended waited
  case none => cases ended
  case some.error | some.ok.none =>
    cases ended
    refine ⟨.inr ⟨?_, waited⟩, ?_⟩
    · rintro text ⟨_, _, same, -⟩
      cases received.symm.trans same
    · rintro _ _ ⟨⟩
  case some.ok.some =>
    have offered := ready.received received
    have settles : Settles (client.holding talk) (Consents (Network.told batch) client.inputs)
        (CallsOff (Network.told batch) client.inputs) (client.holding talk)
        (do
          let batch := NetworkBatch.gather batch
          if batch.failed then Work.print failedLine
          if batch.networks.isEmpty then
            Work.print "No Wi-Fi networks found."
            return .none
          else offerNetworks batch.networks) := by
      simp only [NetworkBatch.networks_gather]
      split
      next =>
        have told := (Client.Shown.refl (client.holding talk)).noted failedLine
        exact .print ((settles_batch (offered.of_shown told) _).of_shown told (fun _ => .rfl)
          fun off => off)
      next => exact settles_batch offered _
    have stored := Act.Leads.of_value settles rfl ended
    have settled : Stored (client.holding talk) (Consents (Network.told batch) client.inputs)
        (CallsOff (Network.told batch) client.inputs) after := by
      cases result with
      | ok => exact stored
      | error => exact stored
    constructor
    · rcases settled.sent with ⟨text, consented, sent⟩ | ⟨none, sent⟩
      · exact .inl ⟨text, ⟨batch, talk, received, consented⟩, waited.trans sent⟩
      · refine .inr ⟨?_, waited.trans sent⟩
        rintro text ⟨other, _, again, consented⟩
        cases received.symm.trans again
        exact none text consented
    · rintro _ _ ⟨⟩ off
      obtain ⟨kept, none⟩ := settled.kept off
      refine ⟨kept, offered.usable, ?_⟩
      rcases settled.sent with ⟨text, consented, -⟩ | ⟨-, sent⟩
      · exact absurd consented (none text)
      · exact waited.trans sent

/-- How a scan ends that has written `asked` for its own request. -/
structure WifiScanEnds (client : Client Action) (session : Session) (limit : Nat)
    (asked : Octets) (after : Client Action) : Prop where
  /-- Either networks are offered, the user picks one, and the request that stores it fits into
  a record and is written too, or that is not so, and nothing more is written. -/
  wrote : (∃ networks talk network password wire, Offers client session limit networks talk ∧
      Picks networks client.inputs network password ∧
      (application (network.addRequest password)).encode = .ok wire ∧
      Emits client (asked ++ wire) after) ∨
    (∀ networks talk network password wire, Offers client session limit networks talk →
      Picks networks client.inputs network password →
      (application (network.addRequest password)).encode ≠ .ok wire) ∧
      Emits client asked after
  /-- When the user declines or calls it off, the session stays as the offer found it. -/
  kept : ∀ networks talk, Offers client session limit networks talk →
    CallsOff networks client.inputs →
      after.session = some talk.session ∧ talk.session.phase = .established ∧
        talk.session.link ≠ none ∧ Emits client asked after

/-- The user picks one network and enters one password. -/
theorem Picks.unique {networks : List Network} {inputs : List Input} {network other : Network}
    {password second : String} (picks : Picks networks inputs network password)
    (again : Picks networks inputs other second) : other = network ∧ second = password := by
  obtain ⟨_, _, _, _, agrees, number, -, -, there, enters, -⟩ := picks
  obtain ⟨_, _, _, _, agreesToo, numberToo, -, -, thereToo, entersToo, -⟩ := again
  obtain ⟨-, rfl⟩ := agrees.unique agreesToo
  obtain ⟨⟨⟩, rfl⟩ := number.unique numberToo
  obtain ⟨⟨⟩, -⟩ := enters.unique entersToo
  cases there.symm.trans thereToo
  exact ⟨rfl, rfl⟩

/-- Nothing more is written when nothing is offered. -/
theorem WifiScanEnds.unoffered {asked : Octets}
    (none : ∀ networks talk, ¬ Offers client session limit networks talk)
    (sent : Emits client asked after) : WifiScanEnds client session limit asked after where
  wrote := .inr ⟨fun _ _ _ _ _ offers => absurd offers (none _ _), sent⟩
  kept _ _ offers := absurd offers (none _ _)

/-- How the scan ends is how the gathering behind its answer does. -/
theorem WifiScanEnds.of_gathered {begun : Client Action} {asked : Octets} {answer : Tlv}
    {middle : Conversation} {result : Except CommandError Outcome}
    (same : begun = client.noted (.printed "Wi-Fi scanning..."))
    (ready : Ready (begun.holding middle) middle.session)
    (answered : Conversation.request scanRequest limit ⟨session, begun.timeline⟩ =
      (some (.ok (some answer)), middle))
    (supported : Reply.ofRecord answer ≠ .notSupported)
    (succeeded : Reply.ofRecord answer ≠ .failed)
    (wrote : Emits client asked (begun.holding middle))
    (ended : gatherNetworks.run limit (begun.holding middle) = (some result, after)) :
    WifiScanEnds client session limit asked after := by
  subst same
  obtain ⟨stored, kept⟩ := stored_gatherNetworks ready ended
  constructor
  case wrote =>
    rcases stored with ⟨_, ⟨batch, talk, received, network, password, picks, rfl⟩, sent⟩ |
      ⟨none, sent⟩
    · have some : Network.told batch ≠ [] := by
        intro empty
        rw [empty] at picks
        exact not_consents_nil _ _ ⟨network, password, picks, rfl⟩
      have offers : Offers client session limit (Network.told batch) talk :=
        ⟨answer, middle, batch, answered, supported, succeeded, received, rfl, some⟩
      cases encoded : (application (network.addRequest password)).encode with
      | ok wire =>
          rw [encoded] at sent
          exact .inl ⟨_, talk, network, password, wire, offers, picks, encoded, wrote.trans sent⟩
      | error error =>
          rw [encoded] at sent
          refine .inr ⟨?_, wrote.idle sent⟩
          rintro _ _ other second wire ⟨_, _, _, asks, -, -, reads, rfl, -⟩ again fits
          cases answered.symm.trans asks
          cases received.symm.trans reads
          obtain ⟨rfl, rfl⟩ := picks.unique again
          cases encoded.symm.trans fits
    · refine .inr ⟨?_, wrote.idle sent⟩
      rintro _ talk network password wire ⟨_, _, batch, asks, -, -, reads, rfl, -⟩ picks -
      cases answered.symm.trans asks
      exact none _ ⟨batch, talk, reads, network, password, picks, rfl⟩
  case kept =>
    rintro _ talk ⟨_, _, batch, asks, -, -, reads, rfl, -⟩ off
    cases answered.symm.trans asks
    obtain ⟨session, usable, sent⟩ := kept batch talk reads off
    exact ⟨session, usable.1, usable.2, wrote.idle sent⟩

/-- **A scan stores a network just when the user consents to it.** On a session whose link
takes every write, a scan that is not dropped writes its own request and then either one that
stores the network picked, with the password as it was entered, or nothing. -/
theorem wifiScan_consented {result : Except CommandError Outcome} (arguments : List String)
    (ready : Ready client session)
    (ended : (perform .wifiScan arguments).run limit client = (some result, after)) :
    ∃ asked, scanRequest.encode = .ok asked ∧ WifiScanEnds client session limit asked after := by
  have small : scanRequest.value.length ≤ maxValueLength := by decide +kernel
  have encoded : scanRequest.encode = .ok (scanRequest.header ++ scanRequest.value) := if_pos small
  refine ⟨scanRequest.header ++ scanRequest.value, encoded, ?_⟩
  let begun := client.noted (.printed "Wi-Fi scanning...")
  have told : Client.Shown client begun := (Client.Shown.refl client).noted _
  have readyThen : Ready begun session := ready.of_shown told
  have connected : client.isConnected = true := by
    simp only [Client.isConnected, ready.current]
    exact decide_eq_true ready.usable.1
  have wrote : ∀ {answer middle},
      Conversation.request scanRequest limit ⟨session, begun.timeline⟩ = (some answer, middle) →
        Emits client (scanRequest.header ++ scanRequest.value) (begun.holding middle) := by
    intro answer middle answered
    have sent := readyThen.emits_request answered
    rw [encoded] at sent
    exact sent.of_shown told
  have asked : (request (application "wifi_scan")).run limit begun = _ :=
    readyThen.run_request scanRequest limit
  rw [perform, wifiScan, run_bind, run_needSession limit connected] at ended
  simp only at ended
  rw [run_print_bind, run_bind, asked] at ended
  rcases answered : Conversation.request scanRequest limit ⟨session, begun.timeline⟩ with
    ⟨_ | _ | _ | answer, middle⟩
  all_goals rw [answered] at ended
  case none => cases ended
  case some.error | some.ok.none =>
    cases ended
    refine .unoffered ?_ (wrote answered)
    rintro _ _ ⟨_, _, _, same, -⟩
    cases answered.symm.trans same
  case some.ok.some =>
    simp only [Option.map_some, Except.mapError] at ended
    have turnedDown : ¬ (Reply.ofRecord answer ≠ .notSupported ∧ Reply.ofRecord answer ≠ .failed) →
        ∀ networks talk, ¬ Offers client session limit networks talk := by
      rintro mark _ _ ⟨_, _, _, again, supported, succeeded, -⟩
      cases answered.symm.trans again
      exact mark ⟨supported, succeeded⟩
    split at ended
    next mark =>
      rw [run_print_bind] at ended
      cases ended
      exact .unoffered (turnedDown fun goesOn => goesOn.1 mark) ((wrote answered).noted _)
    next mark =>
      rw [run_print_bind] at ended
      cases ended
      exact .unoffered (turnedDown fun goesOn => goesOn.2 mark) ((wrote answered).noted _)
    all_goals
      next mark =>
        exact .of_gathered rfl (readyThen.answered answered) answered
          (by rw [mark]; rintro ⟨⟩) (by rw [mark]; rintro ⟨⟩) (wrote answered) ended

end Scan

/-- A client whose user hesitates, and then agrees, picks the first network and enters a
password for it. -/
def consentingClient : Client Action :=
  { dividedClient with
    inputs := ["maybe", "Yes", "0", "1", "", "secret"].map fun text => ⟨some 1, .line text⟩ }

theorem consenting_ready : Ready consentingClient dividedSession where
  current := rfl
  usable := ⟨rfl, Option.some_ne_none _⟩
  willing := by
    rintro link ⟨⟩
    exact nofun
  roomy := rfl

/-- The network that was picked is stored with the password. -/
theorem wifiScan_consented_secret :
    ∃ result after asked wire,
      (perform .wifiScan []).run 100 consentingClient = (some result, after) ∧
      scanRequest.encode = .ok asked ∧
      WifiScanEnds consentingClient dividedSession 100 asked after ∧
      (application "wifi_add a secret w").encode = .ok wire ∧
      writes after.timeline.log = asked ++ wire := by
  have came : ((perform .wifiScan []).run 100 consentingClient).1.isSome = true := by
    decide +kernel
  obtain ⟨result, given⟩ := Option.isSome_iff_exists.mp came
  have ended : (perform .wifiScan []).run 100 consentingClient =
      (some result, ((perform .wifiScan []).run 100 consentingClient).2) := Prod.ext given rfl
  obtain ⟨asked, encoded, ends⟩ := wifiScan_consented [] consenting_ready ended
  have spelled : scanRequest.encode = .ok (scanRequest.header ++ scanRequest.value) := by
    decide +kernel
  cases encoded.symm.trans spelled
  refine ⟨result, _, _, _, ended, encoded, ends, rfl, ?_⟩
  decide +kernel

end Work

end Commissioner
