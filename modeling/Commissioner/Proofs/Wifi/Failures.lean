import Commissioner.Proofs.Wifi.Batches

/-!
# Failures that a border router reports

A border router says in its answers that a command failed, that it succeeded or that it is not
supported, and an answer may say several of these. The client takes what is not supported before
a failure. So the failure of a reboot or of storing a network is shown just when the answer says
that it failed and does not say that it is not supported, and a batch of networks ends at the
first record that says that something failed or succeeded, unless it says that it is not supported:
then the batch goes on and the record itself may tell a network (`Work.failures_shown`).
-/

set_option autoImplicit false

namespace Commissioner

/-! ## What a record says -/

namespace Tlv

/-- The text of the record contains a mark. -/
def Says (record : Tlv) (mark : String) : Prop :=
  mark.toList <:+: record.text.toList

instance (record : Tlv) (mark : String) : Decidable (record.Says mark) :=
  inferInstanceAs (Decidable (_ <:+: _))

/-- The record says that something failed, and not that it is not supported. -/
def Fails (record : Tlv) : Prop :=
  record.Says "RESP_FAIL" ∧ ¬ record.Says "RESP_NOT_SUPP"

instance (record : Tlv) : Decidable record.Fails :=
  inferInstanceAs (Decidable (_ ∧ _))

/-- The record says that something failed or succeeded. -/
def Concludes (record : Tlv) : Prop :=
  record.Says "RESP_FAIL" ∨ record.Says "RESP_OK"

instance (record : Tlv) : Decidable record.Concludes :=
  inferInstanceAs (Decidable (_ ∨ _))

end Tlv

theorem Reply.ofRecord_eq_mark (record : Tlv) :
    ofRecord record =
      if record.Says "RESP_NOT_SUPP" then .notSupported
      else if record.Says "RESP_FAIL" then .failed
      else if record.Says "RESP_OK" then .ok
      else .data := by
  simp only [ofRecord, ofText, ofChars, occurs_iff]
  rfl

theorem Reply.ofRecord_eq_failed_iff (record : Tlv) :
    ofRecord record = .failed ↔ record.Fails := by
  rw [ofRecord_eq_mark, Tlv.Fails]
  by_cases unsupported : record.Says "RESP_NOT_SUPP"
  · simp [unsupported]
  · by_cases failed : record.Says "RESP_FAIL"
    · simp [unsupported, failed]
    · by_cases ok : record.Says "RESP_OK" <;> simp [unsupported, failed, ok]

theorem Reply.endsBatch_iff (record : Tlv) :
    endsBatch (ofRecord record) = true ↔ record.Concludes ∧ ¬ record.Says "RESP_NOT_SUPP" := by
  rw [ofRecord_eq_mark, Tlv.Concludes]
  by_cases unsupported : record.Says "RESP_NOT_SUPP"
  · simp [unsupported, endsBatch]
  · by_cases failed : record.Says "RESP_FAIL"
    · simp [unsupported, failed, endsBatch]
    · by_cases ok : record.Says "RESP_OK" <;> simp [unsupported, failed, ok, endsBatch]

/-! ## Batches of networks -/

/-- The networks that records tell, whatever else they say. -/
def Network.parsed (records : List Tlv) : List Network :=
  records.filterMap fun record => (Network.read record.text).toOption

namespace NetworkBatch

/-- A record that does not end the batch tells a network or nothing. -/
theorem gather_cons_of_goesOn {record : Tlv}
    (goesOn : record.Says "RESP_NOT_SUPP" ∨ ¬ record.Concludes) (behind : List Tlv) :
    gather (record :: behind) =
      ⟨Network.parsed [record] ++ (gather behind).networks, (gather behind).failed⟩ := by
  have unmarked : Reply.endsBatch (Reply.ofRecord record) = false := by
    rw [← Bool.not_eq_true, Reply.endsBatch_iff]
    rintro ⟨concludes, supported⟩
    exact goesOn.elim supported (absurd concludes)
  rw [gather_of_goesOn unmarked, Network.parsed]
  cases told : (Network.read record.text).toOption with
  | none => simp [told]
  | some network => simp [told]

theorem gather_append {front : List Tlv} (unmarked : ∀ record ∈ front, ¬ record.Concludes)
    (behind : List Tlv) :
    gather (front ++ behind) =
      ⟨Network.parsed front ++ (gather behind).networks, (gather behind).failed⟩ := by
  induction front with
  | nil => rfl
  | cons record front ih =>
      obtain ⟨first, others⟩ := List.forall_mem_cons.mp unmarked
      rw [List.cons_append, gather_cons_of_goesOn (.inr first), ih others, ← List.append_assoc]
      rw [Network.parsed, Network.parsed, ← List.filterMap_append]
      rfl

/-- A record that ends the batch ends it with its own verdict. -/
theorem gather_cons_of_ends {record : Tlv} (concludes : record.Concludes)
    (supported : ¬ record.Says "RESP_NOT_SUPP") (behind : List Tlv) :
    gather (record :: behind) = ⟨[], decide (record.Says "RESP_FAIL")⟩ := by
  rw [gather_of_ends ((Reply.endsBatch_iff record).mpr ⟨concludes, supported⟩)]
  simp only [Reply.ofRecord_eq_failed_iff, Tlv.Fails, and_iff_left supported]

end NetworkBatch

/-! ## What is shown -/

/-- A client that has printed lines. -/
def Client.printed (client : Client Action) (lines : List String) : Client Action :=
  lines.foldl (fun client line => client.noted (.printed line)) client

namespace Work

variable {client : Client Action} {session : Session} {limit : Nat}

/-- The line about a failure, if the answer reports one. -/
def failureLines (line : String) (answer : Tlv) : List String :=
  if answer.Fails then [line] else []

theorem run_reboot {answer : Tlv} {talk : Conversation} (current : client.session = some session)
    (established : session.phase = .established)
    (answered : Conversation.request (application "reboot") limit ⟨session, client.timeline⟩ =
      (some (.ok (some answer)), talk)) :
    reboot.run limit client =
      (some (.ok (.record answer)),
        (client.holding talk).printed (failureLines "Command execution fail" answer)) := by
  have asked : (request (application "reboot")).run limit client =
      (some (.ok (some answer)), client.holding talk) :=
    run_onCurrent current established answered
  rw [reboot, run_bind, asked, failureLines]
  simp only [Reply.ofRecord_eq_failed_iff]
  split <;> rfl

theorem run_storeNetwork {network : Network} {password : String} {terminal : Terminal}
    {answer : Tlv} {talk : Conversation} (current : client.session = some session)
    (established : session.phase = .established)
    (entered : Terminal.password network.ssid limit ⟨client.inputs, client.timeline⟩ =
      (some (.ok (.value password)), terminal))
    (answered : Conversation.request (application (network.addRequest password)) limit
        ⟨session, terminal.timeline.note (.printed "Store Wi-Fi network...")⟩ =
      (some (.ok (some answer)), talk)) :
    (storeNetwork network).run limit client =
      (some (.ok .none),
        ((client.facing terminal).holding talk).printed
          (failureLines "Connection fail" answer ++ ["Wi-Fi network is saved"])) := by
  have asked : (ask (Terminal.password network.ssid)).run limit client =
      (some (.ok (.value password)), client.facing terminal) := by
    show (Client.atTerminal (Terminal.password network.ssid) >>= fun outcome =>
      pure (outcome.mapError CommandError.fault)) limit client = _
    rw [Act.bind_apply, Client.atTerminal, entered]
    rfl
  have stored : (request (application (network.addRequest password))).run limit
      ((client.facing terminal).noted (.printed "Store Wi-Fi network...")) =
        (some (.ok (some answer)), (client.facing terminal).holding talk) :=
    run_onCurrent current established answered
  rw [storeNetwork, run_bind, asked]
  simp only
  rw [run_print_bind, run_bind, stored, failureLines]
  simp only [Reply.ofRecord_eq_failed_iff]
  split <;> rfl

/-- How the failures are shown that a border router reports to a client. -/
structure Shows (client : Client Action) (session : Session) (limit : Nat) : Prop where
  /-- A reboot shows its line just when the answer fails. -/
  reboot : ∀ (arguments : List String) (answer : Tlv) (talk : Conversation),
    Conversation.request (application "reboot") limit ⟨session, client.timeline⟩ =
        (some (.ok (some answer)), talk) →
      (perform .reboot arguments).run limit client =
        (some (.ok (.record answer)),
          (client.holding talk).printed (failureLines "Command execution fail" answer))
  /-- Storing a network shows its line just when the answer fails. -/
  store : ∀ (network : Network) (password : String) (terminal : Terminal) (answer : Tlv)
      (talk : Conversation),
    Terminal.password network.ssid limit ⟨client.inputs, client.timeline⟩ =
        (some (.ok (.value password)), terminal) →
      Conversation.request (application (network.addRequest password)) limit
          ⟨session, terminal.timeline.note (.printed "Store Wi-Fi network...")⟩ =
        (some (.ok (some answer)), talk) →
      (storeNetwork network).run limit client =
        (some (.ok .none),
          ((client.facing terminal).holding talk).printed
            (failureLines "Connection fail" answer ++ ["Wi-Fi network is saved"]))
  /-- A batch without marks tells what its records tell, and no failure. -/
  unmarked : ∀ records : List Tlv, (∀ record ∈ records, ¬ record.Concludes) →
    NetworkBatch.gather records = ⟨Network.parsed records, false⟩
  /-- The first record that says that something failed or succeeded ends the batch with its
  verdict, unless it says that something is not supported: then it is taken for a network, and
  the batch goes on. -/
  marked : ∀ (front : List Tlv) (record : Tlv) (behind : List Tlv),
    (∀ earlier ∈ front, ¬ earlier.Concludes) → record.Concludes →
      NetworkBatch.gather (front ++ record :: behind) =
        if record.Says "RESP_NOT_SUPP" then
          ⟨Network.parsed front ++ (Network.parsed [record] ++
            (NetworkBatch.gather behind).networks), (NetworkBatch.gather behind).failed⟩
        else ⟨Network.parsed front, decide (record.Says "RESP_FAIL")⟩

/-- **A failure is shown just when the answer says that something failed and does not say that
it is not supported.** -/
theorem failures_shown (current : client.session = some session)
    (established : session.phase = .established) : Shows client session limit where
  reboot _ _ _ answered := run_reboot current established answered
  store _ _ _ _ _ entered answered := run_storeNetwork current established entered answered
  unmarked records unmarked := by
    have all := NetworkBatch.gather_append unmarked []
    rwa [List.append_nil, NetworkBatch.gather, List.append_nil] at all
  marked front record behind unmarked concludes := by
    rw [NetworkBatch.gather_append unmarked]
    split
    next unsupported => rw [NetworkBatch.gather_cons_of_goesOn (.inl unsupported)]
    next supported => rw [NetworkBatch.gather_cons_of_ends concludes supported, List.append_nil]

/-! ## A failure that is not shown -/

/-- A session on which one answer comes. -/
def answeredSession (text : String) : Session :=
  ⟨.established,
    some ⟨1, ⟨[.octets ([0x82, UInt8.ofNat text.length] ++ Octets.ofText text) 0], [], [],
      .orderly⟩⟩, none, [], .default, false⟩

/-- A client with that session, whose user has a password ready. -/
def answeredClient (text : String) : Client Action :=
  { Client.start .empty .default default [⟨some 1, .line "secret"⟩] with
    session := some (answeredSession text) }

def homeNetwork : Network :=
  ⟨"1", "home", "6", "b", "4", "w"⟩

/-- An answer that only says that something failed is shown as a failure, and ends a batch. -/
theorem failures_shown_plain :
    ∃ talk terminal stored,
      Conversation.request (application "reboot") 100
          ⟨answeredSession "err: RESP_FAIL", (answeredClient "err: RESP_FAIL").timeline⟩ =
        (some (.ok (some (application "err: RESP_FAIL"))), talk) ∧
      (perform .reboot []).run 100 (answeredClient "err: RESP_FAIL") =
        (some (.ok (.record (application "err: RESP_FAIL"))),
          ((answeredClient "err: RESP_FAIL").holding talk).printed ["Command execution fail"]) ∧
      (storeNetwork homeNetwork).run 100 (answeredClient "err: RESP_FAIL") =
        (some (.ok .none),
          (((answeredClient "err: RESP_FAIL").facing terminal).holding stored).printed
            ["Connection fail", "Wi-Fi network is saved"]) ∧
      NetworkBatch.gather (["1|home|6|b|4|w", "RESP_FAIL", "2|x|6|b|4|w"].map application) =
        ⟨[homeNetwork], true⟩ := by
  have shows : Shows (answeredClient "err: RESP_FAIL") (answeredSession "err: RESP_FAIL") 100 :=
    failures_shown rfl rfl
  have fails : (application "err: RESP_FAIL").Fails := by decide +kernel
  have answered : Conversation.request (application "reboot") 100
      ⟨answeredSession "err: RESP_FAIL", (answeredClient "err: RESP_FAIL").timeline⟩ =
        (some (.ok (some (application "err: RESP_FAIL"))), _) :=
    Prod.ext (by decide +kernel) rfl
  have entered : Terminal.password "home" 100
      ⟨(answeredClient "err: RESP_FAIL").inputs, (answeredClient "err: RESP_FAIL").timeline⟩ =
        (some (.ok (.value "secret")), _) :=
    Prod.ext (by decide +kernel) rfl
  have rebooted := shows.reboot [] _ _ answered
  have stored := shows.store homeNetwork "secret" _ (application "err: RESP_FAIL") _ entered
    (Prod.ext (by decide +kernel) rfl)
  have batch := shows.marked [application "1|home|6|b|4|w"] (application "RESP_FAIL")
    [application "2|x|6|b|4|w"] (by decide +kernel) (by decide +kernel)
  rw [failureLines, if_pos fails] at rebooted stored
  rw [if_neg (by decide +kernel)] at batch
  refine ⟨_, _, _, answered, rebooted, stored, batch.trans ?_⟩
  decide +kernel

/-- An answer that says as well that something is not supported is not shown as a failure, and
in a batch it is taken for a network. -/
theorem failure_not_shown :
    ∃ answer after stored,
      (perform .reboot []).run 100 (answeredClient "RESP_NOT_SUPP RESP_FAIL") =
        (some (.ok (.record answer)), after) ∧ answer.Says "RESP_FAIL" ∧
      .printed "Command execution fail" ∉ after.timeline.log ∧
      (storeNetwork homeNetwork).run 100 (answeredClient "RESP_NOT_SUPP RESP_FAIL") =
        (some (.ok .none), stored) ∧
      .printed "Connection fail" ∉ stored.timeline.log ∧
      NetworkBatch.gather (["RESP_NOT_SUPP|RESP_FAIL|6|b|4|w", "RESP_OK"].map application) =
        ⟨[⟨"RESP_NOT_SUPP", "RESP_FAIL", "6", "b", "4", "w"⟩], false⟩ := by
  refine ⟨application "RESP_NOT_SUPP RESP_FAIL", _, _, Prod.ext ?_ rfl, ?_, ?_, Prod.ext ?_ rfl,
    ?_, ?_⟩
  all_goals decide +kernel

end Work

end Commissioner
