import Commissioner.Proofs.Text.Blank
import Commissioner.Proofs.Text.Decimal
import Commissioner.Proofs.Wifi.Consent

/-!
# Which network a number stands for

The table of networks shows in its first column the number that the border router gave to
each network, and the user who wants one of them enters a number. The number entered counts
the rows of the table from one, and the numbers shown in them do not matter
(`Work.wifiScan_counts_rows`). So every number that is accepted stores the network shown with
it, and every number shown is accepted, just when the border router numbers its networks from
one on in the order in which it tells them (`Network.pickedAsShown_iff`).
-/

set_option autoImplicit false

namespace Commissioner

open Terminal (Answers yesOrNo? index?)

/-! ## Numbers that a line spells -/

theorem Text.isBlank_of_isDigit {c : Char} (digit : c.isDigit = true) : isBlank c = false := by
  simp only [Char.isDigit, Bool.and_eq_true, decide_eq_true_eq, ge_iff_le] at digit
  have low : 48 ≤ c.toNat := digit.1
  have high : c.toNat ≤ 57 := digit.2
  simp only [isBlank, Bool.or_eq_false_iff, Bool.and_eq_false_iff, decide_eq_false_iff_not,
    beq_eq_false_iff_ne]
  omega

namespace Terminal

/-- Every number that is offered can be entered. -/
theorem index?_repr {greatest number : Nat} (low : 1 ≤ number) (high : number ≤ greatest)
    (word : greatest ≤ Decimal.wordBound) : index? greatest number.repr = some number := by
  have trimmed : Text.trim number.repr = number.repr := by
    refine Text.trim_eq_self fun c member => ?_
    rw [Nat.toList_repr] at member
    exact Text.isBlank_of_isDigit (Nat.isDigit_of_mem_toDigits (by decide) (by decide) member)
  refine index?_eq_some_iff.mpr ⟨?_, low, high⟩
  rw [trimmed, Decimal.read?, Nat.toList_repr]
  exact Decimal.readChars_toDigits (Nat.le_trans high word)

end Terminal

/-! ## Numbers shown and numbers entered -/

namespace Network

/-- The number that a network is shown with, read like an entry of the user. -/
def shown? (network : Network) : Option Nat :=
  Decimal.read? Decimal.wordBound (Text.trim network.id)

/-- Networks are picked by the numbers that they are shown with. -/
structure PickedAsShown (networks : List Network) : Prop where
  /-- Every entry that is accepted picks a network shown with that number. -/
  picked : ∀ line number, index? networks.length line = some number →
    ∃ network, networks[number - 1]? = some network ∧ network.shown? = some number
  /-- Every number shown is accepted when it is entered as it stands. -/
  accepted : ∀ network ∈ networks, ∀ number, network.shown? = some number →
    index? networks.length network.id = some number

/-- Networks are shown with the numbers from one on, in their order. -/
def NumberedInOrder (networks : List Network) : Prop :=
  ∀ row network, networks[row]? = some network → network.shown? = some (row + 1)

/-- **Networks are picked by the numbers that they are shown with just when these number the rows
from one on.** -/
theorem pickedAsShown_iff {networks : List Network}
    (word : networks.length ≤ Decimal.wordBound) :
    PickedAsShown networks ↔ NumberedInOrder networks := by
  constructor
  · intro heeded row network there
    obtain ⟨within, -⟩ := List.getElem?_eq_some_iff.mp there
    obtain ⟨picked, same, shown⟩ := heeded.picked _ _
      (Terminal.index?_repr (Nat.succ_pos row) within word)
    cases there.symm.trans same
    exact shown
  · intro numbered
    constructor
    case picked =>
      intro line number entered
      obtain ⟨-, low, high⟩ := Terminal.index?_eq_some_iff.mp entered
      have within : number - 1 < networks.length := by omega
      have there := List.getElem?_eq_getElem within
      refine ⟨_, there, ?_⟩
      rw [numbered _ _ there, Nat.sub_add_cancel low]
    case accepted =>
      intro network member number shown
      obtain ⟨row, there⟩ := List.mem_iff_getElem?.mp member
      obtain ⟨within, -⟩ := List.getElem?_eq_some_iff.mp there
      have numbering := numbered row network there
      cases shown.symm.trans numbering
      exact Terminal.index?_eq_some_iff.mpr ⟨shown, Nat.succ_pos row, within⟩

end Network

namespace Work

/-! ## What a choice writes -/

/-- Since `start` the link has accepted octets from the front of `wire`, and no others. -/
def Begins (start : Client Action) (wire : Octets) (client : Client Action) : Prop :=
  ∃ front, front <+: wire ∧ Emits start front client

namespace Begins

variable {start middle client : Client Action} {wire : Octets}

theorem of_shown (shown : Client.Shown start client) : Begins start wire client :=
  ⟨[], List.nil_prefix, .nothing shown⟩

theorem behind (begins : Begins middle wire client) (shown : Client.Shown start middle) :
    Begins start wire client := by
  obtain ⟨front, begun, sent⟩ := begins
  exact ⟨front, begun, sent.of_shown shown⟩

theorem noted (begins : Begins start wire client) (line : String) :
    Begins start wire (client.noted (.printed line)) := by
  obtain ⟨front, begun, sent⟩ := begins
  exact ⟨front, begun, sent.noted line⟩

end Begins

/-- A part of the dialogue writes octets from the front of `wire`, whatever becomes of it. -/
def Writes {α : Type} (start : Client Action) (wire : Octets) (asked : Client Action)
    (work : Work α) : Prop :=
  Leads (fun client => client = asked) work (fun _ => Begins start wire) (Begins start wire)
    (Begins start wire)

namespace Writes

variable {α β : Type} {start asked : Client Action} {wire : Octets}

theorem print {line : String} {next : Unit → Work α}
    (later : Writes start wire (asked.noted (.printed line)) (next ())) :
    Writes start wire asked (Work.print line >>= next) :=
  Leads.bind (leads_print asked line) fun _ => later

/-- A request writes octets of its record, whatever link it is sent on. -/
theorem request {record : Tlv} (shown : Client.Shown start asked)
    (encoded : record.encode = .ok wire) : Writes start wire asked (Work.request record) := by
  have uses : Act.Leads (fun client => client = asked)
      (Client.onCurrent (Conversation.request record)) (fun _ => Begins start wire)
      (Begins start wire) := by
    refine .onCurrent (fun client session same _ _ => .of_snd ?_) fun client same => ?_
    · rintro limit _ rfl
      subst same
      obtain ⟨events, log, front, -⟩ :=
        Conversation.request_front encoded limit ⟨session, client.timeline⟩
      have sent : Emits client (writes events) (client.holding
          (Conversation.request record limit ⟨session, client.timeline⟩).2) := ⟨events, log, rfl⟩
      exact ⟨_, front, sent.of_shown shown⟩
    · exact same ▸ .of_shown shown
  exact uses.either

/-- What was shown before a part of the dialogue does not matter. -/
theorem behind {work : Work α} (shown : Client.Shown start asked)
    (sends : Writes asked wire asked work) : Writes start wire asked work :=
  Leads.mono sends (fun _ same => same) (fun _ _ begins => begins.behind shown)
    (fun _ begins => begins.behind shown) fun _ begins => begins.behind shown

/-- What the user decides at a prompt is what the dialogue goes on with. -/
theorem ask {prompt retry : String} {decisive : String → Option α} {next : Prompted α → Work β}
    {outcome : Prompted α} {left : List Input} (shown : Client.Shown start asked)
    (answers : Answers decisive asked.inputs outcome left)
    (later : ∀ answered, Client.Shown start answered → answered.inputs = left →
      Writes start wire answered (next outcome)) :
    Writes start wire asked (Work.ask (Terminal.ask prompt retry decisive) >>= next) := by
  refine Leads.bind ((leads_ask asked prompt retry decisive).mono (fun _ same => same)
    (fun _ _ holds => holds) (fun client holds => .of_shown (shown.trans holds.1))
      fun client seen => .of_shown (shown.trans seen)) fun decided =>
        .of_each fun answered holds => ?_
  obtain ⟨rfl, same⟩ := answers.unique holds.2
  exact later answered (shown.trans holds.1) same

end Writes

/-- What is stored for a network is the request that tells it with the password. -/
theorem writes_storeNetwork {start : Client Action} {network : Network} {password : String}
    {left : List Input} {wire : Octets}
    (enters : Answers password? start.inputs (.value password) left)
    (encoded : (application (network.addRequest password)).encode = .ok wire) :
    Writes start wire start (storeNetwork network) := by
  refine .ask (.refl start) enters fun answered shown _ => .print ?_
  refine Leads.bind (Writes.request (shown.noted _) encoded) fun reply => ?_
  have prints : ∀ line client, Begins start wire client →
      Begins start wire (client.noted (.printed line)) := fun line _ begins => begins.noted line
  cases reply with
  | none => exact .pure fun _ begins => begins
  | some answer =>
      simp only
      split
      next =>
        exact .bind (.print (prints _)) fun _ => .bind (.print (prints _)) fun _ =>
          .pure fun _ begins => begins
      next => exact .bind (.print (prints _)) fun _ => .pure fun _ begins => begins

/-- The user agrees, enters the number of a row, and enters a password. -/
def Chooses (networks : List Network) (inputs : List Input) (number : Nat) (password : String) :
    Prop :=
  ∃ agreed picked left, Answers yesOrNo? inputs (.value true) agreed ∧
    Answers (index? networks.length) agreed (.value number) picked ∧
    Answers password? picked (.value password) left

/-- The number chosen is that of a row, whose network the user picks. -/
theorem Chooses.exists_picks {networks : List Network} {inputs : List Input} {number : Nat}
    {password : String} (chooses : Chooses networks inputs number password) :
    ∃ network, networks[number - 1]? = some network ∧
      Picks networks inputs network password := by
  obtain ⟨agreed, picked, left, agrees, picks, enters⟩ := chooses
  obtain ⟨line, spelled⟩ := picks.exists_text
  obtain ⟨typed, entered⟩ := enters.exists_text
  obtain ⟨-, low, high⟩ := Terminal.index?_eq_some_iff.mp spelled
  have within : number - 1 < networks.length := by omega
  have there := List.getElem?_eq_getElem within
  exact ⟨_, there, agreed, picked, left, number, agrees, picks, low, high, there, enters,
    password?_ne entered⟩

/-- What is written once networks are offered is the request for the row that the user enters. -/
theorem writes_offerNetworks {start : Client Action} {networks : List Network} {number : Nat}
    {network : Network} {password : String} {wire : Octets}
    (chooses : Chooses networks start.inputs number password)
    (there : networks[number - 1]? = some network)
    (encoded : (application (network.addRequest password)).encode = .ok wire) :
    Writes start wire start (offerNetworks networks) := by
  obtain ⟨agreed, picked, left, agrees, picks, enters⟩ := chooses
  refine .print (.print (.print (.ask ((((Client.Shown.refl start).noted _).noted _).noted _)
    agrees fun asked shown same => .print (.ask (shown.noted _) (same ▸ picks)
      fun answered shown rest => ?_))))
  subst rest
  simp only [there]
  exact .behind shown (writes_storeNetwork enters encoded)

/-! ## The scan -/

section Scan

variable {client : Client Action} {session : Session} {limit : Nat} {networks : List Network}
  {talk : Conversation}

/-- A client in front of the offer: the session is as the batch left it, the user has not
been asked anything, and nothing has happened but for a line that tells of a failure. -/
structure Offering (client : Client Action) (talk : Conversation) (asked : Client Action) :
    Prop where
  inputs : asked.inputs = client.inputs
  session : asked.session = some talk.session
  warned : ∃ lines, (lines = [] ∨ lines = [failedLine]) ∧
    asked.timeline.log = talk.timeline.log ++ lines.map .printed

/-- When networks are offered, the rest of the scan is the offer. -/
theorem Offers.exists_offering (offers : Offers client session limit networks talk)
    (current : client.session = some session) (established : session.phase = .established)
    (arguments : List String) :
    ∃ asked, Offering client talk asked ∧
      (Ready client session → Ready asked talk.session) ∧
      (perform .wifiScan arguments).run limit client =
        (offerNetworks networks).run limit asked := by
  obtain ⟨answer, middle, batch, answered, supported, succeeded, received, rfl, full⟩ := offers
  let begun := client.noted (.printed "Wi-Fi scanning...")
  have batched : receiveBatch.run limit (begun.holding middle) =
      (some (.ok (some batch)), (begun.holding middle).holding talk) := by
    have read : Work.client.run limit (begun.holding middle) =
      (some (.ok (begun.holding middle)), begun.holding middle) := rfl
    rw [receiveBatch, run_bind, read]
    exact run_onCurrent rfl (Conversation.request_usable answered).1 received
  have filled : (Network.told batch).isEmpty = false := by
    rw [List.isEmpty_eq_false_iff]
    exact full
  have readies : Ready client session →
      Ready ((begun.holding middle).holding talk) talk.session := fun ready =>
    ((ready.of_shown ((Client.Shown.refl client).noted _)).answered answered).received received
  rw [perform, run_wifiScan_of_answered current established answered supported succeeded,
    gatherNetworks, run_bind, batched]
  simp only [NetworkBatch.networks_gather, filled, Bool.false_eq_true, if_false]
  split
  next =>
    rw [run_print_bind]
    exact ⟨((begun.holding middle).holding talk).noted (.printed failedLine),
      ⟨rfl, rfl, [failedLine], .inr rfl, rfl⟩,
      fun ready => (readies ready).of_shown ((Client.Shown.refl _).noted failedLine), rfl⟩
  next =>
    exact ⟨(begun.holding middle).holding talk,
      ⟨rfl, rfl, [], .inl rfl, (List.append_nil _).symm⟩, readies, rfl⟩

/-- On a session whose link takes every write, the whole request for the row is written when the
scan is not dropped. -/
theorem emits_offerNetworks {asked after : Client Action} {number : Nat} {network : Network}
    {password : String} {wire : Octets} {result : Except CommandError Outcome}
    (ready : Ready asked session) (chooses : Chooses networks asked.inputs number password)
    (there : networks[number - 1]? = some network)
    (encoded : (application (network.addRequest password)).encode = .ok wire)
    (ended : (offerNetworks networks).run limit asked = (some result, after)) :
    Emits asked wire after := by
  obtain ⟨chosen, same, picks⟩ := chooses.exists_picks
  cases there.symm.trans same
  have settled : Stored asked (Consents networks asked.inputs) (CallsOff networks asked.inputs)
      after := by
    have stored := Act.Leads.of_value (settles_offerNetworks ready networks) rfl ended
    cases result with
    | ok => exact stored
    | error => exact stored
  rcases settled.sent with ⟨_, ⟨other, second, again, rfl⟩, sent⟩ | ⟨none, -⟩
  · obtain ⟨rfl, rfl⟩ := picks.unique again
    rwa [encoded] at sent
  · exact absurd ⟨network, password, picks, rfl⟩ (none _)

/-- **The number entered counts the rows of the table**, and the numbers in them do not matter.
The networks that a scan offers are listed in their order. When the user agrees, enters the
number of a row and a password, what is written then is the request that stores the network of
that row. Every number accepted picks the network shown with it, and every number shown is
accepted, just when the numbers shown are those of the rows. -/
theorem wifiScan_counts_rows {after : Client Action}
    {result : Option (Except CommandError Outcome)} (arguments : List String)
    (current : client.session = some session) (established : session.phase = .established)
    (offers : Offers client session limit networks talk)
    (ended : (perform .wifiScan arguments).run limit client = (result, after)) :
    ∃ asked, Offering client talk asked ∧
      asked.timeline.log ++ (listing networks).map .printed <+: after.timeline.log ∧
      (∀ number password, Chooses networks client.inputs number password →
        ∃ network, networks[number - 1]? = some network ∧
          ∀ wire, (application (network.addRequest password)).encode = .ok wire →
            Begins asked wire after ∧
              (Ready client session → result ≠ none → Emits asked wire after)) ∧
      (networks.length ≤ Decimal.wordBound →
        (Network.PickedAsShown networks ↔ Network.NumberedInOrder networks)) := by
  obtain ⟨asked, offering, ready, rest⟩ := offers.exists_offering current established arguments
  rw [rest] at ended
  refine ⟨asked, offering, ?_, fun number password chooses => ?_, Network.pickedAsShown_iff⟩
  · have shown := prefix_offerNetworks networks limit asked
    rw [ended] at shown
    obtain ⟨_, _, _, -, -, -, -, -, full⟩ := offers
    cases networks with
    | nil => exact absurd rfl full
    | cons => exact shown
  · rw [← offering.inputs] at chooses
    obtain ⟨network, there, -⟩ := chooses.exists_picks
    refine ⟨network, there, fun wire encoded => ⟨?_, fun readyFirst came => ?_⟩⟩
    · have sent := writes_offerNetworks chooses there encoded limit asked rfl
      rw [ended] at sent
      rcases result with _ | _ | _
      case none => exact sent
      case some.error => exact sent
      case some.ok => exact sent
    · obtain ⟨value, rfl⟩ := Option.ne_none_iff_exists'.mp came
      exact emits_offerNetworks (ready readyFirst) chooses there encoded ended

end Scan

/-! ## Numbers out of order -/

/-- A link on which two networks come in the order opposite to their numbers. -/
def swappedLink : Link :=
  ⟨1, ⟨[⟨[0x82, 7] ++ Octets.ofText "RESP_OK", 0⟩,
    ⟨[0x82, 11] ++ Octets.ofText "2|a|6|b|4|w" ++ [0x82, 11] ++ Octets.ofText "1|c|6|b|4|w" ++
      [0x82, 7] ++ Octets.ofText "RESP_OK", 5⟩,
    ⟨[0x82, 7] ++ Octets.ofText "RESP_OK", 10⟩].map Part.arrival, [], [], .orderly⟩⟩

def swappedSession : Session :=
  ⟨.established, some swappedLink, none, [], .default, false⟩

/-- A client whose user wants the network that is shown with the number 2. -/
def swappedClient : Client Action :=
  { Client.start .empty .default default
      (["y", "2", "secret"].map fun text => ⟨some 1, .line text⟩) with
    session := some swappedSession }

def swappedNetworks : List Network :=
  [⟨"2", "a", "6", "b", "4", "w"⟩, ⟨"1", "c", "6", "b", "4", "w"⟩]

theorem swapped_offers : ∃ talk, Offers swappedClient swappedSession 100 swappedNetworks talk := by
  have answered : Conversation.request scanRequest 100
      ⟨swappedSession, swappedClient.timeline.note (.printed "Wi-Fi scanning...")⟩ =
        (some (.ok (some ⟨0x82, Octets.ofText "RESP_OK"⟩)), _) :=
    Prod.ext (by cbv) rfl
  have received : Conversation.receive 4096 15000 100 (Conversation.request scanRequest 100
      ⟨swappedSession, swappedClient.timeline.note (.printed "Wi-Fi scanning...")⟩).2 =
        (some (.ok (some [⟨0x82, Octets.ofText "2|a|6|b|4|w"⟩,
          ⟨0x82, Octets.ofText "1|c|6|b|4|w"⟩, ⟨0x82, Octets.ofText "RESP_OK"⟩])), _) :=
    Prod.ext (by cbv) rfl
  exact ⟨_, _, _, _, answered, by decide +kernel, by decide +kernel, received,
    by decide +kernel, List.cons_ne_nil _ _⟩

theorem swapped_ready : Ready swappedClient swappedSession where
  current := rfl
  usable := ⟨rfl, Option.some_ne_none _⟩
  willing := by
    rintro link ⟨⟩
    exact nofun
  roomy := rfl

theorem swapped_chooses : Chooses swappedNetworks swappedClient.inputs 2 "secret" :=
  ⟨_, _, _, .decided (by decide +kernel), .decided (by decide +kernel),
    .decided (by decide +kernel)⟩

/-- The user enters 2, and the second network told is stored. -/
theorem wifiScan_counts_rows_second :
    ∃ talk asked wire, Offers swappedClient swappedSession 100 swappedNetworks talk ∧
      Offering swappedClient talk asked ∧
      (application "wifi_add c secret w").encode = .ok wire ∧
      Emits asked wire ((perform .wifiScan []).run 100 swappedClient).2 := by
  obtain ⟨talk, offers⟩ := swapped_offers
  obtain ⟨asked, offering, -, stores, -⟩ :=
    wifiScan_counts_rows [] swapped_ready.current swapped_ready.usable.1 offers rfl
  obtain ⟨network, there, sent⟩ := stores 2 "secret" swapped_chooses
  cases there
  refine ⟨talk, asked, _, offers, offering, rfl, (sent _ rfl).2 swapped_ready ?_⟩
  decide +kernel

/-- The table shows one network with the number 2, the user enters 2, and the other one is
stored. -/
theorem wifiScan_stores_the_other :
    (∃ talk, Offers swappedClient swappedSession 100 swappedNetworks talk) ∧
      Chooses swappedNetworks swappedClient.inputs 2 "secret" ∧
      swappedNetworks.map Network.shown? = [some 2, some 1] ∧
      .printed (Render.networkTable swappedNetworks) ∈
        ((perform .wifiScan []).run 100 swappedClient).2.timeline.log ∧
      ∃ asked wire, scanRequest.encode = .ok asked ∧
        (application "wifi_add c secret w").encode = .ok wire ∧
        (application "wifi_add a secret w").encode ≠ .ok wire ∧
        writes ((perform .wifiScan []).run 100 swappedClient).2.timeline.log = asked ++ wire := by
  obtain ⟨talk, offers⟩ := swapped_offers
  obtain ⟨asked, -, -, rest⟩ :=
    offers.exists_offering swapped_ready.current swapped_ready.usable.1 []
  have shown := prefix_offerNetworks swappedNetworks 100 asked
  rw [← rest] at shown
  refine ⟨⟨talk, offers⟩, swapped_chooses, by decide +kernel, ?_, _, _, rfl, rfl, ?_, ?_⟩
  · exact shown.subset (List.mem_append_right _ (List.mem_cons_of_mem _ List.mem_cons_self))
  · decide +kernel
  · decide +kernel

end Work

end Commissioner
