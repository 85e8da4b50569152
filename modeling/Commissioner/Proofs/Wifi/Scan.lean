import Mathlib
import Commissioner.Proofs.Client.Growth
import Commissioner.Proofs.Session.Exchange

/-!
# What a Wi-Fi scan shows

A border router answers a scan with one record, and behind it come a record for each
network and a mark. The client takes the answer, and then one batch. A batch ends with
the read that completes the first record of it, so the networks shown are those that
were complete by then: always the first one, and all of them
exactly when that read completed the last one too. How the stream is cut decides how
many there are, the sizes of reads and the times of arrivals do only through that.
-/

set_option autoImplicit false

namespace Commissioner

/-! ## Records that tell networks -/

/-- Records tell networks, one each and in order, and none of them is a mark. -/
def Tell (records : List Tlv) (networks : List Network) : Prop :=
  records.map (fun record => (Reply.ofRecord record, Network.read record.text)) =
    networks.map fun network => (Reply.data, .ok network)

/-- **The first records of a list tell the first networks**, and the mark behind them
tells none. -/
theorem NetworkBatch.gather_of_prefix {records batch : List Tlv} {networks : List Network}
    {last : Tlv} (told : Tell records networks) (marked : Reply.ofRecord last = .ok)
    (front : batch <+: records ++ [last]) :
    gather batch = ⟨networks.take batch.length, false⟩ := by
  induction batch generalizing records networks with
  | nil => rfl
  | cons first batch ih =>
      cases records with
      | nil =>
          obtain ⟨rfl, -⟩ := List.cons_prefix_cons.mp front
          cases networks with
          | nil => simp only [gather, marked, List.take_nil]
          | cons => cases told
      | cons record records =>
          obtain ⟨rfl, behind⟩ := List.cons_prefix_cons.mp front
          cases networks with
          | nil => cases told
          | cons network networks =>
              simp only [Tell, List.map_cons, List.cons.injEq, Prod.mk.injEq] at told
              obtain ⟨⟨unmarked, read⟩, rest⟩ := told
              simp only [gather, unmarked, read, ih rest behind, List.length_cons,
                List.take_succ_cons]

/-- A stream answers a scan with networks: it holds an answer that goes on, a record
for each network and a mark, and nothing more. -/
def Lists (stream : Octets) (networks : List Network) : Prop :=
  ∃ answer records last, Tlv.parse stream = ⟨answer :: (records ++ [last]), []⟩ ∧
    Reply.ofRecord answer ≠ .notSupported ∧ Reply.ofRecord answer ≠ .failed ∧
    Tell records networks ∧ Reply.ofRecord last = .ok

/-- A grid with another row is another grid when no column has to be wider for it. -/
theorem Grid.draw_ne {heading row other : List String}
    (same : columnWidths [heading, row, other] = columnWidths [heading, row]) :
    draw heading [row, other] ≠ draw heading [row] := by
  let widths := columnWidths [heading, row]
  let front := top.draw widths ::
    (rowLines widths heading ++ underHeading.draw widths :: rowLines widths row)
  have short : draw heading [row] = "\n".intercalate (front ++ [bottom.draw widths]) := by
    simp only [draw, bodyLines, front, widths, List.cons_append, List.append_assoc]
  have long : draw heading [row, other] = "\n".intercalate
      (front ++ ((between.draw widths :: rowLines widths other) ++ [bottom.draw widths])) := by
    simp only [draw, bodyLines, same, front, widths, List.cons_append, List.append_assoc]
  -- Drawn in the same widths, the other row adds at least the two line feeds before it.
  intro equal
  rw [short, long, String.intercalate_append_of_ne_nil (List.cons_ne_nil _ _) (by simp),
    String.intercalate_append_of_ne_nil (List.cons_ne_nil _ _) (List.cons_ne_nil _ _),
    String.intercalate_append_of_ne_nil (List.cons_ne_nil _ _) (List.cons_ne_nil _ _)] at equal
  have lengths := congrArg String.length equal
  simp only [String.length_append] at lengths
  have lineFeed : "\n".length = 1 := rfl
  omega

namespace Work

/-! ## What is shown -/

/-- The lines that show networks, up to where the user is asked about them. -/
def listing : List Network → List String
  | [] => ["No Wi-Fi networks found."]
  | network :: networks =>
      ["Found Wi-Fi networks:", Render.networkTable (network :: networks), consentLine]

/-- The networks of a batch that was received are shown. -/
theorem prefix_gatherNetworks {client : Client Action} {session : Session} {limit : Nat}
    {talk : Conversation} {batch : List Tlv} {networks : List Network}
    (current : client.session = some session) (established : session.phase = .established)
    (received : Conversation.receive client.settings.batchSize client.settings.batchTimeout limit
      ⟨session, client.timeline⟩ = (some (.ok (some batch)), talk))
    (gathered : NetworkBatch.gather batch = ⟨networks, false⟩) :
    talk.timeline.log ++ (listing networks).map .printed <+:
      (gatherNetworks.run limit client).2.timeline.log := by
  have batched : receiveBatch.run limit client =
      (some (.ok (some batch)), client.holding talk) := by
    have read : Work.client.run limit client = (some (.ok client), client) := rfl
    rw [receiveBatch, run_bind, read]
    exact run_onCurrent current established received
  rw [gatherNetworks, run_bind, batched]
  simp only [gathered]
  cases networks with
  | nil => exact List.prefix_refl _
  | cons network networks => exact prefix_offerNetworks _ limit (client.holding talk)

/-! ## A scan -/

def scanRequest : Tlv :=
  application "wifi_scan"

/-- What comes of writing the request for a scan. -/
def sendScan (client : Client Action) (session : Session) (limit : Nat) :
    Option (Except SessionError Unit) × Conversation :=
  Conversation.send scanRequest limit
    (Conversation.mark true ⟨session, client.timeline.note (.printed "Wi-Fi scanning...")⟩)

/-- A client that can ask for a scan: its session is established, has nothing in its
buffer and takes values of any length, and its link takes the request. -/
structure Scannable (client : Client Action) (session : Session) (link : Link) (limit : Nat) :
    Prop where
  current : client.session = some session
  established : session.phase = .established
  empty : session.received = []
  /-- It takes values of any length. -/
  roomy : session.limits.maxValue = maxValueLength
  held : session.link = some link
  /-- The link takes the request and passes it on, before the command is given up. -/
  accepted : (sendScan client session limit).1 = some (.ok ())

/-- The answer to a scan comes in these parts, in time for every wait of the scan. -/
structure Timely (client : Client Action) (session : Session) (link : Link) (limit : Nat)
    (parts : List Part) (later : List Arrival) : Prop where
  arrivals : link.far.arrivals = parts.map Part.arrival ++ later
  full : ∀ part ∈ parts, part.octets ≠ []
  /-- They are there before the command is given up. -/
  inTime : ∀ part ∈ parts, part.due ≤ limit
  /-- When answers are waited for up to a bound, the parts with the first record are
  there by then. -/
  answered : ∀ bound, session.limits.responseTimeout = some bound →
    ∃ early late, parts = early ++ late ∧ Tlv.split? (joined early) ≠ none ∧
      ∀ part ∈ early, part.due ≤ (sendScan client session limit).2.timeline.now + bound
  /-- All parts are there before the timeout of the batch, which begins when the request
  has been answered. -/
  streamed : ∀ part ∈ parts,
    part.due ≤ (Conversation.request scanRequest limit
      ⟨session, client.timeline.note (.printed "Wi-Fi scanning...")⟩).2.timeline.now +
        client.settings.batchTimeout

/-- The framing of a session that can scan lets every record through. -/
theorem Scannable.limit_framing {client : Client Action} {session : Session} {link : Link}
    {limit : Nat} (scannable : Scannable client session link limit) :
    session.framing.limit = maxValueLength := by
  rw [Session.framing, Framing.ofLimit, scannable.roomy, Nat.min_self]

/-- The parts that hold the first record come before the others. -/
theorem Timely.exists_early {client : Client Action} {session : Session} {link : Link}
    {limit : Nat} {parts : List Part} {later : List Arrival}
    (timely : Timely client session link limit parts later)
    (complete : Tlv.split? (joined parts) ≠ none) :
    ∃ early late, parts = early ++ late ∧ Tlv.split? (joined early) ≠ none ∧
      ∀ bound, session.limits.responseTimeout = some bound →
        ∀ part ∈ early, part.due ≤ (sendScan client session limit).2.timeline.now + bound := by
  cases chosen : session.limits.responseTimeout with
  | none => exact ⟨parts, [], (List.append_nil parts).symm, complete, nofun⟩
  | some bound =>
      obtain ⟨early, late, cut, first, soon⟩ := timely.answered bound chosen
      refine ⟨early, late, cut, first, fun other same => ?_⟩
      cases same
      exact soon

/-- When the request is answered and not turned down, networks are gathered. -/
theorem run_wifiScan_of_answered {client : Client Action} {session : Session} {limit : Nat}
    {answer : Tlv} {middle : Conversation} (current : client.session = some session)
    (established : session.phase = .established)
    (answered : Conversation.request scanRequest limit
      ⟨session, client.timeline.note (.printed "Wi-Fi scanning...")⟩ =
        (some (.ok (some answer)), middle))
    (supported : Reply.ofRecord answer ≠ .notSupported)
    (succeeded : Reply.ofRecord answer ≠ .failed) :
    wifiScan.run limit client =
      gatherNetworks.run limit ((client.noted (.printed "Wi-Fi scanning...")).holding middle) := by
  have connected : client.isConnected = true := by
    simp only [Client.isConnected, current]
    exact decide_eq_true established
  have asked : (request (application "wifi_scan")).run limit
      (client.noted (.printed "Wi-Fi scanning...")) =
        (some (.ok (some answer)), (client.noted (.printed "Wi-Fi scanning...")).holding middle) :=
    run_onCurrent current established answered
  rw [wifiScan, run_bind, run_needSession limit connected]
  simp only
  rw [run_print_bind, run_bind, asked]
  simp only
  split
  next none => exact absurd none supported
  next none => exact absurd none succeeded
  next => rfl
  next => rfl

/-- **A scan shows the networks that were complete when the first one was**: those
whose records were complete when the read ended that completed the first record behind
the answer. They are shown in order, before anything else, and they are all of them
exactly when that read completed the last one too. -/
theorem wifiScan_shows {client : Client Action} {session : Session} {link : Link}
    {limit : Nat} {parts : List Part} {later : List Arrival} {networks : List Network}
    (scannable : Scannable client session link limit)
    (timely : Timely client session link limit parts later)
    (lists : Lists (joined parts) networks) (arguments : List String) :
    ∃ (writing before : List Event) (piece : Octets) (count : Nat) (dialogue : List Event),
      ((perform .wifiScan arguments).run limit client).2.timeline.log =
        client.timeline.log ++ [.printed "Wi-Fi scanning..."] ++ writing ++
          (before ++ [.delivered link.id piece]) ++
          (listing (networks.take count)).map .printed ++ dialogue ∧
      (∀ line, .printed line ∉ writing ++ before) ∧
      deliveries before ++ piece <+: joined parts ∧
      (Tlv.parse (deliveries before)).records.length ≤ 1 ∧
      (Tlv.parse (deliveries before ++ piece)).records.length = 1 + count ∧ 1 ≤ count ∧
      (networks.take count = networks ↔ networks.length ≤ count) := by
  obtain ⟨answer, records, last, stream, supported, succeeded, told, marked⟩ := lists
  have whole : (Tlv.parse (joined parts)).records = answer :: (records ++ [last]) := by
    rw [stream]
  obtain ⟨rest, front, -⟩ := Tlv.exists_split?_of_records whole
  obtain ⟨early, late, rfl, first, soon⟩ := timely.exists_early (by
    rw [front]
    exact Option.some_ne_none _)
  let begun := client.noted (.printed "Wi-Fi scanning...")
  have sent : Conversation.send scanRequest limit
      (Conversation.mark true ⟨session, begun.timeline⟩) =
        (some (.ok ()), (sendScan client session limit).2) :=
    Prod.ext scannable.accepted rfl
  have feeding : Conversation.Feeding ⟨session, begun.timeline⟩ link.id (early ++ late) later :=
    ⟨link, scannable.held, rfl, timely.arrivals, timely.full⟩
  have further : records ++ [last] ≠ [] :=
    List.append_ne_nil_of_right_ne_nil records (List.cons_ne_nil _ _)
  obtain ⟨writing, before, piece, middle, after, batch, answered, established, received, log,
      unprinted, within, few, complete, full⟩ :=
    Conversation.exists_answer_and_batch client.settings.batchSize client.settings.batchTimeout
      scannable.limit_framing scannable.empty sent feeding timely.inTime soon timely.streamed
      first whole further
  have ran := run_wifiScan_of_answered scannable.current scannable.established answered supported
    succeeded
  -- The records of the answer and the batch are the first ones of the whole stream.
  have front : batch <+: records ++ [last] := by
    have shorter := Tlv.records_isPrefix within
    rw [complete, whole] at shorter
    exact (List.cons_prefix_cons.mp shorter).2
  have held : (begun.holding middle).session = some middle.session := rfl
  obtain ⟨dialogue, shown⟩ := prefix_gatherNetworks held established received
    (NetworkBatch.gather_of_prefix told marked front)
  refine ⟨writing, before, piece, batch.length, dialogue, ?_, unprinted, within, few, ?_, ?_, ?_⟩
  · rw [perform, ran, ← shown, log]
    rfl
  · rw [complete, List.length_cons, Nat.add_comm]
  · exact List.length_pos_iff.mpr full
  · exact List.take_eq_self_iff networks

/-! ## A scan that shows one network of two -/

/-- A network on channel 6. -/
def oneNetwork : Network :=
  ⟨"1", "a", "6", "b", "4", "w"⟩

def otherNetwork : Network :=
  ⟨"2", "c", "6", "b", "4", "w"⟩

/-- The table of both networks is another one than that of the first. -/
theorem networkTable_ne :
    Render.networkTable [oneNetwork, otherNetwork] ≠ Render.networkTable [oneNetwork] := by
  have one : Grid.cellWidth "1" = 1 := by cbv
  have two : Grid.cellWidth "2" = 1 := by cbv
  have a : Grid.cellWidth "a" = 1 := by cbv
  have c : Grid.cellWidth "c" = 1 := by cbv
  refine Grid.draw_ne ?_
  simp only [Grid.columnWidths, List.foldl_cons, List.foldl_nil, Grid.widen, List.map_cons,
    oneNetwork, otherNetwork, one, two, a, c, Nat.max_assoc, Nat.max_self]

/-- An answer to a scan that tells both networks, cut behind the answer and behind the
first network. -/
def divided : List Part :=
  [⟨[0x82, 7] ++ Octets.ofText "RESP_OK", 0⟩,
    ⟨[0x82, 11] ++ Octets.ofText "1|a|6|b|4|w", 5⟩,
    ⟨[0x82, 11] ++ Octets.ofText "2|c|6|b|4|w" ++ [0x82, 7] ++ Octets.ofText "RESP_OK", 10⟩]

/-- The link on which the answer comes in these parts. -/
def dividedLink : Link :=
  ⟨1, ⟨divided.map Part.arrival, [], [], .orderly⟩⟩

/-- A session established on that link. -/
def dividedSession : Session :=
  ⟨.established, some dividedLink, none, [], .default, false⟩

/-- A client with that session, whose user has nothing to say. -/
def dividedClient : Client Action :=
  { Client.start .empty .default default [] with session := some dividedSession }

theorem divided_scannable : Scannable dividedClient dividedSession dividedLink 100 where
  current := rfl
  established := rfl
  empty := rfl
  roomy := rfl
  held := rfl
  accepted := by decide +kernel

theorem divided_timely : Timely dividedClient dividedSession dividedLink 100 divided [] where
  arrivals := rfl
  full := by decide
  inTime := by decide
  answered := nofun
  streamed := by
    have soon : ∀ part ∈ divided, part.due ≤ dividedClient.settings.batchTimeout := by decide
    exact fun part member => Nat.le_trans (soon part member) (Nat.le_add_left ..)

theorem divided_lists : Lists (joined divided) [oneNetwork, otherNetwork] := by
  refine ⟨⟨0x82, Octets.ofText "RESP_OK"⟩,
    [⟨0x82, Octets.ofText "1|a|6|b|4|w"⟩, ⟨0x82, Octets.ofText "2|c|6|b|4|w"⟩],
    ⟨0x82, Octets.ofText "RESP_OK"⟩, ?_, ?_, ?_, ?_, ?_⟩
  · decide +kernel
  · decide +kernel
  · decide +kernel
  · simp only [Tell, List.map_cons, List.map_nil]
    decide +kernel
  · decide +kernel

/-- Cut like this, some of the networks are shown, and at least the first. -/
theorem wifiScan_shows_divided :
    ∃ (exchange : List Event) (count : Nat) (dialogue : List Event),
      ((perform .wifiScan []).run 100 dividedClient).2.timeline.log =
        [.printed "Wi-Fi scanning..."] ++ exchange ++
          (listing ([oneNetwork, otherNetwork].take count)).map .printed ++ dialogue ∧
      1 ≤ count := by
  obtain ⟨writing, before, piece, count, dialogue, log, -, -, -, -, some, -⟩ :=
    wifiScan_shows divided_scannable divided_timely divided_lists []
  refine ⟨writing ++ (before ++ [.delivered dividedLink.id piece]), count, dialogue, ?_, some⟩
  rw [log]
  simp only [List.append_assoc]
  rfl

/-- Everything is there in time, and yet only the first of the two networks is shown. -/
theorem wifiScan_shows_one_of_two :
    Scannable dividedClient dividedSession dividedLink 100 ∧
      Timely dividedClient dividedSession dividedLink 100 divided [] ∧
      Lists (joined divided) [oneNetwork, otherNetwork] ∧
      ∃ dialogue : List Event,
        ((perform .wifiScan []).run 100 dividedClient).2.timeline.log =
          [.printed "Wi-Fi scanning...", .wrote 1 (scanRequest.header ++ scanRequest.value),
              .flushing 1, .flushed 1, .delivered 1 ([0x82, 7] ++ Octets.ofText "RESP_OK"),
              .delivered 1 ([0x82, 11] ++ Octets.ofText "1|a|6|b|4|w")] ++
            (listing [oneNetwork]).map .printed ++ dialogue ∧
          Render.networkTable [oneNetwork, otherNetwork] ≠ Render.networkTable [oneNetwork] := by
  refine ⟨divided_scannable, divided_timely, divided_lists, ?_⟩
  have answered : Conversation.request scanRequest 100
      ⟨dividedSession, dividedClient.timeline.note (.printed "Wi-Fi scanning...")⟩ =
        (some (.ok (some ⟨0x82, Octets.ofText "RESP_OK"⟩)), _) :=
    Prod.ext (by cbv) rfl
  have received : Conversation.receive 4096 15000 100 (Conversation.request scanRequest 100
      ⟨dividedSession, dividedClient.timeline.note (.printed "Wi-Fi scanning...")⟩).2 =
        (some (.ok (some [⟨0x82, Octets.ofText "1|a|6|b|4|w"⟩])), _) :=
    Prod.ext (by cbv) rfl
  have gathered : NetworkBatch.gather [⟨0x82, Octets.ofText "1|a|6|b|4|w"⟩] =
      ⟨[oneNetwork], false⟩ := by
    decide +kernel
  have ran := run_wifiScan_of_answered divided_scannable.current divided_scannable.established
    answered (by decide +kernel) (by decide +kernel)
  have held : ((dividedClient.noted (.printed "Wi-Fi scanning...")).holding
      (Conversation.request scanRequest 100
        ⟨dividedSession, dividedClient.timeline.note (.printed "Wi-Fi scanning...")⟩).2).session =
        some _ := rfl
  obtain ⟨dialogue, shown⟩ := prefix_gatherNetworks held (by decide +kernel) received gathered
  refine ⟨dialogue, ?_, networkTable_ne⟩
  rw [perform, ran, ← shown]
  refine congrArg (· ++ (listing [oneNetwork]).map .printed ++ dialogue) ?_
  decide +kernel

end Work

end Commissioner
