import Commissioner.Proofs.Client.Links
import Commissioner.Proofs.Command.Resolve
import Commissioner.Proofs.Session.Outgoing

/-!
# What a client holds from prompt to prompt

A client keeps its table of commands and its settings, and its sessions keep the bounds that are in
the settings (`Client.Furnished`). Its dataset is replaced by the lines that set or reset it, and by
nothing else (`Client.Turn.furnished`), so at a prompt it is the one that was stored last, and a
line that commissions a device writes that one (`Client.Commissions`). Its session stays on its
link, is gone, or is on a link that a scan for devices opened (`Client.Inherits`).

All of this is put together for a prompt of a run in `Client.holdings_at_prompts`.
-/

set_option autoImplicit false

namespace Commissioner

/-- Whether an action works on what a client has besides its session. -/
def Action.isLocal : Action → Bool
  | .help | .datasetPrint | .datasetSet | .datasetReset => true
  | _ => false

theorem Action.isLocal_of_storesDataset {action : Action} (stores : action.storesDataset = true) :
    action.isLocal = true := by
  cases action with
  | datasetSet | datasetReset => rfl
  | _ => cases stores

namespace Client

/-! ## Lines that store a dataset -/

/-- Whether a command came to a result. -/
def Ran.succeeded : Ran → Bool
  | .ended (.ok _) => true
  | _ => false

/-- The dataset that a line makes current, by how its command came out. -/
def stored? : String × Ran → Option Dataset
  | (line, ran) =>
      match Text.words line with
      | ["dataset", "set", hex] => if ran.succeeded then (Dataset.ofHex hex).toOption else none
      | "dataset" :: "reset" :: _ => some .builtIn
      | _ => none

section

variable {line : String}

theorem stored?_of_set {hex : String} (words : Text.words line = ["dataset", "set", hex])
    (ran : Ran) :
    stored? (line, ran) = if ran.succeeded then (Dataset.ofHex hex).toOption else none := by
  unfold stored?
  simp only [words]

/-- A line that sets the dataset and has no success makes none current. -/
theorem stored?_of_failed {arguments : List String}
    (words : Text.words line = "dataset" :: "set" :: arguments) {ran : Ran}
    (failed : ran.succeeded = false) : stored? (line, ran) = none := by
  unfold stored?
  simp only [words, failed, Bool.false_eq_true, if_false]
  split
  next => rfl
  next same => exact absurd (List.cons.inj (List.cons.inj same).2).1 (by decide)
  next => rfl

theorem stored?_of_reset {arguments : List String}
    (words : Text.words line = "dataset" :: "reset" :: arguments) (ran : Ran) :
    stored? (line, ran) = some .builtIn := by
  unfold stored?
  simp only [words]

theorem words_of_set {consumed : Nat}
    (resolved : Registry.builtIn.resolve (Text.words line) = .run .datasetSet consumed) :
    Text.words line = "dataset" :: "set" :: (Text.words line).drop consumed :=
  Registry.words_of_resolve ["dataset", "set"] resolved (by simp [Registry.paths_builtIn])

theorem words_of_reset {consumed : Nat}
    (resolved : Registry.builtIn.resolve (Text.words line) = .run .datasetReset consumed) :
    Text.words line = "dataset" :: "reset" :: (Text.words line).drop consumed :=
  Registry.words_of_resolve ["dataset", "reset"] resolved (by simp [Registry.paths_builtIn])

/-- A line that names a command that stores a dataset. -/
def Stores (line : String) : Prop :=
  ∃ action consumed, Registry.builtIn.resolve (Text.words line) = .run action consumed ∧
    action.storesDataset = true

/-- Only the commands that store a dataset make one current. -/
theorem stored?_of_not_stores (other : ¬ Stores line) (ran : Ran) :
    stored? (line, ran) = none := by
  unfold stored?
  simp only
  split
  next hex words =>
    have alone : Registry.builtIn.resolve ["dataset", "set"] = .run .datasetSet 2 := by
      decide +kernel
    have resolved : Registry.builtIn.resolve ["dataset", "set", hex] = .run .datasetSet 2 :=
      Registry.resolve_append alone [hex]
    exact absurd ⟨_, _, words ▸ resolved, rfl⟩ other
  next arguments words =>
    have alone : Registry.builtIn.resolve ["dataset", "reset"] = .run .datasetReset 2 := by
      decide +kernel
    have resolved : Registry.builtIn.resolve ("dataset" :: "reset" :: arguments) =
        .run .datasetReset 2 :=
      Registry.resolve_append alone arguments
    exact absurd ⟨_, _, words ▸ resolved, rfl⟩ other
  next => rfl

end

/-! ## What a client has besides its session -/

/-- A client has the built-in commands, these settings and this dataset, and its session keeps the
bounds that are in the settings. -/
structure Furnished (settings : Settings) (dataset : Dataset) (client : Client Action) : Prop where
  outfit : client.outfit = (.builtIn, settings, dataset)
  bounded : ∀ session, client.session = some session → session.limits = settings.limits

variable {settings : Settings} {dataset : Dataset} {start client : Client Action}

namespace Furnished

theorem registry_eq (furnished : Furnished settings dataset client) :
    client.registry = .builtIn :=
  congrArg Prod.fst furnished.outfit

theorem settings_eq (furnished : Furnished settings dataset client) : client.settings = settings :=
  congrArg (fun outfit => outfit.2.1) furnished.outfit

theorem dataset_eq (furnished : Furnished settings dataset client) : client.dataset = dataset :=
  congrArg (fun outfit => outfit.2.2) furnished.outfit

theorem of_start (settings : Settings) (surroundings : Surroundings) (inputs : List Input) :
    Furnished settings .builtIn (Client.start .builtIn settings surroundings inputs) where
  outfit := rfl
  bounded _ current := by cases current

theorem without {after : Client Action} (outfit : after.outfit = (.builtIn, settings, dataset))
    (without : after.session = none) : Furnished settings dataset after where
  outfit := outfit
  bounded _ current := by cases without.symm.trans current

/-- It endures every command but those that store a dataset. -/
theorem enduring (settings : Settings) (dataset : Dataset) :
    Enduring (Furnished settings dataset) where
  shows _ _ furnished _ := ⟨furnished.outfit, furnished.bounded⟩
  moves _ session _ _ _ furnished current _ moves :=
    ⟨furnished.outfit, fun _ same => by
      cases same
      exact moves.limits.trans (furnished.bounded session current)⟩
  letsGo := .of_snd fun limit client furnished =>
    .without ((invalidate_idles limit client).outfit.trans furnished.outfit)
      (invalidate_idles limit client).session
  without _ furnished := .without furnished.outfit rfl
  leave _ furnished := ⟨furnished.outfit, furnished.bounded⟩
  expecting _ _ furnished := ⟨furnished.outfit, furnished.bounded⟩

theorem idles {after : Client Action} (furnished : Furnished settings dataset client)
    (idles : Idles client after) : Furnished settings dataset after :=
  .without (idles.outfit.trans furnished.outfit) idles.session

theorem leads_scan (furnished : Furnished settings dataset client) :
    Work.Leads (fun other => other = client) Work.scan (fun _ => Furnished settings dataset)
      (Furnished settings dataset) (Furnished settings dataset) := by
  refine (Work.scan_connects client).mono (fun _ same => same) (fun _ after connects => ?_)
    (fun _ idles => furnished.idles idles) fun _ idles => furnished.idles idles
  cases connects with
  | idle idles => exact furnished.idles idles
  | connected idles current bounded =>
      refine ⟨idles.outfit.trans furnished.outfit, fun session same => ?_⟩
      cases current.symm.trans same
      exact bounded.trans (congrArg Settings.limits furnished.settings_eq)

end Furnished

/-! ## Lines that need no device -/

/-- A line that names a command for help or on the dataset, or no command. -/
def Local (line : String) : Prop :=
  ∀ action consumed, Registry.builtIn.resolve (Text.words line) = .run action consumed →
    action.isLocal = true

/-- The user was shown something, the dataset is this one, and all else is as it was. -/
structure Untouched (before : Client Action) (dataset : Dataset) (client : Client Action) : Prop
    extends Shown before client where
  outfit : client.outfit = (before.registry, before.settings, dataset)

namespace Untouched

theorem refl (client : Client Action) : Untouched client client.dataset client :=
  ⟨.refl client, rfl⟩

theorem print (untouched : Untouched start dataset client) (line : String) :
    Untouched start dataset (client.noted (.printed line)) :=
  ⟨untouched.toShown.noted line, untouched.outfit⟩

theorem keeps_print {dropped : Client Action → Prop} (line : String) :
    Work.Keeps (Untouched start dataset) dropped (Work.print line) :=
  .print fun _ untouched => untouched.print line

theorem furnished (untouched : Untouched start dataset client) {earlier : Dataset}
    (furnished : Furnished settings earlier start) : Furnished settings dataset client where
  outfit := by rw [untouched.outfit, furnished.registry_eq, furnished.settings_eq]
  bounded session current := furnished.bounded session (untouched.session.symm.trans current)

end Untouched

end Client

namespace Work

variable {start : Client Action} {line : String}

theorem leads_dispatch_of_run {action : Action} {consumed : Nat}
    {after : Outcome → Client Action → Prop} {failed dropped : Client Action → Prop}
    (resolved : start.registry.resolve (Text.words line) = .run action consumed)
    (performs : Leads (fun client => client = start)
      (perform action ((Text.words line).drop consumed)) after failed dropped) :
    Leads (fun client => client = start) (dispatch line) after failed dropped := by
  rintro limit client rfl
  have done := performs limit client rfl
  rw [run_dispatch resolved limit]
  exact done

/-- Setting the dataset succeeds only if the one argument spells it. -/
theorem leads_datasetSet (arguments : List String) :
    Leads (fun client => client = start) (datasetSet arguments)
      (fun _ client => ∃ hex dataset, arguments = [hex] ∧ Dataset.ofHex hex = .ok dataset ∧
        Client.Untouched start dataset client)
      (fun client => client = start) (fun _ => False) := by
  unfold datasetSet
  split
  next hex =>
    split
    next => exact .throw fun _ same => same
    next dataset spelled =>
      have stores : Leads (fun client => client = start)
          (always (Act.change fun client => { client with dataset := dataset }))
          (fun _ => Client.Untouched start dataset) (fun client => client = start)
          (fun _ => False) :=
        .always (.change fun client same => by
          subst same
          exact ⟨⟨rfl, rfl, .of_log rfl⟩, rfl⟩)
      exact .bind stores fun _ => .bind (.print fun _ untouched => untouched.print _) fun _ =>
        .pure fun client untouched => ⟨hex, dataset, rfl, spelled, untouched⟩
  next => exact .throw fun _ same => same

theorem leads_datasetReset {failed dropped : Client Action → Prop} :
    Leads (fun client => client = start) datasetReset
      (fun _ => Client.Untouched start .builtIn) failed dropped := by
  have stores : Leads (fun client => client = start)
      (always (Act.change fun client => { client with dataset := .builtIn }))
      (fun _ => Client.Untouched start .builtIn) failed dropped :=
    .always (.change fun client same => by
      subst same
      exact ⟨⟨rfl, rfl, .of_log rfl⟩, rfl⟩)
  exact .bind stores fun _ => .bind (.print fun _ untouched => untouched.print _) fun _ =>
    .pure fun _ untouched => untouched

/-- A line that needs no device is carried out at once. -/
theorem leads_dispatch_of_local (registry : start.registry = .builtIn)
    (needless : Client.Local line) :
    Leads (fun client => client = start) (dispatch line)
      (fun outcome => Client.Untouched start
        ((Client.stored? (line, .ended (.ok outcome))).getD start.dataset))
      (fun client => ∀ error, Client.Untouched start
        ((Client.stored? (line, .ended (.error error))).getD start.dataset) client)
      (fun _ => False) := by
  by_cases stores : Client.Stores line
  case pos =>
    obtain ⟨action, consumed, resolved, stores⟩ := stores
    refine leads_dispatch_of_run (registry ▸ resolved) ?_
    cases action with
    | datasetSet =>
        have words := Client.words_of_set resolved
        refine (leads_datasetSet _).mono (fun _ same => same) (fun outcome client set => ?_)
          (fun client same error => ?_) fun _ never => never
        · obtain ⟨hex, dataset, is, spelled, untouched⟩ := set
          rw [is] at words
          rw [Client.stored?_of_set words, spelled]
          exact untouched
        · rw [Client.stored?_of_failed words rfl, same]
          exact .refl start
    | datasetReset =>
        have words := Client.words_of_reset resolved
        refine leads_datasetReset.mono (fun _ same => same) (fun outcome client untouched => ?_)
          (fun _ never => never) fun _ never => never
        rw [Client.stored?_of_reset words]
        exact untouched
    | _ => cases stores
  case neg =>
    simp only [Client.stored?_of_not_stores stores, Option.getD_none]
    refine leads_dispatch (fun action consumed resolved => ?_) (.refl start)
      (fun line => (Client.Untouched.refl start).print line) fun _ => .refl start
    rw [registry] at resolved
    have shown : Keeps (Client.Untouched start start.dataset) (fun _ => False)
        (perform action ((Text.words line).drop consumed)) := by
      cases action with
      | help =>
          exact .bind .client fun _ =>
            .bind (.printAll (fun line _ untouched => untouched.print line) _) fun _ => .pure _
      | datasetPrint =>
          exact .bind .client fun _ => .bind (Client.Untouched.keeps_print _) fun _ => .pure _
      | datasetSet | datasetReset => exact absurd ⟨_, _, resolved, rfl⟩ stores
      | _ => cases needless _ _ resolved
    exact shown.mono (fun _ same => same ▸ .refl start) (fun _ _ untouched => untouched)
      (fun _ untouched _ => untouched) fun _ never => never

end Work

namespace Client

variable {settings : Settings} {dataset : Dataset} {start client : Client Action} {line : String}

theorem Untouched.of_expecting {interrupts : List (Option Nat)}
    (untouched : Untouched (start.expecting interrupts) dataset client) :
    Untouched start dataset client :=
  ⟨⟨untouched.session, untouched.leaving, untouched.shows⟩, untouched.outfit⟩

theorem leads_local (registry : start.registry = .builtIn) (needless : Local line) :
    Act.Leads (fun client => client = start) (runInterruptible (Work.dispatch line))
      (fun ran client => ran ≠ .interrupted ∧
        Untouched start ((stored? (line, ran)).getD start.dataset) client)
      (fun _ => False) := by
  have carries : ∀ interrupts, Work.Leads (fun client => client = start.expecting interrupts)
      (Work.dispatch line)
      (fun outcome => Untouched start
        ((stored? (line, .ended (.ok outcome))).getD start.dataset))
      (fun client => ∀ error, Untouched start
        ((stored? (line, .ended (.error error))).getD start.dataset) client)
      (fun _ => False) := by
    intro interrupts
    have same : (start.expecting interrupts).registry = .builtIn := registry
    exact (Work.leads_dispatch_of_local same needless).mono (fun _ same => same)
      (fun _ _ untouched => untouched.of_expecting)
      (fun _ untouched error => (untouched error).of_expecting) fun _ never => never
  refine (leads_runInterruptible carries).mono (fun _ same => same) (fun ran client came => ?_)
    fun _ never => never
  cases ran with
  | interrupted => exact came.elim
  | ended result =>
      refine ⟨nofun, ?_⟩
      cases result with
      | ok => exact came
      | error error => exact came error

/-- Of a line that needs no device the rest of the turn changes nothing either. -/
theorem Untouched.leads_endTurn (settled : start.Settled) (result : Except CommandError Outcome) :
    Act.Leads (Untouched start dataset) (endTurn (.ended result))
      (fun _ => Untouched start dataset) (fun _ => False) := by
  have prints : ∀ line, Act.Leads (Untouched start dataset) (Client.print line)
      (fun _ => Untouched start dataset) (fun _ => False) :=
    fun line _ client untouched => untouched.print line
  have shows : Act.Leads (Untouched start dataset) (showRan (.ended result))
      (fun _ => Untouched start dataset) (fun _ => False) := by
    unfold showRan
    split
    next => exact .pure fun _ untouched => untouched
    next => exact .bind .state fun _ => .weaken (fun _ read => read.2) (prints _)
    next => exact prints _
    next same => cases same
  have closes : Act.Leads (Untouched start dataset) discardClosed
      (fun _ => Untouched start dataset) (fun _ => False) := by
    intro limit client untouched
    have opened : client.session.any Session.isClosed = false := by
      rw [untouched.session]
      cases current : start.session with
      | none => rfl
      | some session =>
          have established := (settled.ready session current).1
          rw [Option.any_some, Session.isClosed, established]
          rfl
    rw [discardClosed_eq, opened]
    exact untouched
  exact .bind shows fun _ => .bind closes fun _ => .pure fun _ untouched => untouched

/-- **A line that needs no device is carried out at once** and leaves the session as it is. -/
theorem exists_untouched (registry : start.registry = .builtIn) (settled : start.Settled)
    (needless : Local line) (limit : Nat) :
    ∃ after dataset, runLine line limit start = (some (), after) ∧
      Untouched start dataset after := by
  have carried := leads_local registry needless limit start rfl
  rw [runLine_eq, Act.bind_apply]
  rcases ran : runInterruptible (Work.dispatch line) limit start with ⟨_ | ⟨result⟩ | _, ended⟩
  all_goals rw [ran] at carried
  case none => exact carried.elim
  case some.interrupted => exact absurd rfl carried.1
  case some.ended =>
    have rests := Untouched.leads_endTurn settled result limit ended carried.2
    rcases done : endTurn (.ended result) limit ended with ⟨_ | ⟨⟩, after⟩
    all_goals rw [done] at rests
    case none => exact rests.elim
    case some => exact ⟨after, _, done, rests⟩

/-! ## What turns leave of it -/

/-- No command but those that store a dataset changes what a client has. -/
theorem leads_line_furnished (furnished : Furnished settings dataset start) (line : String) :
    Act.Leads (fun client => client = start) (runInterruptible (Work.dispatch line))
      (fun ran => Furnished settings ((stored? (line, ran)).getD dataset))
      (Furnished settings dataset) := by
  by_cases stores : Stores line
  case pos =>
    obtain ⟨action, consumed, resolved, stores⟩ := stores
    have needless : Local line := fun other _ same => by
      cases resolved.symm.trans same
      exact Action.isLocal_of_storesDataset stores
    refine (leads_local furnished.registry_eq needless).mono (fun _ same => same)
      (fun ran client carried => ?_) fun _ never => never.elim
    rw [← furnished.dataset_eq]
    exact carried.2.furnished furnished
  case neg =>
    simp only [stored?_of_not_stores stores, Option.getD_none]
    refine (Furnished.enduring settings dataset).leads_line furnished
      (fun _ _ _ furnished => furnished.leads_scan) fun action consumed resolved yes => ?_
    rw [furnished.registry_eq] at resolved
    exact absurd ⟨action, consumed, resolved, yes⟩ stores

/-- **A turn replaces the dataset if its line stores one**, and changes nothing else of what the
client has besides its session. -/
theorem Turn.furnished {limit : Nat} {entered ended after : Client Action} {ran : Ran}
    (turn : Turn limit client line entered ran ended after)
    (furnished : Furnished settings dataset client) :
    Furnished settings ((stored? (line, ran)).getD dataset) after := by
  have enduring := Furnished.enduring settings ((stored? (line, ran)).getD dataset)
  have reads : Act.Keeps (Furnished settings dataset) (atTerminal (Terminal.readAnswer prompt)) :=
    .atTerminal_of_silent (.readAnswer prompt) (Furnished.enduring settings dataset).shows
  have still := reads.of_value furnished turn.read
  have carried := (leads_line_furnished still line).of_value rfl turn.ran
  exact (enduring.keeps_endTurn ran).of_value carried turn.endTurn_eq

/-! ## What becomes of the session -/

/-- What becomes of the session from a prompt at which the user enters a line to the next one. -/
inductive Inherits (before : Client Action) (line : String) (after : Client Action) : Prop where
  | gone (without : after.session = none)
  /-- It stays on its link. -/
  | same {id : Nat} (held : before.held = some id) (still : after.held = some id)
  /-- The line was a scan for devices, and the session is a new one, on a link that was opened and
  handed over since. -/
  | opened {consumed : Nat} {session : Session} {opening : List Event}
      (scans : Registry.builtIn.resolve (Text.words line) = .run .scan consumed)
      (current : after.session = some session) (secured : Secured before session opening)
      (since : opening <+: after.timeline.log)

/-- A client comes by no other link but by a scan for devices. -/
theorem lasting_held (link : Option Nat) :
    Lasting (fun client => ∀ id, client.held = some id → link = some id) where
  shows _ _ holds _ := holds
  store _ _ holds := holds
  moves client session talk _ _ holds current established moves := by
    intro id held
    rw [held_of_some rfl, Session.held, Option.map_eq_some_iff] at held
    obtain ⟨last, still, rfl⟩ := held
    obtain ⟨events, -, carries⟩ := moves.exists_carries (.inl established)
    obtain ⟨first, linked, number⟩ := carries.exists_id_eq still
    refine holds last.id ?_
    rw [held_of_some current, Session.held, linked, Option.map_some, number]
  letsGo := .of_snd fun limit client holds id held => by
    rw [held_of_none (invalidate_idles limit client).session] at held
    cases held
  without client _ id held := by
    rw [held_of_none rfl] at held
    cases held
  leave _ holds := holds
  expecting _ _ holds := holds

/-- What is on record stays there in front of what is added. -/
theorem enduring_grown (record : List Event) :
    Enduring (fun client => record <+: client.timeline.log) where
  shows _ _ grown quiet := grown.trans quiet.prefix_log
  moves _ _ _ _ _ grown _ _ moves := grown.trans moves.prefix_log
  letsGo := .of_snd fun limit client grown =>
    grown.trans (invalidate_parts limit client).quiet.prefix_log
  without _ grown := grown
  leave _ grown := grown
  expecting _ _ grown := grown

theorem exists_facing_of_read {limit : Nat} {answer : Option Answer} {entered : Client Action}
    (read : atTerminal (Terminal.readAnswer prompt) limit client = (answer, entered)) :
    ∃ terminal, entered = client.facing terminal ∧
      client.timeline.log <+: terminal.timeline.log := by
  have silent := Terminal.Silent.readAnswer prompt limit ⟨client.inputs, client.timeline⟩
  unfold atTerminal at read
  cases read
  exact ⟨_, rfl, silent.prefix_log⟩

/-- What was handed over since a line was read was handed over since the prompt. -/
theorem Secured.of_facing {terminal : Terminal} {session : Session} {opening : List Event}
    (secured : Secured (client.facing terminal) session opening)
    (since : client.timeline.log <+: terminal.timeline.log) : Secured client session opening where
  phase := secured.phase
  finished := secured.finished
  handover := by
    obtain ⟨link, held, handover⟩ := secured.handover
    exact ⟨link, held, handover.mono since fun _ offered => offered⟩

/-- **From one prompt to the next** the session stays on its link, is gone, or is a new one. -/
theorem Turn.inherits {limit : Nat} {entered ended after : Client Action} {ran : Ran}
    (turn : Turn limit client line entered ran ended after) (settled : client.Settled)
    (furnished : Furnished settings dataset client) : Inherits client line after := by
  have shown := shown_of_read turn.read
  have still : entered.Settled := shown.settled settled
  obtain ⟨terminal, rfl, since⟩ := exists_facing_of_read turn.read
  have rests := turn.rests settled
  by_cases scans : ∃ consumed, Registry.builtIn.resolve (Text.words line) = .run .scan consumed
  case pos =>
    obtain ⟨consumed, resolved⟩ := scans
    have named : (client.facing terminal).registry.resolve (Text.words line) =
        .run .scan consumed := furnished.registry_eq ▸ resolved
    have gone : ended.session = none → after.session = none := fun without => by
      rw [rests.session, without]
      rfl
    cases (leads_scan_ends still named).of_value rfl turn.ran with
    | failed without | stopped _ without | cancelled without => exact .gone (gone without)
    | connected current ready _ _ secured log =>
        have grown := ((enduring_grown ended.timeline.log).keeps_endTurn _).of_value
          (List.prefix_refl _) turn.endTurn_eq
        rw [log] at grown
        refine .opened resolved ?_ (secured.of_facing since)
          ((List.prefix_append _ _).trans grown)
        rw [rests.session, current, Option.filter_some, if_pos (decide_eq_true ready)]
  case neg =>
    have noScan : ∀ consumed, (client.facing terminal).registry.resolve (Text.words line) ≠
        .run .scan consumed := fun consumed resolved =>
      scans ⟨consumed, furnished.registry_eq ▸ resolved⟩
    have kept : Act.Leads (fun other => other = client.facing terminal) (runLine line)
        (fun _ other => ∀ id, other.held = some id → client.held = some id)
        (fun other => ∀ id, other.held = some id → client.held = some id) :=
      (lasting_held client.held).leads_runLine (fun _ held => held)
        fun consumed resolved => absurd resolved (noScan consumed)
    have stays := kept.of_value rfl turn.ended
    cases current : after.session with
    | none => exact .gone current
    | some session =>
        obtain ⟨link, linked⟩ :=
          Option.ne_none_iff_exists'.mp (rests.settled.ready session current).2.1
        have held : after.held = some link.id := by
          rw [held_of_some current, Session.held, linked, Option.map_some]
        exact .same (stays link.id held) held

end Client

/-! ## Commissioning -/

namespace Work

/-- The record that commissions a device with a dataset. -/
abbrev commissioning (dataset : Dataset) : Tlv :=
  .named .activeDataset dataset.octets

/-- Commissioning is one request. -/
theorem run_commission {client : Client Action} {session : Session} (limit : Nat)
    (current : client.session = some session) (established : session.phase = .established) :
    commission.run limit client =
      (((Conversation.request (commissioning client.dataset) limit
          ⟨session, client.timeline.note (.printed "Commissioning...")⟩).1.map
        fun result => (result.mapError .session).map .ofAnswer),
        (client.noted (.printed "Commissioning...")).holding
          (Conversation.request (commissioning client.dataset) limit
            ⟨session, client.timeline.note (.printed "Commissioning...")⟩).2) := by
  have connected : client.isConnected = true := by
    rw [Client.isConnected, current]
    exact decide_eq_true established
  have still : (client.noted (.printed "Commissioning...")).session = some session := current
  have read : ∀ client, Work.client.run limit client = (some (.ok client), client) := fun _ => rfl
  rw [commission, run_bind, run_needSession limit connected]
  simp only
  rw [run_print_bind, run_bind, read]
  simp only
  rw [run_bind, request, run_onCurrent_eq limit still established]
  simp only [Client.noted]
  rcases Conversation.request (commissioning client.dataset) limit
    ⟨session, client.timeline.note (.printed "Commissioning...")⟩ with ⟨_ | _ | _, talk⟩
  all_goals rfl

/-- It writes the record of the dataset, from the front, and does not fail for the length of a
value when sessions let through what a record can hold. -/
theorem exists_commission_front {client : Client Action} {session : Session} {dataset : Dataset}
    {wire : Octets} (limit : Nat) (current : client.session = some session)
    (established : session.phase = .established)
    (full : session.limits.maxValue = maxValueLength) (stored : client.dataset = dataset)
    (encoded : (commissioning dataset).encode = .ok wire) :
    ∃ events, (commission.run limit client).2.timeline.log = client.timeline.log ++ events ∧
      writes events <+: wire ∧ (PassedOn events → writes events = wire) ∧
      (∀ outcome, (commission.run limit client).1 = some (.ok outcome) → writes events = wire) ∧
      ∀ error, (commission.run limit client).1 ≠ some (.error (.session (.framing error))) := by
  subst stored
  have fits : ∀ error, (Conversation.request (commissioning client.dataset) limit
      ⟨session, client.timeline.note (.printed "Commissioning...")⟩).1 ≠
        some (.error (.framing error)) :=
    Conversation.request_ne_framing full client.dataset.fits limit
  obtain ⟨events, log, front, whole, succeeds⟩ := Conversation.request_front encoded limit
    ⟨session, client.timeline.note (.printed "Commissioning...")⟩
  rw [run_commission limit current established]
  refine ⟨[.printed "Commissioning..."] ++ events, ?_, front, fun passed => ?_, ?_, ?_⟩
  · rw [Client.holding, log, Timeline.note]
    exact List.append_assoc ..
  · rw [passedOn_append] at passed
    exact whole (passed.resolve_left (not_passedOn_printed _))
  all_goals
    rcases answered : Conversation.request (commissioning client.dataset) limit
      ⟨session, client.timeline.note (.printed "Commissioning...")⟩ with ⟨_ | _ | _, talk⟩
  case refine_3.none | refine_3.some.error => rintro _ ⟨⟩
  case refine_3.some.ok => exact fun _ _ => succeeds _ (congrArg Prod.fst answered)
  case refine_4.none | refine_4.some.ok => rintro _ ⟨⟩
  case refine_4.some.error =>
    rw [answered] at fits
    intro error same
    cases same
    exact fits error rfl

end Work

namespace Client

open Work (commissioning)

variable {settings : Settings} {dataset : Dataset} {start client : Client Action} {line : String}

/-- What a line that commissions a device with a dataset writes, and how it ends. -/
structure Commissions (dataset : Dataset) (entered : Client Action) (ran : Option Ran)
    (ended : Client Action) (wire : Octets) (events : List Event) : Prop where
  encoded : (commissioning dataset).encode = .ok wire
  log : ended.timeline.log = entered.timeline.log ++ events
  /-- Nothing is written but the record, from the front, -/
  front : writes events <+: wire
  /-- and all of it if its writing succeeds, so that the link has passed it on. -/
  whole : PassedOn events → writes events = wire
  succeeded : ∀ outcome, ran = some (.ended (.ok outcome)) → writes events = wire
  /-- No value is too long, neither the dataset nor that of the answer. -/
  fits : ∀ error, ran ≠ some (.ended (.error (.session (.framing error))))

theorem exists_commissions {consumed : Nat} (settled : client.Settled)
    (furnished : Furnished settings dataset client) (unbounded : settings.limits = .default)
    (resolved : Registry.builtIn.resolve (Text.words line) = .run .commission consumed)
    (limit : Nat) :
    ∃ wire events, Commissions dataset client
      (runInterruptible (Work.dispatch line) limit client).1
      (runInterruptible (Work.dispatch line) limit client).2 wire events := by
  obtain ⟨interrupts, moment, state, results⟩ := exists_moment (Work.dispatch line) limit client
  have encoded : (commissioning dataset).encode =
      .ok ((commissioning dataset).header ++ dataset.octets) := if_pos dataset.fits
  have named : (client.expecting interrupts).registry.resolve (Text.words line) =
      .run .commission consumed := furnished.registry_eq ▸ resolved
  cases current : client.session with
  | none =>
      have still : (client.expecting interrupts).session = none := current
      rw [Work.run_dispatch_of_none named rfl moment still] at state results
      refine ⟨_, [], encoded, ?_, List.nil_prefix, nofun, fun outcome came => ?_,
        fun error came => ?_⟩
      · rw [state, List.append_nil]
        rfl
      · cases results _ came
      · cases results _ came
  | some session =>
      have still : (client.expecting interrupts).session = some session := current
      have established := (settled.ready session current).1
      have full : session.limits.maxValue = maxValueLength := by
        rw [furnished.bounded session current, unbounded]
        rfl
      have stored : (client.expecting interrupts).dataset = dataset := furnished.dataset_eq
      obtain ⟨events, log, front, whole, succeeded, fits⟩ :=
        Work.exists_commission_front moment still established full stored encoded
      rw [Work.run_dispatch named, Work.perform] at state results
      exact ⟨_, events, encoded, state ▸ log, front, whole,
        fun outcome came => succeeded outcome (results _ came),
        fun error came => fits error (results _ came)⟩

/-! ## Prompts and the turns before them -/

/-- A client is at a prompt of the loop, with so many turns left to go, behind turns with these
lines, whose commands came out so. -/
inductive Course (limit : Nat) (start : Client Action) :
    Nat → List (String × Ran) → Client Action → Prop where
  | first : Course limit start (start.inputs.length + 1) [] start
  | next {turns : Nat} {history : List (String × Ran)} {client entered ended after : Client Action}
      {line : String} {ran : Ran} (earlier : Course limit start (turns + 1) history client)
      (turn : Turn limit client line entered ran ended after) :
      Course limit start turns (history ++ [(line, ran)]) after

theorem Prompts.exists_course {limit turns : Nat} (prompts : Prompts limit start turns client) :
    ∃ history, Course limit start turns history client := by
  induction prompts with
  | first => exact ⟨[], .first⟩
  | @next _ client entered after line _ stays read ran ih =>
      obtain ⟨history, course⟩ := ih
      obtain ⟨came, ended, turn⟩ := exists_turn stays read ran
      exact ⟨_, course.next turn⟩

/-- The dataset that was stored last, or the built-in one. -/
def lastStored (history : List (String × Ran)) : Dataset :=
  (history.filterMap stored?).getLast?.getD .builtIn

theorem lastStored_concat (history : List (String × Ran)) (turn : String × Ran) :
    lastStored (history ++ [turn]) = (stored? turn).getD (lastStored history) := by
  unfold lastStored
  rw [List.filterMap_append]
  cases stores : stored? turn with
  | none => simp [stores]
  | some dataset => simp [stores]

/-- **At a prompt the dataset is the one stored last.** -/
theorem Course.furnished {limit turns : Nat} {history : List (String × Ran)}
    (course : Course limit start turns history client)
    (furnished : Furnished settings .builtIn start) :
    Furnished settings (lastStored history) client := by
  induction course with
  | first => exact furnished
  | next _ turn ih =>
      rw [lastStored_concat]
      exact turn.furnished ih

/-- **What a client holds at a prompt.** In a run with the built-in commands and the default bounds
of sessions, whatever the user enters, however devices and their links behave and wherever commands
are interrupted: at each prompt the dataset is the one that was stored last, and it fits in one
record. A line that commissions a device writes the record of this dataset and nothing else, and
never fails for the length of a value. From one prompt to the next the session stays on its link, is
gone, or is on a link that a scan for devices opened. A line for which no device is needed is carried
out at once and leaves the session, what it has received and its link as they are. -/
theorem holdings_at_prompts {surroundings : Surroundings} {inputs : List Input}
    {limit turns : Nat} (unbounded : settings.limits = .default)
    (prompts : Prompts limit (Client.start .builtIn settings surroundings inputs) turns client) :
    run limit (Client.start .builtIn settings surroundings inputs) = runTurns turns limit client ∧
    (∃ history,
      Course limit (Client.start .builtIn settings surroundings inputs) turns history client ∧
      client.dataset = lastStored history) ∧
    1 ≤ client.dataset.size ∧ client.dataset.size ≤ 65535 ∧
    ∀ {line : String} {entered : Client Action}, client.exitRequested = false →
      atTerminal (Terminal.readAnswer prompt) limit client = (some (.line line), entered) →
        (∀ consumed, Registry.builtIn.resolve (Text.words line) = .run .commission consumed →
          ∃ wire events, Commissions client.dataset entered
            (runInterruptible (Work.dispatch line) limit entered).1
            (runInterruptible (Work.dispatch line) limit entered).2 wire events) ∧
        (∀ after, runLine line limit entered = (some (), after) → Inherits client line after) ∧
        (Local line → ∃ after, runLine line limit entered = (some (), after) ∧
          after.session = client.session ∧ client.timeline.Adds Event.shown after.timeline) := by
  have settled := prompts.settled (settled_start .builtIn settings surroundings inputs)
  obtain ⟨history, course⟩ := prompts.exists_course
  have furnished := course.furnished (.of_start settings surroundings inputs)
  refine ⟨prompts.run_eq, ⟨history, course, furnished.dataset_eq⟩,
    List.length_pos_iff.mpr client.dataset.nonempty, client.dataset.fits, ?_⟩
  intro line entered stays read
  have shown := shown_of_read read
  have still := shown.settled settled
  have kept : Furnished settings client.dataset entered := by
    obtain ⟨terminal, rfl, -⟩ := exists_facing_of_read read
    rw [furnished.dataset_eq]
    exact ⟨furnished.outfit, furnished.bounded⟩
  refine ⟨fun consumed resolved => exists_commissions still kept unbounded resolved limit,
    fun after ran => ?_, fun needless => ?_⟩
  · obtain ⟨came, ended, turn⟩ := exists_turn stays read ran
    exact turn.inherits settled furnished
  · obtain ⟨after, _, ran, untouched⟩ := exists_untouched kept.registry_eq still needless limit
    exact ⟨after, ran, untouched.session.trans shown.session, shown.shows.trans untouched.shows⟩

/-! ## A user who commissions a device -/

/-- One device is found, which takes what it is sent and answers with one record. -/
def answeringSurroundings : Surroundings where
  searches := [⟨some 0, .ok [⟨"TBR", "AA:BB:CC:DD:EE:01", some (-48)⟩]⟩]
  openings := [⟨some 0, .ok ⟨[.octets [0x01, 0x01, 0x00] 10], [], [], .orderly⟩⟩]
  credentials := []
  interrupts := []

/-- A user who connects to the device, sets a dataset, fails to set another one and commissions. -/
def commissioningClient : Client Action :=
  Client.start .builtIn .default answeringSurroundings
    (["scan", "1", "dataset set 0e0f", "dataset set 0e0", "commission"].map
      fun line => ⟨some 0, .line line⟩)

/-- The client at the prompt at which the user commissions the device. -/
def equippedClient : Client Action :=
  ((commissioningClient.answered.passed "scan").answered.passed
    "dataset set 0e0f").answered.passed "dataset set 0e0"

theorem prompts_equipped : Prompts 1000 commissioningClient 3 equippedClient := by
  have atFirst : Prompts 1000 commissioningClient 6 commissioningClient := .first
  have connected := atFirst.passed "scan" (by decide +kernel) (by decide +kernel)
    (by decide +kernel)
  have set := connected.passed "dataset set 0e0f" (by decide +kernel) (by decide +kernel)
    (by decide +kernel)
  exact set.passed "dataset set 0e0" (by decide +kernel) (by decide +kernel) (by decide +kernel)

/-- The device is commissioned with the dataset that was set with success. -/
theorem holdings_at_prompts_commissioned :
    ∃ events, equippedClient.dataset.octets = [0x0e, 0x0f] ∧
      (equippedClient.answered.stopped "commission").timeline.log =
        equippedClient.answered.timeline.log ++ events ∧
      writes events = [0x20, 0x02, 0x0e, 0x0f] := by
  obtain ⟨-, -, -, -, lines⟩ := holdings_at_prompts rfl prompts_equipped
  have read : (atTerminal (Terminal.readAnswer prompt) 1000 equippedClient).1 =
      some (.line "commission") := by
    decide +kernel
  obtain ⟨commissions, -, -⟩ := lines (by decide +kernel) (readAnswer_eq_answered read)
  obtain ⟨wire, events, commissioned⟩ := commissions 1 (by decide +kernel)
  have stored : equippedClient.dataset.octets = [0x0e, 0x0f] := by decide +kernel
  have spelled : (commissioning equippedClient.dataset).encode = .ok [0x20, 0x02, 0x0e, 0x0f] := by
    decide +kernel
  have succeeded : (runInterruptible (Work.dispatch "commission") 1000
      equippedClient.answered).1.any Ran.succeeded = true := by
    decide +kernel
  refine ⟨events, stored, commissioned.log, ?_⟩
  cases spelled.symm.trans commissioned.encoded
  rcases came : (runInterruptible (Work.dispatch "commission") 1000 equippedClient.answered).1 with
    _ | ⟨_ | outcome⟩ | _
  all_goals rw [came] at succeeded
  case some.ended.ok => exact commissioned.succeeded outcome came
  all_goals cases succeeded

end Client

end Commissioner
