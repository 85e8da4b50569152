import Commissioner.Proofs.Client.Steps
import Commissioner.Proofs.Command.Resolve

/-!
# What help lists

Help lists the commands of a table in preorder: every command with its two lines, set in by its
depth, and what belongs to a group right behind it (`Registry.listing`). Names lead to a command
just when it is listed under them (`Registry.mem_listing_iff`). So the paths under which help
lists commands that do something are the words that resolve whole, and any words resolve to the
one command under whose path they begin (`Registry.help_lists_runnable`).
-/

set_option autoImplicit false

namespace Commissioner

variable {α : Type}

/-! ## Lines -/

/-- A text behind four blanks for each level. -/
def setIn (level : Nat) (text : String) : String :=
  String.ofList (List.replicate (4 * level) ' ' ++ text.toList)

theorem flatMap_replicate_blanks (level : Nat) :
    (List.replicate level "    ").flatMap String.toList = List.replicate (4 * level) ' ' := by
  have blanks : "    ".toList = List.replicate 4 ' ' := rfl
  induction level with
  | zero => rfl
  | succ level ih =>
      rw [List.replicate_succ, List.flatMap_cons, ih, blanks, List.replicate_append_replicate,
        Nat.mul_succ, Nat.add_comm]

/-- A line of help is its text, set in by its level. -/
theorem helpLine_eq_setIn (level : Nat) (text : String) :
    helpLine level text = setIn level text := by
  rw [helpLine, setIn, String.ofList_append, String.ofList_toList, ← flatMap_replicate_blanks,
    ← String.toList_join, String.ofList_toList]

/-! ## The listing -/

/-- A command in a table, with the groups above it. -/
structure Listed (α : Type) where
  /-- The names of the groups that lead to it, outermost first. -/
  above : List String
  name : String
  command : Command α

namespace Listed

/-- The names that lead to the command, its own the last of them. -/
def path (listed : Listed α) : List String :=
  listed.above ++ [listed.name]

/-- The command as it is listed below one more name. -/
def under (name : String) (listed : Listed α) : Listed α :=
  { listed with above := name :: listed.above }

/-- The two lines of help for a command that is listed `depth` levels below the margin: its name,
and what it is for one level further in. -/
def linesAt (depth : Nat) (listed : Listed α) : List String :=
  [setIn (depth + listed.above.length) listed.name,
    setIn (depth + listed.above.length + 1) listed.command.help]

theorem linesAt_under (depth : Nat) (name : String) (listed : Listed α) :
    (listed.under name).linesAt depth = listed.linesAt (depth + 1) := by
  simp only [linesAt, under, List.length_cons, Nat.add_assoc, Nat.add_comm 1]

theorem mem_map_under_iff {name first last : String} {above : List String} {command : Command α}
    {listing : List (Listed α)} :
    ⟨first :: above, last, command⟩ ∈ listing.map (under name) ↔
      first = name ∧ ⟨above, last, command⟩ ∈ listing := by
  rw [List.mem_map]
  constructor
  · rintro ⟨listed, member, same⟩
    cases same
    exact ⟨rfl, member⟩
  · rintro ⟨rfl, member⟩
    exact ⟨_, member, rfl⟩

end Listed

mutual

/-- The commands below a command, each in front of those below it. -/
def Command.listing {α : Type} : Command α → List (Listed α)
  | .leaf _ _ => []
  | .group _ subcommands => subcommands.listing

/-- The commands of a table and all below them, each in front of those below it. -/
def Registry.listing {α : Type} : Registry α → List (Listed α)
  | .empty => []
  | .entry name command rest =>
      ⟨[], name, command⟩ :: command.listing.map (Listed.under name) ++ rest.listing

end

mutual

theorem Command.helpLines_eq (depth : Nat) (name : String) : ∀ command : Command α,
    command.helpLines depth name =
      Listed.linesAt depth ⟨[], name, command⟩ ++
        command.listing.flatMap (Listed.linesAt (depth + 1))
  | .leaf _ _ => by
      rw [Command.helpLines, helpLine_eq_setIn, helpLine_eq_setIn]
      rfl
  | .group _ subcommands => by
      rw [Command.helpLines, helpLine_eq_setIn, helpLine_eq_setIn,
        Registry.helpLinesAt_eq (depth + 1) subcommands]
      rfl

theorem Registry.helpLinesAt_eq (depth : Nat) : ∀ registry : Registry α,
    registry.helpLinesAt depth = registry.listing.flatMap (Listed.linesAt depth)
  | .empty => rfl
  | .entry name command rest => by
      rw [Registry.helpLinesAt, Command.helpLines_eq depth name command,
        Registry.helpLinesAt_eq depth rest, Registry.listing, List.flatMap_append,
        List.flatMap_cons, List.flatMap_map]
      simp only [Listed.linesAt_under]

end

/-! ## Paths -/

theorem Listed.exists_path_eq (listed : Listed α) :
    ∃ first names, listed.path = first :: names :=
  List.exists_cons_of_ne_nil
    (List.append_ne_nil_of_right_ne_nil listed.above (List.cons_ne_nil listed.name []))

mutual

/-- A command is listed below another just where names lead to it. -/
theorem Command.mem_listing_iff {listed : Listed α} : ∀ {command : Command α},
    command.Distinct →
      (listed ∈ command.listing ↔ command.below? listed.path = some listed.command)
  | .leaf help action, _ => by
      obtain ⟨first, names, path⟩ := listed.exists_path_eq
      rw [Command.listing, path, Command.below?_leaf]
      exact ⟨nofun, nofun⟩
  | .group help subcommands, distinct => by
      obtain ⟨first, names, path⟩ := listed.exists_path_eq
      rw [Command.listing, Registry.mem_listing_iff distinct, path, Command.below?_group]

/-- A command is listed just where names lead to it. -/
theorem Registry.mem_listing_iff {listed : Listed α} : ∀ {registry : Registry α},
    registry.Distinct →
      (listed ∈ registry.listing ↔ registry.at? listed.path = some listed.command)
  | .empty, _ => by
      obtain ⟨first, names, path⟩ := listed.exists_path_eq
      rw [path, Registry.at?_of_not_mem List.not_mem_nil]
      exact ⟨nofun, nofun⟩
  | .entry name command rest, ⟨fresh, kept, distinct⟩ => by
      obtain ⟨above, last, listed⟩ := listed
      rw [Registry.listing, List.cons_append, List.mem_cons, List.mem_append,
        Registry.mem_listing_iff distinct]
      cases above with
      | nil =>
          have apart :
              (⟨[], last, listed⟩ : Listed α) ∉ command.listing.map (Listed.under name) := by
            rw [List.mem_map]
            rintro ⟨other, -, same⟩
            cases same
          rw [or_iff_right apart]
          by_cases same : name = last
          · subst same
            rw [Listed.path, List.nil_append, Registry.at?_of_not_mem fresh,
              Registry.at?_entry_self, Command.below?]
            simp [eq_comm]
          · rw [Listed.path, List.nil_append, Registry.at?_entry_of_ne same]
            simp [Ne.symm same]
      | cons first above =>
          have path : Listed.path ⟨first :: above, last, listed⟩ =
            first :: Listed.path ⟨above, last, listed⟩ := rfl
          rw [Listed.mem_map_under_iff, Command.mem_listing_iff kept, path]
          by_cases same : name = first
          · subst same
            rw [Registry.at?_of_not_mem fresh, Registry.at?_entry_self]
            simp
          · rw [Registry.at?_entry_of_ne same]
            simp [Ne.symm same]

end

/-! ## Preorder -/

/-- The table that names lead to. -/
def Registry.table? (registry : Registry α) : List String → Option (Registry α)
  | [] => some registry
  | name :: names => (registry.at? (name :: names)).bind Command.subcommands?

/-- Names come before others in preorder: they are the front of the others, or at the table
where the two part their name was entered earlier. -/
def Registry.Precedes (registry : Registry α) (first second : List String) : Prop :=
  (first <+: second ∧ first ≠ second) ∨
    ∃ shared table one ones other others, registry.table? shared = some table ∧
      first = shared ++ one :: ones ∧ second = shared ++ other :: others ∧
      table.names.idxOf one < table.names.idxOf other

namespace Registry

theorem Precedes.ne {registry : Registry α} {first second : List String}
    (precedes : registry.Precedes first second) : first ≠ second := by
  rcases precedes with ⟨-, apart⟩ | ⟨shared, table, one, ones, other, others, -, rfl, rfl, earlier⟩
  · exact apart
  · intro same
    cases List.append_cancel_left same
    exact Nat.lt_irrefl _ earlier

variable {name help : String} {command : Command α} {subcommands rest : Registry α}
  {first second : List String}

/-- Names come before others below a group as they do in it. -/
theorem Precedes.under (precedes : subcommands.Precedes first second) :
    (entry name (.group help subcommands) rest).Precedes (name :: first) (name :: second) := by
  rcases precedes with ⟨front, apart⟩ |
    ⟨shared, table, one, ones, other, others, led, rfl, rfl, earlier⟩
  · exact .inl ⟨List.cons_prefix_cons.mpr ⟨rfl, front⟩, fun same => apart (List.cons.inj same).2⟩
  · refine .inr ⟨name :: shared, table, one, ones, other, others, ?_, rfl, rfl, earlier⟩
    rw [table?, at?_entry_self]
    cases shared with
    | nil => exact led
    | cons => exact led

theorem mem_names_of_at? {names : List String} (led : rest.at? (name :: names) = some command) :
    name ∈ rest.names := by
  by_contra fresh
  rw [at?_of_not_mem fresh] at led
  cases led

/-- Names come before others behind an entry as they do without it. -/
theorem Precedes.behind (fresh : name ∉ rest.names) (apart : ∀ names, second ≠ name :: names)
    (precedes : rest.Precedes first second) :
    (entry name command rest).Precedes first second := by
  rcases precedes with front | ⟨shared, table, one, ones, other, others, led, rfl, rfl, earlier⟩
  · exact .inl front
  · cases shared with
    | nil =>
        cases led
        have known : one ∈ rest.names :=
          List.idxOf_lt_length_iff.mp (Nat.lt_of_lt_of_le earlier List.idxOf_le_length)
        have first : name ≠ one := fun same => fresh (same ▸ known)
        have second : name ≠ other := fun same => apart others (by rw [same]; rfl)
        refine .inr ⟨[], _, one, ones, other, others, rfl, rfl, rfl, ?_⟩
        rw [names, List.idxOf_cons_ne _ first, List.idxOf_cons_ne _ second]
        exact Nat.succ_lt_succ earlier
    | cons next shared =>
        obtain ⟨group, found, -⟩ := Option.bind_eq_some_iff.mp led
        have other : name ≠ next := fun same => fresh (same ▸ mem_names_of_at? found)
        refine .inr ⟨next :: shared, table, one, ones, _, others, ?_, rfl, rfl, earlier⟩
        rw [table?, at?_entry_of_ne other]
        exact led

theorem exists_mem_names_of_mem_listing {registry : Registry α} (distinct : registry.Distinct)
    {path : List String} (member : path ∈ registry.listing.map Listed.path) :
    ∃ name names, path = name :: names ∧ name ∈ registry.names := by
  obtain ⟨listed, inside, rfl⟩ := List.mem_map.mp member
  obtain ⟨name, names, path⟩ := listed.exists_path_eq
  have led := (mem_listing_iff distinct).mp inside
  rw [path] at led
  exact ⟨name, names, path, mem_names_of_at? led⟩

theorem map_path_listing_entry :
    (entry name command rest).listing.map Listed.path =
      ([name] :: (command.listing.map Listed.path).map (name :: ·)) ++
        rest.listing.map Listed.path := by
  rw [listing, List.map_append, List.map_cons, List.map_map, List.map_map]
  rfl

/-- The commands are listed in preorder. -/
theorem pairwise_listing : ∀ {registry : Registry α}, registry.Distinct →
    (registry.listing.map Listed.path).Pairwise registry.Precedes
  | .empty, _ => .nil
  | .entry name command rest, ⟨fresh, kept, distinct⟩ => by
      rw [map_path_listing_entry]
      refine List.pairwise_append.mpr ⟨List.pairwise_cons.mpr ⟨?first, ?below⟩, ?rest, ?across⟩
      case first =>
        intro path member
        obtain ⟨_, inside, rfl⟩ := List.mem_map.mp member
        obtain ⟨listed, -, rfl⟩ := List.mem_map.mp inside
        obtain ⟨next, names, path⟩ := listed.exists_path_eq
        rw [path]
        exact .inl ⟨⟨next :: names, rfl⟩, nofun⟩
      case below =>
        cases command with
        | leaf => exact .nil
        | group help subcommands =>
            exact (pairwise_listing kept).map _ fun _ _ precedes => precedes.under
      case rest =>
        refine (pairwise_listing distinct).imp_of_mem fun {first second} _ member precedes => ?_
        obtain ⟨other, names, rfl, known⟩ := exists_mem_names_of_mem_listing distinct member
        exact precedes.behind fresh fun _ same => fresh ((List.cons.inj same).1 ▸ known)
      case across =>
        intro first inside second member
        obtain ⟨other, names, rfl, known⟩ := exists_mem_names_of_mem_listing distinct member
        obtain ⟨above, rfl⟩ : ∃ above, first = name :: above := by
          rcases List.mem_cons.mp inside with rfl | inside
          · exact ⟨[], rfl⟩
          · obtain ⟨above, -, rfl⟩ := List.mem_map.mp inside
            exact ⟨above, rfl⟩
        have apart : name ≠ other := fun same => fresh (same ▸ known)
        refine .inr ⟨[], _, name, above, other, names, rfl, rfl, rfl, ?_⟩
        rw [Registry.names, List.idxOf_cons_self, List.idxOf_cons_ne _ apart]
        exact Nat.succ_pos _

end Registry

/-! ## Resolving words -/

section Resolving

variable {registry : Registry α} {words path : List String} {action : α} {consumed : Nat}

/-- A command that does something is listed under a path. -/
def Registry.Lists (registry : Registry α) (path : List String) (action : α) : Prop :=
  ∃ listed ∈ registry.listing, listed.path = path ∧ ∃ help, listed.command = .leaf help action

theorem Registry.lists_iff (distinct : registry.Distinct) :
    registry.Lists path action ↔ ∃ help, registry.at? path = some (.leaf help action) := by
  constructor
  · rintro ⟨listed, member, rfl, help, does⟩
    exact ⟨help, by rw [(mem_listing_iff distinct).mp member, does]⟩
  · rintro ⟨help, led⟩
    rcases List.eq_nil_or_concat' path with rfl | ⟨above, name, rfl⟩
    · cases led
    · exact ⟨⟨above, name, .leaf help action⟩, (mem_listing_iff distinct).mpr led, rfl, help, rfl⟩

/-- Words resolve to an action just when the front of them is a path under which it is listed. -/
theorem Registry.resolve_eq_run_iff_lists (distinct : registry.Distinct) :
    registry.resolve words = .run action consumed ↔
      ∃ path, registry.Lists path action ∧ path <+: words ∧ path.length = consumed := by
  simp only [resolve_eq_run_iff, lists_iff distinct]
  constructor
  · rintro ⟨path, help, front, led, count⟩
    exact ⟨path, ⟨help, led⟩, front, count⟩
  · rintro ⟨path, ⟨help, led⟩, front, count⟩
    exact ⟨path, help, front, led, count⟩

/-- Help and words go by the same table. -/
structure Registry.Guides (registry : Registry α) : Prop where
  /-- Help has two lines for each command: its name behind four blanks for each group above it,
  and what it is for behind four more. -/
  helpLines : registry.helpLines = registry.listing.flatMap (Listed.linesAt 0)
  /-- The commands listed are those that names lead to. -/
  complete : ∀ listed, listed ∈ registry.listing ↔
    registry.at? listed.path = some listed.command
  /-- They are listed in preorder, each of them once. -/
  preorder : (registry.listing.map Listed.path).Pairwise registry.Precedes
  once : (registry.listing.map Listed.path).Nodup
  /-- The paths under which actions are listed are the words that resolve whole. -/
  listed : ∀ path action,
    registry.Lists path action ↔ registry.resolve path = .run action path.length
  /-- Words resolve to the action under the path that they begin with, and there is no more than
  one such path. -/
  runs : ∀ words action consumed, registry.resolve words = .run action consumed ↔
    ∃ path, registry.Lists path action ∧ path <+: words ∧ path.length = consumed
  unique : ∀ words path other action another, registry.Lists path action →
    registry.Lists other another → path <+: words → other <+: words →
      path = other ∧ action = another
  /-- What is consumed is at least one word, and no more than there are. -/
  consumed : ∀ words action consumed, registry.resolve words = .run action consumed →
    1 ≤ consumed ∧ consumed ≤ words.length
  unknown : ∀ words name, registry.resolve words = .unknown name ↔
    words.head? = some name ∧ name ∉ registry.names
  /-- In every other case a further command is missing. -/
  missing : ∀ words, registry.resolve words = .missingSubcommand ↔
    (∀ path action, registry.Lists path action → ¬ path <+: words) ∧
      ∀ name, words.head? = some name → name ∈ registry.names

theorem Registry.Distinct.guides (distinct : registry.Distinct) : registry.Guides where
  helpLines := helpLinesAt_eq 0 registry
  complete _ := mem_listing_iff distinct
  preorder := pairwise_listing distinct
  once := (pairwise_listing distinct).imp fun precedes => precedes.ne
  listed path action := by
    rw [resolve_eq_run_iff_lists distinct]
    constructor
    · exact fun lists => ⟨path, lists, List.prefix_rfl, rfl⟩
    · rintro ⟨other, lists, front, whole⟩
      exact front.eq_of_length whole ▸ lists
  runs _ _ _ := resolve_eq_run_iff_lists distinct
  unique words path other action another lists also front begins := by
    have first := (resolve_eq_run_iff_lists distinct).mpr ⟨path, lists, front, rfl⟩
    have second := (resolve_eq_run_iff_lists distinct).mpr ⟨other, also, begins, rfl⟩
    obtain ⟨same, count⟩ := Resolution.run.inj (first.symm.trans second)
    have shorter := List.prefix_of_prefix_length_le front begins (Nat.le_of_eq count)
    exact ⟨shorter.eq_of_length count, same⟩
  consumed words action consumed resolved := by
    obtain ⟨path, ⟨listed, -, rfl, -⟩, front, rfl⟩ :=
      (resolve_eq_run_iff_lists distinct).mp resolved
    refine ⟨?_, front.length_le⟩
    rw [Listed.path, List.length_append]
    exact Nat.le_add_left 1 _
  unknown _ _ := resolve_eq_unknown_iff
  missing words := by
    constructor
    · intro missing
      constructor
      · intro path action lists front
        have runs := (resolve_eq_run_iff_lists distinct).mpr ⟨path, lists, front, rfl⟩
        rw [missing] at runs
        cases runs
      · intro name first
        by_contra fresh
        have unknown := resolve_eq_unknown_iff.mpr ⟨first, fresh⟩
        rw [missing] at unknown
        cases unknown
    · rintro ⟨unlisted, known⟩
      cases resolved : registry.resolve words with
      | run action consumed =>
          obtain ⟨path, lists, front, -⟩ := (resolve_eq_run_iff_lists distinct).mp resolved
          exact absurd front (unlisted path action lists)
      | missingSubcommand => rfl
      | unknown name =>
          obtain ⟨first, fresh⟩ := resolve_eq_unknown_iff.mp resolved
          exact absurd (known name first) fresh

end Resolving

/-! ## Help and what can be run -/

/-- **Help lists what can be run.** -/
theorem Registry.help_lists_runnable {registry : Registry Action} (built : registry.Built) :
    registry.Guides ∧
      ∀ (client : Client Action) (limit : Nat) (line : String) (path arguments : List String)
        (action : Action), client.registry = registry → registry.Lists path action →
          Text.words line = path ++ arguments →
            (Work.dispatch line).run limit client =
              (Work.perform action arguments).run limit client := by
  have guides := built.distinct.guides
  refine ⟨guides, fun client limit line path arguments action same lists words => ?_⟩
  subst same
  have resolved := (guides.runs (Text.words line) action path.length).mpr
    ⟨path, lists, words ▸ List.prefix_append path arguments, rfl⟩
  rw [Work.run_dispatch resolved, words, List.drop_left]

theorem Registry.built_builtIn : Registry.builtIn.Built := by
  refine .ofList ?_
  simp only [List.forall_mem_cons, Command.Built.leaf, true_and]
  refine ⟨.group _ (.ofList ?_), .group _ (.ofList ?_), .group _ (.ofList ?_),
    .group _ (.ofList ?_), nofun⟩
  all_goals simp [Command.Built.leaf]

/-- Words behind the name of a command are its arguments. -/
theorem Registry.help_lists_runnable_builtIn :
    Registry.builtIn.Built ∧
      Registry.builtIn.resolve ["wifi", "scan", "now"] = .run .wifiScan 2 ∧
      ∀ limit, (Work.dispatch " wifi scan now").run limit
          (Client.start Registry.builtIn .default default []) =
        (Work.perform .wifiScan ["now"]).run limit
          (Client.start Registry.builtIn .default default []) := by
  obtain ⟨guides, dispatched⟩ := Registry.help_lists_runnable Registry.built_builtIn
  have lists : Registry.builtIn.Lists ["wifi", "scan"] .wifiScan :=
    (guides.listed _ _).mpr (by decide +kernel)
  refine ⟨Registry.built_builtIn, ?_, fun limit => ?_⟩
  · exact (guides.runs _ _ _).mpr ⟨_, lists, by decide, rfl⟩
  · exact dispatched _ limit _ ["wifi", "scan"] ["now"] _ rfl lists (by decide +kernel)

end Commissioner
