import Commissioner.Command.BuiltIn
import Commissioner.Proofs.Command.Entries

/-!
# What words resolve to

Words resolve to an action just when the front of them leads to it in the table of commands
(`Registry.resolve_eq_run_iff`), and any further words are its arguments
(`Registry.resolve_append`). The first word is unknown just when it names no command of the table
(`Registry.resolve_eq_unknown_iff`). The actions of a table stand under paths of names
(`Registry.paths`), and what leads to one of them is its path (`Registry.mem_paths_of_resolve`).
-/

set_option autoImplicit false

namespace Commissioner

variable {α : Type}

/-! ## Resolving words -/

section Resolving

variable {registry : Registry α} {command : Command α} {word : String} {words path : List String}
  {action : α} {before after consumed : Nat}

/-- Names lead to an action through the command under the first of them. -/
theorem Registry.exists_at?_iff :
    (∃ path help, path <+: word :: words ∧ registry.at? path = some (.leaf help action) ∧
        path.length + before = after) ↔
      ∃ command, registry.find? word = some command ∧
        ∃ path help, path <+: words ∧ command.below? path = some (.leaf help action) ∧
          path.length + (before + 1) = after := by
  constructor
  · rintro ⟨path, help, front, led, count⟩
    cases path with
    | nil => cases led
    | cons name path =>
        obtain ⟨rfl, short⟩ := List.cons_prefix_cons.mp front
        obtain ⟨command, found, led⟩ := Option.bind_eq_some_iff.mp led
        rw [List.length_cons, Nat.add_assoc, Nat.add_comm 1] at count
        exact ⟨command, found, path, help, short, led, count⟩
  · rintro ⟨command, found, path, help, front, led, count⟩
    refine ⟨word :: path, help, List.cons_prefix_cons.mpr ⟨rfl, front⟩, ?_, ?_⟩
    · rw [at?, found]
      exact led
    · rw [List.length_cons, Nat.add_assoc, Nat.add_comm 1]
      exact count

theorem Command.follow_leaf_eq_run_iff {help : String} {found : α} :
    (leaf help found).follow before words = .run action after ↔
      ∃ path help', path <+: words ∧ (leaf help found).below? path = some (.leaf help' action) ∧
        path.length + before = after := by
  have stops : (leaf help found).follow before words = .run found before := by
    cases words <;> rfl
  rw [stops]
  constructor
  · rintro ⟨⟩
    exact ⟨[], help, List.nil_prefix, rfl, Nat.zero_add before⟩
  · rintro ⟨path, help', front, led, rfl⟩
    cases path with
    | nil =>
        cases led
        rw [List.length_nil, Nat.zero_add]
    | cons => cases led

theorem Command.below?_group_eq_leaf_iff {help help' : String} {subcommands : Registry α} :
    (group help subcommands).below? path = some (.leaf help' action) ↔
      subcommands.at? path = some (.leaf help' action) := by
  cases path with
  | nil => exact ⟨nofun, nofun⟩
  | cons => exact .rfl

/-- Words resolve to an action below a command just when names in front of them lead to it. -/
theorem Command.follow_eq_run_iff :
    command.follow before words = .run action after ↔
      ∃ path help, path <+: words ∧ command.below? path = some (.leaf help action) ∧
        path.length + before = after := by
  induction words generalizing command before with
  | nil =>
      cases command with
      | leaf => exact follow_leaf_eq_run_iff
      | group =>
          constructor
          · exact nofun
          · rintro ⟨path, help, front, led, -⟩
            cases List.prefix_nil.mp front
            cases led
  | cons word words ih =>
      cases command with
      | leaf => exact follow_leaf_eq_run_iff
      | group help subcommands =>
          simp only [below?_group_eq_leaf_iff]
          rw [Registry.exists_at?_iff, follow]
          cases found : subcommands.find? word with
          | none => exact ⟨nofun, nofun⟩
          | some next => simp only [ih, Option.some.injEq, exists_eq_left']

/-- Words resolve to an action just when the front of them leads to it. -/
theorem Registry.resolve_eq_run_iff :
    registry.resolve words = .run action consumed ↔
      ∃ path help, path <+: words ∧ registry.at? path = some (.leaf help action) ∧
        path.length = consumed := by
  cases words with
  | nil =>
      constructor
      · exact nofun
      · rintro ⟨path, help, front, led, -⟩
        cases List.prefix_nil.mp front
        cases led
  | cons word words =>
      refine Iff.trans ?_ (@exists_at?_iff α registry word words action 0 consumed).symm
      rw [resolve]
      cases found : registry.find? word with
      | none => exact ⟨nofun, nofun⟩
      | some command =>
          simp only [Command.follow_eq_run_iff, Option.some.injEq, exists_eq_left']

/-- Words behind those that lead to an action are its arguments. -/
theorem Registry.resolve_append (resolved : registry.resolve words = .run action consumed)
    (arguments : List String) : registry.resolve (words ++ arguments) = .run action consumed := by
  obtain ⟨path, help, front, led, count⟩ := resolve_eq_run_iff.mp resolved
  have further := front.trans (List.prefix_append words arguments)
  exact resolve_eq_run_iff.mpr ⟨path, help, further, led, count⟩

theorem Command.follow_ne_unknown {name : String} :
    command.follow before words ≠ .unknown name := by
  induction words generalizing command before with
  | nil => cases command <;> exact nofun
  | cons word words ih =>
      cases command with
      | leaf => exact nofun
      | group help subcommands =>
          rw [follow]
          split
          next => exact ih
          next => exact nofun

/-- A first word that names no command of the table is unknown, and nothing else is. -/
theorem Registry.resolve_eq_unknown_iff {name : String} :
    registry.resolve words = .unknown name ↔
      words.head? = some name ∧ name ∉ registry.names := by
  cases words with
  | nil => exact ⟨nofun, nofun⟩
  | cons word words =>
      rw [resolve, List.head?_cons, Option.some.injEq]
      cases found : registry.find? word with
      | none =>
          have fresh := find?_eq_none_iff.mp found
          constructor
          · rintro ⟨⟩
            exact ⟨rfl, fresh⟩
          · rintro ⟨rfl, -⟩
            rfl
      | some command =>
          constructor
          · exact fun unknown => absurd unknown Command.follow_ne_unknown
          · rintro ⟨rfl, fresh⟩
            rw [find?_eq_none_iff.mpr fresh] at found
            cases found

end Resolving

/-! ## Paths -/

mutual

/-- The actions of a command, each behind the names that lead to it. -/
def Command.paths {α : Type} : Command α → List (List String × α)
  | .leaf _ action => [([], action)]
  | .group _ subcommands => subcommands.paths

/-- The actions of a table, each behind the names that lead to it. -/
def Registry.paths {α : Type} : Registry α → List (List String × α)
  | .empty => []
  | .entry name command rest =>
      command.paths.map (fun (path, action) => (name :: path, action)) ++ rest.paths

end

/-- The paths of a command that stands in a table are behind its name there. -/
theorem Registry.mem_paths_of_find? {name : String} {command : Command α} {path : List String}
    {action : α} (member : (path, action) ∈ command.paths) :
    ∀ {registry : Registry α}, registry.find? name = some command →
      (name :: path, action) ∈ registry.paths
  | .empty, found => by cases found
  | .entry other present rest, found => by
      unfold find? at found
      unfold paths
      split at found
      next same =>
        cases found
        subst same
        exact List.mem_append_left _ (List.mem_map.mpr ⟨_, member, rfl⟩)
      next => exact List.mem_append_right _ (mem_paths_of_find? member found)

theorem Command.mem_paths_of_below? {help : String} {action : α} {path : List String}
    {command : Command α} (led : command.below? path = some (.leaf help action)) :
    (path, action) ∈ command.paths := by
  induction path generalizing command with
  | nil =>
      cases led
      exact List.mem_singleton.mpr rfl
  | cons name path ih =>
      cases command with
      | leaf => cases led
      | group =>
          rw [below?_group] at led
          obtain ⟨next, found, led⟩ := Option.bind_eq_some_iff.mp led
          exact Registry.mem_paths_of_find? (ih led) found

/-- **Words resolve to an action only along a path to it**, which is what they consume. -/
theorem Registry.mem_paths_of_resolve {registry : Registry α} {words : List String} {action : α}
    {consumed : Nat} (resolved : registry.resolve words = .run action consumed) :
    (words.take consumed, action) ∈ registry.paths := by
  obtain ⟨path, help, front, led, rfl⟩ := resolve_eq_run_iff.mp resolved
  rw [← List.prefix_iff_eq_take.mp front]
  cases path with
  | nil => cases led
  | cons name path =>
      obtain ⟨command, found, led⟩ := Option.bind_eq_some_iff.mp led
      exact mem_paths_of_find? (Command.mem_paths_of_below? led) found

/-- Words that resolve to an action with one path only begin with that path. -/
theorem Registry.words_of_resolve (path : List String) {registry : Registry α}
    {words : List String} {action : α} {consumed : Nat}
    (resolved : registry.resolve words = .run action consumed)
    (only : ∀ other, (other, action) ∈ registry.paths → other = path) :
    words = path ++ words.drop consumed := by
  rw [← only _ (mem_paths_of_resolve resolved), List.take_append_drop]

/-! ## The built-in commands -/

theorem Registry.paths_builtIn : Registry.builtIn.paths =
    [(["help"], .help), (["hello"], .hello), (["commission"], .commission),
      (["thread", "start"], .threadStart), (["thread", "stop"], .threadStop), (["scan"], .scan),
      (["wifi", "scan"], .wifiScan), (["wifi", "status"], .wifiStatus),
      (["tbr", "reboot"], .reboot), (["dataset", "print"], .datasetPrint),
      (["dataset", "set"], .datasetSet), (["dataset", "reset"], .datasetReset),
      (["exit"], .exit)] := by
  decide +kernel

end Commissioner
