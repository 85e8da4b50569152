import Mathlib.Data.Finset.Card
import Mathlib.Data.List.Induction
import Commissioner.Command.Registry

/-!
# The order of a table

A table of commands is a map that keeps an order. However commands are entered in it, its names
are those entered, each once and where it was entered first, and under each name stands the
command that was entered last. Entering a command leaves every entry where it stands and every
other command as it is, and puts the command entered, a group with all that belongs to it, in
place of the one before (`Registry.entered_ofList`).

In a table that is built by entering commands, to any depth (`Registry.Built`), no name stands
twice at any depth (`Registry.Built.distinct`).
-/

set_option autoImplicit false

namespace Commissioner

variable {α : Type}

/-! ## Following names -/

/-- The command that names lead to from a command. -/
def Command.below? (command : Command α) : List String → Option (Command α)
  | [] => some command
  | name :: names =>
      command.subcommands?.bind fun subcommands =>
        (subcommands.find? name).bind fun next => next.below? names
termination_by structural names => names

namespace Registry

/-- The command that names lead to in a table. -/
def at? (registry : Registry α) : List String → Option (Command α)
  | [] => none
  | name :: names => (registry.find? name).bind fun command => command.below? names

end Registry

theorem Command.below?_leaf (help : String) (action : α) (name : String) (names : List String) :
    (Command.leaf help action).below? (name :: names) = none :=
  rfl

theorem Command.below?_group (help : String) (subcommands : Registry α) (name : String)
    (names : List String) :
    (Command.group help subcommands).below? (name :: names) =
      subcommands.at? (name :: names) :=
  rfl

namespace Registry

/-! ## Names -/

theorem map_fst_entries : ∀ registry : Registry α, registry.entries.map Prod.fst = registry.names
  | .empty => rfl
  | .entry name _ rest => congrArg (name :: ·) (map_fst_entries rest)

/-- A name is appended unless it is there already. -/
theorem names_insert (name : String) (command : Command α) : ∀ registry : Registry α,
    (registry.insert name command).names =
      if name ∈ registry.names then registry.names else registry.names ++ [name]
  | .empty => rfl
  | .entry other present rest => by
      rw [insert]
      by_cases same : other = name
      · rw [if_pos same, if_pos (by rw [names, same]; exact List.mem_cons_self)]
        rfl
      · rw [if_neg same, names, names_insert name command rest, names]
        by_cases known : name ∈ rest.names
        · rw [if_pos known, if_pos (List.mem_cons_of_mem other known)]
        · rw [if_neg known, if_neg (List.not_mem_cons_of_ne_of_not_mem (Ne.symm same) known),
            List.cons_append]

theorem nodup_names_insert {registry : Registry α} (distinct : registry.names.Nodup)
    (name : String) (command : Command α) : (registry.insert name command).names.Nodup := by
  rw [names_insert]
  split
  next => exact distinct
  next fresh => exact List.nodup_append.mpr ⟨distinct, List.nodup_singleton name, by
      rintro other member _ appended rfl
      exact fresh (List.mem_singleton.mp appended ▸ member)⟩

/-! ## Looking up -/

theorem find?_eq_none_iff {name : String} : ∀ {registry : Registry α},
    registry.find? name = none ↔ name ∉ registry.names
  | .empty => by simp [find?, names]
  | .entry other _ rest => by
      rw [find?, names, List.mem_cons, not_or]
      split
      next same => exact ⟨nofun, fun absent => absurd same.symm absent.1⟩
      next apart => rw [find?_eq_none_iff, and_iff_right (Ne.symm apart)]

theorem at?_entry_self {name : String} {command : Command α} {rest : Registry α}
    {names : List String} :
    (entry name command rest).at? (name :: names) = command.below? names := by
  rw [at?, find?, if_pos rfl, Option.bind_some]

theorem at?_entry_of_ne {name first : String} {command : Command α} {rest : Registry α}
    {names : List String} (apart : name ≠ first) :
    (entry name command rest).at? (first :: names) = rest.at? (first :: names) := by
  rw [at?, find?, if_neg apart, at?]

theorem at?_of_not_mem {first : String} {names : List String} {registry : Registry α}
    (fresh : first ∉ registry.names) : registry.at? (first :: names) = none := by
  rw [at?, find?_eq_none_iff.mpr fresh, Option.bind_none]

theorem find?_insert (name other : String) (command : Command α) : ∀ registry : Registry α,
    (registry.insert name command).find? other =
      if name = other then some command else registry.find? other
  | .empty => rfl
  | .entry first present rest => by
      rw [insert]
      by_cases same : first = name
      · subst same
        rw [if_pos rfl, find?, find?]
        split
        next => rfl
        next => rfl
      · rw [if_neg same, find?, find?_insert name other command rest, find?]
        by_cases here : first = other
        · rw [if_pos here, if_pos here, if_neg (here ▸ Ne.symm same)]
        · rw [if_neg here, if_neg here]

/-- What stands under a name is what is found there. -/
theorem mem_entries_iff {name : String} {command : Command α} : ∀ {registry : Registry α},
    registry.names.Nodup →
      ((name, command) ∈ registry.entries ↔ registry.find? name = some command)
  | .empty, _ => by simp [find?, entries]
  | .entry other present rest, distinct => by
      obtain ⟨fresh, distinct⟩ := List.nodup_cons.mp distinct
      rw [entries, find?, List.mem_cons, mem_entries_iff distinct, Prod.mk.injEq]
      by_cases same : other = name
      · subst same
        rw [if_pos rfl, find?_eq_none_iff.mpr fresh, Option.some.injEq]
        simp [eq_comm]
      · rw [if_neg same]
        simp [Ne.symm same]

/-! ## Entering commands -/

/-- Entering a command puts it in the place of the one under its name, or behind all others. -/
theorem entries_insert (name : String) (command : Command α) : ∀ {registry : Registry α},
    registry.names.Nodup →
      (registry.insert name command).entries =
        (registry.entries.map fun entry =>
            if entry.1 = name then (name, command) else entry) ++
          if name ∈ registry.names then [] else [(name, command)]
  | .empty, _ => rfl
  | .entry other present rest, distinct => by
      obtain ⟨fresh, distinct⟩ := List.nodup_cons.mp distinct
      rw [insert]
      by_cases same : other = name
      · subst same
        have others : ∀ entry ∈ rest.entries,
            (if entry.1 = other then (other, command) else entry) = entry := by
          intro entry member
          refine if_neg fun again => fresh ?_
          rw [← map_fst_entries, ← again]
          exact List.mem_map_of_mem member
        rw [if_pos rfl, entries, entries, List.map_cons, if_pos rfl, List.map_congr_left others,
          List.map_id', names, if_pos List.mem_cons_self, List.append_nil]
      · rw [if_neg same, entries, entries_insert name command distinct, entries, List.map_cons,
          if_neg same, names, List.cons_append]
        by_cases known : name ∈ rest.names
        · rw [if_pos known, if_pos (List.mem_cons_of_mem other known)]
        · rw [if_neg known, if_neg (List.not_mem_cons_of_ne_of_not_mem (Ne.symm same) known)]

theorem ofList_concat (commands : List (String × Command α)) (name : String)
    (command : Command α) :
    ofList (commands ++ [(name, command)]) = (ofList commands).insert name command := by
  rw [ofList, List.foldl_append]
  rfl

/-- The names of a table are those entered, each where it was entered first. -/
theorem names_ofList (commands : List (String × Command α)) :
    (ofList commands).names = (commands.map Prod.fst).eraseDups := by
  induction commands using List.reverseRecOn with
  | nil => rfl
  | append_singleton commands entry ih =>
      obtain ⟨name, command⟩ := entry
      rw [ofList_concat, names_insert, ih, List.map_append, List.eraseDups_append]
      by_cases known : name ∈ commands.map Prod.fst
      · rw [if_pos (List.mem_eraseDups.mpr known)]
        simp [List.removeAll, known]
      · rw [if_neg (mt List.mem_eraseDups.mp known)]
        simp [List.removeAll, known, List.eraseDups_cons]

theorem nodup_names_ofList (commands : List (String × Command α)) :
    (ofList commands).names.Nodup := by
  induction commands using List.reverseRecOn with
  | nil => exact List.nodup_nil
  | append_singleton commands entry ih =>
      rw [ofList_concat commands entry.1 entry.2]
      exact nodup_names_insert ih entry.1 entry.2

/-- Under a name stands the command entered last. -/
theorem find?_ofList_append (before : List (String × Command α)) (name : String)
    (command : Command α) {behind : List (String × Command α)}
    (last : name ∉ behind.map Prod.fst) :
    (ofList (before ++ (name, command) :: behind)).find? name = some command := by
  induction behind using List.reverseRecOn with
  | nil => rw [ofList_concat, find?_insert, if_pos rfl]
  | append_singleton behind entry ih =>
      rw [List.map_append, List.mem_append, not_or] at last
      have apart : ¬ entry.1 = name := fun same =>
        last.2 (List.mem_singleton.mpr same.symm)
      rw [← List.cons_append, ← List.append_assoc, ofList_concat _ entry.1 entry.2, find?_insert,
        if_neg apart, ih last.1]

/-! ## The order of a table -/

/-- How a table follows from the commands entered in it. -/
structure Entered (commands : List (String × Command α)) (registry : Registry α) : Prop where
  /-- The names are those entered, each where it was entered first. -/
  order : registry.names = (commands.map Prod.fst).eraseDups
  distinct : registry.names.Nodup
  size : registry.size = (commands.map Prod.fst).toFinset.card
  /-- The entries stand in the order of the names. -/
  listed : registry.entries.map Prod.fst = registry.names
  /-- What stands under a name is what is found there. -/
  found : ∀ name command,
    (name, command) ∈ registry.entries ↔ registry.find? name = some command
  /-- Under a name stands the command entered last. -/
  last : ∀ before name command behind, commands = before ++ (name, command) :: behind →
    name ∉ behind.map Prod.fst → registry.find? name = some command
  /-- Nothing stands under a name that was not entered. -/
  never : ∀ name, name ∉ commands.map Prod.fst → registry.find? name = none
  /-- Entering a command leaves every entry where it stands, and changes the command of no other
  name. -/
  entering : ∀ name command, (registry.insert name command).entries =
    (registry.entries.map fun entry => if entry.1 = name then (name, command) else entry) ++
      if name ∈ registry.names then [] else [(name, command)]
  others : ∀ name command other, other ≠ name →
    (registry.insert name command).find? other = registry.find? other
  /-- What names lead to below the name entered is what they lead to in the command entered, and
  nothing of the command before is left. -/
  whole : ∀ name command names,
    (registry.insert name command).at? (name :: names) = command.below? names

/-- **A table is a map that keeps the order in which names were first entered.** -/
theorem entered_ofList (commands : List (String × Command α)) :
    Entered commands (ofList commands) where
  order := names_ofList commands
  distinct := nodup_names_ofList commands
  size := by
    have same : (ofList commands).names.toFinset = (commands.map Prod.fst).toFinset := by
      ext name
      rw [List.mem_toFinset, List.mem_toFinset, names_ofList, List.mem_eraseDups]
    rw [size, ← List.toFinset_card_of_nodup (nodup_names_ofList commands), same]
  listed := map_fst_entries _
  found _ _ := mem_entries_iff (nodup_names_ofList commands)
  last before name command behind entered last := by
    rw [entered, find?_ofList_append before name command last]
  never name absent := by
    rwa [find?_eq_none_iff, names_ofList, List.mem_eraseDups]
  entering name command := entries_insert name command (nodup_names_ofList commands)
  others name command other apart := by rw [find?_insert, if_neg (Ne.symm apart)]
  whole name command names := by rw [at?, find?_insert, if_pos rfl, Option.bind_some]

end Registry

/-! ## Tables that are built by entering commands -/

mutual

/-- A command whose further commands, to any depth, were entered one by one. -/
inductive Command.Built {α : Type} : Command α → Prop where
  | leaf (help : String) (action : α) : Command.Built (.leaf help action)
  | group (help : String) {subcommands : Registry α} (built : Registry.Built subcommands) :
      Command.Built (.group help subcommands)

/-- A table whose commands, to any depth, were entered one by one. -/
inductive Registry.Built {α : Type} : Registry α → Prop where
  | empty : Registry.Built .empty
  | insert (name : String) {command : Command α} {registry : Registry α}
      (entered : Command.Built command) (built : Registry.Built registry) :
      Registry.Built (registry.insert name command)

end

mutual

/-- No name stands twice among the further commands, to any depth. -/
def Command.Distinct {α : Type} : Command α → Prop
  | .leaf _ _ => True
  | .group _ subcommands => subcommands.Distinct

/-- No name stands twice in a table, to any depth. -/
def Registry.Distinct {α : Type} : Registry α → Prop
  | .empty => True
  | .entry name command rest => name ∉ rest.names ∧ command.Distinct ∧ rest.Distinct

end

theorem Registry.Distinct.insert {name : String} {command : Command α}
    (entered : command.Distinct) : ∀ {registry : Registry α}, registry.Distinct →
      (registry.insert name command).Distinct
  | .empty, _ => ⟨List.not_mem_nil, entered, trivial⟩
  | .entry other present rest, ⟨fresh, kept, distinct⟩ => by
      rw [Registry.insert]
      split
      next => exact ⟨fresh, entered, distinct⟩
      next apart =>
        refine ⟨?_, kept, distinct.insert entered⟩
        rw [names_insert]
        split
        next => exact fresh
        next =>
          rw [List.mem_append, List.mem_singleton, not_or]
          exact ⟨fresh, apart⟩

theorem Registry.Built.ofList {commands : List (String × Command α)}
    (entered : ∀ entry ∈ commands, entry.2.Built) : (Registry.ofList commands).Built := by
  induction commands using List.reverseRecOn with
  | nil => exact .empty
  | append_singleton commands entry ih =>
      rw [Registry.ofList_concat commands entry.1 entry.2]
      exact .insert entry.1 (entered entry (by simp))
        (ih fun other member => entered other (List.mem_append_left _ member))

mutual

theorem Command.Built.distinct {command : Command α} : command.Built → command.Distinct
  | .leaf _ _ => trivial
  | .group _ built => built.distinct

theorem Registry.Built.distinct {registry : Registry α} : registry.Built → registry.Distinct
  | .empty => trivial
  | .insert _ entered built => built.distinct.insert entered.distinct

end

end Commissioner
