import Commissioner.Text.Quoted

/-!
# The table of commands

Commands are listed under names. A command either does something or is a group
of further commands, to any depth. A table keeps the order in which names were
first entered; entering a name again replaces its command where it stands.

A line of words is resolved by following them from the root until a command that
does something is met; the words behind it are its arguments.
-/

set_option autoImplicit false

namespace Commissioner

mutual

/-- A command, which does something of type `α` or is a group. -/
inductive Command (α : Type) where
  /-- A command that does something. -/
  | leaf (help : String) (action : α)
  /-- A group of further commands. -/
  | group (help : String) (subcommands : Registry α)

/-- A table of commands under names. -/
inductive Registry (α : Type) where
  /-- The table without commands. -/
  | empty
  /-- A command under a name, in front of the others. -/
  | entry (name : String) (command : Command α) (rest : Registry α)

end

namespace Command

variable {α : Type}

/-- The line of help. -/
def help : Command α → String
  | .leaf help _ => help
  | .group help _ => help

/-- The further commands of a group. -/
def subcommands? : Command α → Option (Registry α)
  | .leaf _ _ => none
  | .group _ subcommands => some subcommands

end Command

namespace Registry

variable {α : Type}

instance : Inhabited (Registry α) := ⟨.empty⟩

instance : Inhabited (Command α) := ⟨.group "" .empty⟩

/-! ## Entering and looking up -/

/-- Enters a command under a name, in place of the one that stands there. -/
def insert (name : String) (command : Command α) : Registry α → Registry α
  | .empty => .entry name command .empty
  | .entry other present rest =>
      if other = name then .entry other command rest
      else .entry other present (rest.insert name command)

/-- The command under a name. -/
def find? (name : String) : Registry α → Option (Command α)
  | .empty => none
  | .entry other command rest => if other = name then some command else rest.find? name

/-- The names, in order. -/
def names : Registry α → List String
  | .empty => []
  | .entry name _ rest => name :: rest.names

/-- The names and commands, in order. -/
def entries : Registry α → List (String × Command α)
  | .empty => []
  | .entry name command rest => (name, command) :: rest.entries

/-- The number of names. -/
def size (registry : Registry α) : Nat :=
  registry.names.length

/-- The table of these commands, entered in order. -/
def ofList (commands : List (String × Command α)) : Registry α :=
  commands.foldl (fun registry entry => registry.insert entry.1 entry.2) .empty

end Registry

/-! ## Resolving words -/

/-- What a line of words comes to. -/
inductive Resolution (α : Type) where
  /-- This action, reached by so many words. -/
  | run (action : α) (consumed : Nat)
  /-- A group, without the name of a further command. -/
  | missingSubcommand
  /-- A first word that is no command. -/
  | unknown (name : String)
  deriving DecidableEq

namespace Command

variable {α : Type}

/-- Follows words from a command that so many words led to. -/
def follow (consumed : Nat) : Command α → List String → Resolution α
  | .leaf _ action, _ => .run action consumed
  | .group _ _, [] => .missingSubcommand
  | .group _ subcommands, word :: rest =>
      match subcommands.find? word with
      | some command => follow (consumed + 1) command rest
      | none => .missingSubcommand
termination_by structural _ words => words

end Command

namespace Registry

variable {α : Type}

/-- Resolves words. -/
def resolve (registry : Registry α) : List String → Resolution α
  | [] => .missingSubcommand
  | word :: rest =>
      match registry.find? word with
      | some command => command.follow 1 rest
      | none => .unknown word

end Registry

/-! ## Help and descriptions -/

/-- A line of help, set in by four blanks for each level. -/
def helpLine (depth : Nat) (line : String) : String :=
  String.join (List.replicate depth "    ") ++ line

mutual

/-- The lines of help for a command and all below it. -/
def Command.helpLines {α : Type} (depth : Nat) (name : String) : Command α → List String
  | .leaf help _ => [helpLine depth name, helpLine (depth + 1) help]
  | .group help subcommands =>
      helpLine depth name :: helpLine (depth + 1) help :: subcommands.helpLinesAt (depth + 1)

/-- The lines of help for a table at a depth. -/
def Registry.helpLinesAt {α : Type} (depth : Nat) : Registry α → List String
  | .empty => []
  | .entry name command rest => command.helpLines depth name ++ rest.helpLinesAt depth

end

namespace Registry

/-- The lines of help: every name with its help below it, one level further in,
and what belongs to a group below that. -/
def helpLines {α : Type} (registry : Registry α) : List String :=
  registry.helpLinesAt 0

/-- A table in words: its names. -/
def describe {α : Type} (registry : Registry α) : String :=
  Quoted.list registry.names

end Registry

/-- A command in words. -/
def Command.describe {α : Type} : Command α → String
  | .leaf help _ => "Leaf \x7b help: " ++ Quoted.text help ++ " \x7d"
  | .group help subcommands =>
      "Container \x7b help: " ++ Quoted.text help ++ ", subcommands: " ++ subcommands.describe
        ++ " \x7d"

end Commissioner
