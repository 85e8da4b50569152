import Commissioner.Text.Blank
import Commissioner.Text.Decimal
import Commissioner.Text.Lowercase

/-!
# The log

The log is written in one of two formats and down to a level. Two of the
libraries beneath write more than their share, so they are held at warnings
unless everything is asked for. A filter of the user's own takes the place of all
this.
-/

set_option autoImplicit false

namespace Commissioner

/-- The formats in which the log is written. -/
inductive LogFormat where
  | text
  | json
  deriving DecidableEq, Inhabited

namespace LogFormat

/-- Every format with its name. -/
def names : List (String × LogFormat) :=
  [("text", .text), ("json", .json)]

end LogFormat

/-- The levels of the log, the most severe first. -/
inductive LogLevel where
  | error
  | warn
  | info
  | debug
  | trace
  deriving DecidableEq, Inhabited

namespace LogLevel

def name : LogLevel → String
  | .error => "error"
  | .warn => "warn"
  | .info => "info"
  | .debug => "debug"
  | .trace => "trace"

def all : List LogLevel :=
  [.error, .warn, .info, .debug, .trace]

/-- Every level with its name. -/
def names : List (String × LogLevel) :=
  all.map fun level => (level.name, level)

/-- The libraries that are held back, in the order of their names. -/
def heldBack : List String :=
  ["btleplug", "rustls"]

/-- The level at which libraries are held back, if they are. -/
def cap? : LogLevel → Option LogLevel
  | .trace => none
  | .error => some .error
  | _ => some .warn

/-- What a library is held at, as it is written. -/
def capText (library : String) (cap : LogLevel) : String :=
  library ++ "=" ++ cap.name

/-- The directives of a level: the level itself, and what libraries are held at. -/
def directives (level : LogLevel) : List String :=
  level.name ::
    match level.cap? with
    | none => []
    | some cap => heldBack.map fun library => capText library cap

end LogLevel

/-! ## Filters -/

/-- A directive of a filter, for one part of the program or for all of it. -/
structure LogDirective where
  /-- The part, if it is for one. -/
  target : Option String
  /-- The name of the level. -/
  level : String
  deriving DecidableEq

namespace LogDirective

/-- The directive as it is written. -/
def text (directive : LogDirective) : String :=
  match directive.target with
  | some target => target ++ "=" ++ directive.level
  | none => directive.level

/-- The names of levels, and the one that lets nothing through, each behind its
number. -/
def levelNames : List String :=
  "off" :: LogLevel.all.map LogLevel.name

/-- The level that a text names in either case or by its number. -/
def level? (text : String) : Option String :=
  let name := Text.lowercase text
  if name ∈ levelNames then some name
  else
    match Decimal.read? (levelNames.length - 1) text with
    | some number => levelNames[number]?
    | none => none

/-- The directive that a text spells: a level, or a part of the program with its
level behind an equals sign. A part by itself is let through whole, and what is
behind an equals sign has to be a level. -/
def ofText? (text : String) : Option LogDirective :=
  let chars := text.toList
  let target := String.ofList (chars.takeWhile (· ≠ '='))
  match chars.dropWhile (· ≠ '=') with
  | _ :: level => (level? (String.ofList level)).map fun level => ⟨some target, level⟩
  | [] =>
      match level? text with
      | some level => some ⟨none, level⟩
      | none => some ⟨some target, LogLevel.trace.name⟩

/-- Whether one directive is listed before another: the longer part first, of two
of the same length the one that comes first by name, and what is for the whole
program last. -/
def isListedBefore (a b : LogDirective) : Bool :=
  match a.target, b.target with
  | none, _ => false
  | some _, none => true
  | some a, some b =>
      b.utf8ByteSize < a.utf8ByteSize || (a.utf8ByteSize == b.utf8ByteSize && a < b)

end LogDirective

namespace LogLevel

/-- The directives that apply at a level, unless the user gives a text of their
own. The level alone applies when that text spells none. -/
def filter (level : LogLevel) (own : Option String) : List LogDirective :=
  match own.map Text.trim with
  | none | some "" => level.directives.filterMap LogDirective.ofText?
  | some text =>
      match LogDirective.ofText? text with
      | some directive => [directive]
      | none => [⟨none, level.name⟩]

/-- The filter at a level as it is written. -/
def filterText (level : LogLevel) (own : Option String) : String :=
  ",".intercalate
    (((level.filter own).mergeSort fun a b => !b.isListedBefore a).map LogDirective.text)

end LogLevel

end Commissioner
