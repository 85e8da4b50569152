import Commissioner.Octets
import Commissioner.Text.Fields

/-!
# Files

Credentials lie in files below a working directory. A path is followed from
there, one component at a time: an empty component and a single dot stay where
they are, two dots go up, and any other goes down. Nothing is known of what lies
above the working directory, so it counts as empty.
-/

set_option autoImplicit false

namespace Commissioner

/-- A file, or a directory with what it holds. -/
inductive FileTree where
  | file (content : Octets)
  | directory (entries : List (String × FileTree))
  deriving Inhabited

/-- Why a file cannot be read. -/
inductive FileFault where
  /-- There is nothing at the path. -/
  | missing
  /-- The path goes on below a file. -/
  | notDirectory
  /-- A directory stands at the path. -/
  | isDirectory
  /-- The path or a component of it is too long. -/
  | tooLong
  /-- The path holds a zero. -/
  | zero
  deriving DecidableEq

/-- The fault in words. -/
def FileFault.message : FileFault → String
  | .missing => "No such file or directory (os error 2)"
  | .notDirectory => "Not a directory (os error 20)"
  | .isDirectory => "Is a directory (os error 21)"
  | .tooLong => "File name too long (os error 36)"
  | .zero => "file name contained an unexpected NUL byte"

namespace FilePath

/-- The components of a path: the texts between its slashes. -/
def components (path : String) : List String :=
  Fields.ofText '/' path

def join (directory file : String) : String :=
  if directory.isEmpty then file
  else if directory.toList.getLast? = some '/' then directory ++ file
  else directory ++ "/" ++ file

/-- The number of octets that a path stays below. -/
def lengthLimit : Nat := 4096

/-- The largest number of octets in a component. -/
def maxComponent : Nat := 255

end FilePath

namespace FileTree

/-- Follows components downwards from a tree, where `above` holds the directories
on the way back. -/
def follow (above : List FileTree) (here : FileTree) : List String → Except FileFault FileTree
  | [] => .ok here
  | component :: rest =>
      match here with
      | .file _ => .error .notDirectory
      | .directory entries =>
          if component = "" ∨ component = "." then follow above here rest
          else if component = ".." then
            match above with
            | [] => follow [] (.directory []) rest
            | parent :: further => follow further parent rest
          else if FilePath.maxComponent < component.utf8ByteSize then .error .tooLong
          else
            match entries.lookup component with
            | none => .error .missing
            | some there => follow (here :: above) there rest

/-- Where a path is followed from: a path that begins with a slash leads out of
the working directory. -/
def origin (tree : FileTree) (path : String) : FileTree :=
  if path.toList.head? = some '/' then .directory [] else tree

def read (tree : FileTree) (path : String) : Except FileFault Octets :=
  if path.toList.contains '\x00' then .error .zero
  else if FilePath.lengthLimit ≤ path.utf8ByteSize then .error .tooLong
  else
    match follow [] (tree.origin path) (FilePath.components path) with
    | .error fault => .error fault
    | .ok (.directory _) => .error .isDirectory
    | .ok (.file content) => .ok content

end FileTree

end Commissioner
