/-!
# Fields

A run is cut into fields at every separator, so there is one field more than
there are separators, and a field may be empty.
-/

set_option autoImplicit false

namespace Commissioner.Fields

/-- The fields between separators. -/
def split {α : Type} [BEq α] (separator : α) : List α → List (List α)
  | [] => [[]]
  | x :: rest =>
      if x == separator then [] :: split separator rest
      else
        match split separator rest with
        | field :: fields => (x :: field) :: fields
        | [] => [[x]]

/-- The fields of a text between separators. -/
def ofText (separator : Char) (text : String) : List String :=
  (split separator text.toList).map String.ofList

end Commissioner.Fields
