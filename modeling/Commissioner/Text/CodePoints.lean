/-!
# Sets of code points

A set of code points is given by its boundaries: the sorted list of the code
points at which membership changes, starting outside. A code point is a member
when an odd number of boundaries is at or below it.
-/

set_option autoImplicit false

namespace Commissioner.CodePoints

/-- Whether a code point lies in the set with these boundaries, of which those
already passed leave it `inside`. -/
def memFrom (inside : Bool) (n : Nat) : List Nat → Bool
  | [] => inside
  | boundary :: rest => if n < boundary then inside else memFrom (!inside) n rest

/-- Whether a character lies in the set with these boundaries. -/
def mem (boundaries : List Nat) (c : Char) : Bool :=
  memFrom false c.toNat boundaries

end Commissioner.CodePoints
