import Microbatch.Text.Pieces

set_option relaxedAutoImplicit false
set_option autoImplicit false

/-!
# Paths

A path is a text of names with slashes between them, where slashes in a row count as one. What the
names lead to is a matter of the files that are there; this module has what the text alone says.

## Main definitions

* `Microbatch.Path.names` — the names in a path.
* `Microbatch.Path.parent?` — the text of the path without its last name.
* `Microbatch.Path.join` — a name inside a directory.

## Main results

* `Microbatch.Path.length_outer?_lt` — a parent is shorter, so that going outwards comes to an end.
-/

namespace Microbatch.Path

/-! ### Names -/

/-- Whether a path starts at the root. -/
def isAbsolute (path : String) : Bool := path.toList.head? == some '/'

/-- Whether a path ends in a slash, so that it can only name a directory. -/
def namesDirectory (path : String) : Bool := path.toList.getLast? == some '/'

/-- **The names in a path**, outermost first. Dots count as names. -/
def names (path : String) : List String :=
  ((pieces '/' path.toList).filter fun piece => !piece.isEmpty).map String.ofList

/-! ### Parents -/

/-- Drops slashes, and single dots behind them, from the end of a reversed path. -/
def dropEnd : List Char → List Char
  | '/' :: rest => dropEnd rest
  | '.' :: '/' :: rest => dropEnd ('/' :: rest)
  | cs => cs
  termination_by cs => cs.length

/-- The reversed path without its last name. -/
def outer? (reversed : List Char) : Option (List Char) :=
  match dropEnd reversed with
  | [] => none
  | _ :: rest =>
    match rest.dropWhile (· != '/') with
    | [] => some []
    | rest =>
      match dropEnd rest with
      | [] => some ['/']
      | outer => some outer

theorem length_dropEnd_le (cs : List Char) : (dropEnd cs).length ≤ cs.length := by
  fun_induction dropEnd cs with
  | case1 rest ih => exact Nat.le_succ_of_le ih
  | case2 rest ih => exact Nat.le_succ_of_le ih
  | case3 cs => exact Nat.le_refl _

/-- **A parent is shorter** than what it is the parent of. -/
theorem length_outer?_lt {reversed outer : List Char} (h : outer? reversed = some outer) :
    outer.length < reversed.length := by
  have ends := length_dropEnd_le reversed
  unfold outer? at h
  split at h
  · cases h
  · rename_i c rest heq
    rw [heq] at ends
    have drops := (List.dropWhile_sublist (l := rest) (· != '/')).length_le
    split at h
    · cases h
      exact Nat.lt_of_lt_of_le (Nat.succ_pos _) ends
    · rename_i left hleft
      have more := length_dropEnd_le (rest.dropWhile (· != '/'))
      split at h
      · cases h
        cases hrest : rest.dropWhile (· != '/') with
        | nil => exact absurd hrest hleft
        | cons d ds =>
          rw [hrest] at drops
          simp only [List.length_cons, List.length_nil] at *
          omega
      · cases h
        simp only [List.length_cons] at *
        omega

/-- **The path without its last name.** A path without names has no parent; the parent of a single
name is the empty path. -/
def parent? (path : String) : Option String :=
  (outer? path.toList.reverse).map fun outer => String.ofList outer.reverse

/-! ### Paths inside directories -/

/-- **A name inside a directory.** The empty path is the working directory. -/
def join (directory name : String) : String :=
  if directory = "" then name
  else if namesDirectory directory then directory ++ name
  else directory ++ "/" ++ name

end Microbatch.Path
