set_option relaxedAutoImplicit false
set_option autoImplicit false

/-!
# Pieces of texts

## Main definitions

* `Microbatch.pieces` — what stands between the marks in a text.
-/

namespace Microbatch

/-- **The pieces of a text between marks.** There is always one more than there are marks, and
pieces may be empty. -/
def pieces (mark : Char) : List Char → List (List Char)
  | [] => [[]]
  | c :: rest =>
    if c = mark then [] :: pieces mark rest
    else
      match pieces mark rest with
      | [] => [[c]]
      | piece :: more => (c :: piece) :: more

end Microbatch
