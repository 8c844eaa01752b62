set_option relaxedAutoImplicit false
set_option autoImplicit false

/-!
# Blank characters

## Main definitions

* `Microbatch.isBlank` — the characters with the property of being white space.
* `Microbatch.trim` — a text without the blanks at its ends.
-/

namespace Microbatch

/-- The first and the last code point of each run of white space. -/
def blankRanges : List (Nat × Nat) :=
  [(0x09, 0x0d), (0x20, 0x20), (0x85, 0x85), (0xa0, 0xa0), (0x1680, 0x1680), (0x2000, 0x200a),
    (0x2028, 0x2029), (0x202f, 0x202f), (0x205f, 0x205f), (0x3000, 0x3000)]

/-- **Whether a character is white space.** -/
def isBlank (c : Char) : Bool := blankRanges.any fun r => r.1 ≤ c.toNat && c.toNat ≤ r.2

/-- **The text without the blanks at its ends.** -/
def trim (cs : List Char) : List Char := ((cs.dropWhile isBlank).reverse.dropWhile isBlank).reverse

end Microbatch
