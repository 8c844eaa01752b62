set_option relaxedAutoImplicit false
set_option autoImplicit false

/-!
# Sizes

Element counts, byte counts and dimensions are 64-bit sizes. They are kept as natural numbers, and
the operations here say when a result still is a size.

## Main definitions

* `Microbatch.Size.limit` — the first number that is not a size.
* `Microbatch.Size.mul?`, `Microbatch.Size.add?` — product and sum, when they are sizes.
-/

namespace Microbatch.Size

/-- The first natural number too large for a 64-bit size. -/
def limit : Nat := 0x10000000000000000

/-- The largest size; an element count that does not fit is reported as this value. -/
def largest : Nat := limit - 1

/-- The product of two sizes, if it is a size. -/
def mul? (a b : Nat) : Option Nat :=
  if a * b < limit then some (a * b) else none

/-- The sum of two sizes, if it is a size. -/
def add? (a b : Nat) : Option Nat :=
  if a + b < limit then some (a + b) else none

/-- Of some stretches of one length, each ends where all of them end, or before. -/
theorem mul_add_le_mul {index count : Nat} (h : index < count) (length : Nat) :
    index * length + length ≤ count * length := by
  rw [← Nat.succ_mul]
  exact Nat.mul_le_mul_right length h

/-- The place of a column in a row lies within the rows. -/
theorem place_lt {row height column width : Nat} (hr : row < height) (hc : column < width) :
    row * width + column < height * width :=
  Nat.lt_of_lt_of_le (Nat.add_lt_add_left hc _) (mul_add_le_mul hr width)

theorem mul?_eq_some_iff {a b c : Nat} : mul? a b = some c ↔ a * b = c ∧ c < limit := by
  unfold mul?
  split
  · constructor
    · intro h
      cases h
      exact ⟨rfl, by assumption⟩
    · rintro ⟨rfl, _⟩
      rfl
  · constructor
    · intro h
      cases h
    · rintro ⟨rfl, h⟩
      contradiction

theorem add?_eq_some_iff {a b c : Nat} : add? a b = some c ↔ a + b = c ∧ c < limit := by
  unfold add?
  split
  · constructor
    · intro h
      cases h
      exact ⟨rfl, by assumption⟩
    · rintro ⟨rfl, _⟩
      rfl
  · constructor
    · intro h
      cases h
    · rintro ⟨rfl, h⟩
      contradiction

end Microbatch.Size
