set_option relaxedAutoImplicit false
set_option autoImplicit false

/-!
# Folding lists onto lists

Buffers are filled by combining a list into another, element by element. A list that is longer than
the buffer is combined in from the buffer's start again and again.

## Main definitions

* `Microbatch.zipOnto` — combines a list into the front of a buffer.
* `Microbatch.foldOnto` — combines a list of any length into a buffer, starting over at its end.
* `Microbatch.mapCycling` — combines a list with the cyclic repetition of another.
* `Microbatch.rows` — cuts a list into rows of one width.
* `Microbatch.columns` — the columns of some rows.

## Main results

* `Microbatch.length_zipOnto`, `Microbatch.length_foldOnto` — a buffer keeps its length.
* `Microbatch.zipOnto_cons`, `Microbatch.rows_succ` — the first element and the first row.
-/

namespace Microbatch

universe u

variable {α : Type u}

/-- Combines a list into the front of a buffer, in front of which are elements in reverse order. -/
def zipOntoAfter (f : α → α → α) (before : List α) : List α → List α → List α
  | d :: ds, s :: ss => zipOntoAfter f (f d s :: before) ds ss
  | buffer, _ => before.reverseAux buffer

/-- **Combines a list into the front of a buffer.** The buffer keeps its length: what the list does
not reach stays, and what the buffer has no place for is dropped. -/
def zipOnto (f : α → α → α) (buffer source : List α) : List α := zipOntoAfter f [] buffer source

/-- **Combines a list of any length into a buffer**: element `i` goes to place `i` modulo the
buffer's length. An empty buffer stays empty. -/
def foldOnto (f : α → α → α) (buffer source : List α) : List α :=
  if _h : source.isEmpty ∨ buffer.isEmpty then buffer
  else foldOnto f (zipOnto f buffer (source.take buffer.length)) (source.drop buffer.length)
  termination_by source.length
  decreasing_by
    simp only [List.isEmpty_iff, ← List.length_eq_zero_iff, not_or] at _h
    simp only [List.length_drop]
    omega

/-- A list repeated until it is at least of some length, unless it is empty. -/
def cycle (xs : List α) (length : Nat) : List α :=
  (List.replicate (length / xs.length + 1) xs).flatten

/-- **Combines a list with the cyclic repetition of another**: element `i` meets element `i` modulo
the other's length. The list stays as it is if there is nothing to repeat. -/
def mapCycling (f : α → α → α) (repeated xs : List α) : List α :=
  if repeated.isEmpty then xs else List.zipWith f xs (cycle repeated xs.length)

/-- Cuts rows off a list, in front of which are those of before in reverse order. -/
def rowsOnto (width : Nat) (before : List (List α)) : Nat → List α → List (List α)
  | 0, _ => before.reverse
  | count + 1, xs => rowsOnto width (xs.take width :: before) count (xs.drop width)

/-- **The first rows of a list**, each of one width. -/
def rows (count width : Nat) (xs : List α) : List (List α) := rowsOnto width [] count xs

/-- The columns of some rows of one width. -/
def columns (width : Nat) (rs : List (List α)) : List (List α) :=
  rs.foldr (List.zipWith List.cons) (List.replicate width [])

/-! ### Element by element -/

theorem zipOntoAfter_eq (f : α → α → α) (before buffer source : List α) :
    zipOntoAfter f before buffer source = before.reverse ++ zipOnto f buffer source := by
  induction buffer generalizing before source with
  | nil => simp [zipOnto, zipOntoAfter, List.reverseAux_eq]
  | cons d ds ih =>
    cases source with
    | nil => simp [zipOnto, zipOntoAfter, List.reverseAux_eq]
    | cons s ss =>
      rw [zipOnto, zipOntoAfter, zipOntoAfter, ih, ih [_]]
      simp

@[simp] theorem zipOnto_nil (f : α → α → α) (buffer : List α) : zipOnto f buffer [] = buffer := by
  simp [zipOnto, zipOntoAfter]

@[simp] theorem nil_zipOnto (f : α → α → α) (source : List α) : zipOnto f [] source = [] := by
  simp [zipOnto, zipOntoAfter]

@[simp] theorem zipOnto_cons (f : α → α → α) (d s : α) (ds ss : List α) :
    zipOnto f (d :: ds) (s :: ss) = f d s :: zipOnto f ds ss := by
  rw [zipOnto, zipOntoAfter, zipOntoAfter_eq]
  rfl

@[simp] theorem length_zipOnto (f : α → α → α) (buffer source : List α) :
    (zipOnto f buffer source).length = buffer.length := by
  induction buffer generalizing source with
  | nil => simp
  | cons d ds ih => cases source <;> simp [ih]

@[simp] theorem length_foldOnto (f : α → α → α) (buffer source : List α) :
    (foldOnto f buffer source).length = buffer.length := by
  fun_induction foldOnto f buffer source with
  | case1 => rfl
  | case2 _ _ _ ih => simpa using ih

/-! ### Row by row -/

theorem rowsOnto_eq (width : Nat) (before : List (List α)) (count : Nat) (xs : List α) :
    rowsOnto width before count xs = before.reverse ++ rows count width xs := by
  induction count generalizing before xs with
  | zero => simp [rowsOnto, rows]
  | succ count ih =>
    rw [rows, rowsOnto, rowsOnto, ih, ih]
    simp

@[simp] theorem rows_zero (width : Nat) (xs : List α) : rows 0 width xs = [] := rfl

/-- The first row is cut off, and the others come from what is left. -/
theorem rows_succ (count width : Nat) (xs : List α) :
    rows (count + 1) width xs = xs.take width :: rows count width (xs.drop width) := by
  rw [rows, rowsOnto, rowsOnto_eq]
  rfl

@[simp] theorem length_rows (count width : Nat) (xs : List α) :
    (rows count width xs).length = count := by
  induction count generalizing xs with
  | zero => rfl
  | succ count ih => simp [rows_succ, ih]

end Microbatch
