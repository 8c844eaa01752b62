import Mathlib.Data.List.Induction
import Mathlib.Data.List.Nodup
import Mathlib.Data.List.Perm.Basic
import Mathlib.Tactic.Ring
import Microbatch.Folding

set_option relaxedAutoImplicit false
set_option autoImplicit false

/-!
# What reaches one place of a folded list

When a list is folded onto a shorter buffer, every place of the buffer takes the elements at
which it comes by again and again. Those elements are the *lane* of the place. A matrix that is
folded onto the first rows of a matrix of the same width keeps its columns apart, and a lane is
then a selection of rows.

## Main definitions

* `Microbatch.lane` — the elements whose position leaves a given remainder, in order.
* `Microbatch.laneSums` — for every place, what the lanes of some lists add up to.

## Main results

* `Microbatch.getElem?_foldOnto` — a place of a folded list is the fold over its lane.
* `Microbatch.foldOnto_eq_foldl` — a list is folded onto a buffer element by element.
* `Microbatch.lane_rows` — the lane of a place in a matrix goes through the rows of one remainder.
* `Microbatch.getElem?_rows` — the rows of a list are its parts of one width.
* `Microbatch.getElem?_columns` — a column takes one element of every row.
-/

namespace Microbatch

universe u

variable {α : Type u}

/-! ### Lanes -/

/-- **The elements that reach one place** of a buffer of some size: those whose position leaves
that remainder, in order. -/
def lane (size place : Nat) (xs : List α) : List α :=
  ((List.range xs.length).filter fun i => i % size = place).filterMap fun i => xs[i]?

/-- **What the lanes of some lists add up to**, place by place: a left fold from zero over the
lists in order and over the lane of each. -/
def laneSums (add : α → α → α) (zero : α) (size : Nat) (lists : List (List α)) : List α :=
  (List.range size).map fun place => (lists.flatMap (lane size place)).foldl add zero

@[simp] lemma lane_nil (size place : Nat) : lane size place ([] : List α) = [] := rfl

/-- Of the positions of a list, one is asked for. -/
lemma filter_range_eq (n place : Nat) :
    ((List.range n).filter fun i => i = place) = if place < n then [place] else [] := by
  have beq : (fun i => decide (i = place)) = (fun i => i == place) := by
    funext i
    exact (Bool.beq_eq_decide_eq i place).symm
  rw [beq, List.filter_beq]
  split
  · rename_i inside
    rw [List.count_eq_one_of_mem List.nodup_range (List.mem_range.2 inside)]
    rfl
  · rename_i outside
    rw [List.count_eq_zero_of_not_mem (fun h => outside (List.mem_range.1 h))]
    rfl

/-- A list that is not longer than the buffer reaches every place at most once. -/
lemma lane_of_length_le {size : Nat} {xs : List α} (h : xs.length ≤ size) (place : Nat) :
    lane size place xs = xs[place]?.toList := by
  unfold lane
  have indices : ((List.range xs.length).filter fun i => i % size = place) =
      (List.range xs.length).filter fun i => i = place := by
    refine List.filter_congr fun i hi => ?_
    rw [Nat.mod_eq_of_lt (Nat.lt_of_lt_of_le (List.mem_range.1 hi) h)]
  rw [indices, filter_range_eq]
  split
  · rename_i inside
    simp [List.getElem?_eq_getElem inside]
  · rename_i outside
    simp [List.getElem?_eq_none (Nat.le_of_not_lt outside)]

/-- Behind whole rounds of the buffer, the lane starts over. -/
lemma lane_append {size place : Nat} {xs : List α} (h : xs.length % size = 0) (ys : List α) :
    lane size place (xs ++ ys) = lane size place xs ++ lane size place ys := by
  have shifted : ∀ i, (xs.length + i) % size = i % size := by
    intro i
    rw [Nat.add_mod, h, Nat.zero_add, Nat.mod_mod]
  unfold lane
  rw [List.length_append, List.range_add, List.filter_append, List.filterMap_append]
  congr 1
  · refine List.filterMap_congr fun i hi => ?_
    have := List.mem_range.1 (List.mem_of_mem_filter hi)
    exact List.getElem?_append_left this
  · rw [List.filter_map, List.filterMap_map]
    simp only [Function.comp_def, shifted]
    refine List.filterMap_congr fun i _ => ?_
    rw [List.getElem?_append_right (Nat.le_add_right _ _), Nat.add_sub_cancel_left]

/-- The lane of a list that is longer than the buffer takes one element of the first round. -/
lemma lane_eq_append (size place : Nat) (xs : List α) :
    lane size place xs = (xs.take size)[place]?.toList ++ lane size place (xs.drop size) := by
  rcases Nat.le_total xs.length size with short | long
  · rw [List.take_of_length_le short, List.drop_of_length_le short, lane_of_length_le short]
    simp
  · have round : (xs.take size).length = size := List.length_take_of_le long
    conv_lhs => rw [← List.take_append_drop size xs]
    rw [lane_append (by rw [round, Nat.mod_self]), lane_of_length_le (Nat.le_of_eq round)]

/-- The last element of a list joins the lane of the place at which it comes by. -/
lemma lane_concat (size place : Nat) (xs : List α) (x : α) :
    lane size place (xs ++ [x]) =
      lane size place xs ++ if xs.length % size = place then [x] else [] := by
  have before : ((List.range xs.length).filter fun i => i % size = place).filterMap
      (fun i => (xs ++ [x])[i]?) = lane size place xs :=
    List.filterMap_congr fun i hi =>
      List.getElem?_append_left (List.mem_range.1 (List.mem_of_mem_filter hi))
  rw [lane, List.length_append, List.length_singleton, List.range_succ, List.filter_append,
    List.filterMap_append, before]
  congr 1
  by_cases here : xs.length % size = place
  · simp [here]
  · simp [here]

/-! ### Places of a folded list -/

/-- A place of a buffer takes the element at the same place, if there is one. -/
lemma getElem?_zipOnto (f : α → α → α) (buffer source : List α) (j : Nat) :
    (zipOnto f buffer source)[j]? = buffer[j]?.map fun d => source[j]?.toList.foldl f d := by
  induction buffer generalizing source j with
  | nil => simp
  | cons d ds ih =>
    cases source with
    | nil => cases hd : (d :: ds)[j]? <;> simp [hd]
    | cons s ss =>
      rw [zipOnto_cons]
      cases j with
      | zero => simp
      | succ j => simpa using ih ss j

/-- **A place of a folded list** is the fold over its lane, from what the buffer held there.

**Proof sketch.** Induction along the recursion of `foldOnto`. One round combines the first
`buffer.length` elements place by place, which are the first elements of the lanes, and the rest
of the list has the rest of every lane. -/
lemma getElem?_foldOnto (f : α → α → α) (buffer source : List α) (j : Nat) :
    (foldOnto f buffer source)[j]? =
      buffer[j]?.map fun d => (lane buffer.length j source).foldl f d := by
  fun_induction foldOnto f buffer source with
  | case1 buffer source none_left =>
    rcases none_left with empty | empty
    · rw [List.isEmpty_iff.1 empty]
      simp
    · rw [List.isEmpty_iff.1 empty]
      simp
  | case2 buffer source some_left ih =>
    rw [ih, length_zipOnto, getElem?_zipOnto, Option.map_map]
    cases hd : buffer[j]? with
    | none => rfl
    | some d =>
      simp only [Option.map_some, Function.comp_apply]
      rw [lane_eq_append _ _ source, List.foldl_append]

/-- **A list is folded onto a buffer element by element**: each changes the place at which it comes
by.

**Proof sketch.** Place by place, induction on the source from its end. The last element changes one
place, and it is the last one in the lane of that place and in no other lane. -/
lemma foldOnto_eq_foldl (f : α → α → α) (buffer source : List α) :
    foldOnto f buffer source =
      source.zipIdx.foldl (fun data e => data.modify (e.2 % buffer.length) (f · e.1)) buffer := by
  refine List.ext_getElem? fun j => ?_
  rw [getElem?_foldOnto]
  induction source using List.reverseRecOn with
  | nil => simp
  | append_singleton xs x ih =>
    rw [lane_concat, List.zipIdx_append, List.foldl_append, List.zipIdx_singleton, List.foldl_cons,
      List.foldl_nil, List.getElem?_modify, ← ih, Nat.zero_add]
    by_cases here : xs.length % buffer.length = j
    · simp [here, Function.comp_def]
    · simp [here]

/-- **Folding several lists in a row** onto zeros leaves the sums over the lanes. -/
lemma foldl_foldOnto_replicate (add : α → α → α) (zero : α) (size : Nat) (lists : List (List α)) :
    lists.foldl (foldOnto add) (List.replicate size zero) = laneSums add zero size lists := by
  have places : ∀ (buffer : List α) (j : Nat),
      (lists.foldl (foldOnto add) buffer)[j]? =
        buffer[j]?.map fun d => (lists.flatMap (lane buffer.length j)).foldl add d := by
    induction lists with
    | nil => simp
    | cons xs rest ih =>
      intro buffer j
      rw [List.foldl_cons, ih, length_foldOnto, getElem?_foldOnto, Option.map_map]
      simp [Function.comp_def, List.foldl_append]
  refine List.ext_getElem? fun j => ?_
  rw [places, List.length_replicate, laneSums, List.getElem?_map]
  by_cases inside : j < size
  · simp [inside]
  · simp [inside]

@[simp] lemma length_laneSums (add : α → α → α) (zero : α) (size : Nat) (lists : List (List α)) :
    (laneSums add zero size lists).length = size := by
  simp [laneSums]

/-- The sum at one place. -/
lemma getElem?_laneSums (add : α → α → α) (zero : α) {size place : Nat} (lists : List (List α))
    (h : place < size) : (laneSums add zero size lists)[place]? =
      some ((lists.flatMap (lane size place)).foldl add zero) := by
  simp [laneSums, h]

/-- If the order of additions does not matter, neither does the order of the lists. -/
lemma laneSums_perm {add : α → α → α} [RightCommutative add] (zero : α) (size : Nat)
    {lists others : List (List α)} (h : lists.Perm others) :
    laneSums add zero size lists = laneSums add zero size others := by
  unfold laneSums
  refine List.map_congr_left fun place _ => ?_
  exact (h.flatMap_right _).foldl_eq zero

/-! ### Lanes of matrices -/

/-- In a row of a matrix, at most the element of one column belongs to the lane of a place. -/
lemma filter_row {group width row column : Nat} (hc : column < width) (i : Nat) :
    ((List.range width).filter fun c => (i * width + c) % (group * width) = row * width + column) =
      if i % group = row then [column] else [] := by
  have width_pos : 0 < width := Nat.lt_of_le_of_lt (Nat.zero_le _) hc
  have position : ∀ c < width, (i * width + c) % (group * width) = i % group * width + c := by
    intro c hc
    rw [Nat.mul_comm group width, Nat.mod_mul, Nat.mul_comm i width,
      Nat.mul_add_mod_self_left, Nat.mod_eq_of_lt hc, Nat.mul_add_div width_pos,
      Nat.div_eq_of_lt hc, Nat.add_zero, Nat.add_comm, Nat.mul_comm width]
  have same_place : ∀ c < width,
      (i % group * width + c = row * width + column ↔ i % group = row ∧ c = column) := by
    intro c hc'
    constructor
    · intro h
      have div := congrArg (· / width) h
      have mod := congrArg (· % width) h
      simp only [Nat.mul_comm _ width, Nat.mul_add_div width_pos, Nat.div_eq_of_lt hc',
        Nat.div_eq_of_lt hc, Nat.mul_add_mod_self_left, Nat.mod_eq_of_lt hc',
        Nat.mod_eq_of_lt hc, Nat.add_zero] at div mod
      exact ⟨div, mod⟩
    · rintro ⟨rfl, rfl⟩
      rfl
  have decided : ((List.range width).filter fun c =>
        (i * width + c) % (group * width) = row * width + column) =
      (List.range width).filter fun c => decide (i % group = row) && decide (c = column) := by
    refine List.filter_congr fun c hc' => ?_
    have hc' := List.mem_range.1 hc'
    rw [position c hc', ← Bool.decide_and]
    exact decide_eq_decide.2 (same_place c hc')
  rw [decided]
  split
  · rename_i h
    simp only [h, decide_true, Bool.true_and]
    rw [filter_range_eq, if_pos hc]
  · rename_i h
    simp [h]

/-- The positions of a lane in a matrix: one column, in the rows of one remainder. -/
lemma filter_positions {group width row column : Nat} (hc : column < width) (count : Nat) :
    ((List.range (count * width)).filter fun i => i % (group * width) = row * width + column) =
      ((List.range count).filter fun i => i % group = row).map fun i => i * width + column := by
  induction count with
  | zero => simp
  | succ count ih =>
    rw [Nat.succ_mul, List.range_add, List.filter_append, ih, List.filter_map, List.range_succ,
      List.filter_append, List.map_append]
    congr 1
    simp only [Function.comp_def]
    rw [filter_row hc]
    by_cases h : count % group = row
    · simp [h]
    · simp [h]

/-- **The lane of a place in a matrix** that is folded onto its first rows: the column stays,
and of the rows those come by that leave the remainder of the place's row. -/
lemma lane_rows {group width row column count : Nat} {xs : List α} (hc : column < width)
    (length : xs.length = count * width) :
    lane (group * width) (row * width + column) xs =
      ((List.range count).filter fun i => i % group = row).filterMap fun i =>
        xs[i * width + column]? := by
  unfold lane
  rw [length, filter_positions hc, List.filterMap_map]
  rfl

/-! ### Rows and columns -/

/-- The rows of a list are its parts of one width, one after the other. -/
lemma getElem?_rows {count width : Nat} (xs : List α) {i : Nat} (h : i < count) :
    (rows count width xs)[i]? = some ((xs.drop (i * width)).take width) := by
  induction count generalizing xs i with
  | zero => exact absurd h (Nat.not_lt_zero i)
  | succ count ih =>
    rw [rows_succ]
    cases i with
    | zero => simp
    | succ i =>
      have next : (i + 1) * width = width + i * width := by ring
      rw [List.getElem?_cons_succ, ih _ (Nat.lt_of_succ_lt_succ h), List.drop_drop, next]

@[simp] lemma length_columns {width : Nat} {rs : List (List α)}
    (h : ∀ r ∈ rs, r.length = width) : (columns width rs).length = width := by
  induction rs with
  | nil => simp [columns]
  | cons r rs ih =>
    have rest := ih fun r hr => h r (List.mem_cons_of_mem _ hr)
    have unfolded : columns width (r :: rs) = List.zipWith List.cons r (columns width rs) := rfl
    rw [unfolded, List.length_zipWith, rest, h r (List.mem_cons_self ..), Nat.min_self]

/-- **A column takes one element of every row.** -/
lemma getElem?_columns {width : Nat} {rs : List (List α)} (h : ∀ r ∈ rs, r.length = width)
    {j : Nat} (hj : j < width) : (columns width rs)[j]? = some (rs.filterMap (·[j]?)) := by
  induction rs with
  | nil => simp [columns, hj]
  | cons r rs ih =>
    have rest := ih fun r hr => h r (List.mem_cons_of_mem _ hr)
    have inside : j < r.length := by rwa [h r (List.mem_cons_self ..)]
    have unfolded : columns width (r :: rs) = List.zipWith List.cons r (columns width rs) := rfl
    rw [unfolded, List.getElem?_zipWith, rest]
    simp [List.getElem?_eq_getElem inside]

end Microbatch
