import Microbatch.Proofs.Allocation
import Microbatch.Proofs.Filling

set_option relaxedAutoImplicit false
set_option autoImplicit false

/-!
# Where values lie in their buffers

The shape of an anchor buffer is derived from the shape of a value, and the values of a step are
written into the buffer without another look at either shape. A stack has a range of its own for
every micro-batch, a last value takes the whole buffer, and a sum takes the words of a value one
after the other, each at its position modulo the length of the buffer. Here every access is checked:
that it ends inside the buffer, that no position is too large for a size, and that nothing is
divided by zero. Whenever there is a shape, no check fails.

## Main definitions

* `Microbatch.Policy.Refuses` — why there is no buffer for values of a base shape.
* `Microbatch.Policy.Scales` — how many elements a buffer has.
* `Microbatch.Policy.Reaches` — where the values of a step lie in a buffer.
* `Microbatch.Filling.put?`, `Microbatch.Filling.putAll?` — values written in place, every access
  checked.

## Main results

* `Microbatch.Policy.bufferShape_eq_error_iff` — exactly why a shape is refused.
* `Microbatch.Summand.sumInto?_eq_some` — adding a payload word by word, checked.
* `Microbatch.Filling.put?_eq_some`, `Microbatch.Filling.putAll?_eq_some` — one value and a run of
  them.
* `Microbatch.Policy.bufferShape_holds_values` — every value lies inside the buffer of its policy.
-/

namespace Microbatch

/-! ### Checked accesses -/

/-- The remainder of a division, if there is one. -/
def Size.mod? (a b : Nat) : Option Nat :=
  if b = 0 then none else some (a % b)

namespace Bytes

/-- The part of some bytes from a position on, if its end is a size and not behind theirs. -/
def slice? (data : Bytes) (position length : Nat) : Option Bytes := do
  let stop ← Size.add? position length
  if stop ≤ data.length then some ((data.drop position).take length) else none

/-- The bytes with a value written over them from a position on, if there is room for it. -/
def overwriteAt? (data : Bytes) (position : Nat) (value : Bytes) : Option Bytes := do
  let _ ← data.slice? position value.length
  return Filling.writeAt position data value

variable {data : Bytes} {position : Nat}

lemma slice?_eq_some {length : Nat} (small : data.length < Size.limit)
    (inside : position + length ≤ data.length) :
    data.slice? position length = some ((data.drop position).take length) := by
  have stop : Size.add? position length = some (position + length) :=
    Size.add?_eq_some_iff.2 ⟨rfl, Nat.lt_of_le_of_lt inside small⟩
  rw [slice?, stop, Option.bind_eq_bind, Option.bind_some, if_pos inside]

lemma overwriteAt?_eq_some {value : Bytes} (small : data.length < Size.limit)
    (inside : position + value.length ≤ data.length) :
    data.overwriteAt? position value = some (Filling.writeAt position data value) := by
  rw [overwriteAt?, slice?_eq_some small inside]
  rfl

end Bytes

/-! ### Sums in place -/

namespace Summand

/-- Adds a word into a buffer, at its position modulo the length of the buffer. -/
def addChunk? (s : Summand) (data : Bytes) (index : Nat) (chunk : Bytes) : Option Bytes := do
  let start ← Size.mul? index s.width
  let position ← Size.mod? start data.length
  let held ← data.slice? position s.width
  data.overwriteAt? position (s.write (List.zipWith s.add (s.read held) (s.read chunk)))

/-- **Adds a payload into a buffer**, one word after the other; bytes left over at the end are
dropped. -/
def sumInto? (s : Summand) (data value : Bytes) : Option Bytes :=
  (rows (value.length / s.width) s.width value).zipIdx.foldlM
    (fun data e => s.addChunk? data e.2 e.1) data

variable (s : Summand)

lemma width_pos : 0 < s.width := by
  cases s <;> decide

lemma length_write_singleton (w : s.Word) : (s.write [w]).length = s.width := by
  rw [length_write, List.length_singleton, Nat.one_mul]

lemma write_cons (w : s.Word) (ws : List s.Word) : s.write (w :: ws) = s.write [w] ++ s.write ws :=
  s.write_append [w] ws

/-- The bytes of written words, cut at one of them. -/
lemma write_eq_append {words : List s.Word} {j : Nat} (h : j < words.length) :
    s.write words = s.write (words.take j) ++ (s.write [words[j]] ++ s.write (words.drop (j + 1))) ∧
      (s.write (words.take j)).length = j * s.width := by
  constructor
  · rw [← write_cons, ← write_append, List.getElem_cons_drop, List.take_append_drop]
  · rw [length_write, List.length_take_of_le (Nat.le_of_lt h)]

/-- The bytes of one of some written words. -/
lemma slice?_write {words : List s.Word} (small : words.length * s.width < Size.limit) {j : Nat}
    (h : j < words.length) :
    (s.write words).slice? (j * s.width) s.width = some (s.write [words[j]]) := by
  obtain ⟨cut, before⟩ := s.write_eq_append h
  have inside := Size.mul_add_le_mul h s.width
  rw [Bytes.slice?_eq_some (by rwa [length_write]) (by rwa [length_write]), cut,
    List.drop_left' before, List.take_left' (s.length_write_singleton _)]

/-- A word that is written over one of some written words. -/
lemma overwriteAt?_write {words : List s.Word} (small : words.length * s.width < Size.limit)
    {j : Nat} (h : j < words.length) (w : s.Word) :
    (s.write words).overwriteAt? (j * s.width) (s.write [w]) =
      some (s.write (words.take j ++ w :: words.drop (j + 1))) := by
  obtain ⟨cut, before⟩ := s.write_eq_append h
  have width := s.length_write_singleton w
  have inside := Size.mul_add_le_mul h s.width
  have behind : (s.write words).drop (j * s.width + s.width) = s.write (words.drop (j + 1)) := by
    rw [← List.drop_drop, cut, List.drop_left' before,
      List.drop_left' (s.length_write_singleton _)]
  have front : (s.write words).take (j * s.width) = s.write (words.take j) := by
    rw [cut, List.take_left' before]
  rw [Bytes.overwriteAt?_eq_some (by rwa [length_write]) (by rwa [width, length_write]),
    Filling.writeAt, width, front, behind, write_append, s.write_cons w (words.drop (j + 1))]

/-- **One word of a sum.** The positions of words in bytes are multiples of the width of a word, and
so are their remainders. -/
lemma addChunk?_write {words : List s.Word} (some_word : 0 < words.length)
    (small : words.length * s.width < Size.limit) {index : Nat}
    (start : index * s.width < Size.limit) (w : s.Word) :
    s.addChunk? (s.write words) index (s.write [w]) =
      some (s.write (words.modify (index % words.length) (s.add · w))) := by
  have inside : index % words.length < words.length := Nat.mod_lt _ some_word
  have position : Size.mod? (index * s.width) (s.write words).length =
      some (index % words.length * s.width) := by
    have occupied : words.length * s.width ≠ 0 := Nat.ne_of_gt (Nat.mul_pos some_word s.width_pos)
    rw [length_write, Size.mod?, if_neg occupied, Nat.mul_mod_mul_right]
  simp only [addChunk?, Size.mul?_of_lt start, position, s.slice?_write small inside, read_write,
    Option.bind_eq_bind, Option.bind_some, List.zipWith_cons_cons, List.zipWith_nil_left,
    s.overwriteAt?_write small inside, List.modify_eq_take_cons_drop inside]

/-- Written words are cut into words. -/
lemma rows_write (words : List s.Word) :
    rows words.length s.width (s.write words) = words.map fun w => s.write [w] := by
  induction words with
  | nil => rfl
  | cons w ws ih =>
    rw [List.length_cons, rows_succ, write_cons, List.take_left' (s.length_write_singleton w),
      List.drop_left' (s.length_write_singleton w), ih, List.map_cons]

/-- **The words of a sum, one after the other.** -/
lemma foldlM_addChunk? {n : Nat} (some_word : 0 < n) (small : n * s.width < Size.limit)
    (added : List s.Word) (first : Nat) (starts : (first + added.length) * s.width < Size.limit)
    (words : List s.Word) (length : words.length = n) :
    ((added.map fun w => s.write [w]).zipIdx first).foldlM
        (fun data e => s.addChunk? data e.2 e.1) (s.write words) =
      some (s.write ((added.zipIdx first).foldl
        (fun data e => data.modify (e.2 % n) (s.add · e.1)) words)) := by
  induction added generalizing first words with
  | nil => rfl
  | cons w rest ih =>
    rw [List.length_cons] at starts
    have start : first * s.width < Size.limit :=
      Nat.lt_of_le_of_lt (Nat.mul_le_mul_right _ (Nat.le_add_right _ _)) starts
    have here := s.addChunk?_write (length ▸ some_word) (length ▸ small) start w
    rw [List.map_cons, List.zipIdx_cons, List.foldlM_cons, here, length, Option.bind_eq_bind,
      Option.bind_some, List.zipIdx_cons, List.foldl_cons]
    exact ih (first + 1) (by rwa [Nat.add_right_comm]) _ (by rw [List.length_modify, length])

/-- **A payload is added into a buffer** without an access that fails, if the buffer has room for a
word whenever the payload has one. -/
lemma sumInto?_eq_some {data value : Bytes} {n m : Nat} (buffer : data.length = n * s.width)
    (payload : value.length = m * s.width) (room : 0 < m → 0 < n)
    (small : data.length < Size.limit) (fits : value.length < Size.limit) :
    s.sumInto? data value = some (s.addInto data value) := by
  have words := s.length_read buffer
  have added := s.length_read payload
  have cut : rows (value.length / s.width) s.width value =
      (s.read value).map fun w => s.write [w] := by
    rw [payload, Nat.mul_div_cancel _ s.width_pos, ← added, ← rows_write, s.write_read payload]
  rw [sumInto?, cut, addInto_eq]
  rcases Nat.eq_zero_or_pos m with none_left | some_left
  · have empty : s.read value = [] := List.eq_nil_of_length_eq_zero (added.trans none_left)
    rw [empty, foldOnto_eq_foldl, ← s.write_read buffer]
    simp
  · rw [foldOnto_eq_foldl, words]
    conv_lhs => rw [← s.write_read buffer]
    exact s.foldlM_addChunk? (room some_left) (buffer ▸ small) (s.read value) 0
      (by rwa [Nat.zero_add, added, ← payload]) (s.read data) words

end Summand

/-! ### Values in place -/

namespace Filling

/-- The bytes of a buffer after the value of a micro-batch has been written in place, every access
checked. -/
def put? (filling : Filling) (data : Bytes) (microBatch : Nat) (value : Bytes) : Option Bytes :=
  match filling with
  | stack => do
    let position ← Size.mul? microBatch value.length
    data.overwriteAt? position value
  | sum summand => summand.sumInto? data value
  | replace => if value.length = data.length then some value else none

/-- **Values of micro-batches written in place**, each with its number, every access checked. -/
def putAll? (filling : Filling) (data : Bytes) (calls : List (Bytes × Nat)) : Option Bytes :=
  calls.foldlM (fun data c => filling.put? data c.2 c.1) data

/-- The bytes that the values of a step are written over: only sums are set to zero. -/
def cleared (filling : Filling) (data : Bytes) : Bytes :=
  match filling with
  | stack => data
  | sum _ => List.replicate data.length 0
  | replace => data

@[simp] lemma length_cleared (filling : Filling) (data : Bytes) :
    (filling.cleared data).length = data.length := by
  cases filling <;> simp [cleared]

lemma overwrite_eq_foldl (filling : Filling) (data : Bytes) (values : List Bytes) :
    filling.overwrite data values =
      values.zipIdx.foldl (fun data c => filling.put data c.2 c.1) (filling.cleared data) := by
  cases filling <;> rfl

/-- What is written where there is room for it keeps the length. -/
lemma length_writeAt {data value : Bytes} {position : Nat}
    (inside : position + value.length ≤ data.length) :
    (writeAt position data value).length = data.length := by
  simp only [writeAt, List.length_append, List.length_take, List.length_drop]
  omega

/-- **A buffer of some bytes has room for values of some bytes** of so many micro-batches. -/
def HasRoom (filling : Filling) (microBatches size length : Nat) : Prop :=
  match filling with
  | stack => microBatches * length = size
  | sum summand => ∃ n m, size = n * summand.width ∧ length = m * summand.width ∧ (0 < m → 0 < n)
  | replace => length = size

variable {filling : Filling} {microBatches size length : Nat}

/-- **One value in place**: where there is room for it, no access fails, and the buffer keeps its
length. -/
lemma put?_eq_some (room : filling.HasRoom microBatches size length) (small : size < Size.limit)
    {data value : Bytes} (full : data.length = size) (payload : value.length = length)
    (fits : value.length < Size.limit) {microBatch : Nat} (numbered : microBatch < microBatches) :
    filling.put? data microBatch value = some (filling.put data microBatch value) ∧
      (filling.put data microBatch value).length = size := by
  subst full payload
  cases filling with
  | stack =>
    have inside : microBatch * value.length + value.length ≤ data.length :=
      (Size.mul_add_le_mul numbered value.length).trans_eq room
    have position : Size.mul? microBatch value.length = some (microBatch * value.length) :=
      Size.mul?_of_lt (by omega)
    refine ⟨?_, length_writeAt inside⟩
    rw [put?, position, Option.bind_eq_bind, Option.bind_some,
      Bytes.overwriteAt?_eq_some small inside]
    rfl
  | sum summand =>
    obtain ⟨n, m, buffer, words, room⟩ := room
    refine ⟨summand.sumInto?_eq_some buffer words room small fits, ?_⟩
    show (summand.addInto data value).length = data.length
    rw [Summand.addInto_eq, Summand.length_write, length_foldOnto, summand.length_read buffer,
      buffer]
  | replace => exact ⟨if_pos room, room⟩

-- Without room an access fails, and so does the division by the length of an empty buffer.
example : stack.put? [0, 0, 0] 1 [1, 2] = none ∧ (sum .int32).put? [] 0 [1, 0, 0, 0] = none := by
  decide

/-- **A run of values in place**, in any order and any number. -/
lemma putAll?_eq_some (room : filling.HasRoom microBatches size length) (small : size < Size.limit)
    {calls : List (Bytes × Nat)}
    (each : ∀ c ∈ calls, c.1.length = length ∧ c.1.length < Size.limit ∧ c.2 < microBatches)
    {data : Bytes} (full : data.length = size) :
    filling.putAll? data calls = some (calls.foldl (fun data c => filling.put data c.2 c.1) data) ∧
      (calls.foldl (fun data c => filling.put data c.2 c.1) data).length = size := by
  induction calls generalizing data with
  | nil => exact ⟨rfl, full⟩
  | cons c rest ih =>
    obtain ⟨⟨payload, fits, numbered⟩, others⟩ := List.forall_mem_cons.1 each
    obtain ⟨written, kept⟩ := put?_eq_some room small full payload fits numbered
    rw [putAll?, List.foldlM_cons, written, Option.bind_eq_bind, Option.bind_some, List.foldl_cons]
    exact ih others kept

end Filling

/-! ### Shapes -/

namespace Policy

/-- **Why there is no buffer** for values of a base shape. -/
inductive Refuses : Policy → Shape → Nat → ConfigurationFault → Prop
  /-- There are no micro-batches. -/
  | noMicroBatches {policy : Policy} {base : Shape} : Refuses policy base 0 .noMicroBatches
  /-- The leading dimension of a stack is no size. -/
  | stackTooLarge {microBatches leading : Nat} {rest : List Nat} (pos : 0 < microBatches)
      (large : Size.limit ≤ leading * microBatches) :
      Refuses all ⟨leading :: rest⟩ microBatches (.stackTooLarge leading microBatches)
  /-- The samples of a sum cannot be put in groups. -/
  | indivisibleSum {microBatches leading : Nat} {rest : List Nat} (pos : 0 < microBatches)
      (indivisible : leading % microBatches ≠ 0) :
      Refuses sum ⟨leading :: rest⟩ microBatches (.indivisibleSum leading microBatches)
  /-- There is a shape, but its elements cannot be counted. -/
  | bufferTooLarge {policy : Policy} {microBatches leading : Nat} {rest : List Nat}
      (pos : 0 < microBatches) (stacked : policy = all → leading * microBatches < Size.limit)
      (divisible : policy = sum → leading % microBatches = 0)
      (uncounted : (⟨policy.scaledDims microBatches (leading :: rest)⟩ : Shape).count? = none) :
      Refuses policy ⟨leading :: rest⟩ microBatches
        (.bufferTooLarge ⟨policy.scaledDims microBatches (leading :: rest)⟩)

variable {policy : Policy} {base shape : Shape} {microBatches : Nat}

/-- The shape of a buffer for values that have a leading dimension, and what stands in its way. -/
lemma bufferShape_cons (pos : 0 < microBatches) (leading : Nat) (rest : List Nat) :
    policy.bufferShape ⟨leading :: rest⟩ microBatches =
      if policy = all ∧ Size.limit ≤ leading * microBatches then
        .error (.stackTooLarge leading microBatches)
      else if policy = sum ∧ leading % microBatches ≠ 0 then
        .error (.indivisibleSum leading microBatches)
      else if (⟨policy.scaledDims microBatches (leading :: rest)⟩ : Shape).count?.isSome then
        .ok ⟨policy.scaledDims microBatches (leading :: rest)⟩
      else .error (.bufferTooLarge ⟨policy.scaledDims microBatches (leading :: rest)⟩) := by
  unfold bufferShape
  rw [if_neg (Nat.ne_of_gt pos)]
  cases policy with
  | all =>
    by_cases fits : leading * microBatches < Size.limit
    · simp only [Shape.leading?, List.head?_cons, scaleLeading, Size.mul?_of_lt fits,
        Nat.not_le.2 fits, and_false, if_false, reduceCtorEq, false_and]
      rfl
    · simp only [Shape.leading?, List.head?_cons, scaleLeading, Size.mul?, fits, Nat.not_lt.1 fits,
        and_true, if_true, if_false]
      rfl
  | sum =>
    by_cases divisible : leading % microBatches = 0
    · simp only [Shape.leading?, List.head?_cons, scaleLeading, divisible, reduceCtorEq, false_and,
        ne_eq, not_true_eq_false, and_false, if_true, if_false]
      rfl
    · simp only [Shape.leading?, List.head?_cons, scaleLeading, divisible, reduceCtorEq, false_and,
        ne_eq, not_false_eq_true, and_true, if_true, if_false]
      rfl
  | last =>
    simp only [reduceCtorEq, false_and, if_false]
    rfl

/-- **Exactly why a shape is refused.** -/
lemma bufferShape_eq_error_iff {cause : ConfigurationFault} :
    policy.bufferShape base microBatches = .error cause ↔
      policy.Refuses base microBatches cause := by
  obtain ⟨dims⟩ := base
  constructor
  · intro h
    rcases Nat.eq_zero_or_pos microBatches with rfl | pos
    · cases h
      exact .noMicroBatches
    cases dims with
    | nil => cases policy <;> simp [bufferShape, Nat.ne_of_gt pos, Shape.leading?] at h
    | cons leading rest =>
      rw [bufferShape_cons pos] at h
      split at h
      · rename_i large
        obtain ⟨rfl, large⟩ := large
        cases h
        exact .stackTooLarge pos large
      rename_i small
      split at h
      · rename_i indivisible
        obtain ⟨rfl, indivisible⟩ := indivisible
        cases h
        exact .indivisibleSum pos indivisible
      rename_i divisible
      split at h
      · cases h
      · rename_i uncounted
        cases h
        simp only [not_and, Nat.not_le, Decidable.not_not] at small divisible
        exact .bufferTooLarge pos small divisible (Option.not_isSome_iff_eq_none.1 uncounted)
  · intro h
    cases h with
    | noMicroBatches => rfl
    | stackTooLarge pos large => rw [bufferShape_cons pos, if_pos ⟨rfl, large⟩]
    | indivisibleSum pos indivisible =>
      simp only [bufferShape_cons pos, reduceCtorEq, false_and, if_false, ne_eq, indivisible,
        not_false_eq_true, and_self, if_true]
    | bufferTooLarge pos stacked divisible uncounted =>
      rw [bufferShape_cons pos, if_neg (fun h => Nat.not_lt.2 h.2 (stacked h.1)),
        if_neg (fun h => h.2 (divisible h.1)), uncounted]
      rfl

/-- **How many elements a buffer has**, and which dimensions it keeps. -/
structure Scales (policy : Policy) (microBatches : Nat) (base shape : Shape) : Prop where
  /-- A stack has those of every micro-batch. -/
  all : policy = .all → shape.dims.prod = microBatches * base.dims.prod
  /-- A last value has its own. -/
  last : policy = .last → shape.dims.prod = base.dims.prod
  /-- A sum has those of one group. -/
  sum : policy = .sum → base.rank ≠ 0 → shape.dims.prod * microBatches = base.dims.prod
  /-- A sum of scalars is a scalar. -/
  scalar : policy = .sum → base.rank = 0 → shape.dims.prod = 1
  /-- There are as many dimensions, unless scalars are stacked. -/
  rank : base.rank ≠ 0 → shape.rank = base.rank
  /-- All dimensions but the leading one are kept. -/
  tail : shape.dims.tail = base.dims.tail

/-- **The scaled dimensions have as many elements as the policy says.** -/
lemma scales_scaledDims (divisible : policy = .sum → ∀ leading ∈ base.dims.head?,
    leading % microBatches = 0) :
    policy.Scales microBatches base ⟨policy.scaledDims microBatches base.dims⟩ := by
  obtain ⟨dims⟩ := base
  refine ⟨?_, ?_, ?_, ?_, ?_, ?_⟩
  · rintro rfl
    exact prod_scaledDims_all microBatches dims
  · rintro rfl
    cases dims <;> rfl
  · rintro rfl positive
    cases dims with
    | nil => exact absurd rfl positive
    | cons leading rest =>
      have groups : leading / microBatches * microBatches = leading :=
        Nat.div_mul_cancel (Nat.dvd_of_mod_eq_zero (divisible rfl leading rfl))
      simp only [scaledDims, List.prod_cons]
      rw [Nat.mul_right_comm, groups]
  · rintro rfl scalar
    obtain rfl := List.eq_nil_of_length_eq_zero scalar
    rfl
  · intro positive
    cases dims with
    | nil => exact absurd rfl positive
    | cons leading rest => cases policy <;> rfl
  · cases dims <;> cases policy <;> rfl

/-- The elements of a value are those of some groups. -/
lemma Scales.exists_groups (h : policy.Scales microBatches base shape) (summed : policy = .sum) :
    ∃ groups, base.dims.prod = shape.dims.prod * groups := by
  by_cases scalar : base.rank = 0
  · have none_left : base.dims = [] := List.eq_nil_of_length_eq_zero scalar
    exact ⟨1, by rw [h.scalar summed scalar, none_left]; rfl⟩
  · exact ⟨microBatches, (h.sum summed scalar).symm⟩

/-- **Where the values of a step lie** in a buffer, both given by their bytes. The range of every
micro-batch lies inside a stack, and every position of a stack is in the range of exactly one. A
last value takes the whole buffer. A value that is added up is some times as long as its buffer,
which is not empty unless the value is, and each of its elements comes to lie inside. -/
def Reaches (policy : Policy) (microBatches width size length : Nat) : Prop :=
  match policy with
  | all => (∀ m < microBatches, (m + 1) * length ≤ size) ∧
      ∀ j < size, ∃! m, m < microBatches ∧ m * length ≤ j ∧ j < (m + 1) * length
  | sum => (length ≠ 0 → size ≠ 0) ∧ size ∣ length ∧
      ∀ i, (i + 1) * width ≤ length → i * width % size + width ≤ size
  | last => length = size

/-- **The scaled elements of any width reach their values.** -/
lemma Scales.reaches (h : policy.Scales microBatches base shape) (width : Nat) :
    policy.Reaches microBatches width (shape.dims.prod * width) (base.dims.prod * width) := by
  cases policy with
  | all =>
    rw [h.all rfl, Nat.mul_assoc]
    generalize base.dims.prod * width = length
    refine ⟨fun m numbered => Nat.mul_le_mul_right _ numbered, fun j inside => ?_⟩
    have some_byte : 0 < length := Nat.pos_of_mul_pos_left (Nat.zero_lt_of_lt inside)
    refine ⟨j / length, ⟨?_, Nat.div_mul_le_self j length, ?_⟩, ?_⟩
    · exact Nat.div_lt_of_lt_mul (by rwa [Nat.mul_comm])
    · rw [Nat.succ_mul]
      exact Nat.lt_div_mul_add some_byte
    · rintro m ⟨-, below, above⟩
      exact (Nat.div_eq_of_lt_le below above).symm
  | sum =>
    obtain ⟨groups, groups_eq⟩ := h.exists_groups rfl
    rw [groups_eq, Nat.mul_right_comm]
    generalize shape.dims.prod = n
    have nonempty : n * width * groups ≠ 0 → n * width ≠ 0 := fun some_left none_left =>
      some_left (by rw [none_left, Nat.zero_mul])
    refine ⟨nonempty, Nat.dvd_mul_right _ _, fun i inside => ?_⟩
    rw [Nat.mul_mod_mul_right, ← Nat.succ_mul]
    rcases Nat.eq_zero_or_pos n with rfl | some_element
    · rw [Nat.zero_mul, Nat.zero_mul, Nat.le_zero, Nat.mul_eq_zero] at inside
      rw [inside.resolve_left (Nat.succ_ne_zero i)]
      exact Nat.le_refl _
    · exact Nat.mul_le_mul_right _ (Nat.mod_lt i some_element)
  | last =>
    show base.dims.prod * width = shape.dims.prod * width
    rw [h.last rfl]

end Policy

/-- A payload size that fits is a size. -/
lemma TensorInfo.lt_of_byteCount? {info : TensorInfo} {n : Nat} (h : info.byteCount? = some n) :
    n < Size.limit := by
  obtain ⟨count, -, h⟩ := Option.bind_eq_some_iff.1 h
  exact (Size.mul?_eq_some_iff.1 h).2

/-! ### Buffers of anchors -/

namespace Buffer

variable {a : RegisteredAnchor} {microBatches : Nat} {b b' : Buffer}

/-- **The buffer of an anchor has room** for the values of every micro-batch. -/
lemma IsFor.hasRoom (h : b.IsFor a microBatches) (full : b.Full)
    (fits : b.layout.buffer.byteCount?.isSome) :
    b.filling.HasRoom microBatches b.data.length
      (a.info.shape.dims.prod * a.info.elementType.byteSize) := by
  obtain ⟨-, layout, divisible⟩ := h.layout_eq
  have scales := Policy.scales_scaledDims divisible
  rcases h.filling_eq with ⟨-, filling⟩ | ⟨policy, filling⟩ | ⟨policy, summand, filling, element⟩
  · rw [h.length_stack full fits filling, filling]
    rfl
  · rw [full, TensorInfo.byteCount_of_isSome fits, layout, filling]
    exact congrArg (· * _) (scales.last policy).symm
  · have length := h.length_sum full fits summand filling
    rw [layout] at length
    rw [filling]
    obtain ⟨groups, groups_eq⟩ := scales.exists_groups policy
    have payload : a.info.shape.dims.prod * a.info.elementType.byteSize =
        a.info.shape.dims.prod * summand.width := by
      rw [Summand.byteSize_of_ofElementType? element]
    refine ⟨_, _, length, payload, fun some_element => ?_⟩
    rw [groups_eq] at some_element
    exact Nat.pos_of_mul_pos_right some_element

/-- **The buffer of an anchor takes any run of values in place** without an access that fails. -/
lemma IsFor.putAll?_eq_some (h : b.IsFor a microBatches) (full : b.Full)
    (fits : b.layout.buffer.byteCount?.isSome) {calls : List (Tensor × Nat)}
    (each : ∀ c ∈ calls, c.1.Fits a.info ∧ c.2 < microBatches) {data : Bytes}
    (same : data.length = b.data.length) :
    b.filling.putAll? data (calls.map fun c => (c.1.payload, c.2)) =
      some (calls.foldl (fun data c => b.filling.put data c.2 c.1.payload) data) := by
  have small : b.data.length < Size.limit := by
    rw [full, TensorInfo.byteCount_of_isSome fits]
    exact TensorInfo.lt_of_byteCount? (TensorInfo.byteCount?_of_isSome fits)
  have payloads : ∀ c ∈ calls.map (fun c => (c.1.payload, c.2)),
      c.1.length = a.info.shape.dims.prod * a.info.elementType.byteSize ∧
        c.1.length < Size.limit ∧ c.2 < microBatches := by
    intro c called
    obtain ⟨call, member, rfl⟩ := List.mem_map.1 called
    obtain ⟨⟨-, size⟩, numbered⟩ := each call member
    exact ⟨TensorInfo.byteCount?_eq_some size, TensorInfo.lt_of_byteCount? size, numbered⟩
  rw [(Filling.putAll?_eq_some (h.hasRoom full fits) small payloads same).1, List.foldl_map]

/-- **A step of the buffer of an anchor is a run of values in place**, on bytes of which only sums
were set to zero. -/
lemma IsFor.putAll?_of_fillStep {checkNumerics : Bool} {values : List Tensor}
    (h : b.IsFor a microBatches) (full : b.Full) (fits : b.layout.buffer.byteCount?.isSome)
    (count : values.length = microBatches) (filled : b.fillStep checkNumerics values = .ok b') :
    b.filling.putAll? (b.filling.cleared b.data) (values.map (·.payload)).zipIdx =
      some b'.data := by
  obtain ⟨accepted, -⟩ := fillStep_eq_ok_iff.1 filled
  obtain ⟨-, layout, -⟩ := h.layout_eq
  have each : ∀ c ∈ values.zipIdx, c.1.Fits a.info ∧ c.2 < microBatches := by
    rintro ⟨value, number⟩ called
    have described := (accepted value (List.fst_mem_of_mem_zipIdx called)).1
    rw [layout] at described
    exact ⟨described, count ▸ List.snd_lt_of_mem_zipIdx called⟩
  have numbered : (values.map (·.payload)).zipIdx =
      values.zipIdx.map fun c => (c.1.payload, c.2) := List.zipIdx_map ..
  rw [(data_fillStep h full fits count filled).2, Filling.overwrite_eq_foldl, numbered,
    h.putAll?_eq_some full fits each (Filling.length_cleared ..), List.foldl_map]

end Buffer

namespace Policy

/-- **Every value lies inside the buffer of its policy.** Take any policy, any base shape and any
number of micro-batches.

The shape of a buffer is refused exactly for one of four causes: there are no micro-batches, the
leading dimension of a stack is no size, the leading dimension of a sum is no multiple of the number
of micro-batches, or the elements of the shape cannot be counted. If there is a shape, its elements
are as many as the policy says, and all dimensions but the leading one are kept.

For elements of any type whose bytes can be counted in the buffer, every value that passes the check
against the base shape then lies where it should: the ranges of all micro-batches inside a stack,
each position in exactly one of them; a last value on the whole buffer; and each element of a value
that is added up, at its position modulo the length of the buffer, inside the buffer. A buffer of
the anchor takes any run of such values in place without an access that fails or a division by zero.
A step of the buffer leaves what the accesses in place leave, on bytes of which only sums were set
to zero.

**Proof sketch.** The dimensions of the buffer are those of the base with the leading one scaled,
from which the number of elements follows for each policy. Sizes in bytes are multiples of these by
one element size, so that the buffer has room for its values. Where there is room one value is
written without an access that fails, and so is a run of them by induction; for sums the induction
goes over the words of the value. -/
theorem bufferShape_holds_values (policy : Policy) (base : Shape) (microBatches : Nat) :
    (∀ cause, policy.bufferShape base microBatches = .error cause ↔
      policy.Refuses base microBatches cause) ∧
    ∀ shape, policy.bufferShape base microBatches = .ok shape →
      0 < microBatches ∧ policy.Scales microBatches base shape ∧
      ∀ (name : String) (t : ElementType), (⟨t, shape⟩ : TensorInfo).byteCount?.isSome →
        (∀ value, (⟨t, base⟩ : TensorInfo).validate name value = .ok () →
          policy.Reaches microBatches t.byteSize (⟨t, shape⟩ : TensorInfo).byteCount
            value.payload.length) ∧
        ∀ b : Buffer, b.IsFor ⟨⟨name, policy⟩, ⟨t, base⟩⟩ microBatches → b.Full →
          b.data.length = (⟨t, shape⟩ : TensorInfo).byteCount ∧
          (∀ (data : Bytes) (calls : List (Tensor × Nat)), data.length = b.data.length →
            (∀ c ∈ calls, (⟨t, base⟩ : TensorInfo).validate name c.1 = .ok () ∧
              c.2 < microBatches) →
            b.filling.putAll? data (calls.map fun c => (c.1.payload, c.2)) =
              some (calls.foldl (fun data c => b.filling.put data c.2 c.1.payload) data)) ∧
          ∀ checkNumerics values b', values.length = microBatches →
            b.fillStep checkNumerics values = .ok b' →
            b.filling.putAll? (b.filling.cleared b.data) (values.map (·.payload)).zipIdx =
              some b'.data := by
  refine ⟨fun cause => bufferShape_eq_error_iff, fun shape derived => ?_⟩
  obtain ⟨pos, rfl, divisible⟩ := bufferShape_eq_ok derived
  have scales := scales_scaledDims divisible
  refine ⟨pos, scales, fun name t sized => ⟨fun value validated => ?_, fun b belongs full => ?_⟩⟩
  · have size := TensorInfo.byteCount?_eq_some (TensorInfo.validate_eq_ok_iff.1 validated).2
    rw [TensorInfo.byteCount_of_isSome sized, size]
    exact scales.reaches t.byteSize
  · obtain ⟨-, layout, -⟩ := belongs.layout_eq
    have fits : b.layout.buffer.byteCount?.isSome := by rwa [layout]
    refine ⟨by rw [full, layout], fun data calls same each => ?_,
      fun checkNumerics values b' count filled => ?_⟩
    · simp only [TensorInfo.validate_eq_ok_iff] at each
      exact belongs.putAll?_eq_some full fits each same
    · exact belongs.putAll?_of_fillStep full fits count filled

/-! ### A sum of two groups -/

/-- Four integers, in two groups. -/
def groupedValue : Tensor := .ofInts ⟨[4]⟩ [1, 2, 3, 4]

/-- The buffer of the sums of two groups. -/
def groupedSums : Buffer where
  layout := ⟨"n", .sum, ⟨.int32, ⟨[4]⟩⟩, ⟨.int32, ⟨[2]⟩⟩⟩
  filling := .sum .int32
  parts := [List.replicate 8 1]

/-- **A sum of two groups** over two micro-batches: both values lie in the buffer, and what they
leave there in place is what a step leaves. -/
theorem bufferShape_holds_values_sample :
    sum.bufferShape ⟨[4]⟩ 2 = .ok ⟨[2]⟩ ∧ (⟨.int32, ⟨[2]⟩⟩ : TensorInfo).byteCount?.isSome ∧
    (⟨.int32, ⟨[4]⟩⟩ : TensorInfo).validate "n" groupedValue = .ok () ∧
    sum.Scales 2 ⟨[4]⟩ ⟨[2]⟩ ∧ sum.Reaches 2 4 8 16 ∧
    groupedSums.IsFor ⟨⟨"n", .sum⟩, ⟨.int32, ⟨[4]⟩⟩⟩ 2 ∧ groupedSums.Full ∧
    (∃ data, groupedSums.filling.putAll? groupedSums.data [(groupedValue.payload, 1)] = some data) ∧
    ∃ b', groupedSums.fillStep true [groupedValue, groupedValue] = .ok b' ∧
      groupedSums.filling.putAll? (groupedSums.filling.cleared groupedSums.data)
        [(groupedValue.payload, 0), (groupedValue.payload, 1)] = some b'.data ∧
      b'.data = Bytes.ofWords32 [8, 12] := by
  have derived : sum.bufferShape ⟨[4]⟩ 2 = .ok ⟨[2]⟩ := rfl
  have sized : (⟨.int32, ⟨[2]⟩⟩ : TensorInfo).byteCount?.isSome := rfl
  have validated : (⟨.int32, ⟨[4]⟩⟩ : TensorInfo).validate "n" groupedValue = .ok () := by decide
  have belongs : groupedSums.IsFor ⟨⟨"n", .sum⟩, ⟨.int32, ⟨[4]⟩⟩⟩ 2 := ⟨rfl, rfl⟩
  have full : groupedSums.Full := rfl
  have filled : groupedSums.fillStep true [groupedValue, groupedValue] =
      .ok { groupedSums with parts := [Bytes.ofWords32 [8, 12]] } := by decide +kernel
  obtain ⟨-, scales, places⟩ := (bufferShape_holds_values sum ⟨[4]⟩ 2).2 _ derived
  obtain ⟨reaches, places⟩ := places "n" .int32 sized
  obtain ⟨-, run, step⟩ := places _ belongs full
  have once := run groupedSums.data [(groupedValue, 1)] rfl
    (List.forall_mem_singleton.2 ⟨validated, by decide⟩)
  have twice := step true _ _ rfl filled
  exact ⟨derived, sized, validated, scales, reaches _ validated, belongs, full, ⟨_, once⟩, _,
    filled, twice, rfl⟩

end Policy

end Microbatch
