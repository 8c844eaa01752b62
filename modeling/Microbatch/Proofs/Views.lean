import Microbatch.Proofs.Layouts
import Microbatch.Session.Loader

set_option relaxedAutoImplicit false
set_option autoImplicit false

/-!
# Views of tensors

A view is a range of a payload under another description; a tensor is reshaped, and given a step
dimension, with its payload as it is. Element counts and payload sizes that do not fit are clipped
to the largest size before they are compared, and the largest size is itself a number. With a
well-formed tensor whose payload is shorter than that, no clipped number is mistaken for a real one.
What is made of such a tensor is again such a tensor, and so is everything that is made of that.

## Main definitions

* `Microbatch.TensorInfo.exactByteCount` — the bytes of all elements, whether they fit or not.
* `Microbatch.Tensor.Unclipped` — a well-formed tensor with a payload below the largest size.
* `Microbatch.Tensor.Derived` — what is made of a tensor by views, reshapes and step dimensions.

## Main results

* `Microbatch.Tensor.Unclipped.view_eq_ok_iff`, `Microbatch.Tensor.Unclipped.reshape_eq_ok_iff`,
  `Microbatch.Tensor.Unclipped.addStepDimension_eq_ok_iff` — what succeeds, and with which result.
* `Microbatch.Tensor.Derived.unclipped`, `Microbatch.Tensor.Derived.payload_isInfix` — what all
  derived tensors have in common.
* `Microbatch.Loader.derived_slice`, `Microbatch.StepInputs.derived_part` — the steps of a loader
  and the parts of accepted inputs are derived.
* `Microbatch.Tensor.views_stay_unclipped` — views, reshapes and step dimensions.
-/

namespace Microbatch

/-! ### Clipped numbers -/

/-- **A clipped number below the largest size** is not clipped. -/
lemma Size.getD_largest_eq_iff {x : Option Nat} {n : Nat} (below : n < Size.largest) :
    x.getD Size.largest = n ↔ x = some n := by
  cases x with
  | none => simpa using Nat.ne_of_gt below
  | some m => simp

/-- The bytes of all elements, whether their number is a size or not. -/
def TensorInfo.exactByteCount (info : TensorInfo) : Nat :=
  info.shape.dims.prod * info.elementType.byteSize

namespace Tensor

variable {t r : Tensor}

/-- **A tensor without clipped numbers**: its payload has the size that it describes, and is shorter
than the size which others are clipped to. -/
structure Unclipped (t : Tensor) : Prop where
  /-- The payload has the described size. -/
  wellFormed : t.WellFormed
  /-- The payload is shorter than the largest size. -/
  below : t.payload.length < Size.largest

instance (t : Tensor) : Decidable t.Unclipped :=
  decidable_of_iff (t.WellFormed ∧ t.payload.length < Size.largest)
    ⟨fun h => ⟨h.1, h.2⟩, fun h => ⟨h.wellFormed, h.below⟩⟩

/-! ### Views -/

/-- **Where there is a view**: the description has a payload size, and the exact size decides. The
view has the bytes of that range. -/
lemma Unclipped.view_eq_ok_iff (unclipped : t.Unclipped) {offset : Nat} {info : TensorInfo} :
    t.view offset info = .ok r ↔ info.byteCount?.isSome ∧
      offset + info.exactByteCount ≤ t.payload.length ∧
      r = ⟨info, (t.payload.drop offset).take info.exactByteCount⟩ := by
  constructor
  · intro viewed
    unfold view at viewed
    split at viewed
    · rename_i inside
      cases viewed
      -- it is at most the length of the payload, so it is not the size that others are clipped to
      have below : info.byteCount < Size.largest :=
        Nat.lt_of_le_of_lt (Nat.le_of_add_left_le inside) unclipped.below
      have sized : info.byteCount?.isSome :=
        Option.isSome_of_eq_some ((Size.getD_largest_eq_iff below).1 rfl)
      rw [TensorInfo.byteCount_of_isSome sized] at inside ⊢
      exact ⟨sized, inside, rfl⟩
    · cases viewed
  · rintro ⟨sized, inside, rfl⟩
    rw [view, TensorInfo.byteCount_of_isSome sized]
    exact if_pos inside

/-- A view is well formed. -/
lemma Unclipped.of_view (unclipped : t.Unclipped) {offset : Nat} {info : TensorInfo}
    (viewed : t.view offset info = .ok r) : r.Unclipped := by
  obtain ⟨sized, inside, rfl⟩ := unclipped.view_eq_ok_iff.1 viewed
  have length : ((t.payload.drop offset).take info.exactByteCount).length =
      info.exactByteCount := by
    rw [List.length_take_of_le]
    rw [List.length_drop]
    omega
  refine ⟨?_, ?_⟩
  · rw [WellFormed, length]
    exact TensorInfo.byteCount?_of_isSome sized
  · rw [length]
    exact Nat.lt_of_le_of_lt (Nat.le_of_add_left_le inside) unclipped.below

/-! ### Reshapes -/

/-- The elements of a tensor without clipped numbers are counted, and they are not more than the
bytes. -/
lemma Unclipped.counted (unclipped : t.Unclipped) :
    t.info.shape.count? = some t.info.shape.dims.prod ∧
      t.info.shape.dims.prod < Size.largest := by
  obtain ⟨n, counted, bytes⟩ := Option.bind_eq_some_iff.1 unclipped.wellFormed
  obtain ⟨size, -⟩ := Size.mul?_eq_some_iff.1 bytes
  have few := Nat.le_mul_of_pos_right n t.info.elementType.byteSize_pos
  have below := unclipped.below
  rw [← Shape.count?_eq_some counted]
  exact ⟨counted, by omega⟩

/-- **Where a tensor is reshaped**: where the elements of the new shape can be counted, and the
exact counts are the same. -/
lemma Unclipped.reshape_eq_ok_iff (unclipped : t.Unclipped) {shape : Shape} :
    t.reshape shape = .ok r ↔ shape.count?.isSome ∧ shape.dims.prod = t.info.shape.dims.prod ∧
      r = ⟨⟨t.info.elementType, shape⟩, t.payload⟩ := by
  obtain ⟨counted, below⟩ := unclipped.counted
  -- the count of the tensor is below the largest size, so that no clipped count equals it
  have exact_count : shape.count = t.info.shape.count ↔
      shape.count?.isSome ∧ shape.dims.prod = t.info.shape.dims.prod := by
    rw [Shape.count, Shape.count, counted, Option.getD_some, Size.getD_largest_eq_iff below]
    constructor
    · intro same
      exact ⟨Option.isSome_of_eq_some same, (Shape.count?_eq_some same).symm⟩
    · rintro ⟨fits, same⟩
      obtain ⟨n, counted'⟩ := Option.isSome_iff_exists.1 fits
      rw [counted', Shape.count?_eq_some counted', same]
  unfold reshape
  split
  · rename_i same
    simp [exact_count.1 same, eq_comm]
  · rename_i differ
    simp only [reduceCtorEq, false_iff]
    exact fun made => differ (exact_count.2 ⟨made.1, made.2.1⟩)

/-- A reshaped tensor is well formed. -/
lemma Unclipped.of_reshape (unclipped : t.Unclipped) {shape : Shape}
    (reshaped : t.reshape shape = .ok r) : r.Unclipped := by
  obtain ⟨fits, same, rfl⟩ := unclipped.reshape_eq_ok_iff.1 reshaped
  obtain ⟨n, counted⟩ := Option.isSome_iff_exists.1 fits
  have same_size : (⟨t.info.elementType, shape⟩ : TensorInfo).byteCount? = t.info.byteCount? := by
    rw [TensorInfo.byteCount?, TensorInfo.byteCount?, unclipped.counted.1, counted,
      Shape.count?_eq_some counted, same]
  exact ⟨same_size.trans unclipped.wellFormed, unclipped.below⟩

/-! ### Step dimensions -/

/-- **A step dimension is a reshape** to a shape with one more dimension, where the outer dimension
can be divided. -/
lemma addStepDimension_eq_ok_iff_reshape {k : Nat} : t.addStepDimension k = .ok r ↔
    0 < k ∧ ∃ outer rest, t.info.shape.dims = outer :: rest ∧ k ∣ outer ∧
      t.reshape ⟨k :: outer / k :: rest⟩ = .ok r := by
  obtain ⟨⟨elementType, ⟨dims⟩⟩, payload⟩ := t
  rcases Nat.eq_zero_or_pos k with rfl | pos
  · simp [addStepDimension]
  cases dims with
  | nil => simp [addStepDimension, Shape.leading?, Nat.ne_of_gt pos]
  | cons outer rest =>
    by_cases divides : k ∣ outer
    · simp [addStepDimension, Shape.leading?, Shape.withLeading, Shape.withOuter, pos,
        Nat.ne_of_gt pos, divides, Nat.mod_eq_zero_of_dvd divides]
    · have rest_left : outer % k ≠ 0 := fun none_left => divides (Nat.dvd_of_mod_eq_zero none_left)
      simp [addStepDimension, Shape.leading?, Nat.ne_of_gt pos, divides, rest_left]

/-- **Where a tensor takes a step dimension**: where it has an outer dimension and the number of
micro-batches divides it. The elements can then be counted in the new shape. -/
lemma Unclipped.addStepDimension_eq_ok_iff (unclipped : t.Unclipped) {k : Nat}
    (size : k < Size.limit) : t.addStepDimension k = .ok r ↔
      0 < k ∧ ∃ outer rest, t.info.shape.dims = outer :: rest ∧ k ∣ outer ∧
        r = ⟨⟨t.info.elementType, ⟨k :: outer / k :: rest⟩⟩, t.payload⟩ := by
  rw [addStepDimension_eq_ok_iff_reshape]
  refine and_congr_right fun _ => exists_congr fun outer => exists_congr fun rest =>
    and_congr_right fun dims => and_congr_right fun divides => ?_
  have stacked : t.info.shape = ⟨k * (outer / k) :: rest⟩ := by
    rw [Nat.mul_div_cancel' divides, ← dims]
  have counted : (⟨k :: outer / k :: rest⟩ : Shape).count? = some t.info.shape.dims.prod :=
    Shape.count?_stacked_iff.2 ⟨size, stacked ▸ unclipped.counted.1⟩
  rw [unclipped.reshape_eq_ok_iff]
  constructor
  · exact fun made => made.2.2
  · exact fun made => ⟨Option.isSome_of_eq_some counted, (Shape.count?_eq_some counted).symm, made⟩

/-- A tensor with a step dimension is well formed. -/
lemma Unclipped.of_addStepDimension (unclipped : t.Unclipped) {k : Nat}
    (stepped : t.addStepDimension k = .ok r) : r.Unclipped := by
  obtain ⟨-, outer, rest, -, -, reshaped⟩ := addStepDimension_eq_ok_iff_reshape.1 stepped
  exact unclipped.of_reshape reshaped

/-! ### What is made of a tensor -/

/-- **What is made of a tensor** by views, reshapes and step dimensions, one after the other. -/
inductive Derived (t : Tensor) : Tensor → Prop where
  /-- The tensor itself. -/
  | self : Derived t t
  /-- A view of what was made. -/
  | view {s r : Tensor} {offset : Nat} {info : TensorInfo} (made : Derived t s)
    (viewed : s.view offset info = .ok r) : Derived t r
  /-- What was made, under another shape. -/
  | reshape {s r : Tensor} {shape : Shape} (made : Derived t s)
    (reshaped : s.reshape shape = .ok r) : Derived t r
  /-- What was made, with a step dimension. -/
  | addStepDimension {s r : Tensor} {k : Nat} (made : Derived t s)
    (stepped : s.addStepDimension k = .ok r) : Derived t r

/-- **All that is made of a tensor without clipped numbers** is well formed and has none. -/
lemma Derived.unclipped (derived : t.Derived r) (unclipped : t.Unclipped) : r.Unclipped := by
  induction derived with
  | self => exact unclipped
  | view _ viewed ih => exact ih.of_view viewed
  | reshape _ reshaped ih => exact ih.of_reshape reshaped
  | addStepDimension _ stepped ih => exact ih.of_addStepDimension stepped

/-- A view has some bytes of the payload, without gaps. -/
lemma payload_isInfix_of_view {offset : Nat} {info : TensorInfo}
    (viewed : t.view offset info = .ok r) : r.payload <:+: t.payload := by
  unfold view at viewed
  split at viewed
  · cases viewed
    exact (List.take_prefix _ _).isInfix.trans (List.drop_suffix _ _).isInfix
  · cases viewed

/-- A reshaped tensor has the same payload. -/
lemma payload_eq_of_reshape {shape : Shape} (reshaped : t.reshape shape = .ok r) :
    r.payload = t.payload := by
  unfold reshape at reshaped
  split at reshaped
  · cases reshaped
    rfl
  · cases reshaped

/-- **All that is made of a tensor** has some bytes of its payload, without gaps. -/
lemma Derived.payload_isInfix (derived : t.Derived r) : r.payload <:+: t.payload := by
  induction derived with
  | self => exact List.infix_rfl
  | view _ viewed ih => exact (payload_isInfix_of_view viewed).trans ih
  | reshape _ reshaped ih => exact payload_eq_of_reshape reshaped ▸ ih
  | addStepDimension _ stepped ih =>
    obtain ⟨-, outer, rest, -, -, reshaped⟩ := addStepDimension_eq_ok_iff_reshape.1 stepped
    exact payload_eq_of_reshape reshaped ▸ ih

end Tensor

/-- **The steps of a loader** are made of the tensors of the dataset. -/
lemma Loader.derived_slice {l : Loader} {c : Cursor} {r : Tensor} (sliced : l.slice c = .ok r) :
    c.tensor.Derived r := by
  rw [slice, Cursor.view_eq] at sliced
  obtain ⟨step, viewed, made⟩ := Outcome.bind_eq_ok_iff.1 sliced
  split at made
  · exact (Tensor.Derived.self.view viewed).addStepDimension made
  · cases made
    exact .view .self viewed

/-- **The parts of the micro-batches** are made of the input of the step. -/
lemma Stream.Whole.derived_part {k : Nat} {s : Stream} (whole : s.Whole k) {part : Tensor}
    (member : part ∈ s.parts k) : s.tensor.Derived part := by
  obtain ⟨m, viewed, -⟩ := whole.exists_view_eq_ok member
  exact .view .self viewed

/-- **The parts of accepted inputs** are made of these. -/
lemma StepInputs.derived_part {inputs : StepInputs} {expected : NameMap TensorInfo} {k : Nat}
    {streams : List Stream} (pos : 0 < k) (accepted : inputs.streams expected k = .ok streams)
    {s : Stream} (listed : s ∈ streams) {part : Tensor} (member : part ∈ s.parts k) :
    s.tensor.Derived part := by
  obtain ⟨e, -, -, -, whole⟩ :=
    Outcome.exists_of_forall₂_right (StepInputs.streams_eq_ok pos accepted) listed
  exact whole.derived_part member

namespace Tensor

/-- **Views stay well formed.** Take a well-formed tensor whose payload is shorter than the largest
size. For all offsets and descriptions, there is a view exactly if the description has a payload
size, which is then exact, and the range of that size from the offset on lies within the payload;
the view has the bytes of that range. For all shapes, the tensor is reshaped exactly if both shapes
have element counts, which are then exact, and these are the same; the payload stays. For all
numbers of micro-batches, it takes a step dimension exactly if the number is positive and divides
the leading dimension, which there has to be; the leading dimension is split, all others and the
payload stay. Whatever is made in this way, in any number of steps, is again a well-formed tensor
with a payload shorter than the largest size, and its payload lies within that of the first. What a
loader takes from the tensor for a step is made in this way, and so is what a micro-batch is fed of
it, if it is an accepted input of a step.

**Proof sketch.** A number that does not fit is compared as the largest size. In a view it would
have to be at most the length of the payload, and in a reshape equal to an element count, which is
at most that length; both are less than the largest size. The counts of a shape before and after the
leading dimension is split have the same partial products from the second one on. What is said of
all that is made is an induction over the steps. -/
theorem views_stay_unclipped (t : Tensor) (unclipped : t.Unclipped) :
    (∀ offset info r, t.view offset info = .ok r ↔ info.byteCount?.isSome ∧
      offset + info.exactByteCount ≤ t.payload.length ∧
      r = ⟨info, (t.payload.drop offset).take info.exactByteCount⟩) ∧
    (∀ shape r, t.reshape shape = .ok r ↔ shape.count?.isSome ∧
      shape.dims.prod = t.info.shape.dims.prod ∧
      r = ⟨⟨t.info.elementType, shape⟩, t.payload⟩) ∧
    (∀ k < Size.limit, ∀ r, t.addStepDimension k = .ok r ↔ 0 < k ∧ ∃ outer rest,
      t.info.shape.dims = outer :: rest ∧ k ∣ outer ∧
        r = ⟨⟨t.info.elementType, ⟨k :: outer / k :: rest⟩⟩, t.payload⟩) ∧
    (∀ r, t.Derived r → r.Unclipped ∧ r.payload <:+: t.payload) ∧
    (∀ (l : Loader) (c : Cursor) r, c.tensor = t → l.slice c = .ok r → t.Derived r) ∧
    ∀ (inputs : StepInputs) (expected : NameMap TensorInfo) (k : Nat) (streams : List Stream),
      0 < k → inputs.streams expected k = .ok streams →
        ∀ s ∈ streams, s.tensor = t → ∀ part ∈ s.parts k, t.Derived part := by
  refine ⟨fun _ _ _ => unclipped.view_eq_ok_iff, fun _ _ => unclipped.reshape_eq_ok_iff,
    fun _ size _ => unclipped.addStepDimension_eq_ok_iff size,
    fun _ derived => ⟨derived.unclipped unclipped, derived.payload_isInfix⟩, ?_, ?_⟩
  · rintro l c r rfl sliced
    exact Loader.derived_slice sliced
  · rintro inputs expected k streams pos accepted s listed rfl part member
    exact StepInputs.derived_part pos accepted listed member

/-- A view from the middle of a payload, a reshape and a step dimension; and a description that has
no size, of which there is no view. -/
theorem views_stay_unclipped_sample : ∃ t v : Tensor, t.Unclipped ∧
    t.info = .float32 [4, 2] ∧ v.payload = (List.range' 8 16).map UInt8.ofNat ∧
    t.view 8 (.float32 [2, 2]) = .ok v ∧ v.Unclipped ∧
    t.reshape ⟨[8]⟩ = .ok ⟨.float32 [8], t.payload⟩ ∧
    t.addStepDimension 2 = .ok ⟨.float32 [2, 2, 2], t.payload⟩ ∧
    ∀ r, t.view 8 (.float32 [2 ^ 32, 2 ^ 32]) ≠ .ok r := by
  let t : Tensor := ⟨.float32 [4, 2], (List.range 32).map UInt8.ofNat⟩
  let v : Tensor := ⟨.float32 [2, 2], (List.range' 8 16).map UInt8.ofNat⟩
  have unclipped : t.Unclipped := by decide
  obtain ⟨views, reshapes, steps, derived, -, -⟩ := views_stay_unclipped t unclipped
  have viewed : t.view 8 (.float32 [2, 2]) = .ok v :=
    (views 8 _ v).2 ⟨by decide, by decide, by decide⟩
  refine ⟨t, v, unclipped, rfl, rfl, viewed, (derived v (.view .self viewed)).1,
    (reshapes ⟨[8]⟩ _).2 ⟨by decide, by decide, rfl⟩,
    (steps 2 (by decide) _).2 ⟨by decide, 4, [2], rfl, by decide, rfl⟩, fun r made => ?_⟩
  have sized := ((views 8 (.float32 [2 ^ 32, 2 ^ 32]) r).1 made).1
  exact absurd sized (by decide)

end Tensor

end Microbatch
