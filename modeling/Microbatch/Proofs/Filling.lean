import Microbatch.Proofs.Outcomes
import Microbatch.Proofs.Shapes
import Microbatch.Proofs.Sums

set_option relaxedAutoImplicit false
set_option autoImplicit false

/-!
# What a buffer holds after a step

A step makes a buffer ready and then lets the values of all micro-batches enter it. Afterwards
the buffer holds those values only: one after the other, the last one, or their sums. A buffer
that is never emptied, into which every value is written at its own place, comes to hold the
same, because the places of the values cover it.

## Main definitions

* `Microbatch.Buffer.fillStep` — one step of a buffer.
* `Microbatch.Buffer.IsFor`, `Microbatch.Buffer.Full` — the buffer of an anchor, and its length.
* `Microbatch.Filling.result` — what values leave in a buffer.
* `Microbatch.Filling.overwrite` — a step that overwrites the bytes of the step before.

## Main results

* `Microbatch.Buffer.foldl_fill_eq_ok_iff` — when a buffer takes some values, and what it is then.
* `Microbatch.Buffer.data_fillStep` — a step leaves the result of its values.
* `Microbatch.Filling.overwrite_eq_result` — so does a step that overwrites.
* `Microbatch.Buffer.fillStep_perm` — integers may come in any order.
-/

namespace Microbatch

/-! ### Results of values -/

namespace Filling

/-- The bytes of a buffer after a value has entered it. -/
def enter (filling : Filling) (data value : Bytes) : Bytes :=
  match filling with
  | stack => data ++ value
  | sum summand => summand.addInto data value
  | replace => value

/-- The bytes of a buffer that is ready for a step. -/
def ready (filling : Filling) (data : Bytes) : Bytes :=
  match filling with
  | stack => []
  | sum _ => List.replicate data.length 0
  | replace => data

/-- **What values leave in a buffer** for some number of elements: they follow each other, or
their sums over all lanes, or the last one. -/
def result (filling : Filling) (size : Nat) (values : List Bytes) : Bytes :=
  match filling with
  | stack => values.flatten
  | sum summand => summand.total size values
  | replace => values.getLast?.getD []

/-- Bytes with a value written over them from a position on. -/
def writeAt (position : Nat) (data value : Bytes) : Bytes :=
  data.take position ++ (value ++ data.drop (position + value.length))

/-- The bytes of a buffer after the value of a micro-batch has been written in place: a stack
keeps one place for every micro-batch. -/
def put (filling : Filling) (data : Bytes) (microBatch : Nat) (value : Bytes) : Bytes :=
  match filling with
  | stack => writeAt (microBatch * value.length) data value
  | sum summand => summand.addInto data value
  | replace => value

/-- **A step that overwrites in place** what the step before has left; only sums are set to zero
first. -/
def overwrite (filling : Filling) (data : Bytes) (values : List Bytes) : Bytes :=
  let start := match filling with
    | stack => data
    | sum _ => List.replicate data.length 0
    | replace => data
  values.zipIdx.foldl (fun data e => filling.put data e.2 e.1) start

/-- Values of one length that are written to their own places leave themselves, and what they do
not reach stays.

**Proof sketch.** Induction on the values. Behind the values written so far, the next one is
written over the beginning of what was there before. -/
lemma foldl_writeAt {length : Nat} {values : List Bytes} (same : ∀ v ∈ values, v.length = length)
    (written old : Bytes) (start : Nat) (place : written.length = start * length) :
    (values.zipIdx start).foldl (fun data e => writeAt (e.2 * e.1.length) data e.1)
        (written ++ old) =
      written ++ (values.flatten ++ old.drop (values.length * length)) := by
  induction values generalizing written old start with
  | nil => simp
  | cons v rest ih =>
    have hv : v.length = length := same v (List.mem_cons_self ..)
    have here : writeAt (start * v.length) (written ++ old) v =
        (written ++ v) ++ old.drop length := by
      rw [writeAt, hv, ← place, List.take_left, List.drop_append, List.drop_eq_nil_of_le
        (Nat.le_add_right _ _), List.nil_append, Nat.add_sub_cancel_left, List.append_assoc]
    have next : (written ++ v).length = (start + 1) * length := by
      rw [List.length_append, place, hv, Nat.succ_mul]
    rw [List.zipIdx_cons, List.foldl_cons, here,
      ih (fun v h => same v (List.mem_cons_of_mem _ h)) _ _ _ next, List.drop_drop,
      List.flatten_cons, List.length_cons, Nat.succ_mul, Nat.add_comm length]
    simp only [List.append_assoc]

/-- Values that enter an empty stack follow each other. -/
lemma foldl_append (values : List Bytes) (start : Bytes) :
    values.foldl (fun data v => data ++ v) start = start ++ values.flatten := by
  induction values generalizing start with
  | nil => simp
  | cons v rest ih => rw [List.foldl_cons, ih, List.flatten_cons, List.append_assoc]

/-- Of values that replace each other, the last one is left. -/
lemma foldl_replace (values : List Bytes) (start : Bytes) :
    values.foldl (fun _ v => v) start = values.getLast?.getD start := by
  induction values generalizing start with
  | nil => rfl
  | cons v rest ih =>
    rw [List.foldl_cons, ih, List.getLast?_cons]
    rfl

/-- Where a step puts a value does not depend on its number unless values are stacked. -/
lemma foldl_zipIdx {f : Bytes → Bytes → Bytes} (values : List Bytes) (start : Bytes) (n : Nat) :
    (values.zipIdx n).foldl (fun data e => f data e.1) start = values.foldl f start := by
  induction values generalizing start n with
  | nil => rfl
  | cons v rest ih => rw [List.zipIdx_cons, List.foldl_cons, List.foldl_cons, ih]

variable {filling : Filling} {size : Nat} {data : Bytes} {values : List Bytes}

/-- **Values that enter a ready buffer leave their result.** -/
lemma foldl_enter (some_value : values ≠ [])
    (length : ∀ summand, filling = .sum summand → data.length = size * summand.width) :
    values.foldl filling.enter (filling.ready data) = filling.result size values := by
  cases filling with
  | stack => exact foldl_append values []
  | sum summand =>
    simp only [ready, length summand rfl]
    exact summand.foldl_addInto some_value
  | replace =>
    refine (foldl_replace values data).trans ?_
    rw [result, List.getLast?_eq_some_getLast some_value]
    rfl

/-- **A step that overwrites leaves the result of its values**, and nothing of what was there
before.

**Proof sketch.** The places of stacked values cover the buffer, so that nothing of it stays;
sums start from zeros and the last value takes the whole place, as in a buffer that is made
ready. -/
lemma overwrite_eq_result (some_value : values ≠ [])
    (sum_length : ∀ summand, filling = .sum summand → data.length = size * summand.width)
    {length : Nat} (same : ∀ v ∈ values, v.length = length)
    (stack_length : filling = .stack → data.length = values.length * length) :
    filling.overwrite data values = filling.result size values := by
  cases filling with
  | stack =>
    have covered : data.drop (values.length * length) = [] :=
      List.drop_eq_nil_of_le (Nat.le_of_eq (stack_length rfl))
    have written := foldl_writeAt same [] data 0 (by simp)
    simpa [overwrite, put, covered, result] using written
  | sum summand =>
    have entered := @foldl_enter (.sum summand) size data values some_value sum_length
    rw [← entered]
    exact foldl_zipIdx (f := fun data v => summand.addInto data v) values _ 0
  | replace =>
    have entered := @foldl_enter .replace size data values some_value
      (fun _ h => nomatch h)
    rw [← entered]
    exact foldl_zipIdx (f := fun _ v => v) values _ 0

end Filling

/-! ### Steps of a buffer -/

namespace Buffer

/-- **One step of a buffer**: it is made ready, and then every value enters it. -/
def fillStep (checkNumerics : Bool) (b : Buffer) (values : List Tensor) : Except Fault Buffer :=
  values.foldlM (fill checkNumerics) b.beginStep

/-- **A buffer of an anchor**: it has the anchor's layout, and is filled as that asks for. -/
structure IsFor (a : RegisteredAnchor) (microBatches : Nat) (b : Buffer) : Prop where
  /-- The layout is that of the anchor. -/
  layout : a.layout microBatches = .ok b.layout
  /-- Values enter as the layout says. -/
  filling : b.layout.filling = .ok b.filling

/-- The buffer has the length that its layout describes. -/
def Full (b : Buffer) : Prop := b.data.length = b.layout.buffer.byteCount

/-- What a buffer takes: values as its layout describes them, finite ones if numbers are
checked. -/
def Accepts (checkNumerics : Bool) (b : Buffer) (value : Tensor) : Prop :=
  value.Fits b.layout.microBatch ∧ (checkNumerics && hasNonFinite value) = false

/-- A buffer after the payload of a value has entered it. -/
def take (b : Buffer) (payload : Bytes) : Buffer := { b with parts := b.partsWith payload }

@[simp] lemma layout_take (b : Buffer) (payload : Bytes) : (b.take payload).layout = b.layout := rfl

@[simp] lemma filling_take (b : Buffer) (payload : Bytes) : (b.take payload).filling = b.filling :=
  rfl

@[simp] lemma data_take (b : Buffer) (payload : Bytes) :
    (b.take payload).data = b.filling.enter b.data payload := by
  unfold take partsWith data Filling.enter
  cases b.filling <;> simp

@[simp] lemma layout_beginStep (b : Buffer) : b.beginStep.layout = b.layout := by
  unfold beginStep
  split <;> rfl

@[simp] lemma filling_beginStep (b : Buffer) : b.beginStep.filling = b.filling := by
  unfold beginStep
  split <;> simp [*]

@[simp] lemma data_beginStep (b : Buffer) : b.beginStep.data = b.filling.ready b.data := by
  unfold beginStep Filling.ready
  cases b.filling <;> simp [data]

/-- A buffer takes what it accepts. -/
lemma fill_eq_ok_iff {checkNumerics : Bool} {b b' : Buffer} {value : Tensor} :
    fill checkNumerics b value = .ok b' ↔
      b.Accepts checkNumerics value ∧ b' = b.take value.payload := by
  unfold fill Accepts
  cases hc : checkNumerics && hasNonFinite value with
  | true => simp
  | false =>
    by_cases fits : value.Fits b.layout.microBatch
    · simp [TensorInfo.validate, fits, take, eq_comm]
    · simp [TensorInfo.validate, fits]

/-- What a buffer does not accept has another description, or a number that is not finite. -/
lemma fill_eq_error {checkNumerics : Bool} {b : Buffer} {value : Tensor} {fault : Fault}
    (h : fill checkNumerics b value = .error fault) (fits : value.Fits b.layout.microBatch) :
    checkNumerics = true ∧ hasNonFinite value = true ∧ fault = .nonFinite b.name := by
  unfold fill at h
  cases hc : checkNumerics && hasNonFinite value with
  | true =>
    simp only [hc, if_true, Except.error.injEq] at h
    simp only [Bool.and_eq_true] at hc
    exact ⟨hc.1, hc.2, h.symm⟩
  | false =>
    simp only [hc, TensorInfo.validate, fits, if_true] at h
    cases h

/-- **A buffer takes some values when it accepts each**, and they enter it in order. -/
lemma foldl_fill_eq_ok_iff {checkNumerics : Bool} {b b' : Buffer} {values : List Tensor} :
    values.foldlM (fill checkNumerics) b = .ok b' ↔
      (∀ v ∈ values, b.Accepts checkNumerics v) ∧
        b' = (values.map (·.payload)).foldl take b := by
  induction values generalizing b with
  | nil => simp [eq_comm]
  | cons v rest ih =>
    rw [List.foldlM_cons, Outcome.bind_eq_ok_iff]
    constructor
    · rintro ⟨next, hn, h⟩
      obtain ⟨accepted, rfl⟩ := fill_eq_ok_iff.1 hn
      obtain ⟨others, rfl⟩ := ih.1 h
      exact ⟨List.forall_mem_cons.2 ⟨accepted, others⟩, rfl⟩
    · rintro ⟨accepted, rfl⟩
      obtain ⟨first, others⟩ := List.forall_mem_cons.1 accepted
      exact ⟨_, fill_eq_ok_iff.2 ⟨first, rfl⟩, ih.2 ⟨others, rfl⟩⟩

@[simp] lemma layout_foldl_take (b : Buffer) (payloads : List Bytes) :
    (payloads.foldl take b).layout = b.layout := by
  induction payloads generalizing b with
  | nil => rfl
  | cons p rest ih => rw [List.foldl_cons, ih, layout_take]

@[simp] lemma filling_foldl_take (b : Buffer) (payloads : List Bytes) :
    (payloads.foldl take b).filling = b.filling := by
  induction payloads generalizing b with
  | nil => rfl
  | cons p rest ih => rw [List.foldl_cons, ih, filling_take]

lemma data_foldl_take (b : Buffer) (payloads : List Bytes) :
    (payloads.foldl take b).data = payloads.foldl b.filling.enter b.data := by
  induction payloads generalizing b with
  | nil => rfl
  | cons p rest ih => rw [List.foldl_cons, ih, List.foldl_cons, data_take, filling_take]

/-- **A step leaves a buffer of the same layout**, whose bytes are what its values make of the
ready buffer. -/
lemma fillStep_eq_ok_iff {checkNumerics : Bool} {b b' : Buffer} {values : List Tensor} :
    b.fillStep checkNumerics values = .ok b' ↔
      (∀ v ∈ values, b.Accepts checkNumerics v) ∧
        b' = (values.map (·.payload)).foldl take b.beginStep := by
  unfold fillStep
  rw [foldl_fill_eq_ok_iff]
  simp only [Accepts, layout_beginStep]

/-! ### Layouts of anchors -/

variable {a : RegisteredAnchor} {microBatches : Nat} {b b' : Buffer}

/-- What the buffer of an anchor looks like. -/
lemma IsFor.layout_eq (h : b.IsFor a microBatches) : 0 < microBatches ∧
    b.layout = ⟨a.name, a.policy, a.info,
      ⟨a.info.elementType, ⟨a.policy.scaledDims microBatches a.info.shape.dims⟩⟩⟩ ∧
      (a.policy = .sum → ∀ leading ∈ a.info.shape.dims.head?, leading % microBatches = 0) := by
  have layout := h.layout
  unfold RegisteredAnchor.layout at layout
  obtain ⟨shape, hs, made⟩ := Outcome.bind_eq_ok_iff.1 layout
  obtain ⟨pos, rfl, divisible⟩ := Policy.bufferShape_eq_ok hs
  exact ⟨pos, (Except.ok.inj made).symm, divisible⟩

/-- How the buffer of an anchor is filled goes by the anchor's policy. -/
lemma IsFor.filling_eq (h : b.IsFor a microBatches) :
    (a.policy = .all ∧ b.filling = .stack) ∨ (a.policy = .last ∧ b.filling = .replace) ∨
      (a.policy = .sum ∧ ∃ summand, b.filling = .sum summand ∧
        Summand.ofElementType? a.info.elementType = some summand) := by
  have filling := h.filling
  obtain ⟨-, layout, -⟩ := h.layout_eq
  rw [layout] at filling
  unfold Layout.filling at filling
  cases hp : a.policy with
  | all => simp_all
  | last => simp_all
  | sum =>
    simp only [hp] at filling
    split at filling
    · rename_i summand hs
      exact .inr (.inr ⟨rfl, summand, (Except.ok.inj filling).symm, hs⟩)
    · cases filling

/-- The buffer for all values of an anchor stacks them. -/
lemma IsFor.filling_of_all (h : b.IsFor a microBatches) (policy : a.policy = .all) :
    b.filling = .stack := by
  rcases h.filling_eq with ⟨-, filling⟩ | ⟨other, -⟩ | ⟨other, -⟩
  · exact filling
  · rw [policy] at other
    cases other
  · rw [policy] at other
    cases other

/-- The buffer for the last value of an anchor is replaced. -/
lemma IsFor.filling_of_last (h : b.IsFor a microBatches) (policy : a.policy = .last) :
    b.filling = .replace := by
  rcases h.filling_eq with ⟨other, -⟩ | ⟨-, filling⟩ | ⟨other, -⟩
  · rw [policy] at other
    cases other
  · exact filling
  · rw [policy] at other
    cases other

/-- The buffer of sums for an anchor adds numbers of the anchor's element type. -/
lemma IsFor.filling_of_sum (h : b.IsFor a microBatches) (policy : a.policy = .sum) :
    ∃ summand, b.filling = .sum summand ∧
      Summand.ofElementType? a.info.elementType = some summand := by
  rcases h.filling_eq with ⟨other, -⟩ | ⟨other, -⟩ | ⟨-, found⟩
  · rw [policy] at other
    cases other
  · rw [policy] at other
    cases other
  · exact found

/-- The buffer of sums for an anchor of a known element type. -/
lemma IsFor.filling_eq_sum (h : b.IsFor a microBatches) (policy : a.policy = .sum)
    {summand : Summand} (element : Summand.ofElementType? a.info.elementType = some summand) :
    b.filling = .sum summand := by
  obtain ⟨summand', filling, element'⟩ := h.filling_of_sum policy
  rw [filling, Option.some.inj (element'.symm.trans element)]

/-- A step keeps whose buffer it is. -/
lemma IsFor.fillStep {checkNumerics : Bool} {values : List Tensor} (h : b.IsFor a microBatches)
    (filled : b.fillStep checkNumerics values = .ok b') : b'.IsFor a microBatches := by
  obtain ⟨-, rfl⟩ := fillStep_eq_ok_iff.1 filled
  constructor
  · simpa using h.layout
  · simpa using h.filling

/-- A full buffer of sums has one word for each element. -/
lemma IsFor.length_sum (h : b.IsFor a microBatches) (full : b.Full)
    (fits : b.layout.buffer.byteCount?.isSome) (summand : Summand)
    (hs : b.filling = .sum summand) :
    b.data.length = b.layout.buffer.shape.dims.prod * summand.width := by
  rw [full, TensorInfo.byteCount_of_isSome fits]
  obtain ⟨-, layout, -⟩ := h.layout_eq
  rcases h.filling_eq with ⟨-, other⟩ | ⟨-, other⟩ | ⟨-, summand', other, element⟩
  · rw [hs] at other
    cases other
  · rw [hs] at other
    cases other
  · rw [hs] at other
    cases other
    rw [layout, Summand.byteSize_of_ofElementType? element]

/-- A full stack has room for one value of every micro-batch. -/
lemma IsFor.length_stack (h : b.IsFor a microBatches) (full : b.Full)
    (fits : b.layout.buffer.byteCount?.isSome) (hs : b.filling = .stack) :
    b.data.length = microBatches * (a.info.shape.dims.prod * a.info.elementType.byteSize) := by
  rw [full, TensorInfo.byteCount_of_isSome fits]
  obtain ⟨-, layout, -⟩ := h.layout_eq
  rcases h.filling_eq with ⟨policy, -⟩ | ⟨-, other⟩ | ⟨-, summand, other, -⟩
  · rw [layout, policy]
    simp only [Policy.prod_scaledDims_all, Nat.mul_assoc]
  · rw [hs] at other
    cases other
  · rw [hs] at other
    cases other

/-- What the buffer of an anchor accepts has the size that the anchor's description says. -/
lemma IsFor.length_of_accepts {checkNumerics : Bool} (h : b.IsFor a microBatches) {value : Tensor}
    (accepted : b.Accepts checkNumerics value) :
    value.payload.length = a.info.shape.dims.prod * a.info.elementType.byteSize := by
  obtain ⟨-, layout, -⟩ := h.layout_eq
  obtain ⟨⟨-, size⟩, -⟩ := accepted
  rw [layout] at size
  exact TensorInfo.byteCount?_eq_some size

/-- **A step leaves the result of its values**, also when it overwrites what the step before has
left. -/
lemma data_fillStep {checkNumerics : Bool} {values : List Tensor} (h : b.IsFor a microBatches)
    (full : b.Full) (fits : b.layout.buffer.byteCount?.isSome)
    (count : values.length = microBatches) (filled : b.fillStep checkNumerics values = .ok b') :
    b'.data = b.filling.result b.layout.buffer.shape.dims.prod (values.map (·.payload)) ∧
      b'.data = b.filling.overwrite b.data (values.map (·.payload)) := by
  obtain ⟨accepted, rfl⟩ := fillStep_eq_ok_iff.1 filled
  obtain ⟨pos, -, -⟩ := h.layout_eq
  have some_value : values.map (·.payload) ≠ [] := by
    intro none_left
    rw [List.map_eq_nil_iff] at none_left
    rw [none_left] at count
    exact Nat.ne_of_gt pos count.symm
  have same : ∀ v ∈ values.map (·.payload),
      v.length = a.info.shape.dims.prod * a.info.elementType.byteSize := by
    intro v hv
    obtain ⟨t, ht, rfl⟩ := List.mem_map.1 hv
    exact h.length_of_accepts (accepted t ht)
  have entered := Filling.foldl_enter some_value (h.length_sum full fits)
  have overwritten := Filling.overwrite_eq_result some_value (h.length_sum full fits) same
    (fun stacked => by rw [h.length_stack full fits stacked, List.length_map, count])
  rw [data_foldl_take, filling_beginStep, data_beginStep, overwritten]
  exact ⟨entered, entered⟩

/-- A step leaves a full buffer. -/
lemma full_fillStep {checkNumerics : Bool} {values : List Tensor} (h : b.IsFor a microBatches)
    (full : b.Full) (fits : b.layout.buffer.byteCount?.isSome)
    (count : values.length = microBatches) (filled : b.fillStep checkNumerics values = .ok b') :
    b'.Full := by
  obtain ⟨held, -⟩ := data_fillStep h full fits count filled
  obtain ⟨accepted, rfl⟩ := fillStep_eq_ok_iff.1 filled
  obtain ⟨pos, layout, -⟩ := h.layout_eq
  unfold Full
  rw [held, layout_foldl_take, layout_beginStep]
  rcases h.filling_eq with ⟨-, filling⟩ | ⟨policy, filling⟩ | ⟨-, summand, filling, -⟩
  · -- as many values of one size as the stack has places
    have lengths : (values.map (·.payload)).map List.length =
        List.replicate microBatches (a.info.shape.dims.prod * a.info.elementType.byteSize) := by
      refine List.eq_replicate_iff.2 ⟨by simp [count], fun n hn => ?_⟩
      simp only [List.map_map, List.mem_map, Function.comp_apply] at hn
      obtain ⟨t, ht, rfl⟩ := hn
      exact h.length_of_accepts (accepted t ht)
    rw [filling, Filling.result, List.length_flatten, lengths, List.sum_replicate_nat,
      ← full, h.length_stack full fits filling]
  · have some_value : values ≠ [] := by
      intro none_left
      rw [none_left] at count
      exact Nat.ne_of_gt pos count.symm
    have hl := List.getLast?_eq_some_getLast some_value
    have length := h.length_of_accepts (accepted _ (List.getLast_mem some_value))
    rw [TensorInfo.byteCount_of_isSome fits, layout, filling, policy]
    cases hd : a.info.shape.dims <;>
      simp_all [Filling.result, List.getLast?_map, Policy.scaledDims]
  · rw [filling, Filling.result, Summand.length_total, ← full,
      h.length_sum full fits summand filling]

/-- **Integers may come in any order.** -/
lemma fillStep_perm {checkNumerics : Bool} {values others : List Tensor}
    (h : b.IsFor a microBatches) (full : b.Full) (fits : b.layout.buffer.byteCount?.isSome)
    {summand : Summand} (integers : b.filling = .sum summand) (whole : summand ≠ .single)
    (count : values.length = microBatches) (same : values.Perm others)
    (filled : b.fillStep checkNumerics values = .ok b') :
    ∃ b'', b.fillStep checkNumerics others = .ok b'' ∧ b''.data = b'.data := by
  obtain ⟨accepted, -⟩ := fillStep_eq_ok_iff.1 filled
  have accepted_too : ∀ v ∈ others, b.Accepts checkNumerics v :=
    fun v hv => accepted v (same.mem_iff.2 hv)
  have filled_too := fillStep_eq_ok_iff.2 ⟨accepted_too, rfl⟩
  refine ⟨_, filled_too, ?_⟩
  rw [(data_fillStep h full fits (same.length_eq ▸ count) filled_too).1,
    (data_fillStep h full fits count filled).1, integers]
  exact (Summand.total_perm whole _ (same.map _)).symm

end Buffer

end Microbatch
