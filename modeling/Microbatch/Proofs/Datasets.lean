import Microbatch.Proofs.Feeds
import Microbatch.Proofs.Names
import Microbatch.Session.Loader

set_option relaxedAutoImplicit false
set_option autoImplicit false

/-!
# From datasets to micro-batches

A loader hands a dataset out in steps, and the device takes every step in micro-batches. In between,
the bytes of a step are found three times: the loader cuts them out of the dataset, it may lay them
out under another shape, and every micro-batch is cut out of them again. All three agree on what a
sample is, so that the micro-batches of one pass are the samples of the dataset in order, batch by
batch, and only the samples that do not fill a step are left out.

## Main definitions

* `Microbatch.HasSamples` — a dataset with some number of samples.
* `Microbatch.Tensor.samples` — the bytes of some samples.
* `Microbatch.Loader.standing` — the loader of a dataset in front of some step.
* `Microbatch.Loader.after` — a loader after some calls.
* `Microbatch.batchOf` — what a micro-batch is fed from a dataset.

## Main results

* `Microbatch.Loader.next_standing` — the next step, if there is one.
* `Microbatch.Loader.after_standing` — where calls leave a loader.
* `Microbatch.Loader.streams_stepOf`, `Microbatch.Loader.feeds_streamsOf` — a step is accepted, and
  what its micro-batches are fed.
* `Microbatch.Loader.loads_in_order` — no sample is lost, repeated or moved.
-/

namespace Microbatch

/-! ### Samples -/

/-- The bytes of one sample: those of the inner dimensions. -/
def TensorInfo.sampleBytes (info : TensorInfo) : Nat :=
  info.shape.dims.tail.prod * info.elementType.byteSize

/-- The description of some samples. -/
def TensorInfo.withSamples (info : TensorInfo) (count : Nat) : TensorInfo :=
  ⟨info.elementType, info.shape.withLeading count⟩

/-- **The bytes of some samples** of a tensor, from the first of them on. -/
def Tensor.samples (t : Tensor) (first count : Nat) : Bytes :=
  (t.payload.drop (first * t.info.sampleBytes)).take (count * t.info.sampleBytes)

/-- **A dataset with some number of samples**: every tensor has that many along its outer dimension,
and a payload of the described size. -/
structure HasSamples (dataset : NameMap Tensor) (samples : Nat) : Prop where
  /-- The payloads have the described sizes. -/
  wellFormed : ∀ name t, dataset.find? name = some t → t.WellFormed
  /-- The outer dimension counts the samples. -/
  leading : ∀ name t, dataset.find? name = some t → t.info.shape.leading? = some samples

instance (dataset : NameMap Tensor) (samples : Nat) : Decidable (HasSamples dataset samples) :=
  decidable_of_iff
    (∀ e ∈ dataset.entries, e.2.WellFormed ∧ e.2.info.shape.leading? = some samples)
    ⟨fun h => ⟨fun _ _ found => (h _ (NameMap.find?_eq_some_iff.1 found)).1,
      fun _ _ found => (h _ (NameMap.find?_eq_some_iff.1 found)).2⟩,
      fun h _ he => ⟨h.wellFormed _ _ (NameMap.find?_of_mem_entries he),
        h.leading _ _ (NameMap.find?_of_mem_entries he)⟩⟩

/-- What a micro-batch is fed from a dataset: the samples of one batch, of every tensor. -/
def batchOf (dataset : NameMap Tensor) (batchSize index : Nat) : List (String × Tensor) :=
  dataset.entries.map fun e =>
    (e.1, ⟨e.2.info.withSamples batchSize, e.2.samples (index * batchSize) batchSize⟩)

/-- The payload size of a tensor that is well formed is there. -/
lemma Tensor.WellFormed.sized {t : Tensor} (h : t.WellFormed) : t.info.byteCount?.isSome := by
  rw [h]
  rfl

section Samples

variable {info : TensorInfo} {n : Nat} (leading : info.shape.leading? = some n)
  (sized : info.byteCount?.isSome)
include leading

/-- A shape with an outer dimension. -/
lemma TensorInfo.dims_eq : info.shape.dims = n :: info.shape.dims.tail := by
  have := leading
  rw [Shape.leading?, List.head?_eq_some_iff] at this
  obtain ⟨rest, dims⟩ := this
  rw [dims, List.tail_cons]

lemma TensorInfo.shape_withSamples (count : Nat) :
    (info.withSamples count).shape = ⟨count :: info.shape.dims.tail⟩ := by
  rw [withSamples, Shape.withLeading]
  split
  · rename_i none_left
    rw [dims_eq leading] at none_left
    cases none_left
  · rename_i rest dims
    rw [dims, List.tail_cons]

lemma TensorInfo.withSamples_self : info.withSamples n = info := by
  have same : (info.withSamples n).shape = info.shape := by
    rw [shape_withSamples leading, ← dims_eq leading]
  calc info.withSamples n = ⟨info.elementType, (info.withSamples n).shape⟩ := rfl
    _ = info := by rw [same]

include sized

/-- The number of samples is a size. -/
lemma TensorInfo.samples_lt : n < Size.limit := by
  obtain ⟨p, size⟩ := Option.isSome_iff_exists.1 sized
  obtain ⟨count, counted, -⟩ := Option.bind_eq_some_iff.1 size
  have led : (⟨n :: info.shape.dims.tail⟩ : Shape).count?.isSome := by
    rw [← dims_eq leading]
    exact Option.isSome_of_eq_some counted
  exact Shape.leading_lt_of_count? led

/-- **Fewer samples have a payload size as well**, that of one sample so many times. -/
lemma TensorInfo.byteCount?_withSamples {m : Nat} (le : m ≤ n) :
    (info.withSamples m).byteCount? = some (m * info.sampleBytes) := by
  have fits := samples_lt leading sized
  obtain ⟨p, size⟩ := Option.isSome_iff_exists.1 sized
  obtain ⟨count, counted, within⟩ := Option.bind_eq_some_iff.1 size
  rw [← withSamples_self leading, shape_withSamples leading, Shape.count?_cons fits] at counted
  have fewer := Size.foldlM_mul?_of_le le counted
  obtain rfl := Size.foldlM_mul?_eq_some counted
  obtain ⟨-, fits_all⟩ := Size.mul?_eq_some_iff.1 within
  obtain ⟨rfl, -⟩ := Size.mul?_eq_some_iff.1 within
  have below : m * info.shape.dims.tail.prod * info.elementType.byteSize ≤
      n * info.shape.dims.tail.prod * info.elementType.byteSize :=
    Nat.mul_le_mul_right _ (Nat.mul_le_mul_right _ le)
  rw [byteCount?, shape_withSamples leading, Shape.count?_cons (by omega), fewer, Option.bind_some]
  show Size.mul? _ info.elementType.byteSize = _
  rw [Size.mul?_of_lt (by omega), sampleBytes, Nat.mul_assoc]

lemma TensorInfo.byteCount_withSamples {m : Nat} (le : m ≤ n) :
    (info.withSamples m).byteCount = m * info.sampleBytes :=
  byteCount_of_eq_some (byteCount?_withSamples leading sized le)

end Samples

/-! ### Bytes of samples -/

namespace Tensor

/-- A tensor that is well formed has as many bytes as its samples have. -/
lemma length_payload_of_leading {t : Tensor} {n : Nat} (leading : t.info.shape.leading? = some n)
    (wellFormed : t.WellFormed) : t.payload.length = n * t.info.sampleBytes := by
  have size := TensorInfo.byteCount?_withSamples leading wellFormed.sized (Nat.le_refl n)
  rw [TensorInfo.withSamples_self leading, wellFormed] at size
  exact Option.some.inj size

/-- The number of bytes of samples that are there. -/
lemma length_samples {t : Tensor} {first count : Nat}
    (inside : (first + count) * t.info.sampleBytes ≤ t.payload.length) :
    (t.samples first count).length = count * t.info.sampleBytes := by
  rw [Nat.add_mul] at inside
  rw [samples, List.length_take, List.length_drop]
  omega

/-- Some of the samples among others. -/
lemma samples_samples (t : Tensor) {first count skipped some : Nat}
    (inside : skipped + some ≤ count) :
    ((t.samples first count).drop (skipped * t.info.sampleBytes)).take
        (some * t.info.sampleBytes) = t.samples (first + skipped) some := by
  have within := Nat.mul_le_mul_right t.info.sampleBytes inside
  rw [Nat.add_mul] at within
  rw [samples, samples, List.drop_take, List.take_take, List.drop_drop, Nat.add_mul,
    Nat.min_eq_left (by omega)]

/-- **Batches in a row are all their samples.** -/
lemma flatMap_samples (t : Tensor) (first size count : Nat) :
    ((List.range count).flatMap fun i => t.samples (first + i * size) size) =
      t.samples first (count * size) := by
  induction count with
  | zero => simp [samples]
  | succ count ih =>
    rw [List.range_succ, List.flatMap_append, ih, List.flatMap_singleton]
    simp only [samples]
    rw [Nat.succ_mul, Nat.add_mul (count * size), Nat.add_mul first, List.take_add, List.drop_drop]

end Tensor

/-! ### Where a loader stands -/

/-- Cursors into one tensor at one byte are the same. -/
lemma Cursor.eq_of_offset {c c' : Cursor} (tensor : c.tensor = c'.tensor)
    (offset : c.offset = c'.offset) : c = c' := by
  obtain ⟨t, size, at_byte, ahead, size_eq, ahead_eq⟩ := c
  obtain ⟨t', size', at_byte', ahead', size_eq', ahead_eq'⟩ := c'
  cases tensor
  cases offset
  cases size_eq.trans size_eq'.symm
  cases ahead_eq.trans ahead_eq'.symm
  rfl

namespace Loader

/-- **The loader of a dataset in front of some step.** -/
def standing (dataset : NameMap Tensor) (samples microBatches batchSize : Nat) (stepped : Bool)
    (step : Nat) : Loader where
  cursors := dataset.mapValues fun _ t =>
    (Cursor.atStart t).skip (step * (microBatches * batchSize) * t.info.sampleBytes)
  microBatches := microBatches
  samplesPerStep := microBatches * batchSize
  samples := samples
  stepped := stepped
  position := step * (microBatches * batchSize)

/-- One tensor of the inputs of a step. -/
def stepTensor (microBatches batchSize : Nat) (stepped : Bool) (step : Nat) (t : Tensor) : Tensor :=
  ⟨if stepped then (t.info.withSamples batchSize).stepped microBatches
    else t.info.withSamples (microBatches * batchSize),
    t.samples (step * (microBatches * batchSize)) (microBatches * batchSize)⟩

/-- **The inputs of a step**: of every tensor, the samples of the step. -/
def stepOf (dataset : NameMap Tensor) (microBatches batchSize : Nat) (stepped : Bool)
    (step : Nat) : StepInputs :=
  dataset.mapValues fun _ t => stepTensor microBatches batchSize stepped step t

section Standing

variable {dataset : NameMap Tensor} {n k b : Nat} {stepped : Bool}

/-- All samples are counted alike. -/
lemma commonSamples_eq_ok (has : HasSamples dataset n) (nonempty : dataset.isEmpty = false) :
    commonSamples dataset.entries = .ok n := by
  have each : ∀ e ∈ dataset.entries, samplesOf e.1 e.2 = .ok n := by
    intro e he
    rw [samplesOf, has.leading e.1 e.2 (NameMap.find?_of_mem_entries he)]
  unfold NameMap.isEmpty at nonempty
  cases entries : dataset.entries with
  | nil =>
    rw [entries] at nonempty
    cases nonempty
  | cons first rest =>
    obtain ⟨name, t⟩ := first
    rw [entries] at each
    obtain ⟨counted, others⟩ := List.forall_mem_cons.1 each
    have checked : (rest.forM fun e => do
        let m ← samplesOf e.1 e.2
        if m = n then .ok () else .error (.sampleCount e.1 m n) : Except LoaderFault PUnit) =
          .ok () := by
      rw [Outcome.forM_eq_ok_iff]
      intro e he
      rw [others e he, Outcome.ok_bind, if_pos rfl]
    show (samplesOf name t >>= _) = _
    rw [counted, Outcome.ok_bind, checked]
    rfl

/-- **A new loader stands in front of the first step.** -/
lemma ofDataset_eq_ok (has : HasSamples dataset n) (nonempty : dataset.isEmpty = false)
    (hk : 0 < k) (hb : 0 < b) (enough : k * b ≤ n) :
    ofDataset dataset k b stepped = .ok (standing dataset n k b stepped 0) := by
  have positive : ¬ (k = 0 ∨ b = 0) := by omega
  have at_start : (dataset.mapValues fun _ t => Cursor.atStart t) =
      dataset.mapValues fun _ t =>
        (Cursor.atStart t).skip (0 * (k * b) * t.info.sampleBytes) := by
    refine NameMap.mapValues_congr fun _ t _ => Cursor.eq_of_offset rfl ?_
    simp [Cursor.skip, Cursor.atStart]
  rw [ofDataset, if_neg positive, commonSamples_eq_ok has nonempty, Outcome.ok_bind, if_pos enough,
    standing, at_start, Nat.zero_mul]
  rfl

/-- Going back leads in front of the first step. -/
lemma reset_standing (step : Nat) :
    (standing dataset n k b stepped step).reset = standing dataset n k b stepped 0 := by
  simp only [reset, standing, NameMap.mapValues_mapValues, Nat.zero_mul]
  rfl

/-- Going on leads in front of the next step. -/
lemma advance_standing (has : HasSamples dataset n) (pos : 0 < n) (step : Nat) :
    (standing dataset n k b stepped step).advance = standing dataset n k b stepped (step + 1) := by
  have cursors : ((standing dataset n k b stepped step).cursors.mapValues fun _ c =>
      c.skip (k * b * (c.tensor.info.byteCount / n))) =
        (standing dataset n k b stepped (step + 1)).cursors := by
    simp only [standing, NameMap.mapValues_mapValues]
    refine NameMap.mapValues_congr fun name t found => Cursor.eq_of_offset rfl ?_
    have size : t.info.byteCount = n * t.info.sampleBytes := by
      have wellFormed := has.wellFormed name t found
      rw [TensorInfo.byteCount_of_eq_some wellFormed,
        Tensor.length_payload_of_leading (has.leading name t found) wellFormed]
    simp only [Cursor.skip, Cursor.atStart, size, Nat.mul_div_cancel_left _ pos]
    ring
  have position : step * (k * b) + k * b = (step + 1) * (k * b) := by ring
  calc (standing dataset n k b stepped step).advance
      = { standing dataset n k b stepped step with
          cursors := (standing dataset n k b stepped step).cursors.mapValues fun _ c =>
            c.skip (k * b * (c.tensor.info.byteCount / n))
          position := step * (k * b) + k * b } := rfl
    _ = standing dataset n k b stepped (step + 1) := by
      rw [cursors, position]
      rfl

/-- The tensors of a step have the data of its samples. -/
lemma slice_standing {t : Tensor} (leading : t.info.shape.leading? = some n)
    (wellFormed : t.WellFormed) (hk : 0 < k) (hb : 0 < b) {step : Nat}
    (inside : (step + 1) * (k * b) ≤ n) :
    (standing dataset n k b stepped step).slice
        ((Cursor.atStart t).skip (step * (k * b) * t.info.sampleBytes)) =
      .ok (stepTensor k b stepped step t) := by
  have length := Tensor.length_payload_of_leading leading wellFormed
  have enough : k * b ≤ n := Nat.le_trans (Nat.le_mul_of_pos_left _ (Nat.succ_pos step)) inside
  have reaches : step * (k * b) * t.info.sampleBytes + k * b * t.info.sampleBytes ≤
      t.payload.length := by
    rw [length, ← Nat.add_mul, ← Nat.succ_mul]
    exact Nat.mul_le_mul_right _ inside
  have cut : ((Cursor.atStart t).skip (step * (k * b) * t.info.sampleBytes)).view
      (t.info.withSamples (k * b)) =
        .ok ⟨t.info.withSamples (k * b), t.samples (step * (k * b)) (k * b)⟩ := by
    rw [Cursor.view_eq, Tensor.view]
    simp only [Cursor.skip, Cursor.atStart, Nat.zero_add,
      TensorInfo.byteCount_withSamples leading wellFormed.sized enough]
    rw [if_pos reaches]
    rfl
  show (((Cursor.atStart t).skip (step * (k * b) * t.info.sampleBytes)).view
    (t.info.withSamples (k * b)) >>= fun cut =>
      if stepped then cut.addStepDimension k else .ok cut) = _
  rw [cut, Outcome.ok_bind]
  cases stepped with
  | false => rfl
  | true =>
    have fits : n < Size.limit := TensorInfo.samples_lt leading wellFormed.sized
    have le_product : k ≤ k * b := Nat.le_mul_of_pos_right k hb
    have whole : k * b % k = 0 := Nat.mul_mod_right k b
    have batch : k * b / k = b := Nat.mul_div_cancel_left b hk
    have counts : (⟨k :: b :: t.info.shape.dims.tail⟩ : Shape).count =
        (⟨k * b :: t.info.shape.dims.tail⟩ : Shape).count := by
      rw [Shape.count, Shape.count, Shape.count?_cons_cons (by omega) (by omega)]
    rw [if_pos rfl, Tensor.addStepDimension, if_neg (by omega)]
    simp only [TensorInfo.shape_withSamples leading, Shape.leading?, List.head?_cons, whole, if_pos,
      batch, Shape.withLeading, Shape.withOuter, Tensor.reshape, counts]
    rw [stepTensor, if_pos rfl, TensorInfo.stepped, Shape.withOuter,
      TensorInfo.shape_withSamples leading]
    rfl

/-- The inputs of a step are the samples of the step. -/
lemma inputs_standing (has : HasSamples dataset n) (hk : 0 < k) (hb : 0 < b) {step : Nat}
    (inside : (step + 1) * (k * b) ≤ n) :
    (standing dataset n k b stepped step).inputs = .ok (stepOf dataset k b stepped step) := by
  have entries : ((standing dataset n k b stepped step).cursors.entries.mapM fun e =>
      return (e.1, ← (standing dataset n k b stepped step).slice e.2)) =
        .ok (stepOf dataset k b stepped step).entries := by
    simp only [standing, stepOf, NameMap.entries_mapValues]
    rw [Outcome.mapM_eq_ok_iff, List.forall₂_map_left_iff, List.forall₂_map_right_iff,
      List.forall₂_same]
    intro e he
    have found := NameMap.find?_of_mem_entries he
    have cut : (standing dataset n k b stepped step).slice
        ((Cursor.atStart e.2).skip (step * (k * b) * e.2.info.sampleBytes)) =
          .ok (stepTensor k b stepped step e.2) :=
      slice_standing (has.leading _ _ found) (has.wellFormed _ _ found) hk hb inside
    simp only [standing] at cut
    rw [cut]
    rfl
  rw [inputs, entries, Outcome.ok_bind]
  exact congrArg Except.ok (NameMap.ext_entries (NameMap.ofList_eq_of_names rfl))

/-- **The next step**, if enough samples are left. -/
lemma next_standing (has : HasSamples dataset n) (hk : 0 < k) (hb : 0 < b) (enough : k * b ≤ n)
    (step : Nat) : (standing dataset n k b stepped step).next =
      if step < n / (k * b) then
        (some (.ok (stepOf dataset k b stepped step)), standing dataset n k b stepped (step + 1))
      else (none, standing dataset n k b stepped step) := by
  have pos : 0 < k * b := Nat.mul_pos hk hb
  have left : step < n / (k * b) ↔ (step + 1) * (k * b) ≤ n := Nat.le_div_iff_mul_le pos
  have fits : (step + 1) * (k * b) = step * (k * b) + k * b := Nat.succ_mul _ _
  rw [next]
  show (if n < step * (k * b) + k * b then _ else _) = _
  by_cases inside : step < n / (k * b)
  · have enough_left := left.1 inside
    rw [if_neg (by omega), if_pos inside, inputs_standing has hk hb enough_left,
      advance_standing has (by omega)]
  · have none_left := mt left.2 inside
    rw [if_pos (by omega), if_neg inside]

end Standing

/-! ### Calls -/

/-- What a loader can be called for. -/
inductive Call where
  /-- The next step is asked for. -/
  | next
  /-- The loader goes back to the first sample. -/
  | reset
  deriving DecidableEq, Inhabited

/-- A loader after one call. -/
def call (l : Loader) : Call → Loader
  | .next => l.next.2
  | .reset => l.reset

/-- **A loader after some calls.** -/
def after (l : Loader) (calls : List Call) : Loader := calls.foldl call l

/-- How many steps have been asked for since the loader last went back, if some had been before. -/
def Call.count (before : Nat) : Call → Nat
  | .next => before + 1
  | .reset => 0

/-- How many steps have been asked for since the loader last went back. -/
def Call.sinceReset (calls : List Call) : Nat := calls.foldl Call.count 0

section Calls

variable {dataset : NameMap Tensor} {n k b : Nat} {stepped : Bool} (has : HasSamples dataset n)
  (hk : 0 < k) (hb : 0 < b) (enough : k * b ≤ n)
include has hk hb enough

/-- **Where calls leave a loader**: in front of the step that comes after those that have been asked
for, and behind the last step if there are no more. -/
lemma after_standing (calls : List Call) (asked : Nat) :
    (standing dataset n k b stepped (min asked (n / (k * b)))).after calls =
      standing dataset n k b stepped (min (calls.foldl Call.count asked) (n / (k * b))) := by
  induction calls generalizing asked with
  | nil => rfl
  | cons first rest ih =>
    show (call (standing dataset n k b stepped (min asked (n / (k * b)))) first).after rest = _
    have one : call (standing dataset n k b stepped (min asked (n / (k * b)))) first =
        standing dataset n k b stepped (min (first.count asked) (n / (k * b))) := by
      cases first with
      | reset =>
        rw [call, reset_standing, Call.count, Nat.zero_min]
      | next =>
        rw [call, next_standing has hk hb enough, Call.count]
        by_cases inside : asked < n / (k * b)
        · have same : min asked (n / (k * b)) = asked := by omega
          have later : min (asked + 1) (n / (k * b)) = asked + 1 := by omega
          rw [same, if_pos inside, later]
        · have same : min asked (n / (k * b)) = n / (k * b) := by omega
          have later : min (asked + 1) (n / (k * b)) = n / (k * b) := by omega
          rw [same, if_neg (by omega), later]
    rw [one]
    exact ih (first.count asked)

/-- **What a loader hands out after some calls**: of all steps, the one that is next. -/
lemma next_after (calls : List Call) :
    ((standing dataset n k b stepped 0).after calls).next.1 =
      ((List.range (n / (k * b))).map (stepOf dataset k b stepped))[Call.sinceReset calls]?.map
        .ok := by
  have stands : (standing dataset n k b stepped (min 0 (n / (k * b)))).after calls = _ :=
    after_standing has hk hb enough calls 0
  rw [Nat.zero_min] at stands
  rw [stands, next_standing has hk hb enough, List.getElem?_map, Call.sinceReset]
  by_cases inside : calls.foldl Call.count 0 < n / (k * b)
  · have same : min (calls.foldl Call.count 0) (n / (k * b)) = calls.foldl Call.count 0 := by omega
    rw [same, if_pos inside, List.getElem?_range inside]
    rfl
  · rw [if_neg (by omega), List.getElem?_eq_none (by simpa using inside)]
    rfl

end Calls

/-! ### Steps are accepted -/

/-- The checked inputs of a step. -/
def streamsOf (dataset : NameMap Tensor) (microBatches batchSize : Nat) (stepped : Bool)
    (step : Nat) : List Stream :=
  dataset.entries.map fun e =>
    ⟨e.1, stepTensor microBatches batchSize stepped step e.2, e.2.info.withSamples batchSize⟩

section Steps

variable {dataset : NameMap Tensor} {n k b step : Nat} {stepped : Bool}

section OneTensor

variable {t : Tensor} (leading : t.info.shape.leading? = some n) (wellFormed : t.WellFormed)
  (inside : (step + 1) * (k * b) ≤ n) (hk : 0 < k) (hb : 0 < b)
include leading wellFormed inside

/-- A tensor of a step has the data of the samples of the step. -/
lemma length_stepTensor :
    (stepTensor k b stepped step t).payload.length = k * b * t.info.sampleBytes := by
  refine Tensor.length_samples ?_
  rw [Tensor.length_payload_of_leading leading wellFormed, ← Nat.succ_mul]
  exact Nat.mul_le_mul_right _ inside

include hk hb

omit hb in
/-- The batches of all micro-batches side by side are the samples of a step. -/
lemma flat_withSamples :
    (t.info.withSamples b).flat k = .ok (t.info.withSamples (k * b)) := by
  have fits : n < Size.limit := TensorInfo.samples_lt leading wellFormed.sized
  have enough : k * b ≤ n := Nat.le_trans (Nat.le_mul_of_pos_left _ (Nat.succ_pos step)) inside
  have size := TensorInfo.byteCount?_withSamples leading wellFormed.sized enough
  have counted : (⟨k * b :: t.info.shape.dims.tail⟩ : Shape).count?.isSome := by
    obtain ⟨count, counted, -⟩ := Option.bind_eq_some_iff.1 size
    rw [TensorInfo.shape_withSamples leading] at counted
    rw [counted]
    rfl
  have batch : (t.info.withSamples b).shape.dims = b :: t.info.shape.dims.tail := by
    rw [TensorInfo.shape_withSamples leading]
  rw [TensorInfo.flat_eq_ok hk batch counted, ← TensorInfo.shape_withSamples leading]
  rfl

omit hk in
/-- The batches of all micro-batches one after the other have the size of a step. -/
lemma byteCount?_stepped_withSamples :
    ((t.info.withSamples b).stepped k).byteCount? = some (k * b * t.info.sampleBytes) := by
  have fits : n < Size.limit := TensorInfo.samples_lt leading wellFormed.sized
  have enough : k * b ≤ n := Nat.le_trans (Nat.le_mul_of_pos_left _ (Nat.succ_pos step)) inside
  have le_product : k ≤ k * b := Nat.le_mul_of_pos_right k hb
  rw [← TensorInfo.byteCount?_withSamples leading wellFormed.sized enough, TensorInfo.byteCount?,
    TensorInfo.byteCount?, TensorInfo.stepped, Shape.withOuter,
    TensorInfo.shape_withSamples leading, TensorInfo.shape_withSamples leading,
    Shape.count?_cons_cons (by omega) (by omega)]
  rfl

/-- **A tensor of a step is accepted** for micro-batches of the batch size. -/
lemma checkLayout_stepTensor (name : String) :
    StepInputs.checkLayout name (t.info.withSamples b) k (stepTensor k b stepped step t) =
      .ok () := by
  have enough : k * b ≤ n := Nat.le_trans (Nat.le_mul_of_pos_left _ (Nat.succ_pos step)) inside
  have length : (stepTensor k b stepped step t).payload.length = k * b * t.info.sampleBytes :=
    length_stepTensor leading wellFormed inside
  have validated : (stepTensor k b stepped step t).info.validate name
      (stepTensor k b stepped step t) = .ok () := by
    rw [TensorInfo.validate_eq_ok_iff, Tensor.fits_self_iff, Tensor.WellFormed, length]
    cases stepped with
    | false => exact TensorInfo.byteCount?_withSamples leading wellFormed.sized enough
    | true => exact byteCount?_stepped_withSamples leading wellFormed inside hb
  rw [StepInputs.checkLayout, flat_withSamples leading wellFormed inside hk]
  simp only
  rw [if_pos, validated]
  · rfl
  · cases stepped with
    | false => exact .inl rfl
    | true => exact .inr rfl

omit hb in
/-- **A micro-batch is cut out of its step**: the samples of its batch. -/
lemma view_stepTensor {index : Nat} (within : index < k) :
    (stepTensor k b stepped step t).view (index * (t.info.withSamples b).byteCount)
        (t.info.withSamples b) =
      .ok ⟨t.info.withSamples b, t.samples ((step * k + index) * b) b⟩ := by
  have enough : k * b ≤ n := Nat.le_trans (Nat.le_mul_of_pos_left _ (Nat.succ_pos step)) inside
  have batch : b ≤ n := Nat.le_trans (Nat.le_mul_of_pos_left b hk) enough
  have room := Size.mul_add_le_mul within b
  have length : (stepTensor k b stepped step t).payload.length = k * b * t.info.sampleBytes :=
    length_stepTensor leading wellFormed inside
  have size : (t.info.withSamples b).byteCount = b * t.info.sampleBytes :=
    TensorInfo.byteCount_withSamples leading wellFormed.sized batch
  have first : step * (k * b) + index * b = (step * k + index) * b := by ring
  have reaches : index * (t.info.withSamples b).byteCount + (t.info.withSamples b).byteCount ≤
      (stepTensor k b stepped step t).payload.length := by
    rw [length, size, ← Nat.mul_assoc, ← Nat.add_mul]
    exact Nat.mul_le_mul_right _ room
  rw [Tensor.view, if_pos reaches, size, ← Nat.mul_assoc, stepTensor]
  simp only
  rw [Tensor.samples_samples t room, first]

end OneTensor

variable (has : HasSamples dataset n) (hk : 0 < k) (hb : 0 < b)
  (inside : (step + 1) * (k * b) ≤ n)
include has hk hb inside

/-- **A step is accepted** as the inputs of a graph that takes batches of the dataset. -/
lemma streams_stepOf : (stepOf dataset k b stepped step).streams
    (dataset.mapValues fun _ t => t.info.withSamples b) k =
      .ok (streamsOf dataset k b stepped step) := by
  have names : (stepOf dataset k b stepped step).names.find? (fun name =>
      !(dataset.mapValues fun _ t => t.info.withSamples b).contains name) = none := by
    rw [List.find?_eq_none]
    intro name member
    rw [stepOf, NameMap.names_mapValues, ← NameMap.contains_iff_mem_names] at member
    have known : (dataset.mapValues fun _ t => t.info.withSamples b).contains name = true := by
      rwa [NameMap.contains, NameMap.find?_mapValues, Option.isSome_map]
    simp [known]
  unfold StepInputs.streams
  rw [names]
  simp only [NameMap.entries_mapValues, streamsOf]
  rw [Outcome.mapM_eq_ok_iff, List.forall₂_map_left_iff, List.forall₂_map_right_iff,
    List.forall₂_same]
  intro e he
  have found := NameMap.find?_of_mem_entries he
  have given : (stepOf dataset k b stepped step).find? e.1 =
      some (stepTensor k b stepped step e.2) := by
    rw [stepOf, NameMap.find?_mapValues, found]
    rfl
  unfold StepInputs.stream
  rw [given]
  simp only
  rw [checkLayout_stepTensor (has.leading _ _ found) (has.wellFormed _ _ found) inside hk hb]
  rfl

/-- The part of a micro-batch in one input of a step: the samples of its batch. -/
lemma getElem?_parts_streamsOf {e : String × Tensor} (he : e ∈ dataset.entries) {index : Nat}
    (within : index < k) :
    (Stream.parts ⟨e.1, stepTensor k b stepped step e.2, e.2.info.withSamples b⟩ k)[index]? =
      some ⟨e.2.info.withSamples b, e.2.samples ((step * k + index) * b) b⟩ := by
  have found := NameMap.find?_of_mem_entries he
  have whole : Stream.Whole k
      ⟨e.1, stepTensor k b stepped step e.2, e.2.info.withSamples b⟩ :=
    StepInputs.checkLayout_eq_ok hk
      (checkLayout_stepTensor (has.leading _ _ found) (has.wellFormed _ _ found) inside hk hb e.1)
  obtain ⟨part, viewed, there, -⟩ := whole.view_eq_ok within
  rw [view_stepTensor (has.leading _ _ found) (has.wellFormed _ _ found) inside hk within] at viewed
  rw [there, Except.ok.inj viewed]

/-- **What the micro-batches of a step are fed**: batch by batch, the samples of the step. -/
lemma feeds_streamsOf : Stream.feeds (streamsOf dataset k b stepped step) k =
    (List.range k).map fun index => batchOf dataset b (step * k + index) := by
  have lengths : ∀ parts ∈ (streamsOf dataset k b stepped step).map (fun s =>
      (s.parts k).map fun t => (s.name, t)), parts.length = k := by
    intro parts member
    obtain ⟨s, -, rfl⟩ := List.mem_map.1 member
    simp [Stream.parts]
  apply List.ext_getElem?
  intro index
  by_cases within : index < k
  · have each : ∀ e ∈ dataset.entries,
        ((Stream.parts ⟨e.1, stepTensor k b stepped step e.2, e.2.info.withSamples b⟩ k).map
          fun t => (e.1, t))[index]? =
        some (e.1, ⟨e.2.info.withSamples b, e.2.samples ((step * k + index) * b) b⟩) := by
      intro e he
      rw [List.getElem?_map, getElem?_parts_streamsOf has hk hb inside he within]
      rfl
    rw [Stream.feeds, getElem?_columns lengths within, List.getElem?_map,
      List.getElem?_range within, streamsOf, List.filterMap_map, List.filterMap_map,
      Option.map_some, batchOf, ← List.filterMap_eq_map]
    exact congrArg some (List.filterMap_congr each)
  · rw [Stream.feeds, List.getElem?_eq_none (by rw [length_columns lengths]; omega),
      List.getElem?_eq_none (by simpa using within)]

end Steps

/-! ### One pass -/

/-- The batches of some steps, each of some micro-batches, are so many batches in a row. -/
lemma flatMap_range_mul {α : Type} (f : Nat → α) (steps k : Nat) :
    ((List.range steps).flatMap fun step => (List.range k).map fun index => f (step * k + index)) =
      (List.range (steps * k)).map f := by
  induction steps with
  | zero => simp
  | succ steps ih =>
    rw [List.range_succ, List.flatMap_append, ih, Nat.succ_mul, List.range_add, List.map_append,
      List.flatMap_singleton, List.map_map]
    rfl

/-- **A loader hands out a dataset in order**: steps of some micro-batches, batches of some samples.
The steps come with the inputs that they are checked to be. -/
structure Delivers (dataset : NameMap Tensor) (samples microBatches batchSize : Nat)
    (loader : Loader) (steps : List StepInputs) (streams : List (List Stream)) : Prop where
  /-- There are as many steps as fit in, and the loader says so. -/
  count : loader.steps = samples / (microBatches * batchSize) ∧
    steps.length = samples / (microBatches * batchSize)
  /-- Whatever it has been called for, the loader hands out the step after those that have been
  asked for since it last went back, and nothing once they are all handed out. -/
  next : ∀ calls, (loader.after calls).next.1 = steps[Call.sinceReset calls]?.map .ok
  /-- The end of the step that is looked at is a size. -/
  inRange : ∀ calls,
    (loader.after calls).position + (loader.after calls).samplesPerStep < Size.limit
  /-- Every step is accepted by a graph that takes batches of the dataset. -/
  accepted : List.Forall₂ (fun (inputs : StepInputs) checked =>
    inputs.streams (dataset.mapValues fun _ t => t.info.withSamples batchSize) microBatches =
      .ok checked) steps streams
  /-- From every tensor of a step, a micro-batch is cut out as the samples of its batch. -/
  cut : ∀ (step : Nat) (checked : List Stream), streams[step]? = some checked → ∀ s ∈ checked,
    ∃ t, dataset.find? s.name = some t ∧ s.microBatch = t.info.withSamples batchSize ∧
      ∀ index < microBatches,
        s.tensor.view (index * s.microBatch.byteCount) s.microBatch = .ok ⟨s.microBatch,
          t.samples ((step * microBatches + index) * batchSize) batchSize⟩
  /-- Over one pass, the micro-batches are fed the batches of the dataset in order. -/
  fed : (streams.flatMap fun checked => Stream.feeds checked microBatches) =
    (List.range (samples / (microBatches * batchSize) * microBatches)).map
      (batchOf dataset batchSize)
  /-- These batches are the samples from the first on. -/
  batches : ∀ name t, dataset.find? name = some t →
    ((List.range (samples / (microBatches * batchSize) * microBatches)).flatMap fun i =>
      t.samples (i * batchSize) batchSize) =
        t.samples 0 (samples / (microBatches * batchSize) * (microBatches * batchSize))
  /-- What is left is what does not fill a step. -/
  left : ∀ name t, dataset.find? name = some t →
    t.payload = t.samples 0 (samples / (microBatches * batchSize) * (microBatches * batchSize)) ++
      t.samples (samples / (microBatches * batchSize) * (microBatches * batchSize))
        (samples % (microBatches * batchSize))

/-- **No sample is lost, repeated or moved** between a dataset and the device. Take a dataset whose
tensors all have some number of samples below `2 ^ 63` and payloads of the described sizes, and
micro-batches that fit into it at least once. There is no loader of an empty dataset; any other
dataset has a loader, and it hands the dataset out in order.

**Proof sketch.** Whatever a loader has been called for, it stands in front of a step, at the first
sample of the step in every tensor. A step is as many samples as it takes, under either layout, and
a micro-batch is cut out of it where its batch begins. -/
theorem loads_in_order {dataset : NameMap Tensor} {n : Nat} (has : HasSamples dataset n)
    (small : n < 2 ^ 63) {k b : Nat} (hk : 0 < k) (hb : 0 < b) (enough : k * b ≤ n)
    (stepped : Bool) :
    (dataset.isEmpty = true → ofDataset dataset k b stepped = .error .empty) ∧
    (dataset.isEmpty = false → ∃ loader steps streams,
      ofDataset dataset k b stepped = .ok loader ∧
      Delivers dataset n k b loader steps streams) := by
  have pos : 0 < k * b := Nat.mul_pos hk hb
  have inside : ∀ {step}, step < n / (k * b) → (step + 1) * (k * b) ≤ n :=
    fun below => (Nat.le_div_iff_mul_le pos).1 below
  have whole : n / (k * b) * (k * b) ≤ n := Nat.div_mul_le_self n (k * b)
  constructor
  · intro empty
    have none_there : dataset.entries = [] := List.isEmpty_iff.1 empty
    have positive : ¬ (k = 0 ∨ b = 0) := by omega
    rw [ofDataset, if_neg positive, none_there]
    rfl
  intro nonempty
  refine ⟨standing dataset n k b stepped 0,
    (List.range (n / (k * b))).map (stepOf dataset k b stepped),
    (List.range (n / (k * b))).map (streamsOf dataset k b stepped),
    ofDataset_eq_ok has nonempty hk hb enough, ?_⟩
  constructor
  case count => exact ⟨rfl, by rw [List.length_map, List.length_range]⟩
  case next => exact next_after has hk hb enough
  case inRange =>
    intro calls
    have stands : (standing dataset n k b stepped (min 0 (n / (k * b)))).after calls = _ :=
      after_standing has hk hb enough calls 0
    rw [Nat.zero_min] at stands
    rw [stands]
    show min (calls.foldl Call.count 0) (n / (k * b)) * (k * b) + k * b < Size.limit
    have below : min (calls.foldl Call.count 0) (n / (k * b)) * (k * b) ≤ n :=
      Nat.le_trans (Nat.mul_le_mul_right _ (Nat.min_le_right _ _)) whole
    have limit : Size.limit = 2 ^ 64 := by decide
    omega
  case accepted =>
    rw [List.forall₂_map_left_iff, List.forall₂_map_right_iff, List.forall₂_same]
    intro step member
    exact streams_stepOf has hk hb (inside (List.mem_range.1 member))
  case cut =>
    intro step checked there s member
    rw [List.getElem?_map, Option.map_eq_some_iff] at there
    obtain ⟨_, at_step, rfl⟩ := there
    obtain ⟨below, same⟩ := List.getElem?_eq_some_iff.1 at_step
    rw [List.length_range] at below
    rw [List.getElem_range] at same
    subst same
    obtain ⟨e, he, rfl⟩ := List.mem_map.1 member
    have found := NameMap.find?_of_mem_entries he
    refine ⟨e.2, found, rfl, ?_⟩
    intro index within
    exact view_stepTensor (has.leading _ _ found) (has.wellFormed _ _ found) (inside below) hk
      within
  case fed =>
    rw [List.flatMap_map, ← flatMap_range_mul]
    refine List.flatMap_congr fun step member => ?_
    exact feeds_streamsOf has hk hb (inside (List.mem_range.1 member))
  case batches =>
    intro name t _
    have all := t.flatMap_samples 0 b (n / (k * b) * k)
    simp only [Nat.zero_add] at all
    rw [all, Nat.mul_assoc]
  case left =>
    intro name t found
    have length :=
      Tensor.length_payload_of_leading (has.leading name t found) (has.wellFormed name t found)
    have all : n / (k * b) * (k * b) + n % (k * b) = n := Nat.div_add_mod' n (k * b)
    rw [Tensor.samples, Tensor.samples, Nat.zero_mul, List.drop_zero, ← List.take_add,
      ← Nat.add_mul, all, ← length, List.take_length]

/-- Five samples of two numbers and a byte. -/
def fiveSamples : NameMap Tensor :=
  .ofList [("label", ⟨⟨.uint8, ⟨[5]⟩⟩, [0, 1, 2, 3, 4]⟩),
    ("x", .ofSingles ⟨[5, 2]⟩ (List.replicate 10 Single.one))]

/-- Five samples make two steps of two batches, with a step dimension in front, and one is left. -/
theorem loads_in_order_sample : HasSamples fiveSamples 5 ∧ ∃ loader steps streams,
    ofDataset fiveSamples 2 1 true = .ok loader ∧
    Delivers fiveSamples 5 2 1 loader steps streams := by
  have has : HasSamples fiveSamples 5 := by decide +kernel
  refine ⟨has, ?_⟩
  exact (loads_in_order has (by decide) (by decide) (by decide) (by decide) true).2
    (by decide +kernel)

end Loader

end Microbatch
