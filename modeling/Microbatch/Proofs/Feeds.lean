import Microbatch.Proofs.Lanes
import Microbatch.Proofs.Names
import Microbatch.Proofs.Outcomes
import Microbatch.Proofs.Shapes

set_option relaxedAutoImplicit false
set_option autoImplicit false

/-!
# What micro-batches are fed

The inputs of a step are checked once, before the device is touched. A checked input has room
for all micro-batches, so that every micro-batch finds its part, and is fed as the graph
describes it.

## Main definitions

* `Microbatch.Stream.Whole` — an input with the data of all micro-batches.
* `Microbatch.FeedFits` — what a micro-batch is fed is as described.

## Main results

* `Microbatch.Stream.Whole.view_eq_ok` — the parts of a checked input are there.
* `Microbatch.fits_feeds` — every micro-batch is fed as described.
-/

namespace Microbatch

/-- **An input with the data of all micro-batches**, which is as much as they need together. -/
structure Stream.Whole (microBatches : Nat) (s : Stream) : Prop where
  /-- The size of a part fits. -/
  sized : s.microBatch.byteCount?.isSome
  /-- There is one part for each micro-batch. -/
  length : s.tensor.payload.length = microBatches * s.microBatch.byteCount

/-- **What a micro-batch is fed is as described**: one tensor for every input, in name order. -/
def FeedFits (inputs : NameMap TensorInfo) (feed : List (String × Tensor)) : Prop :=
  List.Forall₂ (fun e t => t.1 = e.1 ∧ t.2.Fits e.2) inputs.entries feed

/-- A tensor of one of the two layouts has the data of all micro-batches. -/
lemma StepInputs.checkLayout_eq_ok {name : String} {microBatch : TensorInfo} {microBatches : Nat}
    {t : Tensor} (pos : 0 < microBatches)
    (h : checkLayout name microBatch microBatches t = .ok ()) :
    Stream.Whole microBatches ⟨name, t, microBatch⟩ := by
  unfold checkLayout at h
  split at h
  · cases h
  rename_i flat laid_flat
  dsimp only at h
  split at h
  · rename_i layout
    have size := (TensorInfo.validate_eq_ok_iff.1 (Outcome.mapError_eq_ok_iff.1 h)).2
    obtain ⟨part, hp, length⟩ : ∃ part, microBatch.byteCount? = some part ∧
        t.payload.length = microBatches * part := by
      rcases layout with layout | layout
      · exact TensorInfo.byteCount?_of_flat laid_flat (layout ▸ size)
      · exact TensorInfo.byteCount?_of_stepped pos (layout ▸ size)
    refine ⟨?_, ?_⟩
    · rw [hp]
      rfl
    · rw [length, TensorInfo.byteCount_of_eq_some hp]
  · cases h

/-- **What the check of a step does**: no name is unknown, and every expected input is there and
passes its check. -/
lemma StepInputs.streams_eq_ok_iff {inputs : StepInputs} {expected : NameMap TensorInfo}
    {microBatches : Nat} {streams : List Stream} :
    inputs.streams expected microBatches = .ok streams ↔
    (∀ name ∈ inputs.names, name ∈ expected.names) ∧
      List.Forall₂ (fun e s => s.name = e.1 ∧ s.microBatch = e.2 ∧
        inputs.find? e.1 = some s.tensor ∧ checkLayout e.1 e.2 microBatches s.tensor = .ok ())
        expected.entries streams := by
  have each : ∀ (e : String × TensorInfo) (s : Stream), inputs.stream microBatches e.1 e.2 = .ok s ↔
      s.name = e.1 ∧ s.microBatch = e.2 ∧ inputs.find? e.1 = some s.tensor ∧
        checkLayout e.1 e.2 microBatches s.tensor = .ok () := by
    rintro e ⟨name, t, info⟩
    unfold stream
    cases inputs.find? e.1 with
    | none => simp
    | some t' =>
      simp only [Outcome.map_eq_ok_iff, Stream.mk.injEq, Option.some.injEq]
      constructor
      · rintro ⟨_, checked, rfl, rfl, rfl⟩
        exact ⟨rfl, rfl, rfl, checked⟩
      · rintro ⟨rfl, rfl, rfl, checked⟩
        exact ⟨(), checked, rfl, rfl, rfl⟩
  unfold StepInputs.streams
  split
  · rename_i name unknown
    refine iff_of_false (by simp) fun ⟨known, _⟩ => ?_
    have member := known name (List.mem_of_find?_eq_some unknown)
    have absent := List.find?_some unknown
    simp [NameMap.contains_iff_mem_names.2 member] at absent
  · rename_i none_unknown
    have known : ∀ name ∈ inputs.names, name ∈ expected.names := by
      intro name member
      have present := List.find?_eq_none.1 none_unknown name member
      exact NameMap.contains_iff_mem_names.1 (by simpa using present)
    rw [Outcome.mapM_eq_ok_iff, and_iff_right known]
    exact ⟨fun h => h.imp fun e s => (each e s).1, fun h => h.imp fun e s => (each e s).2⟩

/-- **Checked inputs** are those of the graph, in name order, and each has the data of all
micro-batches. -/
lemma StepInputs.streams_eq_ok {inputs : StepInputs} {expected : NameMap TensorInfo}
    {microBatches : Nat} {streams : List Stream} (pos : 0 < microBatches)
    (h : inputs.streams expected microBatches = .ok streams) :
    List.Forall₂ (fun e s => s.name = e.1 ∧ s.microBatch = e.2 ∧ s.Whole microBatches)
      expected.entries streams := by
  refine (streams_eq_ok_iff.1 h).2.imp ?_
  rintro e ⟨name, t, info⟩ ⟨rfl, rfl, -, valid⟩
  exact ⟨rfl, rfl, checkLayout_eq_ok pos valid⟩

/-- **Every micro-batch finds its part of an input**: the bytes from its place on are there, and
are the part that it is fed. -/
lemma Stream.Whole.view_eq_ok {microBatches m : Nat} {s : Stream} (h : s.Whole microBatches)
    (hm : m < microBatches) : ∃ part,
      s.tensor.view (m * s.microBatch.byteCount) s.microBatch = .ok part ∧
      (s.parts microBatches)[m]? = some part ∧ part.Fits s.microBatch := by
  have inside : m * s.microBatch.byteCount + s.microBatch.byteCount ≤ s.tensor.payload.length := by
    rw [h.length]
    exact Size.mul_add_le_mul hm _
  refine ⟨_, by rw [Tensor.view, if_pos inside], ?_, rfl, ?_⟩
  · rw [Stream.parts, List.getElem?_map, getElem?_rows _ hm]
    rfl
  · obtain ⟨size, hs⟩ := Option.isSome_iff_exists.1 h.sized
    rw [hs, List.length_take, List.length_drop, TensorInfo.byteCount_of_eq_some hs]
    rw [TensorInfo.byteCount_of_eq_some hs] at inside
    congr 1
    omega

/-- Every part of an input is the view of a micro-batch's place. -/
lemma Stream.Whole.exists_view_eq_ok {microBatches : Nat} {s : Stream} (h : s.Whole microBatches)
    {part : Tensor} (member : part ∈ s.parts microBatches) : ∃ m,
      s.tensor.view (m * s.microBatch.byteCount) s.microBatch = .ok part ∧
      part.Fits s.microBatch := by
  obtain ⟨m, there⟩ := List.mem_iff_getElem?.1 member
  have inside := (List.getElem?_eq_some_iff.1 there).1
  rw [Stream.parts, List.length_map, length_rows] at inside
  obtain ⟨part', viewed, there', fits⟩ := h.view_eq_ok inside
  obtain rfl : part' = part := Option.some.inj (there'.symm.trans there)
  exact ⟨m, viewed, fits⟩

/-- **Every micro-batch is fed as described**, if the inputs of the step are checked. -/
lemma fits_feeds {inputs : StepInputs} {expected : NameMap TensorInfo} {microBatches : Nat}
    {streams : List Stream} (pos : 0 < microBatches)
    (h : inputs.streams expected microBatches = .ok streams) {feed : List (String × Tensor)}
    (hf : feed ∈ Stream.feeds streams microBatches) : FeedFits expected feed := by
  have checked := StepInputs.streams_eq_ok pos h
  have lengths : ∀ parts ∈ streams.map fun s => (s.parts microBatches).map fun t => (s.name, t),
      parts.length = microBatches := by
    intro parts hp
    obtain ⟨s, -, rfl⟩ := List.mem_map.1 hp
    simp [Stream.parts]
  obtain ⟨m, hm⟩ := List.mem_iff_getElem?.1 hf
  have inside : m < microBatches := by
    have below := (List.getElem?_eq_some_iff.1 hm).1
    rwa [Stream.feeds, length_columns lengths] at below
  rw [Stream.feeds, getElem?_columns lengths inside, Option.some.injEq, List.filterMap_map] at hm
  rw [FeedFits, ← hm]
  refine Outcome.forall₂_filterMap checked fun e s ⟨same_name, same_info, whole⟩ => ?_
  obtain ⟨part, -, there, fits⟩ := whole.view_eq_ok inside
  refine ⟨(s.name, part), ?_, same_name, same_info ▸ fits⟩
  rw [Function.comp_apply, List.getElem?_map, there]
  rfl

end Microbatch
