import Microbatch.Proofs.StepBuffers

set_option relaxedAutoImplicit false
set_option autoImplicit false

/-!
# Which layouts there are, and what is allocated for them

A registry has layouts for a number of micro-batches exactly if every anchor has one: there are
micro-batches, the samples of a sum can be put in groups, and the elements of the buffer can be
counted. What is allocated for a layout is counted in bytes. Elements are looked at when a layout is
made, and bytes are not: where the elements can be counted and their bytes cannot, the layout is
accepted, and the largest size is asked for in place of the payload size.

## Main definitions

* `Microbatch.RegisteredAnchor.planned` — the layout of an anchor, if it has one.

## Main results

* `Microbatch.RegisteredAnchor.layout_eq_ok_iff`, `Microbatch.Registry.layouts_eq_ok_iff` — which
  layouts there are.
* `Microbatch.Buffer.length_data_ofLayout` — what is allocated for a layout.
* `Microbatch.Registry.layouts_and_allocation` — both, for all registries.
* `Microbatch.Registry.exists_saturated_buffer` — a layout with too many bytes.
-/

namespace Microbatch

/-! ### Layouts -/

/-- **The layout of an anchor**, if it has one. -/
def RegisteredAnchor.planned (a : RegisteredAnchor) (microBatches : Nat) : Layout where
  name := a.name
  policy := a.policy
  microBatch := a.info
  buffer := ⟨a.info.elementType, ⟨a.policy.scaledDims microBatches a.info.shape.dims⟩⟩

variable {microBatches : Nat} (size : microBatches < Size.limit)
include size

/-- **An anchor has a layout** exactly if its policy fits the dimensions of its tensor. -/
lemma RegisteredAnchor.layout_eq_ok_iff {a : RegisteredAnchor} {layout : Layout} :
    a.layout microBatches = .ok layout ↔
      a.policy.Fits microBatches a.info.shape.dims ∧ a.planned microBatches = layout := by
  rw [RegisteredAnchor.layout, Outcome.bind_eq_ok_iff]
  simp only [Policy.bufferShape_eq_ok_iff size, Outcome.pure_eq_ok, Except.ok.injEq]
  constructor
  · rintro ⟨shape, ⟨fits, rfl⟩, same⟩
    exact ⟨fits, same⟩
  · rintro ⟨fits, same⟩
    exact ⟨_, ⟨fits, rfl⟩, same⟩

/-- **A registry has layouts** exactly if every anchor has one. -/
lemma Registry.layouts_eq_ok_iff {r : Registry} {layouts : List Layout} :
    r.layouts microBatches = .ok layouts ↔
      (∀ a ∈ r.anchors, a.policy.Fits microBatches a.info.shape.dims) ∧
        r.anchors.map (·.planned microBatches) = layouts := by
  rw [Registry.layouts, Outcome.mapM_eq_ok_iff]
  simp only [RegisteredAnchor.layout_eq_ok_iff size]
  rw [List.forall₂_and_left, Outcome.forall₂_eq_iff_map]

omit size

/-! ### Buffers -/

/-- The payload size of a description, clipped where it is no size. -/
lemma TensorInfo.byteCount_eq_ite (info : TensorInfo) :
    info.byteCount = if info.byteCount?.isSome
      then info.shape.dims.prod * info.elementType.byteSize else Size.largest := by
  split
  · rename_i sized
    exact byteCount_of_isSome sized
  · rename_i unsized
    rw [byteCount, Option.not_isSome_iff_eq_none.1 unsized]
    rfl

/-- There is a payload size exactly if the bytes of the elements can be counted. -/
lemma TensorInfo.isSome_byteCount?_iff {info : TensorInfo} (counted : info.shape.count?.isSome) :
    info.byteCount?.isSome ↔ info.shape.dims.prod * info.elementType.byteSize < Size.limit := by
  obtain ⟨n, hn⟩ := Option.isSome_iff_exists.1 counted
  rw [byteCount?, hn, Option.bind_some, Shape.count?_eq_some hn, Size.mul?]
  split <;> simp_all

/-- **What is allocated for a layout**: the clipped payload size of its buffer. -/
lemma Buffer.length_data_ofLayout {layout : Layout} {b : Buffer}
    (made : Buffer.ofLayout layout = .ok b) : b.data.length = layout.buffer.byteCount := by
  obtain ⟨same, -, full⟩ := Buffer.ofLayout_eq_ok made
  rw [full, same]

namespace Registry

/-- **Which layouts there are, and what is allocated for them.** Take any registry and any number of
micro-batches per step.

It has layouts exactly if every policy fits its tensor, and then they are the planned ones, in the
order of registration; as soon as one policy does not fit, the configuration is refused. For each of
the layouts the elements of the buffer can be counted. Their bytes can be counted exactly if they
are less than the limit of sizes. A buffer that is made for the layout has that many bytes if they
can be counted, and else as many as the largest size. -/
theorem layouts_and_allocation (r : Registry) {microBatches : Nat}
    (size : microBatches < Size.limit) :
    (∀ layouts, r.layouts microBatches = .ok layouts ↔
      (∀ a ∈ r.anchors, a.policy.Fits microBatches a.info.shape.dims) ∧
        r.anchors.map (·.planned microBatches) = layouts) ∧
    ((∃ a ∈ r.anchors, ¬ a.policy.Fits microBatches a.info.shape.dims) →
      ∃ cause, r.layouts microBatches = .error cause) ∧
    ∀ layouts, r.layouts microBatches = .ok layouts → ∀ layout ∈ layouts,
      layout.buffer.shape.count? = some layout.buffer.shape.dims.prod ∧
      (layout.buffer.byteCount?.isSome ↔
        layout.buffer.shape.dims.prod * layout.buffer.elementType.byteSize < Size.limit) ∧
      ∀ b, Buffer.ofLayout layout = .ok b → b.data.length =
        if layout.buffer.byteCount?.isSome
        then layout.buffer.shape.dims.prod * layout.buffer.elementType.byteSize
        else Size.largest := by
  refine ⟨fun layouts => layouts_eq_ok_iff size, fun ⟨a, member, unfit⟩ => ?_,
    fun layouts accepted layout member => ?_⟩
  · cases outcome : r.layouts microBatches with
    | error cause => exact ⟨cause, rfl⟩
    | ok layouts => exact absurd (((layouts_eq_ok_iff size).1 outcome).1 a member) unfit
  · obtain ⟨fits, rfl⟩ := (layouts_eq_ok_iff size).1 accepted
    obtain ⟨a, registered, rfl⟩ := List.mem_map.1 member
    have counted : (a.planned microBatches).buffer.shape.count?.isSome :=
      (fits a registered).counted
    obtain ⟨n, hn⟩ := Option.isSome_iff_exists.1 counted
    refine ⟨?_, TensorInfo.isSome_byteCount?_iff counted, fun b made => ?_⟩
    · rw [hn, Shape.count?_eq_some hn]
    · rw [Buffer.length_data_ofLayout made, TensorInfo.byteCount_eq_ite]

/-! ### Layouts with few and with many bytes -/

/-- Two registered anchors: a sum of numbers, and scalars one after the other. -/
def smallRegistry : Registry where
  available := .ofList [("loss", .float32 []), ("n", ⟨.int64, ⟨[4, 3]⟩⟩)]
  anchors := [⟨⟨"n", .sum⟩, ⟨.int64, ⟨[4, 3]⟩⟩⟩, ⟨⟨"loss", .all⟩, .float32 []⟩]

/-- **Layouts with few bytes**: all buffers have the bytes of their elements. -/
theorem layouts_and_allocation_sample : 2 < Size.limit ∧ ∃ layouts,
    smallRegistry.layouts 2 = .ok layouts ∧
    layouts.map (·.buffer) = [⟨.int64, ⟨[2, 3]⟩⟩, .float32 [2]] ∧
    ∀ layout ∈ layouts, ∀ b, Buffer.ofLayout layout = .ok b →
      b.data.length = layout.buffer.shape.dims.prod * layout.buffer.elementType.byteSize := by
  have size : 2 < Size.limit := by decide
  obtain ⟨accepted, -, allocated⟩ := layouts_and_allocation smallRegistry size
  have fits : ∀ a ∈ smallRegistry.anchors, a.policy.Fits 2 a.info.shape.dims := by
    intro a member
    rcases List.mem_pair.1 member with rfl | rfl
    · exact ⟨by decide, fun _ leading first => Option.some.inj first ▸ by decide, by decide⟩
    · exact ⟨by decide, nofun, by decide⟩
  refine ⟨size, _, (accepted _).2 ⟨fits, rfl⟩, rfl, fun layout member b made => ?_⟩
  obtain ⟨-, -, length⟩ := allocated _ ((accepted _).2 ⟨fits, rfl⟩) layout member
  rw [length b made, if_pos]
  rcases List.mem_pair.1 member with rfl | rfl <;> decide

/-- A registry in which one vector is available. -/
def longRegistry : Registry := ofAvailable (.ofList [("x", .float32 [2 ^ 62])])

/-- **A layout with too many bytes.** The vector has fewer elements than the limit of sizes, and
just as many bytes as the limit. It is registered and has a layout, whose buffer has no payload
size; the buffer that is made has the largest size. -/
theorem exists_saturated_buffer : ∃ r layout b,
    longRegistry.register "x" .last = .ok r ∧ r.layouts 1 = .ok [layout] ∧
    layout.buffer.shape.count? = some (2 ^ 62) ∧ layout.buffer.byteCount? = none ∧
    Buffer.ofLayout layout = .ok b ∧ b.data.length = Size.largest := by
  have made : Buffer.ofLayout ⟨"x", .last, .float32 [2 ^ 62], .float32 [2 ^ 62]⟩ = .ok _ := rfl
  refine ⟨⟨longRegistry.available, [⟨⟨"x", .last⟩, .float32 [2 ^ 62]⟩]⟩, _, _, rfl, ?_, ?_, ?_,
    made, ?_⟩
  · rfl
  · decide
  · decide
  · rw [Buffer.length_data_ofLayout made]
    decide

end Registry

end Microbatch
