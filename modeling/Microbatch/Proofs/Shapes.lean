import Mathlib.Algebra.BigOperators.Group.List.Basic
import Mathlib.Tactic.Ring
import Microbatch.Anchor.Buffer
import Microbatch.Anchor.Registry
import Microbatch.Proofs.Outcomes
import Microbatch.Session.Inputs

set_option relaxedAutoImplicit false
set_option autoImplicit false

/-!
# Sizes of shapes

Where the element count of a shape is defined, it is the product of the dimensions. The shapes
that are derived from others, anchor buffers and step inputs, have products that differ by the
number of micro-batches.

## Main definitions

* `Microbatch.Policy.scaledDims` — the dimensions that a policy makes of those of a value.
* `Microbatch.Policy.Fits` — what it takes to have a buffer.

## Main results

* `Microbatch.TensorInfo.byteCount?_eq_some` — a payload size is the product of dimensions and
  element size.
* `Microbatch.Policy.bufferShape_eq_ok`, `Microbatch.Policy.bufferShape_eq_ok_iff` — the shape of an
  anchor buffer, and when there is one.
* `Microbatch.TensorInfo.byteCount?_of_flat`, `Microbatch.TensorInfo.byteCount?_of_stepped` — a
  step input is as long as its micro-batches together.
-/

namespace Microbatch

/-! ### Products of dimensions -/

namespace Size

lemma mul?_of_lt {a b : Nat} (h : a * b < limit) : mul? a b = some (a * b) :=
  mul?_eq_some_iff.2 ⟨rfl, h⟩

/-- A checked product is the product. -/
lemma foldlM_mul?_eq_some {a p : Nat} {dims : List Nat} (h : dims.foldlM mul? a = some p) :
    p = a * dims.prod := by
  induction dims generalizing a with
  | nil =>
    rw [List.foldlM_nil] at h
    cases h
    simp
  | cons d rest ih =>
    rw [List.foldlM_cons, Option.bind_eq_bind, Option.bind_eq_some_iff] at h
    obtain ⟨b, hb, h⟩ := h
    obtain ⟨rfl, -⟩ := mul?_eq_some_iff.1 hb
    rw [ih h, List.prod_cons, Nat.mul_assoc]

/-- A checked product stays checked when it starts from less. -/
lemma foldlM_mul?_of_le {a a' p : Nat} {dims : List Nat} (le : a' ≤ a)
    (h : dims.foldlM mul? a = some p) : dims.foldlM mul? a' = some (a' * dims.prod) := by
  induction dims generalizing a a' with
  | nil => simp
  | cons d rest ih =>
    rw [List.foldlM_cons, Option.bind_eq_bind, Option.bind_eq_some_iff] at h
    obtain ⟨b, hb, h⟩ := h
    obtain ⟨rfl, fits⟩ := mul?_eq_some_iff.1 hb
    have le_first : a' * d ≤ a * d := Nat.mul_le_mul_right d le
    have smaller : a' * d < limit := by omega
    rw [List.foldlM_cons, mul?_of_lt smaller, Option.bind_eq_bind, Option.bind_some,
      ih le_first h, List.prod_cons, Nat.mul_assoc]

/-- A checked product stays checked when its start is divided. -/
lemma foldlM_mul?_of_mul {c a p : Nat} {dims : List Nat} (hc : 0 < c)
    (h : dims.foldlM mul? (c * a) = some p) : dims.foldlM mul? a = some (a * dims.prod) :=
  foldlM_mul?_of_le (Nat.le_mul_of_pos_left a hc) h

end Size

/-- **An element count is the product of the dimensions.** -/
lemma Shape.count?_eq_some {s : Shape} {n : Nat} (h : s.count? = some n) : n = s.dims.prod := by
  have := Size.foldlM_mul?_eq_some h
  rwa [Nat.one_mul] at this

/-- The elements are counted from the leading dimension on. -/
lemma Shape.count?_cons {leading : Nat} (fits : leading < Size.limit) (rest : List Nat) :
    (⟨leading :: rest⟩ : Shape).count? = rest.foldlM Size.mul? leading := by
  rw [Shape.count?, List.foldlM_cons, Size.mul?_of_lt (by omega), Nat.one_mul, Option.bind_eq_bind,
    Option.bind_some]

/-- Two leading dimensions count like their product. -/
lemma Shape.count?_cons_cons {outer leading : Nat} (fits_outer : outer < Size.limit)
    (fits : outer * leading < Size.limit) (rest : List Nat) :
    (⟨outer :: leading :: rest⟩ : Shape).count? = (⟨outer * leading :: rest⟩ : Shape).count? := by
  rw [count?_cons fits_outer, count?_cons fits, List.foldlM_cons, Size.mul?_of_lt fits,
    Option.bind_eq_bind, Option.bind_some]

/-- The leading dimension of a shape whose elements can be counted is a size. -/
lemma Shape.leading_lt_of_count? {leading : Nat} {rest : List Nat}
    (counted : (⟨leading :: rest⟩ : Shape).count?.isSome) : leading < Size.limit := by
  obtain ⟨count, counted⟩ := Option.isSome_iff_exists.1 counted
  rw [Shape.count?, List.foldlM_cons, Option.bind_eq_bind, Option.bind_eq_some_iff] at counted
  obtain ⟨first, counted, -⟩ := counted
  obtain ⟨rfl, fits⟩ := Size.mul?_eq_some_iff.1 counted
  rwa [Nat.one_mul] at fits

/-- A multiple of the element count that was checked along the dimensions gives the element
count. -/
lemma Shape.count?_of_foldlM {s : Shape} {k p : Nat} (hk : 0 < k)
    (h : s.dims.foldlM Size.mul? k = some p) :
    s.count? = some s.dims.prod ∧ p = k * s.dims.prod := by
  refine ⟨?_, Size.foldlM_mul?_eq_some h⟩
  have := Size.foldlM_mul?_of_mul (a := 1) hk (by rwa [Nat.mul_one])
  rwa [Nat.one_mul] at this

namespace TensorInfo

/-- **A payload size is the product of the dimensions and the element size.** -/
lemma byteCount?_eq_some {info : TensorInfo} {n : Nat} (h : info.byteCount? = some n) :
    n = info.shape.dims.prod * info.elementType.byteSize := by
  obtain ⟨count, hc, hn⟩ := Option.bind_eq_some_iff.1 h
  obtain ⟨rfl, -⟩ := Size.mul?_eq_some_iff.1 hn
  rw [Shape.count?_eq_some hc]

/-- Where there is a payload size, it is not clipped. -/
lemma byteCount_of_eq_some {info : TensorInfo} {n : Nat} (h : info.byteCount? = some n) :
    info.byteCount = n := by
  rw [byteCount, h]
  rfl

/-- A payload size that fits is the product of the dimensions and the element size. -/
lemma byteCount_of_isSome {info : TensorInfo} (h : info.byteCount?.isSome) :
    info.byteCount = info.shape.dims.prod * info.elementType.byteSize := by
  obtain ⟨n, hn⟩ := Option.isSome_iff_exists.1 h
  rw [byteCount_of_eq_some hn, byteCount?_eq_some hn]

/-- Of a description whose payload size fits, that is the payload size. -/
lemma byteCount?_of_isSome {info : TensorInfo} (h : info.byteCount?.isSome) :
    info.byteCount? = some (info.shape.dims.prod * info.elementType.byteSize) := by
  obtain ⟨n, hn⟩ := Option.isSome_iff_exists.1 h
  rw [hn, byteCount?_eq_some hn]

end TensorInfo

/-! ### Shapes of buffers -/

namespace Policy

/-- **The dimensions of a buffer**: the leading one is multiplied by the number of
micro-batches, or divided by it, or kept. Without a leading one, stacked values form a vector.
-/
def scaledDims (policy : Policy) (microBatches : Nat) : List Nat → List Nat
  | [] =>
    match policy with
    | all => [microBatches]
    | sum => []
    | last => []
  | leading :: rest =>
    match policy with
    | all => leading * microBatches :: rest
    | sum => leading / microBatches :: rest
    | last => leading :: rest

/-- **The shape of an anchor buffer**, and what it takes to have one. -/
lemma bufferShape_eq_ok {policy : Policy} {base shape : Shape} {microBatches : Nat}
    (h : policy.bufferShape base microBatches = .ok shape) :
    0 < microBatches ∧ shape = ⟨policy.scaledDims microBatches base.dims⟩ ∧
      (policy = .sum → ∀ leading ∈ base.dims.head?, leading % microBatches = 0) := by
  unfold bufferShape at h
  split at h
  · cases h
  rename_i pos
  obtain ⟨dims⟩ := base
  refine ⟨Nat.pos_of_ne_zero pos, ?_⟩
  cases dims with
  | nil => cases policy <;> cases h <;> simp [scaledDims, Shape.scalar]
  | cons leading rest =>
    simp only [Shape.leading?, List.head?_cons, bind, Except.bind] at h
    split at h
    · cases h
    rename_i scaled hs
    split at h
    · cases h
      cases policy with
      | all =>
        simp only [scaleLeading] at hs
        split at hs
        · rename_i stacked hm
          cases hs
          obtain ⟨rfl, -⟩ := Size.mul?_eq_some_iff.1 hm
          simp [scaledDims, Shape.withLeading]
        · cases hs
      | sum =>
        simp only [scaleLeading] at hs
        split at hs
        · rename_i divisible
          cases hs
          simp [scaledDims, Shape.withLeading, divisible]
        · cases hs
      | last =>
        cases hs
        simp [scaledDims]
    · cases h

/-- **What it takes to have a buffer** for values of some dimensions. -/
structure Fits (policy : Policy) (microBatches : Nat) (dims : List Nat) : Prop where
  /-- There are micro-batches. -/
  pos : 0 < microBatches
  /-- The samples of a sum can be put in groups. -/
  divisible : policy = .sum → ∀ leading ∈ dims.head?, leading % microBatches = 0
  /-- The elements of the buffer can be counted. -/
  counted : (⟨policy.scaledDims microBatches dims⟩ : Shape).count?.isSome

/-- The elements of a buffer can be counted. -/
lemma count?_of_bufferShape {policy : Policy} {base shape : Shape} {microBatches : Nat}
    (size : microBatches < Size.limit) (h : policy.bufferShape base microBatches = .ok shape) :
    shape.count?.isSome := by
  unfold bufferShape at h
  split at h
  · cases h
  split at h
  · have vector : (⟨[microBatches]⟩ : Shape).count? = some microBatches := Shape.count?_cons size []
    cases policy <;> cases h <;> simp [vector]
  · obtain ⟨scaled, -, h⟩ := Outcome.bind_eq_ok_iff.1 h
    split at h
    · cases h
      assumption
    · cases h

/-- Where micro-batches and dimensions allow for a buffer, there is one. -/
lemma Fits.bufferShape_eq {policy : Policy} {base : Shape} {microBatches : Nat}
    (h : policy.Fits microBatches base.dims) :
    policy.bufferShape base microBatches = .ok ⟨policy.scaledDims microBatches base.dims⟩ := by
  obtain ⟨pos, divisible, counted⟩ := h
  obtain ⟨dims⟩ := base
  unfold bufferShape
  rw [if_neg (Nat.ne_of_gt pos)]
  cases dims with
  | nil => cases policy <;> rfl
  | cons leading rest =>
    have scaled : policy.scaleLeading ⟨leading :: rest⟩ leading microBatches =
        .ok ⟨policy.scaledDims microBatches (leading :: rest)⟩ := by
      cases policy with
      | all =>
        have stacked := Size.mul?_of_lt (Shape.leading_lt_of_count? counted)
        simp only [scaleLeading, stacked, Shape.withLeading, scaledDims]
      | sum => exact if_pos (divisible rfl leading rfl)
      | last => rfl
    simp only [Shape.leading?, List.head?_cons, scaled, Outcome.ok_bind]
    exact if_pos counted

/-- **There is a buffer** exactly if micro-batches and dimensions allow for one, and then it has the
scaled dimensions. -/
lemma bufferShape_eq_ok_iff {policy : Policy} {base shape : Shape} {microBatches : Nat}
    (size : microBatches < Size.limit) : policy.bufferShape base microBatches = .ok shape ↔
      policy.Fits microBatches base.dims ∧
        shape = ⟨policy.scaledDims microBatches base.dims⟩ := by
  constructor
  · intro h
    obtain ⟨pos, same, divisible⟩ := bufferShape_eq_ok h
    exact ⟨⟨pos, divisible, same ▸ count?_of_bufferShape size h⟩, same⟩
  · rintro ⟨fits, rfl⟩
    exact fits.bufferShape_eq

/-- Stacking multiplies the number of elements. -/
lemma prod_scaledDims_all (microBatches : Nat) (dims : List Nat) :
    (all.scaledDims microBatches dims).prod = microBatches * dims.prod := by
  cases dims with
  | nil => simp [scaledDims]
  | cons leading rest =>
    simp only [scaledDims, List.prod_cons]
    ring

/-- The elements of a stack, checked along its dimensions, are a checked multiple of a value's. -/
lemma foldlM_of_scaledDims_all {microBatches n : Nat} {dims : List Nat}
    (h : (⟨all.scaledDims microBatches dims⟩ : Shape).count? = some n) :
    dims.foldlM Size.mul? microBatches = some n := by
  cases dims with
  | nil =>
    have := Shape.count?_eq_some h
    simp [scaledDims] at this
    simp [this]
  | cons leading rest =>
    simp only [Shape.count?, scaledDims, List.foldlM_cons] at h
    rw [Option.bind_eq_bind, Option.bind_eq_some_iff] at h
    obtain ⟨stacked, hm, h⟩ := h
    obtain ⟨rfl, fits⟩ := Size.mul?_eq_some_iff.1 hm
    rw [Nat.one_mul, Nat.mul_comm] at fits h
    rw [List.foldlM_cons, Size.mul?_of_lt fits, Option.bind_eq_bind, Option.bind_some, h]

end Policy

/-! ### Layouts of step inputs -/

namespace TensorInfo

variable {microBatch : TensorInfo} {microBatches n : Nat}

/-- What a checked multiple of the elements says about payload sizes. -/
lemma byteCount?_of_foldlM (pos : 0 < microBatches) {count : Nat}
    (hc : microBatch.shape.dims.foldlM Size.mul? microBatches = some count)
    (hn : Size.mul? count microBatch.elementType.byteSize = some n) :
    ∃ size, microBatch.byteCount? = some size ∧ n = microBatches * size := by
  obtain ⟨counted, rfl⟩ := Shape.count?_of_foldlM pos hc
  obtain ⟨rfl, fits⟩ := Size.mul?_eq_some_iff.1 hn
  have smaller : microBatch.shape.dims.prod * microBatch.elementType.byteSize < Size.limit := by
    refine Nat.lt_of_le_of_lt ?_ fits
    rw [Nat.mul_assoc]
    exact Nat.le_mul_of_pos_left _ pos
  refine ⟨microBatch.shape.dims.prod * microBatch.elementType.byteSize, ?_, Nat.mul_assoc _ _ _⟩
  rw [byteCount?, counted, Option.bind_some, Size.mul?_of_lt smaller]

/-- **A flat layout exists** if the stacked elements can be counted. -/
lemma flat_eq_ok (pos : 0 < microBatches) {leading : Nat} {rest : List Nat}
    (dims : microBatch.shape.dims = leading :: rest)
    (counted : (⟨microBatches * leading :: rest⟩ : Shape).count?.isSome) :
    microBatch.flat microBatches =
      .ok ⟨microBatch.elementType, ⟨microBatches * leading :: rest⟩⟩ := by
  obtain ⟨elementType, ⟨_⟩⟩ := microBatch
  cases dims
  rw [Nat.mul_comm] at counted ⊢
  have fits : Policy.all.Fits microBatches (leading :: rest) := ⟨pos, nofun, counted⟩
  rw [TensorInfo.flat, fits.bufferShape_eq]
  rfl

/-- **A flat step input** is as long as its micro-batches together. -/
lemma byteCount?_of_flat {flat : TensorInfo} (hf : microBatch.flat microBatches = .ok flat)
    (hn : flat.byteCount? = some n) :
    ∃ size, microBatch.byteCount? = some size ∧ n = microBatches * size := by
  unfold TensorInfo.flat at hf
  cases hs : Policy.all.bufferShape microBatch.shape microBatches with
  | error cause => simp [hs, bind, Except.bind] at hf
  | ok shape =>
    simp only [hs, bind, Except.bind, pure, Except.pure, Except.ok.injEq] at hf
    subst hf
    obtain ⟨pos, rfl, -⟩ := Policy.bufferShape_eq_ok hs
    obtain ⟨count, hc, hn⟩ := Option.bind_eq_some_iff.1 hn
    exact byteCount?_of_foldlM pos (Policy.foldlM_of_scaledDims_all hc) hn

/-- **A step input with a step dimension** is as long as its micro-batches together. -/
lemma byteCount?_of_stepped (pos : 0 < microBatches)
    (hn : (microBatch.stepped microBatches).byteCount? = some n) :
    ∃ size, microBatch.byteCount? = some size ∧ n = microBatches * size := by
  obtain ⟨count, hc, hn⟩ := Option.bind_eq_some_iff.1 hn
  simp only [TensorInfo.stepped, Shape.withOuter, Shape.count?, List.foldlM_cons,
    Option.bind_eq_bind] at hc
  obtain ⟨start, hs, hc⟩ := Option.bind_eq_some_iff.1 hc
  obtain ⟨rfl, -⟩ := Size.mul?_eq_some_iff.1 hs
  rw [Nat.one_mul] at hc
  exact byteCount?_of_foldlM pos hc hn

end TensorInfo

end Microbatch
