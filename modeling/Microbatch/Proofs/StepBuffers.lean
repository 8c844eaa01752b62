import Microbatch.Device.Host
import Microbatch.Proofs.Filling
import Microbatch.Proofs.Requests

set_option relaxedAutoImplicit false
set_option autoImplicit false

/-!
# The anchor buffers of a session after a step

A session keeps three lists side by side: the anchors of its data flow, the buffers, and what
the device returns for a micro-batch. They are in one order, from registration on and through
every request. So a step is a step of every buffer alone, with the values of its own anchor, and
what a step leaves in a buffer is said by these values only.

## Main definitions

* `Microbatch.Buffer.column` — the values of one anchor over the micro-batches of a step.
* `Microbatch.Buffer.StepResult` — what a step leaves in the buffer of an anchor.
* `Microbatch.Session.InOrder` — the buffers of a session belong to its anchors.

## Main results

* `Microbatch.Buffer.foldlM_fillAll_eq_ok` — micro-batches fill every buffer on its own.
* `Microbatch.Buffer.getElem?_read_fillStep`, `Microbatch.Buffer.getElem?_row_fillStep` — what a
  step leaves at a place of a buffer of sums.
* `Microbatch.Buffer.stepResult_of_fillStep` — what a step of one buffer leaves.
* `Microbatch.Session.inOrder_after` — the buffers belong to the anchors after any requests.
* `Microbatch.Session.runStep_columns`, `Microbatch.Session.runStep_buffers` — a step of a session,
  and what it leaves in its buffers.
-/

namespace Microbatch

/-! ### Places of related lists -/

/-- The element at a place of a list has its partner at the same place. -/
lemma exists_getElem?_of_forall₂ {α β : Type} {R : α → β → Prop} {xs : List α} {ys : List β}
    (h : List.Forall₂ R xs ys) {i : Nat} {x : α} (hx : xs[i]? = some x) :
    ∃ y, ys[i]? = some y ∧ R x y := by
  induction h generalizing i with
  | nil => simp at hx
  | cons first _ ih =>
    cases i with
    | zero =>
      rw [List.getElem?_cons_zero, Option.some.injEq] at hx
      exact ⟨_, List.getElem?_cons_zero, hx ▸ first⟩
    | succ i =>
      rw [List.getElem?_cons_succ] at hx
      simpa using ih hx

/-- A list has an element at a place of a list of the same length. -/
lemma exists_getElem?_of_length_eq {α β : Type} {xs : List α} {ys : List β}
    (h : ys.length = xs.length) {i : Nat} {x : α} (hx : xs[i]? = some x) :
    ∃ y, ys[i]? = some y := by
  have inside : i < ys.length := h ▸ (List.getElem?_eq_some_iff.1 hx).1
  exact ⟨ys[i], List.getElem?_eq_getElem inside⟩

/-! ### Buffers side by side -/

namespace Buffer

/-- **The values of one anchor** over the micro-batches of a step. -/
def column (i : Nat) (values : List (List Tensor)) : List Tensor := values.filterMap (·[i]?)

/-- The column of an anchor begins with the value of the first micro-batch. -/
lemma column_cons (i : Nat) (first : List Tensor) (rest : List (List Tensor)) :
    column i (first :: rest) = first[i]?.toList ++ column i rest := by
  unfold column
  cases h : first[i]? with
  | none => simp [h]
  | some value => simp [h]

/-- The values of an anchor over more micro-batches come behind the others. -/
lemma column_append (i : Nat) (values others : List (List Tensor)) :
    column i (values ++ others) = column i values ++ column i others :=
  List.filterMap_append

/-- Every micro-batch has a value in the column of an anchor. -/
lemma length_column {n i : Nat} (hi : i < n) {values : List (List Tensor)}
    (width : ∀ v ∈ values, v.length = n) : (column i values).length = values.length := by
  induction values with
  | nil => rfl
  | cons v rest ih =>
    obtain ⟨first, others⟩ := List.forall_mem_cons.1 width
    have inside : i < v.length := first ▸ hi
    unfold column at ih ⊢
    rw [List.filterMap_cons, List.getElem?_eq_getElem inside, List.length_cons, List.length_cons,
      ih others]

/-- One micro-batch fills the buffer at a place with the value at that place. -/
lemma fillAll_eq_ok {checkNumerics : Bool} {buffers buffers' : List Buffer} {values : List Tensor}
    (width : values.length = buffers.length)
    (h : fillAll checkNumerics buffers values = .ok buffers') :
    buffers'.length = buffers.length ∧
      ∀ (i : Nat) (b : Buffer), buffers[i]? = some b → ∃ (v : Tensor) (b' : Buffer),
        values[i]? = some v ∧ buffers'[i]? = some b' ∧ fill checkNumerics b v = .ok b' := by
  have filled := Outcome.mapM_eq_ok_iff.1 h
  constructor
  · rw [← filled.length_eq, List.length_zip, width, Nat.min_self]
  · intro i b hb
    obtain ⟨v, hv⟩ := exists_getElem?_of_length_eq width hb
    have pair : (buffers.zip values)[i]? = some (b, v) := List.getElem?_zip_eq_some.2 ⟨hb, hv⟩
    obtain ⟨b', hb', made⟩ := exists_getElem?_of_forall₂ filled pair
    exact ⟨v, b', hv, hb', made⟩

/-- **Micro-batches fill every buffer on its own**, with the values in the column of its place. -/
lemma foldlM_fillAll_eq_ok {checkNumerics : Bool} {buffers buffers' : List Buffer}
    {values : List (List Tensor)} (width : ∀ v ∈ values, v.length = buffers.length)
    (h : values.foldlM (fillAll checkNumerics) buffers = .ok buffers') :
    buffers'.length = buffers.length ∧
      ∀ i b, buffers[i]? = some b → ∃ b', buffers'[i]? = some b' ∧
        (column i values).foldlM (fill checkNumerics) b = .ok b' := by
  induction values generalizing buffers with
  | nil =>
    cases h
    exact ⟨rfl, fun i b hb => ⟨b, hb, rfl⟩⟩
  | cons first rest ih =>
    obtain ⟨width_first, width_rest⟩ := List.forall_mem_cons.1 width
    rw [List.foldlM_cons, Outcome.bind_eq_ok_iff] at h
    obtain ⟨between, filled, h⟩ := h
    obtain ⟨same, each⟩ := fillAll_eq_ok width_first filled
    obtain ⟨same', each'⟩ := ih (fun v hv => (width_rest v hv).trans same.symm) h
    refine ⟨same'.trans same, fun i b hb => ?_⟩
    obtain ⟨v, next, hv, hn, taken⟩ := each i b hb
    obtain ⟨b', hb', others⟩ := each' i next hn
    refine ⟨b', hb', ?_⟩
    have unfolded : column i (first :: rest) = v :: column i rest := by
      simp [column, hv]
    rw [unfolded, List.foldlM_cons, taken]
    exact others

/-! ### One buffer -/

/-- **What a step leaves in the buffer of an anchor**, in terms of the values that the device
returned for the anchor. Words of single precision are added by the given addition; `lane` lists
the elements whose position leaves a given remainder, in ascending order. -/
structure StepResult (a : RegisteredAnchor) (microBatches : Nat) (checkNumerics : Bool)
    (old new : Buffer) (values : List Tensor) : Prop where
  /-- It is the buffer of that anchor. -/
  owner : new.IsFor a microBatches
  /-- There is one value for every micro-batch. -/
  count : values.length = microBatches
  /-- Every value is as the anchor describes it. -/
  described : ∀ v ∈ values, v.Fits a.info
  /-- Stacked values follow each other. -/
  all : a.policy = .all → new.data = (values.map (·.payload)).flatten
  /-- The last value is kept. -/
  last : a.policy = .last → ∃ v, values.getLast? = some v ∧ new.data = v.payload
  /-- A place of a sum adds up what reaches it, from zero on, micro-batch after micro-batch. -/
  sum : a.policy = .sum → ∃ summand, Summand.ofElementType? a.info.elementType = some summand ∧
    new.data.length = new.layout.buffer.shape.dims.prod * summand.width ∧
    ∀ place < new.layout.buffer.shape.dims.prod, (summand.read new.data)[place]? =
      some ((values.flatMap fun v =>
        lane new.layout.buffer.shape.dims.prod place (summand.read v.payload)).foldl
          summand.add summand.zero)
  /-- In rows, a sample of a sum goes to the row that its number leaves as the remainder. -/
  rows : a.policy = .sum → ∀ samples rest, a.info.shape.dims = samples :: rest →
    new.layout.buffer.shape.dims = samples / microBatches :: rest ∧
    ∀ summand, Summand.ofElementType? a.info.elementType = some summand →
      ∀ row < samples / microBatches, ∀ column < rest.prod,
        (summand.read new.data)[row * rest.prod + column]? =
          some ((values.flatMap fun v =>
            ((List.range samples).filter fun i => i % (samples / microBatches) = row).filterMap
              fun i => (summand.read v.payload)[i * rest.prod + column]?).foldl
                summand.add summand.zero)
  /-- Sums of 32-bit integers are sums modulo `2 ^ 32`. -/
  int32 : a.policy = .sum → a.info.elementType = .int32 →
    ∀ place < new.layout.buffer.shape.dims.prod,
      (Bytes.words32 new.data)[place]?.map UInt32.toNat =
        some (((values.flatMap fun v => lane new.layout.buffer.shape.dims.prod place
          (Bytes.words32 v.payload)).map UInt32.toNat).sum % 2 ^ 32)
  /-- Sums of 64-bit integers are sums modulo `2 ^ 64`. -/
  int64 : a.policy = .sum → a.info.elementType = .int64 →
    ∀ place < new.layout.buffer.shape.dims.prod,
      (Bytes.words64 new.data)[place]?.map UInt64.toNat =
        some (((values.flatMap fun v => lane new.layout.buffer.shape.dims.prod place
          (Bytes.words64 v.payload)).map UInt64.toNat).sum % 2 ^ 64)
  /-- Integers may come in any order. -/
  anyOrder : a.policy = .sum → a.info.elementType = .int32 ∨ a.info.elementType = .int64 →
    ∀ others, values.Perm others →
      ∃ b, old.fillStep checkNumerics others = .ok b ∧ b.data = new.data
  /-- A step that overwrites in place what was there before leaves the same. -/
  inPlace : new.data = new.filling.overwrite old.data (values.map (·.payload))

variable {a : RegisteredAnchor} {microBatches : Nat} {checkNumerics : Bool} {b b' : Buffer}
  {values : List Tensor}

/-- A step of a buffer changes its bytes only. -/
lemma layout_fillStep (filled : b.fillStep checkNumerics values = .ok b') :
    b'.layout = b.layout ∧ b'.filling = b.filling := by
  obtain ⟨-, made⟩ := fillStep_eq_ok_iff.1 filled
  constructor <;> simp [made]

section OneStep

variable (h : b.IsFor a microBatches) (full : b.Full) (fits : b.layout.buffer.byteCount?.isSome)
  (count : values.length = microBatches) (filled : b.fillStep checkNumerics values = .ok b')

include h full fits count filled

/-- Stacked values follow each other. -/
lemma data_of_all (policy : a.policy = .all) :
    b'.data = (values.map (·.payload)).flatten := by
  rw [(data_fillStep h full fits count filled).1, h.filling_of_all policy]
  rfl

/-- The last value is kept. -/
lemma data_of_last (policy : a.policy = .last) :
    ∃ v, values.getLast? = some v ∧ b'.data = v.payload := by
  have some_value : values ≠ [] := by
    intro none_left
    rw [none_left] at count
    exact Nat.ne_of_gt h.layout_eq.1 count.symm
  have found := List.getLast?_eq_some_getLast some_value
  refine ⟨_, found, ?_⟩
  rw [(data_fillStep h full fits count filled).1, h.filling_of_last policy, Filling.result,
    List.getLast?_map, found]
  rfl

variable {summand : Summand} (filling : b.filling = .sum summand)

include filling

/-- A buffer of sums has a word for each of its elements. -/
lemma length_of_sum :
    b'.data.length = b'.layout.buffer.shape.dims.prod * summand.width := by
  rw [(layout_fillStep filled).1, (data_fillStep h full fits count filled).1, filling,
    Filling.result, Summand.length_total]

/-- **A place of a buffer of sums** adds up what reaches it, from zero on. -/
lemma getElem?_read_fillStep {place : Nat} (hp : place < b'.layout.buffer.shape.dims.prod) :
    (summand.read b'.data)[place]? =
      some ((values.flatMap fun v =>
        lane b'.layout.buffer.shape.dims.prod place (summand.read v.payload)).foldl
          summand.add summand.zero) := by
  rw [(layout_fillStep filled).1] at hp ⊢
  rw [(data_fillStep h full fits count filled).1, filling, Filling.result, Summand.read_total,
    getElem?_laneSums _ _ _ hp, List.map_map, List.flatMap_map]
  rfl

/-- **A place in a row of a buffer of sums** adds up what the samples have at the same place of
their rows, of those samples whose numbers leave the number of the row as the remainder. -/
lemma getElem?_row_fillStep (element : Summand.ofElementType? a.info.elementType = some summand)
    {samples : Nat} {rest : List Nat} (dims : a.info.shape.dims = samples :: rest)
    (buffer_dims : b'.layout.buffer.shape.dims = samples / microBatches :: rest)
    {row : Nat} (hr : row < samples / microBatches) {column : Nat} (hc : column < rest.prod) :
    (summand.read b'.data)[row * rest.prod + column]? =
      some ((values.flatMap fun v =>
        ((List.range samples).filter fun i => i % (samples / microBatches) = row).filterMap
          fun i => (summand.read v.payload)[i * rest.prod + column]?).foldl
            summand.add summand.zero) := by
  have size : b'.layout.buffer.shape.dims.prod = samples / microBatches * rest.prod := by
    rw [buffer_dims, List.prod_cons]
  have inside : row * rest.prod + column < b'.layout.buffer.shape.dims.prod := by
    rw [size]
    exact Size.place_lt hr hc
  rw [getElem?_read_fillStep h full fits count filled filling inside, size]
  -- every value is a matrix of all samples, and its lanes go through rows
  have lanes : ∀ v ∈ values,
      lane (samples / microBatches * rest.prod) (row * rest.prod + column)
          (summand.read v.payload) =
        ((List.range samples).filter fun i => i % (samples / microBatches) = row).filterMap
          fun i => (summand.read v.payload)[i * rest.prod + column]? := by
    intro v hv
    refine lane_rows hc ?_
    have length := h.length_of_accepts ((fillStep_eq_ok_iff.1 filled).1 v hv)
    rw [dims, List.prod_cons, Summand.byteSize_of_ofElementType? element] at length
    exact summand.length_read length
  rw [List.flatMap_congr lanes]

omit filling in
/-- **A place of a buffer of 32-bit sums** holds the sum of what reaches it, modulo `2 ^ 32`. -/
lemma toNat_getElem?_words32 (filling : b.filling = .sum .int32) {place : Nat}
    (hp : place < b'.layout.buffer.shape.dims.prod) :
    (Bytes.words32 b'.data)[place]?.map UInt32.toNat =
      some (((values.flatMap fun v => lane b'.layout.buffer.shape.dims.prod place
        (Bytes.words32 v.payload)).map UInt32.toNat).sum % 2 ^ 32) := by
  have sum : (Bytes.words32 b'.data)[place]? =
      some ((values.flatMap fun v => lane b'.layout.buffer.shape.dims.prod place
        (Bytes.words32 v.payload)).foldl (fun x y => x + y) 0) :=
    getElem?_read_fillStep h full fits count filled filling hp
  rw [sum, Option.map_some, Summand.toNat_foldl_add32, UInt32.toNat_zero, Nat.zero_add]

omit filling in
/-- **A place of a buffer of 64-bit sums** holds the sum of what reaches it, modulo `2 ^ 64`. -/
lemma toNat_getElem?_words64 (filling : b.filling = .sum .int64) {place : Nat}
    (hp : place < b'.layout.buffer.shape.dims.prod) :
    (Bytes.words64 b'.data)[place]?.map UInt64.toNat =
      some (((values.flatMap fun v => lane b'.layout.buffer.shape.dims.prod place
        (Bytes.words64 v.payload)).map UInt64.toNat).sum % 2 ^ 64) := by
  have sum : (Bytes.words64 b'.data)[place]? =
      some ((values.flatMap fun v => lane b'.layout.buffer.shape.dims.prod place
        (Bytes.words64 v.payload)).foldl (fun x y => x + y) 0) :=
    getElem?_read_fillStep h full fits count filled filling hp
  rw [sum, Option.map_some, Summand.toNat_foldl_add64, UInt64.toNat_zero, Nat.zero_add]

end OneStep

/-- **What a step of one buffer leaves.**

**Proof sketch.** The contents are the result of the values, by the three ways of filling. Rows
are lanes of matrices, and sums of integers are sums of natural numbers modulo the size of a
word. -/
lemma stepResult_of_fillStep (h : b.IsFor a microBatches) (full : b.Full)
    (fits : b.layout.buffer.byteCount?.isSome) (count : values.length = microBatches)
    (filled : b.fillStep checkNumerics values = .ok b') :
    StepResult a microBatches checkNumerics b b' values := by
  obtain ⟨-, layout, -⟩ := h.layout_eq
  obtain ⟨same_layout, same_filling⟩ := layout_fillStep filled
  refine ⟨h.fillStep filled, count, ?described, data_of_all h full fits count filled,
    data_of_last h full fits count filled, ?sum, ?rows, ?int32, ?int64, ?anyOrder, ?inPlace⟩
  case described =>
    intro v hv
    have accepted := ((fillStep_eq_ok_iff.1 filled).1 v hv).1
    rwa [layout] at accepted
  case sum =>
    intro policy
    obtain ⟨summand, filling, element⟩ := h.filling_of_sum policy
    exact ⟨summand, element, length_of_sum h full fits count filled filling,
      fun place => getElem?_read_fillStep h full fits count filled filling⟩
  case rows =>
    intro policy samples rest dims
    have buffer_dims : b'.layout.buffer.shape.dims = samples / microBatches :: rest := by
      rw [same_layout, layout, policy, dims]
      rfl
    refine ⟨buffer_dims, fun summand element row hr column hc => ?_⟩
    exact getElem?_row_fillStep h full fits count filled (h.filling_eq_sum policy element) element
      dims buffer_dims hr hc
  case int32 =>
    intro policy element place
    exact toNat_getElem?_words32 h full fits count filled
      (h.filling_eq_sum policy (by rw [element]; rfl))
  case int64 =>
    intro policy element place
    exact toNat_getElem?_words64 h full fits count filled
      (h.filling_eq_sum policy (by rw [element]; rfl))
  case anyOrder =>
    intro policy integer others same
    obtain ⟨summand, filling, element⟩ := h.filling_of_sum policy
    have whole : summand ≠ .single := by
      rintro rfl
      rcases integer with integer | integer <;> rw [integer] at element <;> cases element
    exact fillStep_perm h full fits filling whole count same filled
  case inPlace => rw [same_filling, (data_fillStep h full fits count filled).2]

end Buffer

/-! ### Registration -/

/-- An anchor that is registered comes behind the others, with the description of its tensor. -/
lemma Registry.register_eq_ok {r r' : Registry} {name : String} {policy : Policy}
    (h : r.register name policy = .ok r') : ∃ info, r.available.find? name = some info ∧
      r' = { r with anchors := r.anchors ++ [⟨⟨name, policy⟩, info⟩] } := by
  unfold register at h
  split at h
  · cases h
  split at h
  · rename_i info hi
    exact ⟨info, hi, (Except.ok.inj h).symm⟩
  · cases h

/-- **Registered anchors are in the order in which they are asked for**, each with the
description of its tensor. -/
lemma Registry.registerAll_eq_ok {r r' : Registry} {anchors : List Anchor}
    (h : r.registerAll anchors = .ok r') : ∃ added : List RegisteredAnchor,
      r'.anchors = r.anchors ++ added ∧ added.map (·.toAnchor) = anchors ∧
      r'.available = r.available ∧ ∀ a ∈ added, r.available.find? a.name = some a.info := by
  unfold registerAll at h
  induction anchors generalizing r with
  | nil =>
    cases h
    exact ⟨[], by simp⟩
  | cons first rest ih =>
    rw [List.foldlM_cons, Outcome.bind_eq_ok_iff] at h
    obtain ⟨between, hb, h⟩ := h
    obtain ⟨info, found, rfl⟩ := register_eq_ok hb
    obtain ⟨added, anchors, order, available, described⟩ := ih h
    refine ⟨⟨first, info⟩ :: added, ?_, by simp [order], available, ?_⟩
    · simpa using anchors
    · exact List.forall_mem_cons.2 ⟨found, described⟩

/-- The name at the place of an anchor. -/
lemma Registry.getElem?_names {r : Registry} {i : Nat} {a : RegisteredAnchor}
    (h : r.anchors[i]? = some a) : r.names[i]? = some a.name := by
  rw [Registry.names, List.getElem?_map, h]
  rfl

/-- A new buffer is filled as its layout says, and is full. -/
lemma Buffer.ofLayout_eq_ok {layout : Layout} {b : Buffer} (h : Buffer.ofLayout layout = .ok b) :
    b.layout = layout ∧ b.layout.filling = .ok b.filling ∧ b.Full := by
  unfold ofLayout at h
  obtain ⟨filling, hf, made⟩ := Outcome.bind_eq_ok_iff.1 h
  cases made
  exact ⟨rfl, hf, by simp [Full, data]⟩

namespace Session

variable {D : Type} [Device D]

/-! ### Buffers of a session -/

/-- **The buffers of a session belong to its anchors**, place by place, and are full. -/
structure InOrder (s : Session D) : Prop where
  /-- There is one buffer for every anchor. -/
  length : s.buffers.length = s.registry.anchors.length
  /-- Every buffer belongs to the anchor at its place, has a size that fits, and is full. -/
  each : ∀ (i : Nat) (a : RegisteredAnchor) (b : Buffer), s.registry.anchors[i]? = some a →
    s.buffers[i]? = some b →
      b.IsFor a s.flow.microBatches ∧ b.layout.buffer.byteCount?.isSome ∧ b.Full

/-- The buffers that are made for some anchors belong to them and are full. -/
lemma makeBuffers_eq_ok {registry : Registry} {flow : DataFlow} {buffers : List Buffer}
    (h : makeBuffers registry flow = .ok buffers) :
    buffers.length = registry.anchors.length ∧
      ∀ (i : Nat) (a : RegisteredAnchor) (b : Buffer), registry.anchors[i]? = some a →
        buffers[i]? = some b → b.IsFor a flow.microBatches ∧ b.Full := by
  unfold makeBuffers at h
  obtain ⟨layouts, hl, hb⟩ := Outcome.bind_eq_ok_iff.1 h
  have planned := Outcome.mapM_eq_ok_iff.1 hl
  have made := Outcome.mapM_eq_ok_iff.1 hb
  refine ⟨made.length_eq.symm.trans planned.length_eq.symm, fun i a b ha hb' => ?_⟩
  obtain ⟨layout, at_layouts, laid_out⟩ := exists_getElem?_of_forall₂ planned ha
  obtain ⟨b₀, at_buffers, h₀⟩ := exists_getElem?_of_forall₂ made at_layouts
  obtain rfl : b₀ = b := Option.some.inj (at_buffers.symm.trans hb')
  obtain ⟨same, filling, full⟩ := Buffer.ofLayout_eq_ok h₀
  exact ⟨⟨by rw [same, laid_out], filling⟩, full⟩

/-- The buffers of a built session belong to its anchors. -/
lemma inOrder_build {backend : Backend D} {graph : Graph} {flow : DataFlow} {target : Target}
    {kind : Kind} {options : Options} {s : Session D}
    (h : build backend graph flow target kind options = .ok s)
    (fits : ∀ b ∈ s.buffers, b.layout.buffer.byteCount?.isSome) : s.InOrder := by
  obtain ⟨device, registry, buffers, -, -, made, rfl⟩ := build_eq_ok h
  obtain ⟨length, each⟩ := makeBuffers_eq_ok made
  refine ⟨length, fun i a b ha hb => ?_⟩
  obtain ⟨belongs, full⟩ := each i a b ha hb
  exact ⟨belongs, fits b (List.mem_of_getElem? hb), full⟩

omit [Device D] in
/-- What leaves registration, data flow and buffers alone keeps the buffers in order. -/
lemma InOrder.of_eq {s s' : Session D} (h : s.InOrder) (flow : s'.flow = s.flow)
    (registry : s'.registry = s.registry) (buffers : s'.buffers = s.buffers) : s'.InOrder := by
  refine ⟨by rw [buffers, registry, h.length], ?_⟩
  rw [buffers, registry, flow]
  exact h.each

/-- There are as many feeds as micro-batches. -/
lemma length_feeds (streams : List Stream) (microBatches : Nat) :
    (Stream.feeds streams microBatches).length = microBatches := by
  unfold Stream.feeds
  refine length_columns fun parts hp => ?_
  obtain ⟨stream, -, rfl⟩ := List.mem_map.1 hp
  simp [Stream.parts]

/-- **A step that succeeds is a step of every buffer**, with the values in the column of its
place. -/
lemma runStep_eq_ok {s s' : Session D} {inputs : StepInputs} (h : s.runStep inputs = (.ok (), s')) :
    ∃ streams values, s.Begins inputs streams ∧
      executeAll s.registry.names s.device (Stream.feeds streams s.flow.microBatches) =
        (.ok values, s'.device) ∧
      values.length = s.flow.microBatches ∧ (∀ v ∈ values, v.length = s.registry.names.length) ∧
      values.foldlM (Buffer.fillAll s.options.checkNumerics) (s.buffers.map Buffer.beginStep) =
        .ok s'.buffers ∧
      s' = { s with device := s'.device, buffers := s'.buffers, state := .running,
                    steps := s.steps + 1 } := by
  rcases runStep_cases s inputs with
    ⟨fault, hr, -⟩ | ⟨streams, begins, ⟨fault, s'', hr, -⟩ | ⟨s'', hr, hm⟩⟩
  · rw [h] at hr
    cases hr
  · rw [h] at hr
    cases hr
  · rw [h] at hr
    cases hr
    obtain ⟨values, executed, count, width, filled, same⟩ := runMicroBatches_eq_ok hm
    rw [length_feeds] at count
    refine ⟨streams, values, begins, executed, count, width, filled, ?_⟩
    rw [same]
    rfl

omit [Device D] in
/-- A step that succeeds fills every buffer with the values of its anchor. -/
lemma InOrder.fillStep {s s' : Session D} (h : s.InOrder) {values : List (List Tensor)}
    (count : values.length = s.flow.microBatches)
    (width : ∀ v ∈ values, v.length = s.registry.names.length)
    (filled : values.foldlM (Buffer.fillAll s.options.checkNumerics)
      (s.buffers.map Buffer.beginStep) = .ok s'.buffers) :
    s'.buffers.length = s.registry.anchors.length ∧
      ∀ (i : Nat) (a : RegisteredAnchor), s.registry.anchors[i]? = some a → ∃ old new : Buffer,
        s.buffers[i]? = some old ∧ s'.buffers[i]? = some new ∧
        old.fillStep s.options.checkNumerics (Buffer.column i values) = .ok new ∧
        (Buffer.column i values).length = s.flow.microBatches := by
  have names : s.registry.names.length = s.registry.anchors.length := List.length_map _
  have wide : ∀ v ∈ values, v.length = (s.buffers.map Buffer.beginStep).length := by
    intro v hv
    rw [width v hv, names, List.length_map, h.length]
  obtain ⟨length, each⟩ := Buffer.foldlM_fillAll_eq_ok wide filled
  rw [List.length_map, h.length] at length
  refine ⟨length, fun i a ha => ?_⟩
  obtain ⟨old, ho⟩ := exists_getElem?_of_length_eq h.length ha
  obtain ⟨new, hn, taken⟩ := each i old.beginStep (by rw [List.getElem?_map, ho]; rfl)
  refine ⟨old, new, ho, hn, taken, ?_⟩
  rw [Buffer.length_column (List.getElem?_eq_some_iff.1 ha).1 fun v hv => (width v hv).trans names,
    count]

/-- A step that succeeds keeps the buffers in order. -/
lemma InOrder.runStep {s s' : Session D} (h : s.InOrder) {inputs : StepInputs}
    (run : s.runStep inputs = (.ok (), s')) : s'.InOrder := by
  obtain ⟨streams, values, -, -, count, width, filled, same⟩ := runStep_eq_ok run
  obtain ⟨length, each⟩ := h.fillStep count width filled
  rw [same]
  refine ⟨length, fun i a new ha hn => ?_⟩
  obtain ⟨old, new', ho, hn', taken, column⟩ := each i a ha
  obtain rfl : new' = new := Option.some.inj (hn'.symm.trans hn)
  obtain ⟨belongs, fits, full⟩ := h.each i a old ha ho
  obtain ⟨-, made⟩ := Buffer.fillStep_eq_ok_iff.1 taken
  refine ⟨belongs.fillStep taken, ?_, Buffer.full_fillStep belongs full fits column taken⟩
  simpa [made] using fits

/-- A request keeps the buffers of a session in order, unless it faults the session. -/
lemma inOrder_perform {s : Session D} (h : s.state ≠ .faulted → s.InOrder) (request : Request)
    (live : (s.perform request).2.state ≠ .faulted) : (s.perform request).2.InOrder := by
  by_cases step : ∃ inputs, request = .runStep inputs
  · obtain ⟨inputs, rfl⟩ := step
    show (s.runStep inputs).2.InOrder
    change (s.runStep inputs).2.state ≠ .faulted at live
    rcases runStep_cases s inputs with
      ⟨fault, hr, -⟩ | ⟨streams, begins, ⟨fault, s', hr, hm⟩ | ⟨s', hr, -⟩⟩
    · rw [hr] at live ⊢
      exact h live
    · rw [hr, (runMicroBatches_eq_error hm).1] at live
      exact absurd rfl live
    · have kept := (h begins.live).runStep hr
      rw [hr]
      exact kept
  · have outside := outsideStep_perform s (fun inputs he => step ⟨inputs, he⟩)
    have live_before : s.state ≠ .faulted := fun faulted => live (outside.faulted.2 faulted)
    exact (h live_before).of_eq outside.flow outside.registry outside.buffers

/-- **After any requests the buffers of a session belong to its anchors**, unless it is faulted.
-/
lemma inOrder_after {s : Session D} (h : s.InOrder) (requests : List Request)
    (live : (s.after requests).state ≠ .faulted) : (s.after requests).InOrder :=
  after_induction (P := fun s' => s'.state ≠ .faulted → s'.InOrder) (fun _ => h)
    (fun _ request kept => inOrder_perform kept request) requests live

/-! ### Steps of a session -/

/-- **A step of a session is a step of every buffer**, whatever has been asked of the session
before: the buffer at every place belongs to the anchor at that place, and takes the values in the
column of that place.

**Proof sketch.** The buffers are in order before the step, and all micro-batches fill each of them
with its own column. What a session was built with stays through every request. -/
lemma runStep_columns {backend : Backend D} {graph : Graph} {flow : DataFlow} {target : Target}
    {kind : Kind} {options : Options} {s₀ s : Session D} {requests : List Request}
    {inputs : StepInputs} (built : build backend graph flow target kind options = .ok s₀)
    (fits : ∀ b ∈ s₀.buffers, b.layout.buffer.byteCount?.isSome)
    (run : (s₀.after requests).runStep inputs = (.ok (), s)) :
    ∃ streams values,
      inputs.streams (Device.signature (s₀.after requests).device).inputs flow.microBatches =
        .ok streams ∧
      executeAll (flow.anchors.map (·.name)) (s₀.after requests).device
        (Stream.feeds streams flow.microBatches) = (.ok values, s.device) ∧
      values.length = flow.microBatches ∧ (∀ v ∈ values, v.length = flow.anchors.length) ∧
      s.buffers.length = flow.anchors.length ∧
      ∀ (i : Nat) (anchor : Anchor), flow.anchors[i]? = some anchor → ∃ info old new,
        (Device.signature s₀.device).outputs.find? anchor.name = some info ∧
        (s₀.after requests).buffers[i]? = some old ∧ s.buffers[i]? = some new ∧
        old.IsFor ⟨anchor, info⟩ flow.microBatches ∧ old.Full ∧
        old.layout.buffer.byteCount?.isSome ∧
        (Buffer.column i values).length = flow.microBatches ∧
        old.fillStep options.checkNumerics (Buffer.column i values) = .ok new := by
  have start := inOrder_build built fits
  have same := sameSetup_after s₀ requests
  obtain ⟨device, registry, buffers, -, registered, -, made⟩ := build_eq_ok built
  obtain ⟨added, anchors, order, -, described⟩ := Registry.registerAll_eq_ok registered
  obtain rfl : registry.anchors = added := anchors
  have flow_eq : (s₀.after requests).flow = flow := by rw [same.flow, made]
  have registry_eq : (s₀.after requests).registry = registry := by rw [same.registry, made]
  have options_eq : (s₀.after requests).options = options := by rw [same.options, made]
  have signature_eq : Device.signature s₀.device = Device.signature device := by rw [made]
  have names : registry.names = flow.anchors.map (·.name) := by
    rw [← order, List.map_map]
    rfl
  have size : registry.anchors.length = flow.anchors.length := by
    rw [← order, List.length_map]
  obtain ⟨streams, values, begins, executed, count, width, filled, -⟩ := runStep_eq_ok run
  have before := inOrder_after start requests begins.live
  obtain ⟨length, each⟩ := before.fillStep count width filled
  have checked := begins.2
  rw [flow_eq] at checked executed count each
  rw [registry_eq] at executed width length each
  rw [options_eq] at each
  rw [names] at executed width
  rw [List.length_map] at width
  refine ⟨streams, values, checked, executed, count, width, length.trans size, ?_⟩
  intro i anchor hi
  rw [← order, List.getElem?_map, Option.map_eq_some_iff] at hi
  obtain ⟨a, ha, rfl⟩ := hi
  obtain ⟨old, new, ho, hn, taken, column⟩ := each i a ha
  obtain ⟨belongs, fits_here, full⟩ := before.each i a old (registry_eq ▸ ha) ho
  rw [flow_eq] at belongs
  have found := described a (List.mem_of_getElem? ha)
  rw [signature_eq]
  exact ⟨a.info, old, new, found, ho, hn, belongs, full, fits_here, column, taken⟩

/-- **What a step of a session leaves in its buffers**, whatever has been asked of the session
before.

The step runs all micro-batches on the device, wanting the anchors in the order of the data
flow. The buffer at every place belongs to the anchor at that place, and holds what the values
in that place's column of this step make of it.

**Proof sketch.** The step is a step of every buffer with its own column, and one buffer is filled
as `stepResult_of_fillStep` says. -/
theorem runStep_buffers {backend : Backend D} {graph : Graph} {flow : DataFlow} {target : Target}
    {kind : Kind} {options : Options} {s₀ s : Session D} {requests : List Request}
    {inputs : StepInputs} (built : build backend graph flow target kind options = .ok s₀)
    (fits : ∀ b ∈ s₀.buffers, b.layout.buffer.byteCount?.isSome)
    (run : (s₀.after requests).runStep inputs = (.ok (), s)) :
    ∃ streams values,
      inputs.streams (Device.signature (s₀.after requests).device).inputs flow.microBatches =
        .ok streams ∧
      executeAll (flow.anchors.map (·.name)) (s₀.after requests).device
        (Stream.feeds streams flow.microBatches) = (.ok values, s.device) ∧
      values.length = flow.microBatches ∧ (∀ v ∈ values, v.length = flow.anchors.length) ∧
      s.buffers.length = flow.anchors.length ∧
      ∀ (i : Nat) (anchor : Anchor), flow.anchors[i]? = some anchor → ∃ info old new,
        (Device.signature s₀.device).outputs.find? anchor.name = some info ∧
        (s₀.after requests).buffers[i]? = some old ∧ s.buffers[i]? = some new ∧
        Buffer.StepResult ⟨anchor, info⟩ flow.microBatches options.checkNumerics old new
          (Buffer.column i values) := by
  obtain ⟨streams, values, checked, executed, count, width, length, each⟩ :=
    runStep_columns built fits run
  refine ⟨streams, values, checked, executed, count, width, length, fun i anchor hi => ?_⟩
  obtain ⟨info, old, new, found, ho, hn, belongs, full, fits_here, column, taken⟩ :=
    each i anchor hi
  exact ⟨info, old, new, found, ho, hn,
    Buffer.stepResult_of_fillStep belongs full fits_here column taken⟩

/-- A step that is seen to succeed leaves a session. -/
lemma exists_runStep {s : Session D} {inputs : StepInputs}
    (h : (s.runStep inputs).1.toOption.isSome = true) : ∃ s', s.runStep inputs = (.ok (), s') := by
  obtain ⟨done, hd⟩ := Option.isSome_iff_exists.1 h
  exact ⟨_, Prod.ext (Outcome.toOption_eq_some_iff.1 hd) rfl⟩

/-- A step of the small session, on weights that were handed over before. -/
theorem runStep_buffers_sample : ∃ s₀ s, sample .inference {} = some s₀ ∧
    (s₀.after [.prepare, .pushWeights]).runStep (sampleInputs .zero) = (.ok (), s) ∧
    ∀ (i : Nat) (anchor : Anchor), sampleFlow.anchors[i]? = some anchor → ∃ info old new values,
      s.buffers[i]? = some new ∧ Buffer.StepResult ⟨anchor, info⟩ 2 false old new values := by
  obtain ⟨s₀, found, tested⟩ := exists_of_sample .inference {}
    (fun s => s.buffers.all (fun b => b.layout.buffer.byteCount?.isSome) &&
      ((s.after [.prepare, .pushWeights]).runStep (sampleInputs .zero)).1.toOption.isSome)
    (by decide +kernel)
  obtain ⟨graph, -, built⟩ := sample_eq_some found
  simp only [Bool.and_eq_true, List.all_eq_true] at tested
  obtain ⟨fits, ran⟩ := tested
  obtain ⟨s, run⟩ := exists_runStep ran
  obtain ⟨_, values, -, -, -, -, -, results⟩ := runStep_buffers built fits run
  refine ⟨s₀, s, found, run, fun i anchor hi => ?_⟩
  obtain ⟨info, old, new, -, -, hn, result⟩ := results i anchor hi
  exact ⟨info, old, new, _, hn, result⟩

end Session

end Microbatch
