import Microbatch.Proofs.SingleSums
import Microbatch.Proofs.StepBuffers

set_option relaxedAutoImplicit false
set_option autoImplicit false

/-!
# Anchor buffers of sessions that check numbers

A session that checks numbers looks at every value of an anchor before the value enters the buffer,
and a step with a value that is not finite fails. Stacked values and last values are the values
themselves, so they are finite after a step. A sum is not looked at again. It is never a pattern
that is no number, but it exceeds the range if one of its running sums does, and then it is an
infinity.

## Main definitions

* `Microbatch.Buffer.terms` — what is added up at one place of a buffer.
* `Microbatch.Buffer.CheckedResult` — what a step of checked numbers leaves in a buffer.

## Main results

* `Microbatch.Buffer.checkedResult_of_fillStep` — one buffer.
* `Microbatch.Session.runStep_checked` — all buffers of a session, after any requests.
* `Microbatch.Session.exists_infinite_sum` — a step that succeeds and leaves an infinity.
-/

namespace Microbatch

/-! ### Numbers of payloads that follow each other -/

/-- The words of whole words come in front of the words behind them. -/
lemma Bytes.words32_append : (bs rest : Bytes) → (whole : bs.length % 4 = 0) →
    words32 (bs ++ rest) = words32 bs ++ words32 rest
  | [], _, _ => rfl
  | a :: b :: c :: d :: bs, rest, whole => by
    have tail := words32_append bs rest (by simp only [List.length_cons] at whole; omega)
    rw [List.cons_append, List.cons_append, List.cons_append, List.cons_append, words32_cons,
      words32_cons, tail, List.cons_append]

/-- The numbers of payloads that follow each other are the numbers of each. -/
lemma Single.listOfBytes_flatten {payloads : List Bytes}
    (whole : ∀ p ∈ payloads, p.length % 4 = 0) :
    listOfBytes payloads.flatten = payloads.flatMap listOfBytes := by
  induction payloads with
  | nil => rfl
  | cons first rest ih =>
    obtain ⟨here, others⟩ := List.forall_mem_cons.1 whole
    rw [List.flatten_cons, List.flatMap_cons, ← ih others]
    unfold listOfBytes
    rw [Bytes.words32_append first _ here, List.map_append]

namespace Buffer

/-! ### One buffer -/

/-- **What is added up at one place** of a buffer of sums: the numbers of all values that reach it,
in order. -/
def terms (b : Buffer) (place : Nat) (values : List Tensor) : List Single :=
  values.flatMap fun v => lane b.layout.buffer.shape.dims.prod place (Single.listOfBytes v.payload)

/-- **What a step of checked numbers leaves in the buffer of an anchor**, in terms of the values
that the device returned for the anchor. -/
structure CheckedResult (policy : Policy) (new : Buffer) (values : List Tensor) : Prop where
  /-- All values are finite. -/
  finite : ∀ v ∈ values, ∀ x ∈ Single.listOfBytes v.payload, x.isFinite = true
  /-- Stacked values and last values are finite in the buffer. -/
  kept : policy ≠ .sum → ∀ x ∈ Single.listOfBytes new.data, x.isFinite = true
  /-- What is not finite in the buffer is one of the two infinities. -/
  number : ∀ x ∈ Single.listOfBytes new.data,
    x.isFinite = true ∨ x = ⟨0x7f800000⟩ ∨ x = ⟨0xff800000⟩
  /-- A place of a sum is finite exactly if all its running sums are. -/
  sum : policy = .sum → ∀ (place : Nat) (x : Single),
    (Single.listOfBytes new.data)[place]? = some x → (x.isFinite = true ↔
      ∀ n, (((new.terms place values).take n).foldl Single.add Single.zero).isFinite = true)

variable {a : RegisteredAnchor} {microBatches : Nat} {b b' : Buffer} {values : List Tensor}

/-- A term of a place is a number of one of the values. -/
lemma mem_terms {place : Nat} {x : Single} (h : x ∈ b.terms place values) :
    ∃ v ∈ values, x ∈ Single.listOfBytes v.payload := by
  obtain ⟨v, hv, hx⟩ := List.mem_flatMap.1 h
  obtain ⟨i, -, found⟩ := List.mem_filterMap.1 hx
  exact ⟨v, hv, List.mem_of_getElem? found⟩

/-- What a buffer of numbers takes is finite, if numbers are checked. -/
lemma Accepts.isFinite {v : Tensor} (accepted : b.Accepts true v)
    (floats : b.layout.microBatch.elementType = .float32) :
    ∀ x ∈ Single.listOfBytes v.payload, x.isFinite = true := by
  obtain ⟨⟨same, -⟩, checked⟩ := accepted
  simpa [hasNonFinite, same, floats] using checked

/-- A step of a buffer of checked numbers has taken finite numbers only. -/
lemma finite_of_fillStep (h : b.IsFor a microBatches) (floats : a.info.elementType = .float32)
    (filled : b.fillStep true values = .ok b') :
    ∀ v ∈ values, ∀ x ∈ Single.listOfBytes v.payload, x.isFinite = true := by
  obtain ⟨accepted, -⟩ := fillStep_eq_ok_iff.1 filled
  obtain ⟨-, layout, -⟩ := h.layout_eq
  exact fun v hv => (accepted v hv).isFinite (by rw [layout, floats])

/-- The numbers of a buffer that does not add values up are numbers of the values. -/
lemma StepResult.mem_of_kept {checkNumerics : Bool}
    (left : StepResult a microBatches checkNumerics b b' values)
    (floats : a.info.elementType = .float32) (kept : a.policy ≠ .sum) {x : Single}
    (hx : x ∈ Single.listOfBytes b'.data) : ∃ v ∈ values, x ∈ Single.listOfBytes v.payload := by
  cases policy : a.policy with
  | all =>
    have whole : ∀ p ∈ values.map (·.payload), p.length % 4 = 0 := by
      intro p hp
      obtain ⟨v, hv, rfl⟩ := List.mem_map.1 hp
      obtain ⟨-, size⟩ := left.described v hv
      rw [TensorInfo.byteCount?_eq_some size, floats]
      exact Nat.mul_mod_left _ _
    rw [left.all policy, Single.listOfBytes_flatten whole] at hx
    obtain ⟨p, hp, inside⟩ := List.mem_flatMap.1 hx
    obtain ⟨v, hv, rfl⟩ := List.mem_map.1 hp
    exact ⟨v, hv, inside⟩
  | last =>
    obtain ⟨v, hv, data⟩ := left.last policy
    rw [data] at hx
    exact ⟨v, List.mem_of_getLast? hv, hx⟩
  | sum => exact absurd policy kept

/-- A place of a buffer of sums of numbers adds up its terms. -/
lemma StepResult.eq_foldl_terms {checkNumerics : Bool}
    (left : StepResult a microBatches checkNumerics b b' values)
    (floats : a.info.elementType = .float32) (policy : a.policy = .sum) {place : Nat} {x : Single}
    (hx : (Single.listOfBytes b'.data)[place]? = some x) :
    x = (b'.terms place values).foldl Single.add Single.zero := by
  obtain ⟨summand, found, length, places⟩ := left.sum policy
  rw [floats] at found
  cases found
  have size : (Single.listOfBytes b'.data).length = b'.layout.buffer.shape.dims.prod :=
    Summand.length_read .single length
  have inside : place < b'.layout.buffer.shape.dims.prod :=
    size ▸ (List.getElem?_eq_some_iff.1 hx).1
  exact Option.some.inj (hx.symm.trans (places place inside))

/-- **What a step of checked numbers leaves in one buffer.**

**Proof sketch.** The buffer has taken every value, so all of them are finite. A stack holds the
numbers of all values and a last value its own. A place of a sum holds a running sum of finite
numbers, which once it is an infinity stays the same. -/
lemma checkedResult_of_fillStep (h : b.IsFor a microBatches) (full : b.Full)
    (fits : b.layout.buffer.byteCount?.isSome) (floats : a.info.elementType = .float32)
    (count : values.length = microBatches) (filled : b.fillStep true values = .ok b') :
    CheckedResult a.policy b' values := by
  have left := stepResult_of_fillStep h full fits count filled
  have finite := finite_of_fillStep h floats filled
  have kept : a.policy ≠ .sum → ∀ x ∈ Single.listOfBytes b'.data, x.isFinite = true := by
    intro unsummed x hx
    obtain ⟨v, hv, inside⟩ := left.mem_of_kept floats unsummed hx
    exact finite v hv x inside
  have terms_finite : ∀ place, ∀ x ∈ b'.terms place values, x.isFinite = true := by
    intro place x hx
    obtain ⟨v, hv, inside⟩ := mem_terms hx
    exact finite v hv x inside
  have zero : Single.zero.isNaN = false := by decide
  refine ⟨finite, kept, fun x hx => ?_, fun policy place x hx => ?_⟩
  · by_cases policy : a.policy = .sum
    · obtain ⟨place, found⟩ := List.mem_iff_getElem?.1 hx
      have number := Single.isNaN_foldl_add (terms_finite place) zero
      rw [← left.eq_foldl_terms floats policy found] at number
      cases is_finite : x.isFinite with
      | true => exact .inl rfl
      | false => exact .inr (Single.eq_infinity number is_finite)
    · exact .inl (kept policy x hx)
  · rw [left.eq_foldl_terms floats policy hx]
    exact Single.isFinite_foldl_add_iff (terms_finite place) zero

end Buffer

/-! ### Steps of a session -/

namespace Session

variable {D : Type} [Device D]

/-- **After a step of a session that checks numbers**, whatever has been asked of the session
before, every buffer of numbers holds what the finite values of its anchor make of it: stacked
values and last values are finite, and so is every place of a sum unless one of its running sums
exceeds the range.

**Proof sketch.** The step is a step of every buffer with its own column, so
`checkedResult_of_fillStep` says it of each. -/
theorem runStep_checked {backend : Backend D} {graph : Graph} {flow : DataFlow} {target : Target}
    {kind : Kind} {options : Options} {s₀ s : Session D} {requests : List Request}
    {inputs : StepInputs} (built : build backend graph flow target kind options = .ok s₀)
    (fits : ∀ b ∈ s₀.buffers, b.layout.buffer.byteCount?.isSome)
    (checks : options.checkNumerics = true)
    (run : (s₀.after requests).runStep inputs = (.ok (), s)) :
    ∃ streams values,
      inputs.streams (Device.signature (s₀.after requests).device).inputs flow.microBatches =
        .ok streams ∧
      executeAll (flow.anchors.map (·.name)) (s₀.after requests).device
        (Stream.feeds streams flow.microBatches) = (.ok values, s.device) ∧
      s.buffers.length = flow.anchors.length ∧
      ∀ (i : Nat) (anchor : Anchor), flow.anchors[i]? = some anchor → ∃ info new,
        (Device.signature s₀.device).outputs.find? anchor.name = some info ∧
        s.buffers[i]? = some new ∧
        (info.elementType = .float32 →
          Buffer.CheckedResult anchor.policy new (Buffer.column i values)) := by
  obtain ⟨streams, values, checked, executed, -, -, length, each⟩ := runStep_columns built fits run
  refine ⟨streams, values, checked, executed, length, fun i anchor hi => ?_⟩
  obtain ⟨info, old, new, found, -, hn, belongs, full, fits_here, count, filled⟩ := each i anchor hi
  rw [checks] at filled
  exact ⟨info, new, found, hn, fun floats =>
    Buffer.checkedResult_of_fillStep belongs full fits_here floats count filled⟩

/-- A step of the small session that checks numbers, on weights that were handed over before. -/
theorem runStep_checked_sample : ∃ s₀ s, sample .inference ⟨none, true, false⟩ = some s₀ ∧
    (s₀.after [.prepare, .pushWeights]).runStep (sampleInputs .one) = (.ok (), s) ∧
    ∀ (i : Nat) (anchor : Anchor), sampleFlow.anchors[i]? = some anchor → ∃ info new values,
      (Device.signature s₀.device).outputs.find? anchor.name = some info ∧
      s.buffers[i]? = some new ∧
      (info.elementType = .float32 → Buffer.CheckedResult anchor.policy new values) := by
  obtain ⟨s₀, found, tested⟩ := exists_of_sample .inference ⟨none, true, false⟩
    (fun s => s.buffers.all (fun b => b.layout.buffer.byteCount?.isSome) &&
      ((s.after [.prepare, .pushWeights]).runStep (sampleInputs .one)).1.toOption.isSome)
    (by decide +kernel)
  obtain ⟨graph, -, built⟩ := sample_eq_some found
  simp only [Bool.and_eq_true, List.all_eq_true] at tested
  obtain ⟨fits, ran⟩ := tested
  obtain ⟨s, run⟩ := exists_runStep ran
  obtain ⟨_, values, -, -, -, results⟩ := runStep_checked built fits rfl run
  refine ⟨s₀, s, found, run, fun i anchor hi => ?_⟩
  obtain ⟨info, new, described, hn, result⟩ := results i anchor hi
  exact ⟨info, new, _, described, hn, result⟩

/-- **A step that checks numbers succeeds and leaves an infinity**: the inputs of both micro-batches
are the largest number, and their sum exceeds the range. -/
theorem exists_infinite_sum : ∃ graph s₀ s,
    Exchange.loadGraph sampleModel .empty = .ok graph ∧
    build HostDevice.backend graph ⟨2, [⟨"x", .sum⟩], by decide⟩ .cpu .inference
      ⟨none, true, false⟩ = .ok s₀ ∧
    (s₀.after [.prepare, .pushWeights]).runStep (sampleInputs ⟨0x7f7fffff⟩) = (.ok (), s) ∧
    ∃ b ∈ s.buffers, b.layout.buffer.elementType = .float32 ∧
      ∃ x ∈ Single.listOfBytes b.data, x.isFinite = false := by
  have tested : ((Exchange.loadGraph sampleModel .empty).toOption.bind fun graph =>
      (build HostDevice.backend graph ⟨2, [⟨"x", .sum⟩], by decide⟩ .cpu .inference
        ⟨none, true, false⟩).toOption).any (fun s =>
      let step := (s.after [.prepare, .pushWeights]).runStep (sampleInputs ⟨0x7f7fffff⟩)
      step.1.toOption.isSome && step.2.buffers.any fun b =>
        decide (b.layout.buffer.elementType = .float32) &&
          (Single.listOfBytes b.data).any fun x => !x.isFinite) = true := by
    decide +kernel
  obtain ⟨s₀, made, tested⟩ := (Option.any_eq_true _ _).1 tested
  obtain ⟨graph, loaded, built⟩ := Option.bind_eq_some_iff.1 made
  obtain ⟨ran, infinite⟩ := Bool.and_eq_true_iff.1 tested
  obtain ⟨s, run⟩ := exists_runStep ran
  rw [run] at infinite
  refine ⟨graph, s₀, s, Outcome.toOption_eq_some_iff.1 loaded, Outcome.toOption_eq_some_iff.1 built,
    run, ?_⟩
  simpa only [List.any_eq_true, Bool.and_eq_true, decide_eq_true_eq, Bool.not_eq_true']
    using infinite

end Session

end Microbatch
