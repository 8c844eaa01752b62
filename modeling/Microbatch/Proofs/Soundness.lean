import Microbatch.Proofs.Execution
import Microbatch.Proofs.HostSession
import Microbatch.Proofs.StepBuffers

set_option relaxedAutoImplicit false
set_option autoImplicit false

/-!
# Steps of sessions on the host

Checks are made when a graph is compiled and when the inputs of a step come in. They are enough:
a session that is ready for a step runs all micro-batches of any inputs that are accepted. Every
look-up succeeds, every place that is gone through is there, and every tensor that comes back is
as it was offered. A step can fail in one way only, by a number that is not finite where numbers
are checked.

## Main definitions

* `Microbatch.Filling.TakesInRange` — a value enters a buffer within the buffer's bytes.
* `Microbatch.Session.Sized` — the weights of a session have the sizes of their shapes.
* `Microbatch.Session.Sound` — what all requests keep of a compiled session.
* `Microbatch.Session.RunsInRange`, `Microbatch.Session.SafeStep` — a step that can only fail by
  its numbers.

## Main results

* `Microbatch.Session.Sound.after` — a session stays sound.
* `Microbatch.Session.Sound.safeStep` — a sound session that is ready takes such a step.
* `Microbatch.Session.Sound.unchecked_cases` — without checks of numbers no step fails that begins.
* `Microbatch.Session.runStep_sound` — so does every session of a loaded graph.
-/

namespace Microbatch

/-! ### Values that enter a buffer -/

/-- **A value enters a buffer in range**: a stack of some bytes has the place of the micro-batch
with a number, every word that is added up finds a whole word at its remainder, and a last value
takes all of the buffer. -/
def Filling.TakesInRange (size microBatch length : Nat) : Filling → Prop
  | stack => microBatch * length + length ≤ size
  | sum summand => ∀ i < length / summand.width,
      size ≠ 0 ∧ i * summand.width % size + summand.width ≤ size
  | replace => length = size

/-- Whole words are found at the remainders of a buffer of whole words. -/
lemma Filling.takesInRange_sum {summand : Summand} {places words : Nat}
    (some_place : 0 < words → 0 < places) (microBatch : Nat) :
    (Filling.sum summand).TakesInRange (places * summand.width) microBatch
      (words * summand.width) := by
  have width : 0 < summand.width := by cases summand <;> decide
  intro i hi
  rw [Nat.mul_div_cancel _ width] at hi
  have pos := some_place (Nat.lt_of_le_of_lt (Nat.zero_le i) hi)
  refine ⟨Nat.ne_of_gt (Nat.mul_pos pos width), ?_⟩
  rw [Nat.mul_mod_mul_right]
  exact Size.mul_add_le_mul (Nat.mod_lt i pos) _

/-- A sum has a place if its values have elements. -/
lemma Policy.prod_scaledDims_sum_pos {microBatches : Nat} (pos : 0 < microBatches) {dims : List Nat}
    (divisible : ∀ leading ∈ dims.head?, leading % microBatches = 0)
    (some_element : 0 < dims.prod) :
    0 < (sum.scaledDims microBatches dims).prod := by
  cases dims with
  | nil => simp [scaledDims]
  | cons leading rest =>
    rw [List.prod_cons] at some_element
    have divides : microBatches ∣ leading := Nat.dvd_of_mod_eq_zero (divisible leading rfl)
    have some_sample := Nat.pos_of_mul_pos_right some_element
    rw [scaledDims, List.prod_cons]
    exact Nat.mul_pos (Nat.div_pos (Nat.le_of_dvd some_sample divides) pos)
      (Nat.pos_of_mul_pos_left some_element)

/-- **The values of an anchor enter its buffer in range.** -/
lemma Buffer.IsFor.takesInRange {a : RegisteredAnchor} {microBatches : Nat} {b : Buffer}
    (h : b.IsFor a microBatches) (fits : b.layout.buffer.byteCount?.isSome) {t : Tensor}
    (described : t.Fits a.info) {m : Nat} (hm : m < microBatches) :
    b.filling.TakesInRange b.layout.buffer.byteCount m t.payload.length := by
  obtain ⟨pos, layout, divisible⟩ := h.layout_eq
  rw [TensorInfo.byteCount_of_isSome fits, TensorInfo.byteCount?_eq_some described.2, layout]
  rcases h.filling_eq with
    ⟨policy, filling⟩ | ⟨policy, filling⟩ | ⟨policy, summand, filling, element⟩
  · rw [filling, policy, Filling.TakesInRange, Policy.prod_scaledDims_all, ← Nat.succ_mul,
      Nat.mul_assoc]
    exact Nat.mul_le_mul_right _ hm
  · rw [filling, policy, Filling.TakesInRange]
    cases a.info.shape.dims <;> rfl
  · dsimp only
    rw [filling, policy, Summand.byteSize_of_ofElementType? element]
    exact Filling.takesInRange_sum (Policy.prod_scaledDims_sum_pos pos (divisible policy)) m

namespace HostDevice

/-! ### Weights as tensors -/

/-- Weights of the sizes of their shapes are well-formed tensors. -/
lemma wellFormed_tensors {weights : NameMap Parameter} (sized : Sized weights)
    (fits : ∀ name info, (described weights).find? name = some info → info.byteCount?.isSome)
    {name : String} {t : Tensor} (found : (tensors weights).find? name = some t) :
    t.WellFormed := by
  rw [tensors, NameMap.find?_mapValues, Option.map_eq_some_iff] at found
  obtain ⟨p, hp, rfl⟩ := found
  have known : (described weights).find? name = some ⟨.float32, p.shape⟩ := by
    rw [described, NameMap.find?_mapValues, hp]
    rfl
  exact (Tensor.fits_ofSingles rfl (fits name _ known) (sized name p hp)).2

/-- Weights that are well-formed tensors have the sizes of their shapes. -/
lemma sized_of_wellFormed {weights : NameMap Parameter}
    (wellFormed : ∀ name t, (tensors weights).find? name = some t → t.WellFormed) :
    Sized weights := by
  intro name p hp
  have found : (tensors weights).find? name = some (.ofSingles p.shape p.values) := by
    rw [tensors, NameMap.find?_mapValues, hp]
    rfl
  have size := TensorInfo.byteCount?_eq_some (wellFormed name _ found)
  rw [Tensor.ofSingles, Single.length_bytesOfList, ElementType.byteSize, Nat.mul_comm] at size
  exact Nat.eq_of_mul_eq_mul_right (by decide) size

end HostDevice

namespace Session

/-! ### What requests keep -/

/-- **The weights of a session have the sizes of their shapes**, on the host and on the device. -/
structure Sized (s : Session HostDevice) : Prop where
  /-- The host's weights are well formed. -/
  host : ∀ name t, s.weights.find? name = some t → t.WellFormed
  /-- The device's weights have as many elements as their shapes. -/
  device : ∀ weights, s.device.weights = some weights → HostDevice.Sized weights

variable {s : Session HostDevice}

/-- Micro-batches keep the sizes of weights. -/
lemma Sized.ran (sized : s.Sized) (h : s.Consistent) {inputs : StepInputs} {streams : List Stream}
    (begins : s.Begins inputs streams) {d : HostDevice} (ran : HostDevice.Ran s.device d) :
    ∀ weights, d.weights = some weights → HostDevice.Sized weights := by
  intro weights hw
  obtain ⟨usable, synced, -⟩ := requireReady_eq_ok_iff.1 begins.1
  obtain ⟨before, hb, -⟩ := h.weights usable synced
  obtain ⟨after, ha, moves⟩ := ran.moved before hb
  obtain rfl : after = weights := Option.some.inj (ha.symm.trans hw)
  exact HostDevice.sized_of_descends moves (sized.device before hb)

/-- A device that is taken off has no other weights than before. -/
lemma Sized.release (sized : s.Sized) :
    ∀ weights, s.device.release.weights = some weights → HostDevice.Sized weights := by
  intro weights hw
  obtain ⟨-, -, -, before⟩ := Transition.release_device s.device
  exact sized.device weights (before weights hw)

/-- **Every request keeps the sizes of weights.** -/
lemma Transition.sized {request : Request} {result : Except Fault Reply} {s' : Session HostDevice}
    (t : Transition s request result s') (h : s.Consistent) (sized : s.Sized)
    (fits : ∀ name info, s.device.program.weights.find? name = some info → info.byteCount?.isSome) :
    s'.Sized := by
  -- weights that the host takes over are described like those of the program, whose sizes fit
  have taken_over : ∀ weights, s.device.weights = some weights →
      ∀ name t, (HostDevice.tensors weights).find? name = some t → t.WellFormed := by
    intro weights hw name t
    exact HostDevice.wellFormed_tensors (sized.device weights hw) (h.held weights hw ▸ fits)
  cases t with
  | refuse request fault supplied unbegun => exact sized
  | prepare => exact ⟨sized.host, sized.device⟩
  | pushWeights usable weights described same =>
    refine ⟨sized.host, fun weights' hw => ?_⟩
    cases hw
    exact HostDevice.sized_of_wellFormed (same ▸ sized.host)
  | pullWeights usable synced weights held => exact ⟨taken_over weights held, sized.device⟩
  | pushOptimizer usable optimizer trains => exact ⟨sized.host, sized.device⟩
  | updateOptimizer next trains => exact ⟨sized.host, sized.device⟩
  | resetWeights model count source weights taken =>
    refine ⟨fun name t found => ?_, sized.device⟩
    obtain ⟨rfl, fitting⟩ := WeightStore.resetFrom_eq_ok taken
    rw [WeightStore.replaceFrom, NameMap.find?_mapValues, Option.map_eq_some_iff] at found
    obtain ⟨current, hc, replaced⟩ := found
    cases hs : source.find? name with
    | none =>
      rw [hs, Option.getD_none] at replaced
      exact replaced ▸ sized.host name current hc
    | some other =>
      rw [hs, Option.getD_some] at replaced
      obtain ⟨same, size⟩ := fitting name current other hc hs
      rw [← replaced, Tensor.WellFormed, same]
      exact size
  | step inputs streams begins d buffers ran => exact ⟨sized.host, sized.ran h begins ran⟩
  | fail inputs streams begins d buffers ran fault supplied =>
    exact ⟨sized.host, sized.ran h begins ran⟩
  | exportModel usable synced weights held model => exact ⟨taken_over weights held, sized.device⟩
  | releaseNone loose => exact sized
  | releaseFaulted faulted => exact ⟨sized.host, sized.release⟩
  | release saved weights origin =>
    refine ⟨?_, sized.release⟩
    rcases origin with rfl | ⟨held, hw, rfl⟩
    · exact sized.host
    · exact taken_over held hw

/-- **What all requests keep of a session that was built from a loaded graph.** -/
structure Sound (s : Session HostDevice) : Prop where
  /-- The marks say the truth about the device. -/
  consistent : s.Consistent
  /-- The program has right descriptions. -/
  typed : s.device.program.WellTyped
  /-- The payload sizes of all tensors fit. -/
  fits : ∀ name info, s.device.program.infos.find? name = some info → info.byteCount?.isSome
  /-- Weights have the sizes of their shapes. -/
  sized : s.Sized
  /-- Every anchor is offered, with the description under which it is registered. -/
  offered : ∀ a ∈ s.registry.anchors,
    s.device.program.signature.outputs.find? a.name = some a.info

/-- **A session that is built from a loaded graph is sound**, if all payload sizes fit. -/
lemma sound_build {model : Bytes} {shapes : NameMap TensorInfo} {graph : Graph} {flow : DataFlow}
    {target : Target} {kind : Kind} {options : Options} {s : Session HostDevice}
    (loaded : Exchange.loadGraph model shapes = .ok graph)
    (built : build HostDevice.backend graph flow target kind options = .ok s)
    (fits : ∀ name info, s.device.program.infos.find? name = some info → info.byteCount?.isSome) :
    s.Sound := by
  have consistent := consistent_build built
  obtain ⟨apart, payloads⟩ := Exchange.loadGraph_eq_ok loaded
  obtain ⟨device, registry, buffers, compiled, registered, -, rfl⟩ := build_eq_ok built
  obtain ⟨program, hp, rfl⟩ := HostDevice.compile_eq_ok compiled
  have typed := Program.wellTyped_of_compile apart hp
  obtain ⟨added, anchors, -, -, offered⟩ := Registry.registerAll_eq_ok registered
  refine ⟨consistent, typed, fits, ⟨fun name t found => ?_, fun weights impossible => ?_⟩,
    fun a ha => ?_⟩
  · have known : program.weights.find? name = some t.info := by
      rw [← consistent.expected, NameMap.find?_mapValues, found]
      rfl
    obtain ⟨size, hs⟩ := Option.isSome_iff_exists.1 (fits name t.info (typed.weights name _ known))
    rw [Tensor.WellFormed, hs, payloads name t found, TensorInfo.byteCount_of_eq_some hs]
  · cases impossible
  · obtain rfl : registry.anchors = added := anchors
    exact offered a ha

/-- Every request keeps a session sound. -/
lemma Sound.perform (h : s.Sound) (request : Request) : (s.perform request).2.Sound := by
  have t := transition_perform h.consistent request
  have same := sameSetup_perform s request
  refine ⟨t.consistent h.consistent, t.program_eq ▸ h.typed, t.program_eq ▸ h.fits, ?_, ?_⟩
  · exact t.sized h.consistent h.sized fun name info known =>
      h.fits name info (h.typed.weights name info known)
  · rw [t.program_eq, same.registry]
    exact h.offered

/-- **A session stays sound** through all requests. -/
lemma Sound.after (h : s.Sound) (requests : List Request) : (s.after requests).Sound :=
  after_induction h (fun _ request kept => kept.perform request) requests

/-! ### Steps -/

/-- **The micro-batches of a step run in range**: each of them finds its part of every input,
the device finds all that it goes through and returns tensors as they are offered, and these
enter the buffers in range. -/
structure RunsInRange (s : Session HostDevice) (streams : List Stream) : Prop where
  /-- Every micro-batch finds its part of every input. -/
  parts : ∀ stream ∈ streams, ∀ m < s.flow.microBatches, ∃ part,
    stream.tensor.view (m * stream.microBatch.byteCount) stream.microBatch = .ok part ∧
      (stream.parts s.flow.microBatches)[m]? = some part
  /-- There are as many micro-batches as the data flow says. -/
  count : (Stream.feeds streams s.flow.microBatches).length = s.flow.microBatches
  /-- After any of them, the device runs the next one. -/
  each : ∀ before feed rest, Stream.feeds streams s.flow.microBatches = before ++ feed :: rest →
    ∃ values d, executeAll s.registry.names s.device before = (.ok values, d) ∧
      d.RunsInRange feed ∧ ∃ tensors, (d.execute feed s.registry.names).1 = .ok tensors ∧
        HostDevice.AsOffered s.device.program s.registry.names tensors
  /-- What is offered under the name of a buffer enters the buffer in range. -/
  takes : ∀ b ∈ s.buffers, ∃ info,
    s.device.program.signature.outputs.find? b.name = some info ∧
      ∀ t : Tensor, t.Fits info → ∀ m < s.flow.microBatches,
        b.filling.TakesInRange b.layout.buffer.byteCount m t.payload.length

/-- **A step that can only fail by its numbers.** Inputs that are not accepted leave no trace. -/
inductive SafeStep (s : Session HostDevice) (inputs : StepInputs) : Prop where
  /-- The inputs are not accepted. -/
  | refuse (fault : Fault)
      (refused : inputs.streams s.device.program.signature.inputs s.flow.microBatches =
        .error fault)
      (unchanged : s.runStep inputs = (.error fault, s))
  /-- All micro-batches run. -/
  | done (streams : List Stream)
      (accepted : inputs.streams s.device.program.signature.inputs s.flow.microBatches =
        .ok streams)
      (inRange : s.RunsInRange streams) (values : List (List Tensor)) (s' : Session HostDevice)
      (executed : executeAll s.registry.names s.device (Stream.feeds streams s.flow.microBatches) =
        (.ok values, s'.device))
      (ran : s.runStep inputs = (.ok (), s'))
  /-- Numbers are checked, and one of them is not finite. -/
  | nonFinite (streams : List Stream)
      (accepted : inputs.streams s.device.program.signature.inputs s.flow.microBatches =
        .ok streams)
      (inRange : s.RunsInRange streams) (checked : s.options.checkNumerics = true)
      (b : Buffer) (anchored : b ∈ s.buffers) (s' : Session HostDevice)
      (faulted : s'.state = .faulted) (failed : s.runStep inputs = (.error (.nonFinite b.name), s'))

/-- The device of a sound session that begins a step can run micro-batches. -/
lemma Sound.runnable (h : s.Sound) {inputs : StepInputs} {streams : List Stream}
    (begins : s.Begins inputs streams) : s.device.Runnable := by
  obtain ⟨usable, synced, -⟩ := requireReady_eq_ok_iff.1 begins.1
  obtain ⟨weights, hw, -⟩ := h.consistent.weights usable synced
  obtain ⟨attached, -, optimizer⟩ := h.consistent.equipped begins (.refl s.device)
  exact ⟨attached, h.typed, h.fits,
    ⟨weights, hw, h.consistent.held weights hw, h.sized.device weights hw⟩, optimizer⟩

/-- What a sound session wants is offered. -/
lemma Sound.offered_names (h : s.Sound) : ∀ name ∈ s.registry.names, ∃ info,
    s.device.program.signature.outputs.find? name = some info := by
  intro name hn
  obtain ⟨a, ha, rfl⟩ := List.mem_map.1 hn
  exact ⟨a.info, h.offered a ha⟩

/-- **The micro-batches of a step run in range.** -/
lemma Sound.runsInRange (h : s.Sound) (order : s.InOrder) {inputs : StepInputs}
    {streams : List Stream} (begins : s.Begins inputs streams) : s.RunsInRange streams := by
  have accepted : inputs.streams s.device.program.signature.inputs s.flow.microBatches =
      .ok streams := begins.2
  have fed := fun feed => @fits_feeds inputs _ _ streams s.flow.microBatches_pos accepted feed
  refine ⟨fun stream hs m hm => ?_, length_feeds streams _, fun before feed rest split => ?_, ?_⟩
  · obtain ⟨e, -, -, -, whole⟩ :=
      Outcome.exists_of_forall₂_right (StepInputs.streams_eq_ok s.flow.microBatches_pos accepted) hs
    obtain ⟨part, seen, there, -⟩ := whole.view_eq_ok hm
    exact ⟨part, seen, there⟩
  · have fed_before : ∀ feed ∈ before, FeedFits s.device.program.signature.inputs feed :=
      fun other ho => fed other (split ▸ List.mem_append_left _ ho)
    have fed_here := fed feed (split ▸ List.mem_append_right _ (List.mem_cons_self ..))
    obtain ⟨values, d, executed, runnable, same, -⟩ :=
      (h.runnable begins).executeAll fed_before h.offered_names
    have offered := h.offered_names
    rw [← same] at fed_here offered
    obtain ⟨inRange, tensors, returned, as_offered⟩ := runnable.execute fed_here offered
    exact ⟨values, d, executed, inRange, tensors, returned, same ▸ as_offered⟩
  · intro b hb
    obtain ⟨i, hi⟩ := List.mem_iff_getElem?.1 hb
    obtain ⟨a, ha⟩ := exists_getElem?_of_length_eq order.length.symm hi
    obtain ⟨belongs, fits, -⟩ := order.each i a b ha hi
    have name : b.name = a.name := by
      obtain ⟨-, layout, -⟩ := belongs.layout_eq
      rw [Buffer.name, layout]
    refine ⟨a.info, ?_, fun t described m hm => belongs.takesInRange fits described hm⟩
    rw [name]
    exact h.offered a (List.mem_of_getElem? ha)

/-- **Tensors that come back as offered are refused for their numbers only.** -/
lemma Sound.takeValues_eq_error (h : s.Sound) (order : s.InOrder) {buffers : List Buffer}
    {values : List (List Tensor)} (width : ∀ v ∈ values, v.length = s.registry.names.length)
    (filled : values.foldlM (Buffer.fillAll s.options.checkNumerics)
      (s.buffers.map Buffer.beginStep) = .ok buffers) {tensors : List Tensor}
    (offered : HostDevice.AsOffered s.device.program s.registry.names tensors) {fault : Fault}
    (failed : { s.beginStep with buffers := buffers }.takeValues tensors = .error fault) :
    s.options.checkNumerics = true ∧ ∃ b ∈ s.buffers, fault = .nonFinite b.name := by
  have names : s.registry.names.length = s.registry.anchors.length := List.length_map _
  have count : tensors.length = s.registry.names.length := offered.length_eq.symm
  have failed : Buffer.fillAll s.options.checkNumerics buffers tensors = .error fault :=
    (takeValues_eq (s := { s.beginStep with buffers := buffers }) count).symm.trans failed
  obtain ⟨⟨b', t⟩, member, refused⟩ := Outcome.exists_of_mapM_eq_error failed
  obtain ⟨i, hi⟩ := List.mem_iff_getElem?.1 member
  obtain ⟨hb', ht⟩ := List.getElem?_zip_eq_some.1 hi
  -- the tensor, the anchor and the buffer at the place where it fails
  obtain ⟨a, ha⟩ := exists_getElem?_of_length_eq (names.symm.trans count.symm) ht
  obtain ⟨b, hb⟩ := exists_getElem?_of_length_eq order.length ha
  obtain ⟨belongs, -, -⟩ := order.each i a b ha hb
  have name_here := Registry.getElem?_names ha
  obtain ⟨t', ht', info, known, described⟩ := exists_getElem?_of_forall₂ offered name_here
  obtain rfl : t' = t := Option.some.inj (ht'.symm.trans ht)
  obtain rfl : info = a.info :=
    Option.some.inj (known.symm.trans (h.offered a (List.mem_of_getElem? ha)))
  -- micro-batches keep the layout of the buffer
  have wide : ∀ v ∈ values, v.length = (s.buffers.map Buffer.beginStep).length := by
    intro v hv
    rw [width v hv, names, List.length_map, order.length]
  obtain ⟨-, each⟩ := Buffer.foldlM_fillAll_eq_ok wide filled
  obtain ⟨last, hl, taken⟩ := each i b.beginStep (by rw [List.getElem?_map, hb]; rfl)
  obtain rfl : last = b' := Option.some.inj (hl.symm.trans hb')
  have layout : last.layout = b.layout := by
    rw [(Buffer.foldl_fill_eq_ok_iff.1 taken).2, Buffer.layout_foldl_take, Buffer.layout_beginStep]
  obtain ⟨-, laid_out, -⟩ := belongs.layout_eq
  have fits : t'.Fits last.layout.microBatch := by
    rw [layout, laid_out]
    exact described
  obtain ⟨checked, -, rfl⟩ := Buffer.fill_eq_error refused fits
  refine ⟨checked, b, List.mem_of_getElem? hb, ?_⟩
  rw [Buffer.name, Buffer.name, layout]

/-- **A sound session that is ready takes a step that can only fail by its numbers.**

**Proof sketch.** If the inputs are accepted, every micro-batch finds a device that can run, so
that what fails is the taking of its values, and they are as offered. -/
lemma Sound.safeStep (h : s.Sound) (order : s.InOrder) (ready : s.requireReady = .ok ())
    (inputs : StepInputs) : s.SafeStep inputs := by
  cases accepted : inputs.streams s.device.program.signature.inputs s.flow.microBatches with
  | error fault =>
    refine .refuse fault accepted ?_
    have refused : inputs.streams (Device.signature s.device).inputs s.flow.microBatches =
        .error fault := accepted
    simp only [runStep, ready, refused]
  | ok streams =>
    have begins : s.Begins inputs streams := ⟨ready, accepted⟩
    have inRange := h.runsInRange order begins
    rcases runStep_cases s inputs with ⟨-, -, refused⟩ |
      ⟨streams', begins', ⟨fault, s', hr, hm⟩ | ⟨s', hr, hm⟩⟩
    · exact absurd begins (refused streams)
    · obtain rfl : streams' = streams := Except.ok.inj (begins'.2.symm.trans begins.2)
      obtain ⟨same, before, feed, rest, values, d, split, executed, width, filled, failed⟩ :=
        runMicroBatches_eq_error hm
      obtain ⟨values', d', executed', -, tensors, returned, as_offered⟩ :=
        inRange.each before feed rest split
      have both := executed'.symm.trans executed
      cases both
      rcases failed with ⟨cause, he, -⟩ | ⟨tensors', he, taken⟩
      · exact nomatch returned.symm.trans (congrArg Prod.fst he)
      · obtain rfl : tensors' = tensors :=
          Except.ok.inj ((congrArg Prod.fst he).symm.trans returned)
        obtain ⟨checked, b, anchored, rfl⟩ :=
          h.takeValues_eq_error order width filled as_offered taken
        exact .nonFinite streams' accepted inRange checked b anchored s' (by rw [same]) hr
    · obtain rfl : streams' = streams := Except.ok.inj (begins'.2.symm.trans begins.2)
      obtain ⟨values, executed, -, -, -, -⟩ := runMicroBatches_eq_ok hm
      exact .done streams' accepted inRange values { s' with steps := s'.steps + 1 } executed hr

/-- **A step of a sound session that checks no numbers** is refused for its inputs and leaves no
trace, or it succeeds. -/
lemma Sound.unchecked_cases (h : s.Sound) (order : s.InOrder)
    (ready : s.requireReady = .ok ()) (unchecked : s.options.checkNumerics = false)
    (inputs : StepInputs) :
    (∃ fault, inputs.streams s.device.program.signature.inputs s.flow.microBatches =
        .error fault ∧ s.runStep inputs = (.error fault, s)) ∨
      ∃ streams s', inputs.streams s.device.program.signature.inputs s.flow.microBatches =
        .ok streams ∧ s.runStep inputs = (.ok (), s') := by
  cases h.safeStep order ready inputs with
  | refuse fault refused unchanged => exact .inl ⟨fault, refused, unchanged⟩
  | done streams accepted inRange values s' executed ran =>
    exact .inr ⟨streams, s', accepted, ran⟩
  | nonFinite streams accepted inRange checked =>
    rw [unchecked] at checked
    cases checked

/-- **Only numbers that are not finite fault a sound session**, and only if they are checked. -/
lemma Sound.nonFinite_of_faulted (h : s.Sound) (order : s.InOrder) (live : s.state ≠ .faulted)
    {request : Request} (faulted : (s.perform request).2.state = .faulted) :
    s.options.checkNumerics = true ∧ ∃ inputs, request = .runStep inputs ∧ ∃ b ∈ s.buffers,
      (s.perform request).1 = .error (.nonFinite b.name) := by
  by_cases step : ∃ inputs, request = .runStep inputs
  · obtain ⟨inputs, rfl⟩ := step
    change (s.runStep inputs).2.state = .faulted at faulted
    rcases runStep_cases s inputs with ⟨fault, hr, -⟩ | ⟨streams, begins, -⟩
    · rw [hr] at faulted
      exact absurd faulted live
    · cases h.safeStep order begins.1 inputs with
      | refuse fault refused unchanged =>
        rw [unchanged] at faulted
        exact absurd faulted live
      | done streams accepted inRange values s' executed ran =>
        obtain ⟨-, -, -, -, -, -, -, same⟩ := runStep_eq_ok ran
        rw [ran, same] at faulted
        cases faulted
      | nonFinite streams accepted inRange checked b anchored s' faulted' failed =>
        refine ⟨checked, inputs, rfl, b, anchored, ?_⟩
        rw [Session.perform, failed]
        rfl
  · have outside := outsideStep_perform s (fun inputs he => step ⟨inputs, he⟩)
    exact absurd (outside.faulted.1 faulted) live

/-- **Compilation is sound.** Take a session that was built from a loaded graph, on a device of
the host, whose tensors and anchor buffers have payload sizes that fit, and whatever has been
asked of it since.

If it is ready for a step, a step with any inputs is refused for its inputs and leaves no trace,
or all micro-batches run in range, and the step fails at most for a number that is not finite,
where numbers are checked. No request faults the session in another way.

**Proof sketch.** A built session is sound, and stays so. So its device can run micro-batches
whenever the session is ready for a step, and its buffers are those of the anchors. -/
theorem runStep_sound {model : Bytes} {shapes : NameMap TensorInfo} {graph : Graph}
    {flow : DataFlow} {target : Target} {kind : Kind} {options : Options} {s₀ : Session HostDevice}
    (loaded : Exchange.loadGraph model shapes = .ok graph)
    (built : build HostDevice.backend graph flow target kind options = .ok s₀)
    (fits : ∀ name info, s₀.device.program.infos.find? name = some info → info.byteCount?.isSome)
    (buffers_fit : ∀ b ∈ s₀.buffers, b.layout.buffer.byteCount?.isSome) :
    (∀ requests inputs, (s₀.after requests).Usable → (s₀.after requests).weightSync = .synced →
      ((s₀.after requests).optimizer.isSome → (s₀.after requests).optimizerSync = .synced) →
      (s₀.after requests).SafeStep inputs) ∧
    ∀ requests request, (s₀.after requests).state ≠ .faulted →
      ((s₀.after requests).perform request).2.state = .faulted →
      options.checkNumerics = true ∧ ∃ inputs, request = .runStep inputs ∧
        ∃ b ∈ (s₀.after requests).buffers,
          ((s₀.after requests).perform request).1 = .error (.nonFinite b.name) := by
  have start := inOrder_build built buffers_fit
  have sound := sound_build loaded built fits
  have options_eq : s₀.options = options := by
    obtain ⟨device, registry, buffers, -, -, -, rfl⟩ := build_eq_ok built
    rfl
  constructor
  · intro requests inputs usable synced fresh
    have live : (s₀.after requests).state ≠ .faulted := by
      rcases usable with state | state <;> simp [state]
    exact (sound.after requests).safeStep (inOrder_after start requests live)
      (requireReady_eq_ok_iff.2 ⟨usable, synced, fresh⟩) inputs
  · intro requests request live faulted
    rw [← options_eq, ← (sameSetup_after s₀ requests).options]
    exact (sound.after requests).nonFinite_of_faulted (inOrder_after start requests live) live
      faulted

/-- Steps of the small session that trains, on weights and an optimizer that were handed over
before. -/
theorem runStep_sound_sample : ∃ s₀, sample sampleTraining ⟨none, true, false⟩ = some s₀ ∧
    ∀ inputs, (s₀.after [.prepare, .pushWeights, .pushOptimizer]).SafeStep inputs := by
  obtain ⟨s₀, found, tested⟩ := exists_of_sample sampleTraining ⟨none, true, false⟩
    (fun s =>
      let ready := s.after [.prepare, .pushWeights, .pushOptimizer]
      s.device.program.infos.entries.all (fun e => e.2.byteCount?.isSome) &&
        s.buffers.all (fun b => b.layout.buffer.byteCount?.isSome) &&
        decide (ready.state = .prepared) && decide (ready.weightSync = .synced) &&
        decide (ready.optimizerSync = .synced))
    (by decide +kernel)
  obtain ⟨graph, loaded, built⟩ := sample_eq_some found
  simp only [Bool.and_eq_true, List.all_eq_true, decide_eq_true_eq] at tested
  obtain ⟨⟨⟨⟨fits, buffers_fit⟩, prepared⟩, weights⟩, optimizer⟩ := tested
  have fits_all : ∀ name info, s₀.device.program.infos.find? name = some info →
      info.byteCount?.isSome := fun name info known =>
    fits (name, info) (NameMap.find?_eq_some_iff.1 known)
  exact ⟨s₀, found, fun inputs =>
    (runStep_sound loaded built fits_all buffers_fit).1 _ inputs (.inl prepared) weights
      fun _ => optimizer⟩

end Session

end Microbatch
