import Microbatch.Device.Host
import Microbatch.Exchange.Builder
import Microbatch.Proofs.Outcomes
import Microbatch.Session.Export
import Microbatch.Session.Step

set_option relaxedAutoImplicit false
set_option autoImplicit false

/-!
# Requests to a session

Everything that can be done with a session, apart from looking at it, is a request. A session
after some requests is what every statement about the life of a session speaks of; a fact holds
of all of them when it holds of the built session and every request keeps it.

## Main definitions

* `Microbatch.Session.Request`, `Microbatch.Session.Reply` — what is asked and what is answered.
* `Microbatch.Session.perform`, `Microbatch.Session.after` — one request, and several in order.
* `Microbatch.Session.executeAll` — several micro-batches on a device alone.
* `Microbatch.Session.SameSetup`, `Microbatch.Session.OutsideStep` — what requests leave alone.
* `Microbatch.Session.sample`, `Microbatch.Session.samplePair` — small sessions to try things on.

## Main results

* `Microbatch.Session.after_induction` — facts that requests keep.
* `Microbatch.Session.runMicroBatches_eq_ok`, `Microbatch.Session.runMicroBatches_eq_error` — the
  micro-batches of a step.
* `Microbatch.Session.runStep_cases` — a step is refused, or it begins.
* `Microbatch.Session.sameSetup_perform`, `Microbatch.Session.outsideStep_perform` — the frame
  of a request.
-/

namespace Microbatch.Session

/-! ### Requests and replies -/

/-- **What can be asked of a session.** -/
inductive Request where
  /-- Attach the device. -/
  | prepare
  /-- Hand the host's weights to the device. -/
  | pushWeights
  /-- Take the device's weights over. -/
  | pullWeights
  /-- Hand the host's optimizer to the device. -/
  | pushOptimizer
  /-- Replace the host's optimizer. -/
  | updateOptimizer (next : Optimizer)
  /-- Replace host weights by those of a serialized model. -/
  | resetWeights (model : Bytes)
  /-- Run one step. -/
  | runStep (inputs : StepInputs)
  /-- Make a model of the device's weights. -/
  | exportModel
  /-- Detach the device. -/
  | release

/-- **What a session answers.** -/
inductive Reply where
  /-- The request is met. -/
  | done
  /-- These are the host's weights now. -/
  | weights (store : WeightStore)
  /-- So many weights were replaced. -/
  | replaced (count : Nat)
  /-- This is the model. -/
  | model (bytes : Bytes)
  /-- The device is detached, and this is to be saved. -/
  | released (saved : Option Export)

variable {D : Type} [Device D]

/-- **Performs one request.** -/
def perform (s : Session D) : Request → Except Fault Reply × Session D
  | .prepare => (s.prepare.1.map fun _ => .done, s.prepare.2)
  | .pushWeights => (s.pushWeights.1.map fun _ => .done, s.pushWeights.2)
  | .pullWeights => (s.pullWeights.1.map fun _ => .weights s.pullWeights.2.weights, s.pullWeights.2)
  | .pushOptimizer => (s.pushOptimizer.1.map fun _ => .done, s.pushOptimizer.2)
  | .updateOptimizer next =>
    ((s.updateOptimizer next).1.map fun _ => .done, (s.updateOptimizer next).2)
  | .resetWeights model => ((s.resetWeights model).1.map .replaced, (s.resetWeights model).2)
  | .runStep inputs => ((s.runStep inputs).1.map fun _ => .done, (s.runStep inputs).2)
  | .exportModel => (s.exportModel.1.map .model, s.exportModel.2)
  | .release => (.ok (.released s.release.1), s.release.2)

/-- **The session after some requests**, met or refused. -/
def after (s : Session D) (requests : List Request) : Session D :=
  requests.foldl (fun s request => (s.perform request).2) s

lemma after_append (s : Session D) (before rest : List Request) :
    s.after (before ++ rest) = (s.after before).after rest :=
  List.foldl_append

/-- The last request of several. -/
lemma after_concat (s : Session D) (before : List Request) (request : Request) :
    s.after (before ++ [request]) = ((s.after before).perform request).2 := by
  rw [after_append]
  rfl

/-- **A fact that every request keeps** holds after all requests. -/
lemma after_induction {P : Session D → Prop} {s : Session D} (start : P s)
    (kept : ∀ s request, P s → P (s.perform request).2) (requests : List Request) :
    P (s.after requests) := by
  induction requests generalizing s with
  | nil => exact start
  | cons request rest ih => exact ih (kept s request start)

/-! ### Building -/

/-- What a built session starts from. -/
lemma build_eq_ok {backend : Backend D} {graph : Graph} {flow : DataFlow} {target : Target}
    {kind : Kind} {options : Options} {s : Session D}
    (h : build backend graph flow target kind options = .ok s) :
    ∃ device registry buffers, backend.compile graph kind target = .ok device ∧
      (Registry.ofAvailable (Device.signature device).outputs).registerAll flow.anchors =
        .ok registry ∧
      makeBuffers registry flow = .ok buffers ∧
      s = { device, graph, flow, registry, buffers, options, weights := graph.weights,
            optimizer := kind.optimizer?, weightSync := .stale, optimizerSync := .stale,
            state := .unbuilt, acquired := false, steps := 0 } := by
  unfold build at h
  obtain ⟨-, -, h⟩ := Outcome.bind_eq_ok_iff.1 h
  obtain ⟨device, hd, h⟩ := Outcome.bind_eq_ok_iff.1 h
  obtain ⟨registry, hr, h⟩ := Outcome.bind_eq_ok_iff.1 h
  obtain ⟨buffers, hb, h⟩ := Outcome.bind_eq_ok_iff.1 h
  exact ⟨device, registry, buffers, Outcome.mapError_eq_ok_iff.1 hd, hr,
    Outcome.mapError_eq_ok_iff.1 hb, (Except.ok.inj h).symm⟩

/-- A session has the graph, the data flow and the settings that it was built with. -/
lemma setup_build {backend : Backend D} {graph : Graph} {flow : DataFlow}
    {target : Target} {kind : Kind} {options : Options} {s : Session D}
    (built : build backend graph flow target kind options = .ok s) :
    s.graph = graph ∧ s.flow = flow ∧ s.options = options := by
  obtain ⟨device, registry, buffers, -, -, -, rfl⟩ := build_eq_ok built
  exact ⟨rfl, rfl, rfl⟩

/-! ### Micro-batches -/

omit [Device D] in
/-- One value for each anchor is taken buffer by buffer. -/
lemma takeValues_eq {s : Session D} {values : List Tensor}
    (count : values.length = s.registry.names.length) :
    s.takeValues values = Buffer.fillAll s.options.checkNumerics s.buffers values :=
  if_neg (not_not.2 count)

/-- **Runs micro-batches on a device alone** and keeps what it returns for each. -/
def executeAll (wanted : List String) (d : D) :
    List (List (String × Tensor)) → Except DeviceFault (List (List Tensor)) × D
  | [] => (.ok [], d)
  | inputs :: rest =>
    match Device.execute inputs wanted d with
    | (.error cause, d) => (.error cause, d)
    | (.ok values, d) =>
      ((executeAll wanted d rest).1.map (values :: ·), (executeAll wanted d rest).2)

/-- Micro-batches that all succeed begin with one that does. -/
lemma executeAll_cons_eq_ok {wanted : List String} {d e : D}
    {feed : List (String × Tensor)} {rest : List (List (String × Tensor))}
    {values : List (List Tensor)} (h : executeAll wanted d (feed :: rest) = (.ok values, e)) :
    ∃ first next others, Device.execute feed wanted d = (.ok first, next) ∧
      executeAll wanted next rest = (.ok others, e) ∧ values = first :: others := by
  unfold executeAll at h
  split at h
  · cases h
  rename_i first next here
  obtain ⟨made, left⟩ := Prod.mk.inj h
  obtain ⟨others, ran, rfl⟩ := Outcome.map_eq_ok_iff.1 made
  exact ⟨first, next, others, here, Prod.ext ran left, rfl⟩

/-- Micro-batches that all succeed return values for each. -/
lemma length_executeAll {wanted : List String} {d e : D}
    {feeds : List (List (String × Tensor))} {values : List (List Tensor)}
    (h : executeAll wanted d feeds = (.ok values, e)) : values.length = feeds.length := by
  induction feeds generalizing d values with
  | nil =>
    cases h
    rfl
  | cons feed rest ih =>
    obtain ⟨first, next, others, -, ran, rfl⟩ := executeAll_cons_eq_ok h
    rw [List.length_cons, List.length_cons, ih ran]

/-- A micro-batch that succeeds took one value for each anchor from the device into the buffers.
-/
lemma runMicroBatch_eq_ok {s s' : Session D} {inputs : List (String × Tensor)}
    (h : s.runMicroBatch inputs = (.ok (), s')) : ∃ values,
      Device.execute inputs s.registry.names s.device = (.ok values, s'.device) ∧
      values.length = s.registry.names.length ∧
      Buffer.fillAll s.options.checkNumerics s.buffers values = .ok s'.buffers ∧
      s' = { s with device := s'.device, buffers := s'.buffers } := by
  unfold runMicroBatch at h
  split at h
  · cases h
  rename_i values device he
  split at h
  · cases h
  rename_i buffers ht
  cases h
  unfold takeValues at ht
  split at ht
  · cases ht
  rename_i count
  exact ⟨values, he, Decidable.not_not.1 count, ht, rfl⟩

/-- A micro-batch that fails leaves all but the device as it was. Either the device failed, or
what it returned did not enter the buffers. -/
lemma runMicroBatch_eq_error {s s' : Session D} {inputs : List (String × Tensor)} {fault : Fault}
    (h : s.runMicroBatch inputs = (.error fault, s')) :
    s' = { s with device := s'.device } ∧
      ((∃ cause, Device.execute inputs s.registry.names s.device = (.error cause, s'.device) ∧
          fault = .device cause) ∨
        ∃ values, Device.execute inputs s.registry.names s.device = (.ok values, s'.device) ∧
          s.takeValues values = .error fault) := by
  unfold runMicroBatch at h
  split at h
  · rename_i cause device he
    cases h
    exact ⟨rfl, .inl ⟨cause, he, rfl⟩⟩
  rename_i values device he
  split at h
  · rename_i fault' ht
    cases h
    exact ⟨rfl, .inr ⟨values, he, ht⟩⟩
  · cases h

/-- **Micro-batches that all succeed**: the device ran all of them, and the buffers took its
values.

**Proof sketch.** Induction on the micro-batches, each of which hands device and buffers to the
next. -/
lemma runMicroBatches_eq_ok {s s' : Session D} {feeds : List (List (String × Tensor))}
    (h : s.runMicroBatches feeds = (.ok (), s')) : ∃ values,
      executeAll s.registry.names s.device feeds = (.ok values, s'.device) ∧
      values.length = feeds.length ∧ (∀ v ∈ values, v.length = s.registry.names.length) ∧
      values.foldlM (Buffer.fillAll s.options.checkNumerics) s.buffers = .ok s'.buffers ∧
      s' = { s with device := s'.device, buffers := s'.buffers } := by
  induction feeds generalizing s with
  | nil =>
    cases h
    exact ⟨[], rfl, rfl, by simp, rfl, rfl⟩
  | cons inputs rest ih =>
    unfold runMicroBatches at h
    split at h
    · cases h
    rename_i next hn
    obtain ⟨first, executed, length, filled, same⟩ := runMicroBatch_eq_ok hn
    obtain ⟨others, executed', count, lengths, filled', same'⟩ := ih h
    rw [same] at executed' lengths filled' same'
    refine ⟨first :: others, ?_, by simp [count], List.forall_mem_cons.2 ⟨length, lengths⟩, ?_,
      same'⟩
    · simp only [executeAll, executed, executed', Except.map]
    · rw [List.foldlM_cons, filled]
      exact filled'

/-- **Micro-batches of which one fails** leave a faulted session, which is otherwise as it was
but for the device and the buffers. All micro-batches before that one succeeded.

**Proof sketch.** Induction on the micro-batches. If the first one fails, nothing came before
it; else it is put in front of those that come before the failing one. -/
lemma runMicroBatches_eq_error {s s' : Session D} {feeds : List (List (String × Tensor))}
    {fault : Fault} (h : s.runMicroBatches feeds = (.error fault, s')) :
    s' = { s with device := s'.device, buffers := s'.buffers, state := .faulted } ∧
      ∃ before inputs rest values device, feeds = before ++ inputs :: rest ∧
        executeAll s.registry.names s.device before = (.ok values, device) ∧
        (∀ v ∈ values, v.length = s.registry.names.length) ∧
        values.foldlM (Buffer.fillAll s.options.checkNumerics) s.buffers = .ok s'.buffers ∧
        ((∃ cause, Device.execute inputs s.registry.names device = (.error cause, s'.device) ∧
            fault = .device cause) ∨
          ∃ returned, Device.execute inputs s.registry.names device = (.ok returned, s'.device) ∧
            { s with buffers := s'.buffers }.takeValues returned = .error fault) := by
  induction feeds generalizing s with
  | nil => cases h
  | cons first rest ih =>
    unfold runMicroBatches at h
    split at h
    · rename_i next hn
      obtain ⟨same, cause⟩ := runMicroBatch_eq_error hn
      cases h
      rw [same]
      exact ⟨rfl, [], first, rest, [], s.device, rfl, rfl, by simp, rfl, cause⟩
    · rename_i next hn
      obtain ⟨returned, executed, length, filled, same⟩ := runMicroBatch_eq_ok hn
      obtain ⟨rest_same, before, inputs, after, values, device, split, executed', lengths, filled',
        cause⟩ := ih h
      rw [same] at rest_same executed' lengths filled' cause
      refine ⟨rest_same, first :: before, inputs, after, returned :: values, device, ?_, ?_,
        List.forall_mem_cons.2 ⟨length, lengths⟩, ?_, cause⟩
      · rw [split, List.cons_append]
      · simp only [executeAll, executed, executed', Except.map]
      · rw [List.foldlM_cons, filled]
        exact filled'

/-! ### Steps -/

/-- The micro-batches of a step begin: the session is ready and the inputs are as expected. -/
def Begins (s : Session D) (inputs : StepInputs) (streams : List Stream) : Prop :=
  s.requireReady = .ok () ∧
    inputs.streams (Device.signature s.device).inputs s.flow.microBatches = .ok streams

/-- A faulted session begins no step. -/
lemma Begins.live {s : Session D} {inputs : StepInputs} {streams : List Stream}
    (h : s.Begins inputs streams) : s.state ≠ .faulted := by
  intro faulted
  have ready := h.1
  simp [requireReady, requireDevice, faulted] at ready

/-- **A step is refused, or its micro-batches begin.** -/
lemma runStep_cases (s : Session D) (inputs : StepInputs) :
    (∃ fault, s.runStep inputs = (.error fault, s) ∧ ∀ streams, ¬ s.Begins inputs streams) ∨
    ∃ streams, s.Begins inputs streams ∧
      ((∃ fault s', s.runStep inputs = (.error fault, s') ∧
          s.beginStep.runMicroBatches (Stream.feeds streams s.flow.microBatches) =
            (.error fault, s')) ∨
        ∃ s', s.runStep inputs = (.ok (), { s' with steps := s'.steps + 1 }) ∧
          s.beginStep.runMicroBatches (Stream.feeds streams s.flow.microBatches) =
            (.ok (), s')) := by
  unfold runStep Begins
  split
  · rename_i fault hr
    exact .inl ⟨fault, rfl, by simp [hr]⟩
  rename_i hr
  split
  · rename_i fault hs
    exact .inl ⟨fault, rfl, by simp [hs]⟩
  rename_i streams hs
  refine .inr ⟨streams, ⟨hr, hs⟩, ?_⟩
  split
  · rename_i fault s' hm
    exact .inl ⟨fault, s', rfl, hm⟩
  · rename_i s' hm
    exact .inr ⟨s', rfl, hm⟩

/-- A step that begins fails by its micro-batches. -/
lemma runMicroBatches_of_begins {s : Session D} {inputs : StepInputs} {streams : List Stream}
    (begins : s.Begins inputs streams) {fault : Fault} (h : (s.runStep inputs).1 = .error fault) :
    s.beginStep.runMicroBatches (Stream.feeds streams s.flow.microBatches) =
      (.error fault, (s.runStep inputs).2) := by
  rcases runStep_cases s inputs with ⟨fault', -, refused⟩ |
    ⟨streams', begins', ⟨fault', s', hr, hm⟩ | ⟨s', hr, -⟩⟩
  · exact absurd begins (refused streams)
  · obtain rfl : streams' = streams := Except.ok.inj (begins'.2.symm.trans begins.2)
    rw [hr] at h ⊢
    rw [hm, ← Except.error.inj h]
  · rw [hr] at h
    cases h

/-! ### What requests leave alone -/

/-- **Two sessions with the same setup**: graph, data flow, anchors and settings. -/
structure SameSetup (s s' : Session D) : Prop where
  /-- The graph. -/
  graph : s'.graph = s.graph
  /-- The data flow. -/
  flow : s'.flow = s.flow
  /-- The anchors. -/
  registry : s'.registry = s.registry
  /-- The settings. -/
  options : s'.options = s.options

/-- **What happens outside steps** leaves the setup, the buffers and the number of steps alone,
and neither faults a session nor mends it. -/
structure OutsideStep (s s' : Session D) : Prop extends SameSetup s s' where
  /-- The buffers. -/
  buffers : s'.buffers = s.buffers
  /-- The number of completed steps. -/
  steps : s'.steps = s.steps
  /-- Whether a step failed part-way. -/
  faulted : s'.state = .faulted ↔ s.state = .faulted

omit [Device D] in
lemma SameSetup.refl (s : Session D) : SameSetup s s := ⟨rfl, rfl, rfl, rfl⟩

omit [Device D] in
lemma SameSetup.trans {s s' s'' : Session D} (h : SameSetup s s') (h' : SameSetup s' s'') :
    SameSetup s s'' :=
  ⟨h'.graph.trans h.graph, h'.flow.trans h.flow, h'.registry.trans h.registry,
    h'.options.trans h.options⟩

omit [Device D] in
lemma OutsideStep.refl (s : Session D) : OutsideStep s s := ⟨.refl s, rfl, rfl, .rfl⟩

lemma outsideStep_prepare (s : Session D) : OutsideStep s s.prepare.2 := by
  unfold prepare
  split
  · exact .refl s
  rename_i detached
  split
  · exact ⟨⟨rfl, rfl, rfl, rfl⟩, rfl, rfl, .rfl⟩
  · refine ⟨⟨rfl, rfl, rfl, rfl⟩, rfl, rfl, ?_⟩
    unfold requireDetached at detached
    split at detached <;> simp_all

lemma outsideStep_pushWeights (s : Session D) : OutsideStep s s.pushWeights.2 := by
  unfold pushWeights
  split
  · exact .refl s
  split <;> exact ⟨⟨rfl, rfl, rfl, rfl⟩, rfl, rfl, .rfl⟩

lemma outsideStep_pullWeights (s : Session D) : OutsideStep s s.pullWeights.2 := by
  unfold pullWeights
  split
  · exact .refl s
  split
  · exact .refl s
  split <;> exact ⟨⟨rfl, rfl, rfl, rfl⟩, rfl, rfl, .rfl⟩

lemma outsideStep_pushOptimizer (s : Session D) : OutsideStep s s.pushOptimizer.2 := by
  unfold pushOptimizer
  split
  · exact .refl s
  split
  · exact .refl s
  split <;> exact ⟨⟨rfl, rfl, rfl, rfl⟩, rfl, rfl, .rfl⟩

omit [Device D] in
lemma outsideStep_updateOptimizer (next : Optimizer) (s : Session D) :
    OutsideStep s (s.updateOptimizer next).2 := by
  unfold updateOptimizer
  split
  · exact .refl s
  split
  · exact .refl s
  split
  · exact .refl s
  · exact ⟨⟨rfl, rfl, rfl, rfl⟩, rfl, rfl, .rfl⟩

omit [Device D] in
lemma outsideStep_resetWeights (model : Bytes) (s : Session D) :
    OutsideStep s (s.resetWeights model).2 := by
  unfold resetWeights
  split
  · exact .refl s
  split
  · exact .refl s
  split
  · exact .refl s
  · exact ⟨⟨rfl, rfl, rfl, rfl⟩, rfl, rfl, .rfl⟩

/-- A model is made from the session that has taken the device's weights over. -/
lemma exportModel_snd (s : Session D) : s.exportModel.2 = s.pullWeights.2 := by
  unfold exportModel
  split
  · rename_i h
    rw [h]
  · rename_i h
    split <;> rw [h]

lemma outsideStep_exportModel (s : Session D) : OutsideStep s s.exportModel.2 := by
  rw [exportModel_snd]
  exact outsideStep_pullWeights s

/-- What is to be saved on release changes at most what taking the weights over changes. -/
lemma releaseExport_snd (s : Session D) :
    s.releaseExport.2 = s ∨ s.releaseExport.2 = s.pullWeights.2 := by
  unfold releaseExport
  split
  · exact .inl rfl
  · refine .inr ?_
    split <;> rename_i h <;> rw [← exportModel_snd, h]

lemma outsideStep_release (s : Session D) : OutsideStep s s.release.2 := by
  unfold release
  split
  · exact .refl s
  split
  · exact ⟨⟨rfl, rfl, rfl, rfl⟩, rfl, rfl, .rfl⟩
  rename_i live
  have exported : OutsideStep s s.releaseExport.2 := by
    rcases releaseExport_snd s with h | h
    · rw [h]
      exact .refl s
    · rw [h]
      exact outsideStep_pullWeights s
  refine ⟨⟨exported.graph, exported.flow, exported.registry, exported.options⟩, exported.buffers,
    exported.steps, ?_⟩
  simp [detach, live]

/-- **The frame of a request other than a step.** -/
lemma outsideStep_perform (s : Session D) {request : Request}
    (other : ∀ inputs, request ≠ .runStep inputs) : OutsideStep s (s.perform request).2 := by
  cases request with
  | prepare => exact outsideStep_prepare s
  | pushWeights => exact outsideStep_pushWeights s
  | pullWeights => exact outsideStep_pullWeights s
  | pushOptimizer => exact outsideStep_pushOptimizer s
  | updateOptimizer next => exact outsideStep_updateOptimizer next s
  | resetWeights model => exact outsideStep_resetWeights model s
  | runStep inputs => exact absurd rfl (other inputs)
  | exportModel => exact outsideStep_exportModel s
  | release => exact outsideStep_release s

/-- A step leaves the setup alone. -/
lemma sameSetup_runStep (inputs : StepInputs) (s : Session D) :
    SameSetup s (s.runStep inputs).2 := by
  rcases runStep_cases s inputs with
    ⟨fault, hr, -⟩ | ⟨streams, -, ⟨fault, s', hr, hm⟩ | ⟨s', hr, hm⟩⟩
  · rw [hr]
    exact .refl s
  · rw [hr, (runMicroBatches_eq_error hm).1]
    exact ⟨rfl, rfl, rfl, rfl⟩
  · obtain ⟨-, -, -, -, -, same⟩ := runMicroBatches_eq_ok hm
    rw [hr, same]
    exact ⟨rfl, rfl, rfl, rfl⟩

/-- **No request changes the setup of a session.** -/
lemma sameSetup_perform (s : Session D) (request : Request) :
    SameSetup s (s.perform request).2 := by
  cases request with
  | runStep inputs => exact sameSetup_runStep inputs s
  | _ => exact (outsideStep_perform s (by simp)).toSameSetup

/-- After any requests, the setup is that of the first session. -/
lemma sameSetup_after (s : Session D) (requests : List Request) :
    SameSetup s (s.after requests) :=
  after_induction (P := SameSetup s) (.refl s)
    (fun s' request same => same.trans (sameSetup_perform s' request)) requests

/-! ### Small sessions -/

open Exchange in
/-- A model with one product of an input and a weight. -/
def sampleModel : Bytes :=
  ((Builder.named "sample").performAll
    [.input "x" (.float32 [2, 1]), .weight "w" (.ofSingles ⟨[1, 1]⟩ [Single.zero]),
      .matmul "x" "w", .output "MatMul:0"]).2.encode

/-- A step of two micro-batches, with one anchor of every policy. -/
def sampleFlow : DataFlow :=
  ⟨2, [⟨"x", .last⟩, ⟨"w", .all⟩, ⟨"MatMul:0", .sum⟩], by decide⟩

/-- The inputs of one step, all of one number. -/
def sampleInputs (x : Single) : StepInputs :=
  .ofList [("x", .ofSingles ⟨[4, 1]⟩ (List.replicate 4 x))]

/-- Training on the product. -/
def sampleTraining : Kind :=
  .training [⟨"MatMul:0", "loss", Single.zero, .sum⟩] ⟨.replaceable, Single.zero, Single.zero⟩

/-- **A small session** on the host. -/
def sample (kind : Kind) (options : Options) : Option (Session HostDevice) :=
  (Exchange.loadGraph sampleModel .empty).toOption.bind fun graph =>
    (build HostDevice.backend graph sampleFlow .cpu kind options).toOption

/-- The small session is built from a loaded graph. -/
lemma sample_eq_some {kind : Kind} {options : Options} {s : Session HostDevice}
    (h : sample kind options = some s) : ∃ graph,
      Exchange.loadGraph sampleModel .empty = .ok graph ∧
      build HostDevice.backend graph sampleFlow .cpu kind options = .ok s := by
  obtain ⟨graph, hg, hs⟩ := Option.bind_eq_some_iff.1 h
  exact ⟨graph, Outcome.toOption_eq_some_iff.1 hg, Outcome.toOption_eq_some_iff.1 hs⟩

/-- What is seen of the small session without looking at it is seen of a session. -/
lemma exists_of_sample (kind : Kind) (options : Options) (test : Session HostDevice → Bool)
    (h : (sample kind options).any test = true) :
    ∃ s, sample kind options = some s ∧ test s = true := by
  cases hs : sample kind options with
  | none => simp [hs] at h
  | some s => exact ⟨s, rfl, by simpa [hs] using h⟩

/-- **Two small sessions** on the host, with a data flow each. -/
def samplePair (flow flow' : DataFlow) (kind : Kind) (options : Options) :
    Option (Session HostDevice × Session HostDevice) :=
  (Exchange.loadGraph sampleModel .empty).toOption.bind fun graph =>
    (build HostDevice.backend graph flow .cpu kind options).toOption.bind fun s =>
      (build HostDevice.backend graph flow' .cpu kind options).toOption.map fun t => (s, t)

/-- What is seen of the two small sessions without looking at them is seen of two sessions that are
built from one loaded graph. -/
lemma exists_of_samplePair (flow flow' : DataFlow) (kind : Kind) (options : Options)
    (test : Session HostDevice → Session HostDevice → Bool)
    (h : (samplePair flow flow' kind options).any (fun p => test p.1 p.2) = true) :
    ∃ graph s t, samplePair flow flow' kind options = some (s, t) ∧
      Exchange.loadGraph sampleModel .empty = .ok graph ∧
      build HostDevice.backend graph flow .cpu kind options = .ok s ∧
      build HostDevice.backend graph flow' .cpu kind options = .ok t ∧ test s t = true := by
  obtain ⟨⟨s, t⟩, found, tested⟩ := (Option.any_eq_true _ _).1 h
  obtain ⟨graph, loaded, rest⟩ := Option.bind_eq_some_iff.1 found
  obtain ⟨_, built, rest⟩ := Option.bind_eq_some_iff.1 rest
  obtain ⟨_, built', pair⟩ := Option.map_eq_some_iff.1 rest
  cases pair
  exact ⟨graph, s, t, found, Outcome.toOption_eq_some_iff.1 loaded,
    Outcome.toOption_eq_some_iff.1 built, Outcome.toOption_eq_some_iff.1 built', tested⟩

end Microbatch.Session
