import Microbatch.Proofs.HostDevice

set_option relaxedAutoImplicit false
set_option autoImplicit false

/-!
# Sessions on the host

A session keeps marks of what its device has: whether it is attached, and whether its weights
and its optimizer are those of the host. The marks are not touched when the device is released,
so what they say holds only while the session can use its device. This is an invariant of all
requests, and it says of every request what it does: it is refused and changes nothing, or it is
met and changes what it should.

## Main definitions

* `Microbatch.Session.Usable` — the session can use its device.
* `Microbatch.Session.Consistent` — the marks say the truth about the device.
* `Microbatch.Session.Transition` — what a request makes of a session on the host.
* `Microbatch.Fault.isLack` — the session has used a device that lacks something.

## Main results

* `Microbatch.Session.transition_perform` — every request is such a transition.
* `Microbatch.Session.Transition.consistent` — it keeps the marks true.
* `Microbatch.Session.consistent_after` — the marks say the truth after any requests.
* `Microbatch.Session.perform_eq_error` — a request that fails leaves no trace.
-/

namespace Microbatch

/-! ### Weights that replace others -/

/-- What a source offers is accepted exactly if it fits what it would replace. -/
lemma WeightStore.checkReplacements_eq_ok_iff {store source : WeightStore} :
    store.checkReplacements source = .ok () ↔ ∀ name current t, store.find? name = some current →
      source.find? name = some t → t.Fits current.info := by
  rw [checkReplacements, Outcome.forM_eq_ok_iff]
  constructor
  · intro checked name current t hc ht
    have accepted := checked _ (NameMap.find?_eq_some_iff.1 ht)
    simp only [hc] at accepted
    exact TensorInfo.validate_eq_ok_iff.1 accepted
  · rintro fits ⟨name, t⟩ member
    have ht := NameMap.find?_eq_some_iff.2 member
    dsimp only
    split
    · rename_i current hc
      exact TensorInfo.validate_eq_ok_iff.2 (fits name current t hc ht)
    · rfl

/-- **Replacements keep descriptions and sizes**: what comes from the source fits the weight
that it replaces. -/
lemma WeightStore.resetFrom_eq_ok {store source weights : WeightStore} {count : Nat}
    (h : store.resetFrom source = .ok (count, weights)) :
    weights = store.replaceFrom source ∧ ∀ name current t, store.find? name = some current →
      source.find? name = some t → t.Fits current.info := by
  unfold resetFrom at h
  split at h
  · cases h
  rename_i checked
  split at h
  · cases h
  · cases h
    exact ⟨rfl, checkReplacements_eq_ok_iff.1 checked⟩

/-- Replaced weights have the descriptions of those before. -/
lemma WeightStore.mapValues_info_resetFrom {store source weights : WeightStore} {count : Nat}
    (h : store.resetFrom source = .ok (count, weights)) :
    (weights.mapValues fun _ t => t.info) = store.mapValues fun _ t => t.info := by
  obtain ⟨rfl, fits⟩ := resetFrom_eq_ok h
  rw [replaceFrom, NameMap.mapValues_mapValues]
  refine NameMap.mapValues_congr fun name current hc => ?_
  cases ht : source.find? name with
  | none => rfl
  | some t => exact (fits name current t hc ht).1

/-- **The session has used a device that lacks something**: the device says so, on its own
account or as the reason why it is not available. -/
def Fault.isLack : Fault → Bool
  | device cause => cause.isLack
  | deviceUnavailable _ cause => cause.isLack
  | _ => false

namespace Session

/-! ### The invariant -/

/-- **The session can use its device.** -/
def Usable {D : Type} (s : Session D) : Prop := s.state = .prepared ∨ s.state = .running

/-- The device is asked for exactly when the session can use it. -/
lemma requireDevice_eq_ok_iff {D : Type} {s : Session D} : s.requireDevice = .ok () ↔ s.Usable := by
  unfold requireDevice Usable
  cases s.state <;> simp

/-- A refusal to use the device is no lack of the device. -/
lemma isLack_requireDevice {D : Type} {s : Session D} {fault : Fault}
    (h : s.requireDevice = .error fault) : fault.isLack = false := by
  unfold requireDevice at h
  split at h <;> cases h <;> rfl

/-- **The marks of a session say the truth about its device.** -/
structure Consistent (s : Session HostDevice) : Prop where
  /-- The device is attached when it is marked so. -/
  attached : s.device.attached = s.acquired
  /-- A session that can use its device has it. -/
  usable : s.Usable → s.acquired = true
  /-- A session that was never prepared, or is stopped, has no device. -/
  idle : s.state = .unbuilt ∨ s.state = .stopped → s.acquired = false
  /-- The device trains when there is an optimizer. -/
  training : s.device.training = s.optimizer.isSome
  /-- Any weights can be put into the model. -/
  mergeable : ∀ weights, ∃ merged, Exchange.mergeWeights s.graph.model weights = .ok merged
  /-- The host has the weights that the program expects. -/
  expected : (s.weights.mapValues fun _ t => t.info) = s.device.program.weights
  /-- What the device holds are such weights, too. -/
  held : ∀ weights, s.device.weights = some weights →
    HostDevice.described weights = s.device.program.weights
  /-- Current weights are there, and without training they are the host's. -/
  weights : s.Usable → s.weightSync = .synced → ∃ weights, s.device.weights = some weights ∧
    (s.optimizer = none → HostDevice.tensors weights = s.weights)
  /-- A current optimizer is the host's. -/
  optimizer : s.Usable → s.optimizerSync = .synced → ∃ optimizer, s.optimizer = some optimizer ∧
    s.device.optimizer = some optimizer

/-- What a built session starts from is consistent. -/
lemma consistent_build {graph : Graph} {flow : DataFlow} {target : Target} {kind : Kind}
    {options : Options} {s : Session HostDevice}
    (h : build HostDevice.backend graph flow target kind options = .ok s) : s.Consistent := by
  obtain ⟨device, registry, buffers, compiled, -, -, rfl⟩ := build_eq_ok h
  obtain ⟨program, hp, rfl⟩ := HostDevice.compile_eq_ok compiled
  obtain ⟨message, graphMessage, -, decoded, found, -, -, -, -, expected, -⟩ :=
    Program.compile_eq_ok hp
  refine ⟨rfl, ?_, fun _ => rfl, ?_, Exchange.mergeWeights_of_decode decoded found,
    expected.symm, ?_, ?_, ?_⟩
  · rintro (impossible | impossible) <;> cases impossible
  · cases kind <;> rfl
  · intro weights impossible
    cases impossible
  · intro _ impossible
    cases impossible
  · intro _ impossible
    cases impossible

variable {s : Session HostDevice}

/-! ### What every request does -/

/-- **Attaching the device** is refused without a trace, or nothing is current afterwards. -/
lemma prepare_cases (h : s.Consistent) :
    (∃ fault, s.prepare = (.error fault, s) ∧ fault.isLack = false) ∨
      s.prepare = (.ok (), { s with device := { s.device with attached := true }, acquired := true,
                                    state := .prepared, weightSync := .stale,
                                    optimizerSync := .stale }) := by
  unfold prepare
  split
  · rename_i fault refused
    refine .inl ⟨fault, rfl, ?_⟩
    unfold requireDetached at refused
    split at refused <;> cases refused <;> rfl
  rename_i detached
  have idle : s.state = .unbuilt ∨ s.state = .stopped := by
    unfold requireDetached at detached
    split at detached <;> simp_all
  have loose : s.device.attached = false := h.attached.trans (h.idle idle)
  -- a device that is not attached is released without a trace
  have released : Device.release s.device = s.device := by
    show s.device.release = s.device
    rw [HostDevice.release, loose]
    rfl
  have acquired : (∃ cause, Device.acquire s.device = (.error cause, s.device) ∧
      cause.isLack = false) ∨
        Device.acquire s.device = (.ok (), { s.device with attached := true }) := by
    show (∃ cause, s.device.acquire = (.error cause, s.device) ∧ cause.isLack = false) ∨
      s.device.acquire = (.ok (), { s.device with attached := true })
    unfold HostDevice.acquire
    split
    · exact .inr rfl
    · split
      · exact .inr rfl
      · exact .inl ⟨_, rfl, rfl⟩
    · exact .inl ⟨_, rfl, rfl⟩
  rcases acquired with ⟨cause, ha, supplied⟩ | ha
  · rw [ha]
    refine .inl ⟨.deviceUnavailable (Device.target (Device.release s.device)) cause, ?_, supplied⟩
    simp only [released]
  · rw [ha]
    exact .inr rfl

/-- **Handing weights over** is refused without a trace, or the device holds them. -/
lemma pushWeights_cases (h : s.Consistent) :
    (∃ fault, s.pushWeights = (.error fault, s) ∧ fault.isLack = false) ∨
      (s.Usable ∧ ∃ weights, HostDevice.described weights = s.device.program.weights ∧
        HostDevice.tensors weights = s.weights ∧
        s.pushWeights = (.ok (), { s with device := { s.device with weights := some weights },
                                          weightSync := .synced })) := by
  unfold pushWeights
  split
  · rename_i fault refused
    exact .inl ⟨fault, rfl, isLack_requireDevice refused⟩
  rename_i usable
  have usable := requireDevice_eq_ok_iff.1 usable
  have attached := h.attached.trans (h.usable usable)
  have written : Device.writeWeights s.weights s.device = s.device.writeWeights s.weights := rfl
  rw [written, HostDevice.writeWeights, if_pos attached]
  cases hp : HostDevice.parameters s.device.program.weights s.weights with
  | error cause => exact .inl ⟨.device cause, rfl, HostDevice.supplied_parameters _ _ cause hp⟩
  | ok weights =>
    exact .inr ⟨usable, weights, HostDevice.described_parameters hp,
      HostDevice.tensors_parameters hp h.expected, rfl⟩

/-- **Taking weights over** is refused without a trace, or the host has those of the device. -/
lemma pullWeights_cases (h : s.Consistent) :
    (∃ fault, s.pullWeights = (.error fault, s) ∧ fault.isLack = false) ∨
      (s.Usable ∧ s.weightSync = .synced ∧ ∃ weights, s.device.weights = some weights ∧
        s.pullWeights = (.ok (), { s with weights := HostDevice.tensors weights })) := by
  unfold pullWeights
  split
  · rename_i fault refused
    exact .inl ⟨fault, rfl, isLack_requireDevice refused⟩
  rename_i usable
  have usable := requireDevice_eq_ok_iff.1 usable
  split
  · exact .inl ⟨.weightsStale, rfl, rfl⟩
  rename_i fresh
  have synced : s.weightSync = .synced := by
    cases hs : s.weightSync with
    | synced => rfl
    | stale => exact absurd hs fresh
  obtain ⟨weights, hw, -⟩ := h.weights usable synced
  have read : Device.readWeights s.device = (.ok (HostDevice.tensors weights), s.device) := by
    show s.device.readWeights = _
    rw [HostDevice.readWeights, hw]
    rfl
  have names : s.weights.names = (HostDevice.tensors weights).names := by
    refine NameMap.names_eq_of_mapValues (f := fun _ t => t.info) (g := fun _ t => t.info) ?_
    rw [h.expected, HostDevice.mapValues_info_tensors, h.held weights hw]
  refine .inr ⟨usable, synced, weights, hw, ?_⟩
  rw [read]
  simp only [NameMap.insertAll_eq_of_names names]

/-- **Handing the optimizer over** is refused without a trace, or the device has it. -/
lemma pushOptimizer_cases (h : s.Consistent) :
    (∃ fault, s.pushOptimizer = (.error fault, s) ∧ fault.isLack = false) ∨
      (s.Usable ∧ ∃ optimizer, s.optimizer = some optimizer ∧
        s.pushOptimizer = (.ok (), { s with device := { s.device with optimizer := some optimizer },
                                            optimizerSync := .synced })) := by
  unfold pushOptimizer
  split
  · rename_i fault refused
    exact .inl ⟨fault, rfl, isLack_requireDevice refused⟩
  rename_i usable
  have usable := requireDevice_eq_ok_iff.1 usable
  have attached := h.attached.trans (h.usable usable)
  unfold requireOptimizer
  cases ho : s.optimizer with
  | none => exact .inl ⟨_, rfl, rfl⟩
  | some optimizer =>
    have written : Device.writeOptimizer optimizer s.device =
        (.ok (), { s.device with optimizer := some optimizer }) := by
      show s.device.writeOptimizer optimizer = _
      rw [HostDevice.writeOptimizer, if_pos attached]
    refine .inr ⟨usable, optimizer, rfl, ?_⟩
    simp only [written]

/-- **Replacing the optimizer** is refused without a trace, or the host has another one. -/
lemma updateOptimizer_cases (next : Optimizer) (s : Session HostDevice) :
    (∃ fault, s.updateOptimizer next = (.error fault, s) ∧ fault.isLack = false) ∨
      (s.optimizer.isSome ∧ s.updateOptimizer next =
        (.ok (), { s with optimizer := some next, optimizerSync := .stale })) := by
  unfold updateOptimizer
  split
  · rename_i fault refused
    refine .inl ⟨fault, rfl, ?_⟩
    unfold requireLive at refused
    split at refused <;> cases refused
    rfl
  unfold requireOptimizer
  cases ho : s.optimizer with
  | none => exact .inl ⟨_, rfl, rfl⟩
  | some current =>
    simp only
    split
    · exact .inl ⟨_, rfl, rfl⟩
    · exact .inr ⟨rfl, rfl⟩

/-- **Replacing weights** is refused without a trace, or the host has others of the same
descriptions. -/
lemma resetWeights_cases (model : Bytes) (s : Session HostDevice) :
    (∃ fault, s.resetWeights model = (.error fault, s) ∧ fault.isLack = false) ∨
      ∃ count source weights, s.weights.resetFrom source = .ok (count, weights) ∧
        s.resetWeights model =
          (.ok count, { s with weights := weights, weightSync := .stale }) := by
  unfold resetWeights
  split
  · rename_i fault refused
    refine .inl ⟨fault, rfl, ?_⟩
    unfold requireLive at refused
    split at refused <;> cases refused
    rfl
  split
  · exact .inl ⟨_, rfl, rfl⟩
  rename_i source _
  split
  · rename_i fault refused
    refine .inl ⟨fault, rfl, ?_⟩
    unfold WeightStore.resetFrom at refused
    split at refused
    · cases refused
      rfl
    split at refused <;> cases refused
    rfl
  · rename_i count weights taken
    exact .inr ⟨count, source, weights, taken, rfl⟩

/-- **Releasing the device**: there is none, or the session was faulted and stays so, or it may
take the weights over and is stopped. -/
lemma release_cases (s : Session HostDevice) :
    (s.acquired = false ∧ s.release = (none, s)) ∨
      (s.acquired = true ∧ s.state = .faulted ∧ s.release = (none, s.detach)) ∨
      (s.acquired = true ∧ s.state ≠ .faulted ∧ ∃ exported,
        (exported = s ∨ exported = s.pullWeights.2) ∧
        s.release.2 = { exported with state := .stopped }.detach) := by
  unfold release
  split
  · rename_i loose
    exact .inl ⟨loose, rfl⟩
  rename_i attached
  have attached : s.acquired = true := by simpa using attached
  split
  · rename_i faulted
    exact .inr (.inl ⟨attached, faulted, rfl⟩)
  · rename_i live
    exact .inr (.inr ⟨attached, live, s.releaseExport.2, releaseExport_snd s, rfl⟩)

/-! ### Steps -/

/-- A step begins when the device can be used, and weights and optimizer are current. -/
lemma requireReady_eq_ok_iff {D : Type} {s : Session D} : s.requireReady = .ok () ↔
    s.Usable ∧ s.weightSync = .synced ∧ (s.optimizer.isSome → s.optimizerSync = .synced) := by
  unfold requireReady
  rw [← requireDevice_eq_ok_iff]
  cases s.requireDevice with
  | error fault => simp
  | ok done =>
    cases s.weightSync <;> cases s.optimizerSync <;> cases s.optimizer <;> simp

/-- A session that is not ready is no lack of the device. -/
lemma isLack_requireReady {D : Type} {s : Session D} {fault : Fault}
    (h : s.requireReady = .error fault) : fault.isLack = false := by
  unfold requireReady at h
  split at h
  · rename_i fault' hd
    cases h
    exact isLack_requireDevice hd
  split at h
  · cases h
    rfl
  split at h <;> cases h
  rfl

/-- Inputs that are refused are no lack of the device. -/
lemma isLack_streams {inputs : StepInputs} {expected : NameMap TensorInfo} {microBatches : Nat}
    {fault : Fault} (h : inputs.streams expected microBatches = .error fault) :
    fault.isLack = false := by
  unfold StepInputs.streams at h
  split at h
  · cases h
    rfl
  obtain ⟨e, -, he⟩ := Outcome.exists_of_mapM_eq_error h
  unfold StepInputs.stream at he
  split at he
  · cases he
    rfl
  have unlaid := Outcome.map_eq_error_iff.1 he
  unfold StepInputs.checkLayout at unlaid
  split at unlaid
  · cases unlaid
    rfl
  simp only at unlaid
  split at unlaid
  · obtain ⟨cause, -, rfl⟩ := Outcome.mapError_eq_error_iff.1 unlaid
    rfl
  · cases unlaid
    rfl

/-- Values that do not enter the buffers are no lack of the device. -/
lemma isLack_takeValues {D : Type} {s : Session D} {values : List Tensor} {fault : Fault}
    (h : s.takeValues values = .error fault) : fault.isLack = false := by
  unfold takeValues at h
  split at h
  · cases h
    rfl
  obtain ⟨p, -, hp⟩ := Outcome.exists_of_mapM_eq_error h
  unfold Buffer.fill at hp
  split at hp
  · cases hp
    rfl
  split at hp <;> cases hp
  rfl

/-- A step that begins finds the device with all that it needs, and so does every micro-batch of
it. -/
lemma Consistent.equipped (h : s.Consistent) {inputs : StepInputs} {streams : List Stream}
    (begins : s.Begins inputs streams) {d : HostDevice} (ran : HostDevice.Ran s.device d) :
    d.attached = true ∧ d.weights.isSome ∧ (d.training = true → d.optimizer.isSome) := by
  obtain ⟨usable, synced, fresh⟩ := requireReady_eq_ok_iff.1 begins.1
  obtain ⟨weights, hw, -⟩ := h.weights usable synced
  obtain ⟨weights', hw', -⟩ := ran.moved weights hw
  rw [ran.same, hw']
  refine ⟨h.attached.trans (h.usable usable), rfl, fun training => ?_⟩
  obtain ⟨optimizer, -, ho⟩ := h.optimizer usable (fresh (h.training.symm.trans training))
  exact Option.isSome_iff_exists.2 ⟨optimizer, ho⟩

/-- **A step** is refused without a trace, or micro-batches run on the device; if one of them
fails, the session is faulted. -/
lemma runStep_host_cases (h : s.Consistent) (inputs : StepInputs) :
    (∃ fault, s.runStep inputs = (.error fault, s) ∧ fault.isLack = false ∧
      ∀ streams, ¬ s.Begins inputs streams) ∨
    ∃ streams, s.Begins inputs streams ∧ ∃ d buffers, HostDevice.Ran s.device d ∧
      ((∃ fault, s.runStep inputs =
          (.error fault, { s with device := d, buffers := buffers, state := .faulted }) ∧
          fault.isLack = false) ∨
        s.runStep inputs = (.ok (), { s with device := d, buffers := buffers, state := .running,
                                             steps := s.steps + 1 })) := by
  rcases runStep_cases s inputs with ⟨fault, hr, refused⟩ |
    ⟨streams, begins, ⟨fault, s', hr, hm⟩ | ⟨s', hr, hm⟩⟩
  · refine .inl ⟨fault, hr, ?_, refused⟩
    unfold runStep at hr
    split at hr
    · rename_i fault' hq
      cases hr
      exact isLack_requireReady hq
    split at hr
    · rename_i fault' hs
      cases hr
      exact isLack_streams hs
    · rename_i ready _ streams hs
      exact absurd ⟨ready, hs⟩ (refused streams)
  · obtain ⟨same, before, feed, rest, values, d, -, executed, -, -, failed⟩ :=
      runMicroBatches_eq_error hm
    have ran : HostDevice.Ran s.device d := by
      have := HostDevice.ran_executeAll s.registry.names s.device before
      rwa [show executeAll s.registry.names s.device before = (.ok values, d) from executed] at this
    have last : HostDevice.Ran d (HostDevice.execute feed s.registry.names d).2 :=
      HostDevice.ran_execute feed s.registry.names d
    refine .inr ⟨streams, begins, s'.device, s'.buffers, ?_, .inl ⟨fault, hr.trans ?_, ?_⟩⟩
    · rcases failed with ⟨cause, he, -⟩ | ⟨returned, he, -⟩
      · rw [show HostDevice.execute feed s.registry.names d =
          (.error cause, s'.device) from he] at last
        exact ran.trans last
      · rw [show HostDevice.execute feed s.registry.names d =
          (.ok returned, s'.device) from he] at last
        exact ran.trans last
    · rw [same]
      rfl
    · rcases failed with ⟨cause, he, rfl⟩ | ⟨returned, -, ht⟩
      · obtain ⟨attached, weights, optimizer⟩ := h.equipped begins ran
        exact HostDevice.isLack_execute attached weights optimizer he
      · exact isLack_takeValues ht
  · obtain ⟨values, executed, -, -, -, same⟩ := runMicroBatches_eq_ok hm
    have ran := HostDevice.ran_executeAll s.registry.names s.device
      (Stream.feeds streams s.flow.microBatches)
    rw [show executeAll s.registry.names s.device _ = (.ok values, s'.device) from executed] at ran
    refine .inr ⟨streams, begins, s'.device, s'.buffers, ran, .inr (hr.trans ?_)⟩
    rw [same]
    rfl

/-! ### Transitions -/

/-- **What a request makes of a session on the host**, and what the answer is. A request that is
refused changes nothing; only a step may fail after it has begun. -/
inductive Transition (s : Session HostDevice) :
    Request → Except Fault Reply → Session HostDevice → Prop where
  /-- A request is refused. -/
  | refuse (request : Request) (fault : Fault) (supplied : fault.isLack = false)
      (unbegun : ∀ inputs streams, request = .runStep inputs → ¬ s.Begins inputs streams) :
      Transition s request (.error fault) s
  /-- The device is attached; nothing on it is current. -/
  | prepare : Transition s .prepare (.ok .done)
      { s with device := { s.device with attached := true }, acquired := true, state := .prepared,
               weightSync := .stale, optimizerSync := .stale }
  /-- The device takes the host's weights. -/
  | pushWeights (usable : s.Usable) (weights : NameMap Parameter)
      (described : HostDevice.described weights = s.device.program.weights)
      (same : HostDevice.tensors weights = s.weights) :
      Transition s .pushWeights (.ok .done)
        { s with device := { s.device with weights := some weights }, weightSync := .synced }
  /-- The host takes the device's weights over. -/
  | pullWeights (usable : s.Usable) (synced : s.weightSync = .synced) (weights : NameMap Parameter)
      (held : s.device.weights = some weights) :
      Transition s .pullWeights (.ok (.weights (HostDevice.tensors weights)))
        { s with weights := HostDevice.tensors weights }
  /-- The device takes the host's optimizer. -/
  | pushOptimizer (usable : s.Usable) (optimizer : Optimizer)
      (trains : s.optimizer = some optimizer) :
      Transition s .pushOptimizer (.ok .done)
        { s with device := { s.device with optimizer := some optimizer }, optimizerSync := .synced }
  /-- The host has another optimizer. -/
  | updateOptimizer (next : Optimizer) (trains : s.optimizer.isSome) :
      Transition s (.updateOptimizer next) (.ok .done)
        { s with optimizer := some next, optimizerSync := .stale }
  /-- The host has other weights. -/
  | resetWeights (model : Bytes) (count : Nat) (source weights : WeightStore)
      (taken : s.weights.resetFrom source = .ok (count, weights)) :
      Transition s (.resetWeights model) (.ok (.replaced count))
        { s with weights := weights, weightSync := .stale }
  /-- A step begins, and all its micro-batches run. -/
  | step (inputs : StepInputs) (streams : List Stream) (begins : s.Begins inputs streams)
      (d : HostDevice) (buffers : List Buffer) (ran : HostDevice.Ran s.device d) :
      Transition s (.runStep inputs) (.ok .done)
        { s with device := d, buffers := buffers, state := .running, steps := s.steps + 1 }
  /-- A step begins, and one of its micro-batches fails. -/
  | fail (inputs : StepInputs) (streams : List Stream) (begins : s.Begins inputs streams)
      (d : HostDevice) (buffers : List Buffer) (ran : HostDevice.Ran s.device d) (fault : Fault)
      (supplied : fault.isLack = false) :
      Transition s (.runStep inputs) (.error fault)
        { s with device := d, buffers := buffers, state := .faulted }
  /-- A model is made of the device's weights, which the host takes over. -/
  | exportModel (usable : s.Usable) (synced : s.weightSync = .synced) (weights : NameMap Parameter)
      (held : s.device.weights = some weights) (model : Bytes) :
      Transition s .exportModel (.ok (.model model))
        { s with weights := HostDevice.tensors weights }
  /-- There is no device to release. -/
  | releaseNone (loose : s.acquired = false) : Transition s .release (.ok (.released none)) s
  /-- A faulted session releases its device and stays faulted. -/
  | releaseFaulted (faulted : s.state = .faulted) :
      Transition s .release (.ok (.released none)) { s with state := .faulted }.detach
  /-- A session releases its device and is stopped; it may have taken the weights over. -/
  | release (saved : Option Export) (weights : WeightStore)
      (origin : weights = s.weights ∨
        ∃ held, s.device.weights = some held ∧ weights = HostDevice.tensors held) :
      Transition s .release (.ok (.released saved))
        { s with weights := weights, state := .stopped }.detach

/-- A model is made of the device's weights, or the request for it is refused. -/
lemma exportModel_cases (h : s.Consistent) :
    (∃ fault, s.exportModel = (.error fault, s) ∧ fault.isLack = false) ∨
      (s.Usable ∧ s.weightSync = .synced ∧ ∃ weights model, s.device.weights = some weights ∧
        s.exportModel = (.ok model, { s with weights := HostDevice.tensors weights })) := by
  unfold exportModel
  rcases pullWeights_cases h with ⟨fault, hr, supplied⟩ | ⟨usable, synced, weights, hw, hr⟩
  · rw [hr]
    exact .inl ⟨fault, rfl, supplied⟩
  · obtain ⟨merged, hm⟩ := h.mergeable (HostDevice.tensors weights)
    rw [hr]
    simp only [hm]
    exact .inr ⟨usable, synced, weights, merged.model, hw, rfl⟩

/-- **Every request is such a transition.** -/
lemma transition_perform (h : s.Consistent) (request : Request) :
    Transition s request (s.perform request).1 (s.perform request).2 := by
  have refuse : ∀ {request : Request} {fault : Fault}, (∀ inputs, request ≠ .runStep inputs) →
      fault.isLack = false → Transition s request (.error fault) s :=
    fun other supplied => .refuse _ _ supplied fun inputs _ he => absurd he (other inputs)
  cases request with
  | prepare =>
    rcases prepare_cases h with ⟨fault, hr, supplied⟩ | hr <;> simp only [perform, hr]
    · exact refuse (by simp) supplied
    · exact .prepare
  | pushWeights =>
    rcases pushWeights_cases h with
      ⟨fault, hr, supplied⟩ | ⟨usable, weights, described, same, hr⟩ <;> simp only [perform, hr]
    · exact refuse (by simp) supplied
    · exact .pushWeights usable weights described same
  | pullWeights =>
    rcases pullWeights_cases h with ⟨fault, hr, supplied⟩ | ⟨usable, synced, weights, hw, hr⟩ <;>
      simp only [perform, hr]
    · exact refuse (by simp) supplied
    · exact .pullWeights usable synced weights hw
  | pushOptimizer =>
    rcases pushOptimizer_cases h with ⟨fault, hr, supplied⟩ | ⟨usable, optimizer, ho, hr⟩ <;>
      simp only [perform, hr]
    · exact refuse (by simp) supplied
    · exact .pushOptimizer usable optimizer ho
  | updateOptimizer next =>
    rcases updateOptimizer_cases next s with ⟨fault, hr, supplied⟩ | ⟨trains, hr⟩ <;>
      simp only [perform, hr]
    · exact refuse (by simp) supplied
    · exact .updateOptimizer next trains
  | resetWeights model =>
    rcases resetWeights_cases model s with
      ⟨fault, hr, supplied⟩ | ⟨count, source, weights, taken, hr⟩ <;> simp only [perform, hr]
    · exact refuse (by simp) supplied
    · exact .resetWeights model count source weights taken
  | runStep inputs =>
    rcases runStep_host_cases h inputs with ⟨fault, hr, supplied, unbegun⟩ |
      ⟨streams, begins, d, buffers, ran, ⟨fault, hr, supplied⟩ | hr⟩ <;> simp only [perform, hr]
    · refine .refuse _ _ supplied fun inputs' streams he => ?_
      cases he
      exact unbegun streams
    · exact .fail inputs streams begins d buffers ran fault supplied
    · exact .step inputs streams begins d buffers ran
  | exportModel =>
    rcases exportModel_cases h with
      ⟨fault, hr, supplied⟩ | ⟨usable, synced, weights, model, hw, hr⟩ <;> simp only [perform, hr]
    · exact refuse (by simp) supplied
    · exact .exportModel usable synced weights hw model
  | release =>
    show Transition s .release (.ok (.released s.release.1)) s.release.2
    rcases release_cases s with ⟨loose, hr⟩ | ⟨-, faulted, hr⟩ | ⟨-, -, exported, he, hr⟩
    · rw [hr]
      exact .releaseNone loose
    · have same : s.detach = ({ s with state := .faulted } : Session HostDevice).detach := by
        rw [← faulted]
      rw [hr, same]
      exact .releaseFaulted faulted
    · rw [hr]
      have pulled := pullWeights_cases h
      rcases he with rfl | rfl
      · exact .release _ exported.weights (.inl rfl)
      · rcases pulled with ⟨fault, hp, -⟩ | ⟨-, -, weights, hw, hp⟩
        · rw [hp]
          exact .release s.release.1 s.weights (.inl rfl)
        · rw [hp]
          exact .release s.release.1 (HostDevice.tensors weights) (.inr ⟨weights, hw, rfl⟩)

namespace Transition

variable {request : Request} {result : Except Fault Reply} {s' : Session HostDevice}

/-- A device that is taken off is not attached, and has no other weights and program than
before. -/
lemma release_device (d : HostDevice) : d.release.attached = false ∧ d.release.program = d.program ∧
    d.release.training = d.training ∧
      ∀ weights, d.release.weights = some weights → d.weights = some weights := by
  unfold HostDevice.release
  split
  · exact ⟨rfl, rfl, rfl, fun weights impossible => nomatch impossible⟩
  · rename_i loose
    exact ⟨by simpa using loose, rfl, rfl, fun _ hw => hw⟩

/-- **No request changes the program.** -/
lemma program_eq (t : Transition s request result s') : s'.device.program = s.device.program := by
  cases t with
  | step inputs streams begins d buffers ran => exact ran.program_eq
  | fail inputs streams begins d buffers ran fault supplied => exact ran.program_eq
  | releaseFaulted faulted => exact (release_device s.device).2.1
  | release saved weights origin => exact (release_device s.device).2.1
  | _ => rfl

/-- **No request changes whether running moves the weights.** -/
lemma training_eq (t : Transition s request result s') :
    s'.device.training = s.device.training := by
  cases t with
  | step inputs streams begins d buffers ran => exact ran.training_eq
  | fail inputs streams begins d buffers ran fault supplied => exact ran.training_eq
  | releaseFaulted faulted => exact (release_device s.device).2.2.1
  | release saved weights origin => exact (release_device s.device).2.2.1
  | _ => rfl

/-- **No request finds the device without what it needs.** -/
lemma isLack_eq {fault : Fault} (t : Transition s request (.error fault) s') :
    fault.isLack = false := by
  cases t with
  | refuse request fault supplied unbegun => exact supplied
  | fail inputs streams begins d buffers ran fault supplied => exact supplied

/-- Running micro-batches keeps what is known about the device. -/
lemma consistent_ran (h : s.Consistent) {d : HostDevice} (ran : HostDevice.Ran s.device d)
    {inputs : StepInputs} {streams : List Stream} (begins : s.Begins inputs streams) {state : State}
    (next : state = .running ∨ state = .faulted) (buffers : List Buffer) (steps : Nat) :
    ({ s with device := d, buffers := buffers, state := state, steps := steps } :
      Session HostDevice).Consistent := by
  obtain ⟨usable, synced, -⟩ := requireReady_eq_ok_iff.1 begins.1
  have expected := congrArg Program.weights ran.program_eq
  obtain ⟨before, hb, same⟩ := h.weights usable synced
  refine ⟨ran.attached_eq.trans h.attached, fun _ => h.usable usable, ?_,
    ran.training_eq.trans h.training, h.mergeable, h.expected.trans expected.symm, ?_,
    fun _ _ => ?_, fun _ synced => ?_⟩
  · rintro (other | other) <;> rcases next with rfl | rfl <;> cases other
  · intro held hw
    exact (ran.described_eq hb hw).trans ((h.held before hb).trans expected.symm)
  · obtain ⟨after, ha, -⟩ := ran.moved before hb
    refine ⟨after, ha, fun inference => ?_⟩
    have kept := ran.kept (h.training.trans (by rw [inference]; rfl))
    rw [ha, hb, Option.some.injEq] at kept
    rw [kept]
    exact same inference
  · obtain ⟨o, ho, hd⟩ := h.optimizer usable synced
    exact ⟨o, ho, ran.optimizer_eq.trans hd⟩

/-- A session that takes its device off has none, and is then in a state in which it has none. -/
lemma consistent_detach (h : s.Consistent) {state : State}
    (gone : state = .faulted ∨ state = .stopped) {weights : WeightStore}
    (same : (weights.mapValues fun _ t => t.info) = s.device.program.weights) :
    ({ s with weights := weights, state := state } : Session HostDevice).detach.Consistent := by
  obtain ⟨loose, program, training, before⟩ := release_device s.device
  have expected := congrArg Program.weights program
  have unusable : ¬ ({ s with weights := weights, state := state } :
      Session HostDevice).detach.Usable := by
    rintro (usable | usable)
    · rcases gone with rfl | rfl <;> cases usable
    · rcases gone with rfl | rfl <;> cases usable
  refine ⟨loose, fun usable => absurd usable unusable, fun _ => rfl, training.trans h.training,
    h.mergeable, same.trans expected.symm, fun held hw => ?_, fun usable => absurd usable unusable,
    fun usable => absurd usable unusable⟩
  exact (h.held held (before held hw)).trans expected.symm

/-- **Every request keeps the marks of a session true.** -/
lemma consistent (h : s.Consistent) (t : Transition s request result s') : s'.Consistent := by
  cases t with
  | refuse request fault supplied unbegun => exact h
  | prepare =>
    refine { h with attached := rfl, usable := fun _ => rfl, idle := ?_, weights := ?_,
                    optimizer := ?_ }
    · rintro (impossible | impossible) <;> cases impossible
    · intro _ impossible
      cases impossible
    · intro _ impossible
      cases impossible
  | pushWeights usable weights described same =>
    refine { h with held := ?_, weights := fun _ _ => ⟨weights, rfl, fun _ => same⟩ }
    intro weights' hw
    cases hw
    exact described
  | pullWeights usable synced weights held =>
    refine { h with expected := ?_, weights := fun _ _ => ⟨weights, held, fun _ => rfl⟩ }
    rw [HostDevice.mapValues_info_tensors, h.held weights held]
  | pushOptimizer usable optimizer trains =>
    exact { h with optimizer := fun _ _ => ⟨optimizer, trains, rfl⟩ }
  | updateOptimizer next trains =>
    refine { h with training := h.training.trans trains, weights := ?_, optimizer := ?_ }
    · intro usable synced
      obtain ⟨weights, hw, -⟩ := h.weights usable synced
      exact ⟨weights, hw, fun impossible => nomatch impossible⟩
    · intro _ impossible
      cases impossible
  | resetWeights model count source weights taken =>
    refine { h with expected := ?_, weights := ?_ }
    · rw [WeightStore.mapValues_info_resetFrom taken, h.expected]
    · intro _ impossible
      cases impossible
  | step inputs streams begins d buffers ran =>
    exact consistent_ran h ran begins (.inl rfl) buffers (s.steps + 1)
  | fail inputs streams begins d buffers ran fault supplied =>
    exact consistent_ran h ran begins (.inr rfl) buffers s.steps
  | exportModel usable synced weights held model =>
    refine { h with expected := ?_, weights := fun _ _ => ⟨weights, held, fun _ => rfl⟩ }
    rw [HostDevice.mapValues_info_tensors, h.held weights held]
  | releaseNone loose => exact h
  | releaseFaulted faulted => exact consistent_detach h (.inl rfl) h.expected
  | release saved weights origin =>
    refine consistent_detach h (.inr rfl) ?_
    rcases origin with rfl | ⟨held, hw, rfl⟩
    · exact h.expected
    · rw [HostDevice.mapValues_info_tensors, h.held held hw]

end Transition

/-- **The marks of a session say the truth after any requests.** -/
lemma consistent_after (h : s.Consistent) (requests : List Request) :
    (s.after requests).Consistent :=
  after_induction h (fun _ request kept => (transition_perform kept request).consistent kept)
    requests

/-- After any requests, the program is that of the built session, and moves weights if that one
does. -/
lemma program_after (h : s.Consistent) (requests : List Request) :
    (s.after requests).device.program = s.device.program ∧
      (s.after requests).device.training = s.device.training := by
  refine (after_induction (P := fun s' => s'.Consistent ∧ s'.device.program = s.device.program ∧
    s'.device.training = s.device.training) ⟨h, rfl, rfl⟩ (fun s' request kept => ?_) requests).2
  have t := transition_perform kept.1 request
  exact ⟨t.consistent kept.1, t.program_eq.trans kept.2.1, t.training_eq.trans kept.2.2⟩

/-! ### Failures -/

/-- **A request that fails leaves no trace**, unless it is a step that has begun.

Any request, met or not, may come before. If the request is no step, or a step that does not
begin, the session is exactly what it was: state, marks, weights, optimizer, buffers, counter
and device. If a step has begun, its micro-batches failed; the session is then faulted, and but
for the device and the buffers it is what it was, so that the step is not counted.

**Proof sketch.** Of all transitions two have a fault for an answer: the one that changes
nothing, and the step that fails after it has begun. -/
theorem perform_eq_error {graph : Graph} {flow : DataFlow} {target : Target} {kind : Kind}
    {options : Options} {s₀ : Session HostDevice}
    (built : build HostDevice.backend graph flow target kind options = .ok s₀)
    {requests : List Request} {request : Request} {fault : Fault}
    (failed : ((s₀.after requests).perform request).1 = .error fault) :
    ((∀ inputs streams, request = .runStep inputs → ¬ (s₀.after requests).Begins inputs streams) →
      ((s₀.after requests).perform request).2 = s₀.after requests) ∧
    (∀ inputs streams, request = .runStep inputs → (s₀.after requests).Begins inputs streams →
      (s₀.after requests).beginStep.runMicroBatches
          (Stream.feeds streams (s₀.after requests).flow.microBatches) =
        (.error fault, ((s₀.after requests).perform request).2) ∧
      ∃ d buffers, ((s₀.after requests).perform request).2 =
        { s₀.after requests with device := d, buffers := buffers, state := .faulted }) := by
  have t := transition_perform (consistent_after (consistent_build built) requests) request
  rw [failed] at t
  constructor
  · intro unbegun
    generalize ((s₀.after requests).perform request).2 = s' at t ⊢
    cases t with
    | refuse request fault supplied _ => rfl
    | fail inputs streams begins d buffers ran fault supplied =>
      exact absurd begins (unbegun inputs streams rfl)
  · rintro inputs streams rfl begins
    refine ⟨runMicroBatches_of_begins begins (Outcome.map_eq_error_iff.1 failed), ?_⟩
    generalize ((s₀.after requests).perform (.runStep inputs)).2 = s' at t ⊢
    cases t with
    | refuse request fault supplied unbegun => exact absurd begins (unbegun inputs streams rfl)
    | fail inputs streams begins d buffers ran fault supplied => exact ⟨d, buffers, rfl⟩

/-- A step that lacks its input, and one whose input is no number where numbers are checked. -/
theorem perform_eq_error_sample : ∃ s₀ fault fault',
    sample .inference ⟨none, true, false⟩ = some s₀ ∧
    ((s₀.after [.prepare, .pushWeights]).perform (.runStep .empty)).1 = .error fault ∧
    ((s₀.after [.prepare, .pushWeights]).perform (.runStep .empty)).2 =
      s₀.after [.prepare, .pushWeights] ∧
    ((s₀.after [.prepare, .pushWeights]).perform (.runStep (sampleInputs ⟨0x7fc00000⟩))).1 =
      .error fault' ∧
    ((s₀.after [.prepare, .pushWeights]).perform (.runStep (sampleInputs ⟨0x7fc00000⟩))).2.state =
      .faulted := by
  obtain ⟨s₀, found, tested⟩ := exists_of_sample .inference ⟨none, true, false⟩
    (fun s =>
      let s := s.after [.prepare, .pushWeights]
      let signature := Device.signature s.device
      (s.perform (.runStep .empty)).1.toOption.isNone &&
        (StepInputs.streams .empty signature.inputs s.flow.microBatches).toOption.isNone &&
        (s.perform (.runStep (sampleInputs ⟨0x7fc00000⟩))).1.toOption.isNone &&
        s.requireReady.toOption.isSome &&
        ((sampleInputs ⟨0x7fc00000⟩).streams signature.inputs s.flow.microBatches).toOption.isSome)
    (by decide +kernel)
  obtain ⟨graph, -, built⟩ := sample_eq_some found
  simp only [Bool.and_eq_true] at tested
  obtain ⟨⟨⟨⟨failed, unchecked⟩, failed'⟩, ready⟩, checked⟩ := tested
  obtain ⟨fault, hf⟩ := Outcome.exists_of_isNone_toOption failed
  obtain ⟨fault', hf'⟩ := Outcome.exists_of_isNone_toOption failed'
  obtain ⟨_, hc⟩ := Outcome.exists_of_isNone_toOption unchecked
  obtain ⟨_, hr⟩ := Option.isSome_iff_exists.1 ready
  obtain ⟨streams, hs⟩ := Option.isSome_iff_exists.1 checked
  have unbegun : ∀ inputs streams, Request.runStep .empty = .runStep inputs →
      ¬ (s₀.after [.prepare, .pushWeights]).Begins inputs streams := by
    rintro inputs streams ⟨⟩ begins
    exact nomatch hc.symm.trans begins.2
  have begins := And.intro (Outcome.toOption_eq_some_iff.1 hr) (Outcome.toOption_eq_some_iff.1 hs)
  obtain ⟨-, d, buffers, after⟩ := (perform_eq_error built hf').2 _ streams rfl begins
  refine ⟨s₀, fault, fault', found, hf, (perform_eq_error built hf).1 unbegun, hf', ?_⟩
  rw [after]

end Session

end Microbatch
