import Microbatch.Proofs.LastPush
import Microbatch.Proofs.Payloads
import Microbatch.Proofs.SideBySide

set_option relaxedAutoImplicit false
set_option autoImplicit false

/-!
# Resetting a session to an exported model

The model that a session exports is one that any session of the same graph can be reset to,
whatever has been done with either of them: the weights are read back as they are on the device.
From the reset on the session refuses to step and to export, until it has handed the weights to its
device; then it goes on like the session that has exported them.

## Main definitions

* `Microbatch.Session.RefusesUntilPushed` — a session that waits for weights to be handed over.
* `Microbatch.Session.GoesOnWith` — a session that goes on with some weights.
* `Microbatch.Session.Request.keepsWeights` — requests that leave it at these weights.

## Main results

* `Microbatch.Session.refusesUntilPushed_of_stale` — weights that are not current are not used.
* `Microbatch.Session.GoesOnWith.after` — a session goes on with the same weights.
* `Microbatch.Session.exists_of_exportModel` — what an exported model is made of.
* `Microbatch.Session.resetWeights_of_exportModel` — a reset to an exported model.
-/

namespace Microbatch.Session

variable {s : Session HostDevice}

/-! ### Weights that are not current -/

lemma exportModel_of_stale (usable : s.Usable) (stale : s.weightSync = .stale) :
    s.exportModel = (.error .weightsStale, s) := by
  simp only [exportModel, pullWeights, requireDevice_eq_ok_iff.2 usable, if_pos stale]

lemma runStep_of_stale (usable : s.Usable) (stale : s.weightSync = .stale) (inputs : StepInputs) :
    s.runStep inputs = (.error .weightsStale, s) := by
  simp only [runStep, requireReady, requireDevice_eq_ok_iff.2 usable, if_pos stale]

/-- Only handing weights over makes them current. -/
lemma Transition.stale {request : Request} {result : Except Fault Reply} {s' : Session HostDevice}
    (t : Transition s request result s') (unpushed : request ≠ .pushWeights)
    (stale : s.weightSync = .stale) : s'.weightSync = .stale := by
  cases t with
  | pushWeights usable weights described same => exact absurd rfl unpushed
  | prepare => rfl
  | resetWeights model count source weights taken => rfl
  | _ => exact stale

/-- **A session that waits for weights to be handed over**: whatever else is asked of it, its
device's weights are not current, and as long as it can use its device it refuses steps and exports
for that reason. -/
def RefusesUntilPushed (s : Session HostDevice) : Prop :=
  ∀ later : List Request, .pushWeights ∉ later →
    (s.after later).weightSync = .stale ∧
    ((s.after later).Usable →
      (∀ inputs, (s.after later).runStep inputs = (.error .weightsStale, s.after later)) ∧
      (s.after later).exportModel = (.error .weightsStale, s.after later))

/-- Weights stay as they are, not current, until they are handed over. -/
lemma stale_after (h : s.Consistent) (stale : s.weightSync = .stale) {later : List Request}
    (unpushed : .pushWeights ∉ later) : (s.after later).weightSync = .stale := by
  induction later generalizing s with
  | nil => exact stale
  | cons request rest ih =>
    obtain ⟨other, others⟩ := not_or.1 (mt List.mem_cons.2 unpushed)
    have t := transition_perform h request
    exact ih (t.consistent h) (t.stale (Ne.symm other) stale) others

/-- **Weights that are not current are not used** until they are handed over. -/
lemma refusesUntilPushed_of_stale (h : s.Consistent) (stale : s.weightSync = .stale) :
    s.RefusesUntilPushed := by
  intro later unpushed
  have still := stale_after h stale unpushed
  exact ⟨still, fun usable => ⟨runStep_of_stale usable still, exportModel_of_stale usable still⟩⟩

/-! ### Weights that a session goes on with -/

/-- **Requests that leave a session at its weights**: all but steps and resets. -/
def Request.keepsWeights : Request → Bool
  | .runStep _ => false
  | .resetWeights _ => false
  | _ => true

/-- **A session that goes on with some weights**: the host has them, and so has the device if its
weights are current. -/
structure GoesOnWith (s : Session HostDevice) (weights : NameMap Parameter) : Prop where
  /-- The host's weights. -/
  host : s.weights = HostDevice.tensors weights
  /-- The device's weights. -/
  device : s.Usable → s.weightSync = .synced → s.device.weights = some weights

/-- A session goes on with the weights that it will hand over. -/
lemma goesOnWith_of_stale {weights : NameMap Parameter}
    (host : s.weights = HostDevice.tensors weights) (stale : s.weightSync = .stale) :
    s.GoesOnWith weights :=
  ⟨host, fun _ synced => nomatch stale.symm.trans synced⟩

namespace GoesOnWith

variable {weights : NameMap Parameter}

/-- Releasing the device leaves the host at the same weights, even if it takes those of the device
over. -/
lemma release (g : s.GoesOnWith weights) (h : s.Consistent) : s.release.2.GoesOnWith weights := by
  rcases release_cases s with ⟨-, hr⟩ | ⟨-, faulted, hr⟩ | ⟨-, -, exported, he, hr⟩
  · rw [hr]
    exact g
  · rw [hr]
    exact ⟨g.host, fun usable => absurd usable (not_usable (.inl faulted))⟩
  · have host : exported.weights = HostDevice.tensors weights := by
      rcases he with rfl | rfl
      · exact g.host
      · rcases pullWeights_cases h with ⟨fault, hp, -⟩ | ⟨usable, synced, held, hw, hp⟩
        · rw [hp]
          exact g.host
        · rw [hp, Option.some.inj (hw.symm.trans (g.device usable synced))]
    rw [hr]
    exact ⟨host, fun usable => absurd usable (not_usable (.inr rfl))⟩

/-- **Requests other than steps and resets** leave a session at its weights. -/
lemma perform (g : s.GoesOnWith weights) (h : s.Consistent) {request : Request}
    (keeps : request.keepsWeights = true) : (s.perform request).2.GoesOnWith weights := by
  by_cases releases : request = .release
  · subst releases
    exact g.release h
  have t := transition_perform h request
  generalize (s.perform request).1 = result, (s.perform request).2 = s' at t ⊢
  -- what is taken over from the device are the weights that it has got
  have taken : ∀ held, s.Usable → s.weightSync = .synced → s.device.weights = some held →
      HostDevice.tensors held = HostDevice.tensors weights := by
    intro held usable synced hw
    rw [Option.some.inj (hw.symm.trans (g.device usable synced))]
  cases t with
  | refuse request fault supplied unbegun => exact g
  | prepare => exact ⟨g.host, fun _ impossible => nomatch impossible⟩
  | pushWeights usable pushed described same =>
    refine ⟨g.host, fun _ _ => ?_⟩
    rw [HostDevice.tensors_injective (same.trans g.host)]
  | pullWeights usable synced held hw => exact ⟨taken held usable synced hw, g.device⟩
  | pushOptimizer usable optimizer trains => exact ⟨g.host, g.device⟩
  | updateOptimizer next trains => exact ⟨g.host, g.device⟩
  | exportModel usable synced held hw model => exact ⟨taken held usable synced hw, g.device⟩
  | resetWeights model count source weights taken => exact nomatch keeps
  | step inputs streams begins d buffers ran => exact nomatch keeps
  | fail inputs streams begins d buffers ran fault supplied => exact nomatch keeps
  | releaseNone loose => exact absurd rfl releases
  | releaseFaulted faulted => exact absurd rfl releases
  | release saved weights origin => exact absurd rfl releases

/-- **A session goes on with the same weights** after any requests other than steps and resets. -/
lemma after (g : s.GoesOnWith weights) (h : s.Consistent) {later : List Request}
    (keep : ∀ request ∈ later, request.keepsWeights = true) :
    (s.after later).GoesOnWith weights := by
  induction later generalizing s with
  | nil => exact g
  | cons request rest ih =>
    obtain ⟨keeps, keep_rest⟩ := List.forall_mem_cons.1 keep
    exact ih (g.perform h keeps) ((transition_perform h request).consistent h) keep_rest

/-- **A device takes the weights that a session goes on with.** -/
lemma pushWeights (g : s.GoesOnWith weights) (h : s.Consistent) (usable : s.Usable) :
    s.pushWeights = (.ok (), { s with device := { s.device with weights := some weights },
                                      weightSync := .synced }) := by
  have attached := h.attached.trans (h.usable usable)
  have accepted : HostDevice.parameters s.device.program.weights s.weights = .ok weights := by
    rw [← h.expected, g.host, HostDevice.mapValues_info_tensors, HostDevice.parameters_tensors]
  have written : Device.writeWeights s.weights s.device =
      (.ok (), { s.device with weights := some weights }) := by
    show s.device.writeWeights s.weights = _
    rw [HostDevice.writeWeights, if_pos attached, accepted]
  simp only [Session.pushWeights, requireDevice_eq_ok_iff.2 usable, written]

end GoesOnWith

/-! ### Exported models -/

variable {model : Bytes} {shapes : NameMap TensorInfo} {graph : Graph} {flow : DataFlow}
  {target target' : Target} {kind : Kind} {options : Options} {s₀ t₀ : Session HostDevice}

/-- A session keeps the graph that it was built from. -/
lemma graph_after (built : build HostDevice.backend graph flow target kind options = .ok s₀)
    (requests : List Request) : (s₀.after requests).graph = graph := by
  rw [(sameSetup_after s₀ requests).graph]
  obtain ⟨device, registry, buffers, -, -, -, rfl⟩ := build_eq_ok built
  rfl

/-- **What an exported model is made of**: the model of the graph, with the weights of the device in
place of those of the graph. They have the same names and can be stored. -/
lemma exists_of_exportModel (loaded : Exchange.loadGraph model shapes = .ok graph)
    (built : build HostDevice.backend graph flow target kind options = .ok s₀)
    {requests : List Request} {exported : Bytes}
    (made : (s₀.after requests).exportModel.1 = .ok exported) :
    ∃ weights merged, (s₀.after requests).device.weights = some weights ∧
      ((HostDevice.tensors weights).mapValues fun _ t => t.info) =
        (graph.weights.mapValues fun _ t => t.info) ∧
      (∀ name t, (HostDevice.tensors weights).find? name = some t → t.Storable) ∧
      Exchange.mergeWeights graph.model (HostDevice.tensors weights) = .ok merged ∧
      merged.model = exported := by
  have consistent := consistent_after (consistent_build built) requests
  obtain ⟨-, -, weights, merged, held, merges, same, -⟩ := exportModel_eq_ok consistent made
  rw [graph_after built requests] at merges
  refine ⟨weights, merged, held, ?_, fun name t found => ?_, merges, same⟩
  · rw [HostDevice.mapValues_info_tensors, described_after built requests held]
  · exact storable_tensors loaded built requests held found

/-- **A session that has exported its model and one with the same start take the same steps**, if
the other one is ready and its device holds the same. -/
lemma SameStart.sameSteps_of_exportModel (start : SameStart s₀ t₀)
    {requests requests' : List Request} {exported : Bytes}
    (made : (s₀.after requests).exportModel.1 = .ok exported)
    (ready : (t₀.after requests').requireReady = .ok ())
    (weights : (t₀.after requests').device.weights = (s₀.after requests).device.weights)
    (optimizer : (s₀.after requests).optimizer.isSome →
      (s₀.after requests).optimizerSync = .synced ∧
      (t₀.after requests').device.optimizer = (s₀.after requests).device.optimizer) :
    SameSteps (s₀.after requests).exportModel.2 (t₀.after requests') := by
  have consistent := consistent_after start.consistent_left requests
  obtain ⟨usable, synced, held, -, -, -, -, taken⟩ := exportModel_eq_ok consistent made
  have reached : s₀.after (requests ++ [.exportModel]) =
      { s₀.after requests with weights := HostDevice.tensors held } :=
    (after_concat s₀ requests .exportModel).trans taken
  rw [taken, ← reached]
  refine (start.inStep ?_ ready ?_ fun trains => ?_).sameSteps
  · rw [reached]
    exact requireReady_eq_ok_iff.2 ⟨usable, synced, fun trains => (optimizer trains).1⟩
  · rw [reached]
    exact weights
  · rw [reached] at trains ⊢
    exact (optimizer trains).2

/-! ### Resets -/

/-- Weights that are read and accepted are the host's. -/
lemma resetWeights_eq_ok {source weights : WeightStore} {count : Nat} (live : s.state ≠ .faulted)
    (read : Exchange.readWeights model = .ok source)
    (taken : s.weights.resetFrom source = .ok (count, weights)) :
    s.resetWeights model = (.ok count, { s with weights := weights, weightSync := .stale }) := by
  simp only [resetWeights, requireLive, if_neg live, read, taken]

/-- **The weights of an exported model replace all weights** of a session of the same graph. -/
lemma resetWeights_eq_of_exportModel (loaded : Exchange.loadGraph model shapes = .ok graph)
    (built : build HostDevice.backend graph flow target kind options = .ok s₀)
    (built' : build HostDevice.backend graph flow target' kind options = .ok t₀)
    {requests requests' : List Request} {exported : Bytes}
    (made : (s₀.after requests).exportModel.1 = .ok exported)
    (fits : exported.length < Size.limit) (live : (t₀.after requests').state ≠ .faulted) :
    ∃ weights, (s₀.after requests).device.weights = some weights ∧
      (t₀.after requests').resetWeights exported = (.ok graph.weights.size,
        { t₀.after requests' with weights := HostDevice.tensors weights
                                  weightSync := .stale }) := by
  obtain ⟨weights, merged, held, same, storable, merges, rfl⟩ :=
    exists_of_exportModel loaded built made
  have names := NameMap.names_eq_of_mapValues same
  have read := Exchange.readWeights_of_merge loaded names storable merges fits
  have consistent := consistent_after (consistent_build built') requests'
  have described : (HostDevice.tensors weights).mapValues (fun _ t => t.info) =
      (t₀.after requests').weights.mapValues fun _ t => t.info := by
    rw [same, consistent.expected, expected_after built' requests']
  have measured := (measured_after loaded built requests).device weights held
  have taken := WeightStore.resetFrom_eq_of_same described fun _ _ found =>
    HostDevice.wellFormed_of_measured measured found
  have size : (t₀.after requests').weights.size = graph.weights.size := by
    have sizes := congrArg NameMap.size (described.symm.trans same)
    simpa [NameMap.size, NameMap.mapValues] using sizes
  rw [size] at taken
  exact ⟨weights, held, resetWeights_eq_ok live read taken⟩

/-- **A reset to an exported model** is met, whatever has been asked of the two sessions before;
only a faulted session refuses. It replaces all weights, and the session waits for them to be
handed over. However that is done, the device then holds what the other device held at the export,
bit for bit. From there on both sessions take the same steps, if they train with the same
optimizer.

Both sessions are of one graph, kind, data flow and settings; they may run on different targets. The
exported model is a byte string in memory, so it is shorter than `2 ^ 64` bytes.

**Proof sketch.** The exported model is the model of the graph with the weights of the device, so
these are read back. They have the descriptions that the program of either session expects, and
payloads of the described sizes, so all of them are taken. The sessions have one start, and what
else has happened to them is no longer there when a step begins. -/
theorem resetWeights_of_exportModel (loaded : Exchange.loadGraph model shapes = .ok graph)
    (built : build HostDevice.backend graph flow target kind options = .ok s₀)
    (built' : build HostDevice.backend graph flow target' kind options = .ok t₀)
    {requests requests' : List Request} {exported : Bytes}
    (made : (s₀.after requests).exportModel.1 = .ok exported)
    (fits : exported.length < Size.limit) (live : (t₀.after requests').state ≠ .faulted) :
    ∃ weights t, (s₀.after requests).device.weights = some weights ∧
      (t₀.after requests').resetWeights exported = (.ok graph.weights.size, t) ∧
      t.state = (t₀.after requests').state ∧ t.RefusesUntilPushed ∧
      ∀ later : List Request, (∀ request ∈ later, request.keepsWeights = true) →
        ((t.after later).Usable → ∃ t', (t.after later).pushWeights = (.ok (), t') ∧
          t'.weightSync = .synced ∧ t'.device.weights = some weights) ∧
        ((t.after later).requireReady = .ok () →
          (t.after later).device.weights = some weights ∧
          (((s₀.after requests).optimizer.isSome → (s₀.after requests).optimizerSync = .synced ∧
              (t.after later).device.optimizer = (s₀.after requests).device.optimizer) →
            SameSteps (s₀.after requests).exportModel.2 (t.after later))) := by
  obtain ⟨weights, held, reset⟩ := resetWeights_eq_of_exportModel loaded built built' made fits live
  -- the session after the reset is one that can be reached
  have reached : t₀.after (requests' ++ [.resetWeights exported]) =
      { t₀.after requests' with weights := HostDevice.tensors weights, weightSync := .stale } := by
    rw [after_concat]
    exact congrArg Prod.snd reset
  have consistent := consistent_after (consistent_build built')
    (requests' ++ [.resetWeights exported])
  rw [reached] at consistent
  refine ⟨weights, _, held, reset, rfl, refusesUntilPushed_of_stale consistent rfl,
    fun later keep => ?_⟩
  have goes := (goesOnWith_of_stale rfl rfl).after consistent keep
  refine ⟨fun usable => ?_, fun ready => ?_⟩
  · exact ⟨_, goes.pushWeights (consistent_after consistent later) usable, rfl, rfl⟩
  · obtain ⟨usable, synced, -⟩ := requireReady_eq_ok_iff.1 ready
    have device := goes.device usable synced
    refine ⟨device, fun optimizer => ?_⟩
    have start := sameStart_of_build built built' rfl rfl fun _ _ => rfl
    rw [← reached, ← after_append] at device ready optimizer ⊢
    exact start.sameSteps_of_exportModel made ready (device.trans held.symm) optimizer

/-- Two sessions of the small model train a step each, and one is reset to what the other one
exports. -/
theorem resetWeights_of_exportModel_sample : ∃ s₀ exported t, sample sampleTraining {} = some s₀ ∧
    (s₀.after [.prepare, .pushWeights, .pushOptimizer,
      .runStep (sampleInputs ⟨0x3f800000⟩)]).exportModel.1 = .ok exported ∧
    exported.length < Size.limit ∧
    (s₀.after [.prepare, .pushWeights, .pushOptimizer,
      .runStep (sampleInputs .zero)]).resetWeights exported = (.ok 1, t) ∧
    t.RefusesUntilPushed ∧ (t.after [.pushWeights, .pushOptimizer]).requireReady = .ok () ∧
    SameSteps
      (s₀.after [.prepare, .pushWeights, .pushOptimizer,
        .runStep (sampleInputs ⟨0x3f800000⟩)]).exportModel.2
      (t.after [.pushWeights, .pushOptimizer]) := by
  obtain ⟨s₀, found, tested⟩ := exists_of_sample sampleTraining {}
    (fun s =>
      let trained := s.after [.prepare, .pushWeights, .pushOptimizer,
        .runStep (sampleInputs ⟨0x3f800000⟩)]
      let other := s.after [.prepare, .pushWeights, .pushOptimizer, .runStep (sampleInputs .zero)]
      trained.exportModel.1.toOption.any fun exported =>
        let reset := other.resetWeights exported
        let ready := reset.2.after [.pushWeights, .pushOptimizer]
        exported.length < Size.limit && other.state = .running &&
          reset.1.toOption = some 1 && ready.requireReady.toOption.isSome &&
          trained.optimizerSync = .synced && ready.device.optimizer = trained.device.optimizer)
    (by decide +kernel)
  obtain ⟨graph, loaded, built⟩ := sample_eq_some found
  obtain ⟨exported, made, tested⟩ := (Option.any_eq_true _ _).1 tested
  simp only [Bool.and_eq_true, decide_eq_true_eq] at tested
  obtain ⟨⟨⟨⟨⟨fits, running⟩, count⟩, ready⟩, synced⟩, optimizer⟩ := tested
  obtain ⟨_, ready⟩ := Option.isSome_iff_exists.1 ready
  have made := Outcome.toOption_eq_some_iff.1 made
  have ready := Outcome.toOption_eq_some_iff.1 ready
  have count := Outcome.toOption_eq_some_iff.1 count
  obtain ⟨weights, t, -, reset, -, refuses, goes_on⟩ :=
    resetWeights_of_exportModel loaded built built made fits (by rw [running]; decide)
  rw [reset] at count ready optimizer
  obtain ⟨-, same⟩ := (goes_on [.pushWeights, .pushOptimizer] (by decide)).2 ready
  exact ⟨s₀, exported, t, found, made, fits, reset.trans (Prod.ext count rfl), refuses, ready,
    same fun _ => ⟨synced, optimizer⟩⟩

/-- Before a step begins, each session still shows what its own last step has left: the one has run
none, the other one has, and one step that lacks its input is refused by both. -/
theorem snapshot_ne_of_resetWeights : ∃ s₀ exported t shown shown',
    sample .inference {} = some s₀ ∧
    (s₀.after [.prepare, .pushWeights]).exportModel.1 = .ok exported ∧
    (s₀.after [.prepare, .pushWeights, .runStep (sampleInputs ⟨0x3f800000⟩)]).Usable ∧
    (s₀.after [.prepare, .pushWeights,
      .runStep (sampleInputs ⟨0x3f800000⟩)]).resetWeights exported = (.ok 1, t) ∧
    (t.after [.pushWeights]).device.weights = (s₀.after [.prepare, .pushWeights]).device.weights ∧
    ((s₀.after [.prepare, .pushWeights]).exportModel.2.play [.empty]).2.anchors = .ok shown ∧
    ((t.after [.pushWeights]).play [.empty]).2.anchors = .ok shown' ∧
    snapshot shown ≠ snapshot shown' := by
  obtain ⟨s₀, found, tested⟩ := exists_of_sample .inference {}
    (fun s =>
      let fresh := s.after [.prepare, .pushWeights]
      let used := s.after [.prepare, .pushWeights, .runStep (sampleInputs ⟨0x3f800000⟩)]
      fresh.exportModel.1.toOption.any fun exported =>
        let reset := used.resetWeights exported
        let ready := reset.2.after [.pushWeights]
        used.state = .running && reset.1.toOption = some 1 &&
          ready.device.weights = fresh.device.weights &&
          (fresh.exportModel.2.play [.empty]).2.anchors.toOption.any fun shown =>
            (ready.play [.empty]).2.anchors.toOption.any fun shown' =>
              snapshot shown ≠ snapshot shown')
    (by decide +kernel)
  obtain ⟨exported, made, tested⟩ := (Option.any_eq_true _ _).1 tested
  simp only [Bool.and_eq_true, decide_eq_true_eq] at tested
  obtain ⟨⟨⟨running, count⟩, weights⟩, tested⟩ := tested
  obtain ⟨shown, hs, tested⟩ := (Option.any_eq_true _ _).1 tested
  obtain ⟨shown', ht, differ⟩ := (Option.any_eq_true _ _).1 tested
  have made := Outcome.toOption_eq_some_iff.1 made
  have count := Outcome.toOption_eq_some_iff.1 count
  exact ⟨s₀, exported, _, shown, shown', found, made, .inr running, Prod.ext count rfl, weights,
    Outcome.toOption_eq_some_iff.1 hs, Outcome.toOption_eq_some_iff.1 ht, of_decide_eq_true differ⟩

end Microbatch.Session
