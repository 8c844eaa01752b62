import Microbatch.Proofs.Resets

set_option relaxedAutoImplicit false
set_option autoImplicit false

/-!
# Exported models as checkpoints

A new session of an exported model goes on where the session that has exported it stands: the model
loads as the same graph with the weights of the device, the graph compiles to the same program, and
once the new session is ready, no steps tell it from the old one.

The host must have the target, or the old session would have had no device to export from. That it
had one at the export is enough, since a device stays where it is.

## Main definitions

* `Microbatch.Kind.startUp` — what a new session is asked for before its first step.
* `Microbatch.Session.Unused` — a session of which nothing has been asked.

## Main results

* `Microbatch.Session.acquire_of_usable` — a session in use is on a target that the host has.
* `Microbatch.Session.exists_build` — graphs with one program build alike.
* `Microbatch.Session.Unused.ready_of_startUp`, `Microbatch.Session.exists_startUp` — a new session
  that has started up.
* `Microbatch.Session.loadGraph_of_exportModel` — an exported model is a checkpoint.
-/

namespace Microbatch

/-- A program depends on the kind of session by the losses only, and by whether it trains. -/
lemma Program.compile_congr {graph : Graph} {kind kind' : Kind}
    (trains : kind'.isTraining = kind.isTraining) (losses : kind'.losses = kind.losses) :
    compile graph kind' = compile graph kind := by
  unfold compile trainableWeights
  simp only [trains, losses]

/-- A target that the host has leaves a device attached. -/
lemma HostDevice.acquire_eq {d : HostDevice} (h : d.acquire.1 = .ok ()) :
    d.acquire = (.ok (), { d with attached := true }) := by
  unfold acquire at h ⊢
  split at h
  · rfl
  · split at h
    · rename_i few
      simp only [if_pos few]
    · cases h
  · cases h

/-- Whether the host has a target does not depend on what the device holds. -/
lemma HostDevice.acquire_congr {d d' : HostDevice} (same : d'.target = d.target) :
    d'.acquire.1 = d.acquire.1 := by
  unfold acquire
  rw [same]
  split
  · rfl
  · split <;> rfl
  · rfl

/-- A session has an optimizer exactly when it trains. -/
lemma Kind.isSome_optimizer? (kind : Kind) : kind.optimizer?.isSome = kind.isTraining := by
  cases kind <;> rfl

/-- **What a new session is asked for before its first step**: its device is attached and takes the
weights, and the optimizer if it trains. -/
def Kind.startUp : Kind → List Session.Request
  | .inference => [.prepare, .pushWeights]
  | .training _ _ => [.prepare, .pushWeights, .pushOptimizer]

namespace Session

variable {s : Session HostDevice}

/-! ### Targets -/

/-- A device that was attached is on a target that the host has. -/
lemma acquire_of_prepare (met : s.prepare.1 = .ok ()) : s.device.acquire.1 = .ok () := by
  unfold prepare at met
  split at met
  · cases met
  split at met
  · cases met
  · rename_i device acquired
    exact congrArg Prod.fst (show s.device.acquire = (.ok (), device) from acquired)

/-- **Attaching a device** that is not attached, on a target that the host has. -/
lemma prepare_eq_ok (detached : s.requireDetached = .ok ())
    (acquires : s.device.acquire.1 = .ok ()) :
    s.prepare = (.ok (), { s with device := { s.device with attached := true }, acquired := true,
                                  state := .prepared, weightSync := .stale,
                                  optimizerSync := .stale }) := by
  have acquired : Device.acquire s.device = (.ok (), { s.device with attached := true }) :=
    HostDevice.acquire_eq acquires
  simp only [prepare, detached, acquired]

namespace Transition

variable {request : Request} {result : Except Fault Reply} {s' : Session HostDevice}

/-- **No request moves the device.** -/
lemma target_eq (t : Transition s request result s') : s'.device.target = s.device.target := by
  have released : s.device.release.target = s.device.target := by
    unfold HostDevice.release
    split <;> rfl
  have moved : ∀ {d : HostDevice}, HostDevice.Ran s.device d → d.target = s.device.target :=
    fun ran => by rw [ran.same]
  cases t with
  | step inputs streams begins d buffers ran => exact moved ran
  | fail inputs streams begins d buffers ran fault supplied => exact moved ran
  | releaseFaulted faulted => exact released
  | release saved weights origin => exact released
  | _ => rfl

/-- Only attaching the device lets a session use it. -/
lemma usable_before (t : Transition s request result s') (other : request ≠ .prepare)
    (usable : s'.Usable) : s.Usable := by
  cases t with
  | prepare => exact absurd rfl other
  | step inputs streams begins d buffers ran => exact (requireReady_eq_ok_iff.1 begins.1).1
  | fail inputs streams begins d buffers ran fault supplied =>
    exact (requireReady_eq_ok_iff.1 begins.1).1
  | releaseFaulted faulted => exact absurd usable (not_usable (.inl rfl))
  | release saved weights origin => exact absurd usable (not_usable (.inr rfl))
  | _ => exact usable

end Transition

/-- **A session in use is on a target that the host has**: the one that it was built for.

**Proof sketch.** The device does not move, and a session can use it only after it was attached. -/
lemma acquire_of_usable {s₀ : Session HostDevice} (h : s₀.Consistent) (unused : ¬ s₀.Usable)
    {requests : List Request} (usable : (s₀.after requests).Usable) :
    s₀.device.acquire.1 = .ok () := by
  refine (after_induction (P := fun s => s.Consistent ∧ s.device.target = s₀.device.target ∧
    (s.Usable → s₀.device.acquire.1 = .ok ())) ⟨h, rfl, fun now => absurd now unused⟩ ?_
    requests).2.2 usable
  rintro s request ⟨consistent, target, acquires⟩
  have t := transition_perform consistent request
  refine ⟨t.consistent consistent, t.target_eq.trans target, fun now => ?_⟩
  by_cases prepares : request = .prepare
  · subst prepares
    rcases prepare_cases consistent with ⟨fault, hr, -⟩ | hr
    · rw [perform, hr] at now
      exact acquires now
    · rw [← HostDevice.acquire_congr target]
      exact acquire_of_prepare (congrArg Prod.fst hr)
  · exact acquires (t.usable_before prepares now)

/-! ### New sessions -/

variable {graph graph' : Graph} {flow : DataFlow} {target : Target} {kind kind' : Kind}
  {options : Options} {s₀ t₀ : Session HostDevice}

/-- **Handing an optimizer over** to a device that can be used. -/
lemma pushOptimizer_eq_ok {optimizer : Optimizer} (h : s.Consistent) (usable : s.Usable)
    (trains : s.optimizer = some optimizer) :
    s.pushOptimizer = (.ok (), { s with device := { s.device with optimizer := some optimizer },
                                        optimizerSync := .synced }) := by
  have attached := h.attached.trans (h.usable usable)
  have written : Device.writeOptimizer optimizer s.device =
      (.ok (), { s.device with optimizer := some optimizer }) := by
    show s.device.writeOptimizer optimizer = _
    rw [HostDevice.writeOptimizer, if_pos attached]
  simp only [pushOptimizer, requireDevice_eq_ok_iff.2 usable, requireOptimizer, trains, written]

/-- **What a new session is** before anything is asked of it. -/
structure Unused (s : Session HostDevice) (graph : Graph) (target : Target) (kind : Kind) :
    Prop where
  /-- The marks are true. -/
  consistent : s.Consistent
  /-- The device was never attached. -/
  state : s.state = .unbuilt
  /-- Nothing is current. -/
  stale : s.weightSync = .stale
  /-- The device is where it should be. -/
  target : s.device.target = target
  /-- The device runs what the graph compiles to. -/
  program : Program.compile graph kind = .ok s.device.program
  /-- The host has the weights of the graph. -/
  weights : s.weights = graph.weights
  /-- The host has the optimizer that is asked for. -/
  optimizer : s.optimizer = kind.optimizer?

/-- A session that is built is new. -/
lemma unused_of_build (built : build HostDevice.backend graph flow target kind options = .ok s₀) :
    s₀.Unused graph target kind := by
  have consistent := consistent_build built
  obtain ⟨device, registry, buffers, hd, -, -, rfl⟩ := build_eq_ok built
  obtain ⟨program, hp, rfl⟩ := HostDevice.compile_eq_ok hd
  exact ⟨consistent, rfl, rfl, rfl, hp, rfl, rfl⟩

/-- **Graphs with one program build alike.** -/
lemma exists_build (built : build HostDevice.backend graph flow target kind options = .ok s₀)
    (compiled : Program.compile graph' kind' = Program.compile graph kind)
    (trains : kind'.isTraining = kind.isTraining) :
    ∃ t₀, build HostDevice.backend graph' flow target kind' options = .ok t₀ := by
  have able : checkAbilities HostDevice.backend flow target kind' =
      checkAbilities HostDevice.backend flow target kind := by
    unfold checkAbilities
    simp only [trains]
  have device : HostDevice.backend.compile graph' kind' target =
      HostDevice.backend.compile graph kind target := by
    simp only [HostDevice.backend, compiled, trains]
  unfold build at built ⊢
  obtain ⟨_, ha, built⟩ := Outcome.bind_eq_ok_iff.1 built
  obtain ⟨_, hd, built⟩ := Outcome.bind_eq_ok_iff.1 built
  obtain ⟨_, hr, built⟩ := Outcome.bind_eq_ok_iff.1 built
  obtain ⟨_, hb, -⟩ := Outcome.bind_eq_ok_iff.1 built
  rw [able, ha, Outcome.ok_bind, device, hd, Outcome.ok_bind, hr, Outcome.ok_bind, hb,
    Outcome.ok_bind]
  exact ⟨_, rfl⟩

/-- **A new session that has started up** is ready, and its device holds what the host had for it.

**Proof sketch.** Each of the requests is met, in the session that the ones before it leave. -/
lemma Unused.ready_of_startUp {weights : NameMap Parameter} (u : s.Unused graph target kind)
    (acquires : s.device.acquire.1 = .ok ()) (held : graph.weights = HostDevice.tensors weights) :
    (s.after kind.startUp).requireReady = .ok () ∧
      (s.after kind.startUp).device.weights = some weights ∧
      ∀ optimizer, kind.optimizer? = some optimizer →
        (s.after kind.startUp).device.optimizer = some optimizer := by
  have h := u.consistent
  have goes := goesOnWith_of_stale (u.weights.trans held) u.stale
  have detached : s.requireDetached = .ok () := by rw [requireDetached, u.state]
  have prepared : s.after [.prepare] =
      { s with device := { s.device with attached := true }, acquired := true, state := .prepared,
               weightSync := .stale, optimizerSync := .stale } :=
    congrArg Prod.snd (prepare_eq_ok detached acquires)
  have usable : (s.after [.prepare]).Usable := .inl (by rw [prepared])
  have pushed : s.after [.prepare, .pushWeights] =
      { s.after [.prepare] with
        device := { (s.after [.prepare]).device with weights := some weights }
        weightSync := .synced } :=
    congrArg Prod.snd ((goes.after h (by decide)).pushWeights (consistent_after h _) usable)
  have usable : (s.after [.prepare, .pushWeights]).Usable := .inl (by rw [pushed, prepared])
  have trains : (s.after [.prepare, .pushWeights]).optimizer = kind.optimizer? := by
    rw [pushed, prepared]
    exact u.optimizer
  cases kind with
  | inference =>
    have ready : (s.after [.prepare, .pushWeights]).requireReady = .ok () := by
      refine requireReady_eq_ok_iff.2 ⟨usable, by rw [pushed], fun some_optimizer => ?_⟩
      rw [trains] at some_optimizer
      cases some_optimizer
    refine ⟨ready, by rw [Kind.startUp, pushed], fun _ impossible => ?_⟩
    cases impossible
  | training losses optimizer =>
    have taught : s.after [.prepare, .pushWeights, .pushOptimizer] =
        { s.after [.prepare, .pushWeights] with
          device := { (s.after [.prepare, .pushWeights]).device with optimizer := some optimizer }
          optimizerSync := .synced } :=
      congrArg Prod.snd (pushOptimizer_eq_ok (consistent_after h _) usable trains)
    have ready : (s.after [.prepare, .pushWeights, .pushOptimizer]).requireReady = .ok () := by
      rw [taught]
      exact requireReady_eq_ok_iff.2 ⟨usable, by rw [pushed], fun _ => rfl⟩
    refine ⟨ready, by rw [Kind.startUp, taught, pushed], fun optimizer' same => ?_⟩
    rw [Kind.startUp, taught]
    exact same

/-- **A new session of a graph with the same program** gets where an old one is in use, and starts
up there. -/
lemma exists_startUp {weights : NameMap Parameter} {requests : List Request}
    (built : build HostDevice.backend graph flow target kind options = .ok s₀)
    (usable : (s₀.after requests).Usable)
    (compiled : Program.compile graph' kind' = Program.compile graph kind)
    (trains : kind'.isTraining = kind.isTraining)
    (held : graph'.weights = HostDevice.tensors weights) :
    ∃ t₀, build HostDevice.backend graph' flow target kind' options = .ok t₀ ∧
      (t₀.after kind'.startUp).requireReady = .ok () ∧
      (t₀.after kind'.startUp).device.weights = some weights ∧
      ∀ optimizer, kind'.optimizer? = some optimizer →
        (t₀.after kind'.startUp).device.optimizer = some optimizer := by
  obtain ⟨t₀, built'⟩ := exists_build built compiled trains
  have old := unused_of_build built
  have new := unused_of_build built'
  have unusable : ¬ s₀.Usable := by simp [Usable, old.state]
  have acquires := acquire_of_usable old.consistent unusable usable
  rw [← HostDevice.acquire_congr (new.target.trans old.target.symm)] at acquires
  exact ⟨t₀, built', new.ready_of_startUp acquires held⟩

/-! ### Checkpoints -/

/-- **An exported model is a checkpoint**, whatever has been asked of the session before. It loads
as the graph that the session was built from, with the weights of the device; for every kind of
session it compiles to the same program, or fails to in the same way. A new session of it, with the
optimizer that the device holds, can be built and started up, and then takes the same steps as the
old session.

No factor of a scaling node may be a negative zero, which is not written and is read back as a zero.
The exported model is a byte string in memory, so it is shorter than `2 ^ 64` bytes.

**Proof sketch.** The exported model is the model of the graph with other weights of the same
descriptions, and a model that is written and read again differs from what it was by negative zeros
only. So both sessions have one start; the old one has been on a target that the host has, so the
new one gets there, and its device takes what the old one holds. -/
theorem loadGraph_of_exportModel {model : Bytes} {shapes : NameMap TensorInfo}
    (loaded : Exchange.loadGraph model shapes = .ok graph)
    (plain : ∀ message g, Exchange.ModelMessage.decode model = .ok message →
      message.graph = some g → g.PlainFactors)
    (built : build HostDevice.backend graph flow target kind options = .ok s₀)
    {requests : List Request} {exported : Bytes}
    (made : (s₀.after requests).exportModel.1 = .ok exported) (fits : exported.length < Size.limit)
    (fresh : (s₀.after requests).optimizer.isSome → (s₀.after requests).optimizerSync = .synced) :
    ∃ weights, (s₀.after requests).device.weights = some weights ∧
      Exchange.loadGraph exported shapes =
        .ok ⟨exported, graph.inputs, HostDevice.tensors weights⟩ ∧
      (∀ kind', Program.compile ⟨exported, graph.inputs, HostDevice.tensors weights⟩ kind' =
        Program.compile graph kind') ∧
      Program.compile graph kind = .ok (s₀.after requests).device.program ∧
      ∀ kind' : Kind, kind'.isTraining = kind.isTraining → kind'.losses = kind.losses →
        (∀ optimizer, kind'.optimizer? = some optimizer →
          (s₀.after requests).device.optimizer = some optimizer) →
        ∃ t₀, build HostDevice.backend ⟨exported, graph.inputs, HostDevice.tensors weights⟩ flow
            target kind' options = .ok t₀ ∧
          (t₀.after kind'.startUp).requireReady = .ok () ∧
          (t₀.after kind'.startUp).device.weights = some weights ∧
          SameSteps (s₀.after requests).exportModel.2 (t₀.after kind'.startUp) := by
  have old := unused_of_build built
  have consistent := consistent_after old.consistent requests
  obtain ⟨program, training⟩ := program_after old.consistent requests
  obtain ⟨usable, -⟩ := exportModel_eq_ok consistent made
  obtain ⟨weights, merged, held, same, storable, merges, rfl⟩ :=
    exists_of_exportModel loaded built made
  have names := NameMap.names_eq_of_mapValues same
  have compiled := Program.compile_of_merge loaded plain same storable merges fits
  refine ⟨weights, held, Exchange.loadGraph_of_merge loaded names storable merges fits, compiled,
    program ▸ old.program, fun kind' trains losses holds => ?_⟩
  have compiled' := (compiled kind').trans (Program.compile_congr trains losses)
  obtain ⟨t₀, built', ready, device, optimizer⟩ := exists_startUp built usable compiled' trains rfl
  have start := sameStart_of_build built built' compiled' trains fun _ others =>
    Exchange.mergeWeights_of_merge loaded merges fits others
  refine ⟨t₀, built', ready, device, start.sameSteps_of_exportModel made ready
    (device.trans held.symm) fun trained => ⟨fresh trained, ?_⟩⟩
  -- the old session trains, so the new one has the optimizer that the old device holds
  have trained' : kind'.optimizer?.isSome = true := by
    rw [← consistent.training, training, old.consistent.training, old.optimizer] at trained
    rw [Kind.isSome_optimizer?, trains, ← Kind.isSome_optimizer?, trained]
  obtain ⟨o, ho⟩ := Option.isSome_iff_exists.1 trained'
  rw [optimizer o ho, holds o ho]

/-- A model is exported after a step of training, and a new session is built from it. -/
theorem loadGraph_of_exportModel_sample : ∃ s₀ t₀ exported graph,
    sample sampleTraining {} = some s₀ ∧
    (s₀.after [.prepare, .pushWeights, .pushOptimizer,
      .runStep (sampleInputs ⟨0x3f800000⟩)]).exportModel.1 = .ok exported ∧
    exported.length < Size.limit ∧ Exchange.loadGraph exported .empty = .ok graph ∧
    build HostDevice.backend graph sampleFlow .cpu sampleTraining {} = .ok t₀ ∧
    SameSteps
      (s₀.after [.prepare, .pushWeights, .pushOptimizer,
        .runStep (sampleInputs ⟨0x3f800000⟩)]).exportModel.2
      (t₀.after [.prepare, .pushWeights, .pushOptimizer]) := by
  obtain ⟨s₀, found, tested⟩ := exists_of_sample sampleTraining {}
    (fun s =>
      let trained := s.after [.prepare, .pushWeights, .pushOptimizer,
        .runStep (sampleInputs ⟨0x3f800000⟩)]
      trained.optimizerSync = .synced && trained.device.optimizer = sampleTraining.optimizer? &&
        trained.exportModel.1.toOption.any fun exported => exported.length < Size.limit)
    (by decide +kernel)
  obtain ⟨graph, loaded, built⟩ := sample_eq_some found
  simp only [Bool.and_eq_true, decide_eq_true_eq] at tested
  obtain ⟨⟨synced, optimizer⟩, tested⟩ := tested
  obtain ⟨exported, made, fits⟩ := (Option.any_eq_true _ _).1 tested
  have made := Outcome.toOption_eq_some_iff.1 made
  have fits := of_decide_eq_true fits
  have plain : ∀ message g, Exchange.ModelMessage.decode sampleModel = .ok message →
      message.graph = some g → g.PlainFactors := by
    intro message g decoded same
    have checked : (Exchange.ModelMessage.decode sampleModel).toOption.all (fun message =>
        message.graph.all fun g => decide g.PlainFactors) = true := by decide +kernel
    rw [decoded] at checked
    simpa [Except.toOption, same] using checked
  obtain ⟨weights, -, reloaded, -, -, restart⟩ :=
    loadGraph_of_exportModel loaded plain built made fits fun _ => synced
  obtain ⟨t₀, built', -, -, same⟩ := restart sampleTraining rfl rfl fun o ho => optimizer.trans ho
  exact ⟨s₀, t₀, exported, _, found, made, fits, reloaded, built', same⟩

/-- Before a step begins, each session still shows what its own last step has left: the old one has
run a step, the new one has run none, and one step that lacks its input is refused by both. -/
theorem snapshot_ne_of_checkpoint : ∃ s₀ t₀ exported graph shown shown',
    sample .inference {} = some s₀ ∧
    (s₀.after [.prepare, .pushWeights, .runStep (sampleInputs ⟨0x3f800000⟩)]).exportModel.1 =
      .ok exported ∧
    Exchange.loadGraph exported .empty = .ok graph ∧
    build HostDevice.backend graph sampleFlow .cpu .inference {} = .ok t₀ ∧
    (t₀.after [.prepare, .pushWeights]).requireReady = .ok () ∧
    ((s₀.after [.prepare, .pushWeights,
      .runStep (sampleInputs ⟨0x3f800000⟩)]).exportModel.2.play [.empty]).2.anchors = .ok shown ∧
    ((t₀.after [.prepare, .pushWeights]).play [.empty]).2.anchors = .ok shown' ∧
    snapshot shown ≠ snapshot shown' := by
  obtain ⟨s₀, found, tested⟩ := exists_of_sample .inference {}
    (fun s =>
      let used := s.after [.prepare, .pushWeights, .runStep (sampleInputs ⟨0x3f800000⟩)]
      used.exportModel.1.toOption.any fun exported =>
        (Exchange.loadGraph exported .empty).toOption.any fun graph =>
          (build HostDevice.backend graph sampleFlow .cpu .inference {}).toOption.any fun t =>
            let ready := t.after [.prepare, .pushWeights]
            ready.requireReady.toOption = some () &&
              (used.exportModel.2.play [.empty]).2.anchors.toOption.any fun shown =>
                (ready.play [.empty]).2.anchors.toOption.any fun shown' =>
                  snapshot shown ≠ snapshot shown')
    (by decide +kernel)
  obtain ⟨exported, made, tested⟩ := (Option.any_eq_true _ _).1 tested
  obtain ⟨graph, loaded, tested⟩ := (Option.any_eq_true _ _).1 tested
  obtain ⟨t₀, built, tested⟩ := (Option.any_eq_true _ _).1 tested
  simp only [Bool.and_eq_true, decide_eq_true_eq] at tested
  obtain ⟨ready, tested⟩ := tested
  obtain ⟨shown, hs, tested⟩ := (Option.any_eq_true _ _).1 tested
  obtain ⟨shown', ht, differ⟩ := (Option.any_eq_true _ _).1 tested
  refine ⟨s₀, t₀, exported, graph, shown, shown', found, ?_, ?_, ?_, ?_, ?_, ?_,
    of_decide_eq_true differ⟩ <;> exact Outcome.toOption_eq_some_iff.1 ‹_›

end Session

end Microbatch
