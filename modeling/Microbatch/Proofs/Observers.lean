import Microbatch.Proofs.Soundness

set_option relaxedAutoImplicit false
set_option autoImplicit false

/-!
# Anchors only observe

What a device computes in a micro-batch does not depend on what is wanted of it, and neither do the
weights that it is left with. So two sessions for one graph that differ in their anchors only stay
the same in everything else: they meet and refuse the same requests, hold the same weights, and make
the same models. An anchor that both have shows the same values in both.

## Main definitions

* `Microbatch.Session.watch` — a session with other anchors.
* `Microbatch.Session.Watched` — two sessions that differ in their anchors only.

## Main results

* `Microbatch.HostDevice.execute_cases` — a micro-batch fails, or every tensor is handed out on its
  own.
* `Microbatch.HostDevice.executeAll_apart` — micro-batches with two lists of wanted tensors.
* `Microbatch.Session.perform_watch` — requests other than steps do not look at the anchors.
* `Microbatch.Session.Watched.perform` — one request to both sessions.
* `Microbatch.Session.anchors_only_observe` — all requests to both sessions.
-/

namespace Microbatch

/-! ### What is wanted of a device -/

namespace HostDevice

/-- **A micro-batch fails whatever is wanted, or every wanted tensor is handed out on its own.** The
device that is left does not depend on what is wanted. -/
lemma execute_cases (inputs : List (String × Tensor)) (d : HostDevice) :
    (∃ cause, ∀ wanted, d.execute inputs wanted = (.error cause, d)) ∨
      ∃ (find : String → Except DeviceFault Tensor) (d' : HostDevice),
        ∀ wanted, d.execute inputs wanted = (wanted.mapM find, d') := by
  unfold execute
  split
  · exact .inl ⟨_, fun _ => rfl⟩
  split
  · exact .inl ⟨_, fun _ => rfl⟩
  split
  · exact .inl ⟨_, fun _ => rfl⟩
  split
  · split
    · exact .inl ⟨_, fun _ => rfl⟩
    split
    · exact .inl ⟨_, fun _ => rfl⟩
    · exact .inr ⟨_, _, fun _ => rfl⟩
  · exact .inr ⟨_, _, fun _ => rfl⟩

/-- The device that a micro-batch leaves does not depend on what is wanted. -/
lemma execute_snd (inputs : List (String × Tensor)) (wanted wanted' : List String)
    (d : HostDevice) : (d.execute inputs wanted').2 = (d.execute inputs wanted).2 := by
  rcases execute_cases inputs d with ⟨cause, same⟩ | ⟨find, d', same⟩
  · rw [same, same]
  · rw [same, same]

/-- What is wanted together is handed out together. -/
lemma execute_append {inputs : List (String × Tensor)} {wanted wanted' : List String}
    {d : HostDevice} {tensors tensors' : List Tensor}
    (first : (d.execute inputs wanted).1 = .ok tensors)
    (second : (d.execute inputs wanted').1 = .ok tensors') :
    (d.execute inputs (wanted ++ wanted')).1 = .ok (tensors ++ tensors') := by
  rcases execute_cases inputs d with ⟨cause, same⟩ | ⟨find, d', same⟩
  · rw [same] at first
    cases first
  · rw [same] at first second ⊢
    rw [List.mapM_append]
    simp only at first second ⊢
    rw [first, second]
    rfl

/-- **Micro-batches with two lists of wanted tensors** leave the same device, and a tensor that is
in both lists has the same values over the micro-batches.

**Proof sketch.** Induction on the micro-batches. Each hands every tensor out on its own, and leaves
the same device to the next. -/
lemma executeAll_apart {wanted wanted' : List String} {d e e' : HostDevice}
    {feeds : List (List (String × Tensor))} {values values' : List (List Tensor)}
    (executed : Session.executeAll wanted d feeds = (.ok values, e))
    (executed' : Session.executeAll wanted' d feeds = (.ok values', e')) :
    e' = e ∧ ∀ i j name, wanted[i]? = some name → wanted'[j]? = some name →
      Buffer.column j values' = Buffer.column i values := by
  induction feeds generalizing d values values' with
  | nil =>
    cases executed
    cases executed'
    exact ⟨rfl, fun _ _ _ _ _ => rfl⟩
  | cons feed rest ih =>
    obtain ⟨first, next, others, here, ran, rfl⟩ := Session.executeAll_cons_eq_ok executed
    obtain ⟨first', next', others', here', ran', rfl⟩ := Session.executeAll_cons_eq_ok executed'
    change d.execute feed wanted = _ at here
    change d.execute feed wanted' = _ at here'
    rcases execute_cases feed d with ⟨cause, same⟩ | ⟨find, last, same⟩
    · rw [same] at here
      cases here
    rw [same, Prod.mk.injEq] at here here'
    obtain ⟨found, rfl⟩ := here
    obtain ⟨found', rfl⟩ := here'
    obtain ⟨left_alone, columns⟩ := ih ran ran'
    refine ⟨left_alone, fun i j name hi hj => ?_⟩
    obtain ⟨value, at_place, made⟩ :=
      exists_getElem?_of_forall₂ (Outcome.mapM_eq_ok_iff.1 found) hi
    obtain ⟨value', at_place', made'⟩ :=
      exists_getElem?_of_forall₂ (Outcome.mapM_eq_ok_iff.1 found') hj
    obtain rfl : value' = value := Except.ok.inj (made'.symm.trans made)
    rw [Buffer.column_cons, Buffer.column_cons, at_place, at_place', columns i j name hi hj]

end HostDevice

/-! ### Registered anchors -/

namespace Registry

/-- An anchor is registered at its place, with the description of its tensor. -/
lemma exists_of_registerAll {r r' : Registry} {anchors : List Anchor} {i : Nat} {anchor : Anchor}
    (h : r.registerAll anchors = .ok r') (empty : r.anchors = [])
    (hi : anchors[i]? = some anchor) :
    ∃ info, r.available.find? anchor.name = some info ∧ r'.anchors[i]? = some ⟨anchor, info⟩ := by
  obtain ⟨added, placed, order, -, described⟩ := registerAll_eq_ok h
  rw [empty, List.nil_append] at placed
  rw [← order, List.getElem?_map, Option.map_eq_some_iff] at hi
  obtain ⟨a, ha, rfl⟩ := hi
  exact ⟨a.info, described a (List.mem_of_getElem? ha), placed ▸ ha⟩

end Registry

namespace Session

/-! ### Requests that are no steps -/

section Watch

variable {D : Type} [Device D]

/-- **A session with other anchors**, with their data flow and their buffers. -/
def watch (s : Session D) (flow : DataFlow) (registry : Registry) (buffers : List Buffer) :
    Session D :=
  { s with flow := flow, registry := registry, buffers := buffers }

variable (s : Session D) (flow : DataFlow) (registry : Registry) (buffers : List Buffer)

lemma prepare_watch : (s.watch flow registry buffers).prepare =
    (s.prepare.1, s.prepare.2.watch flow registry buffers) := by
  have detached : (s.watch flow registry buffers).requireDetached = s.requireDetached := rfl
  have device : (s.watch flow registry buffers).device = s.device := rfl
  unfold prepare
  rw [detached, device]
  cases s.requireDetached with
  | error fault => rfl
  | ok done => rcases Device.acquire s.device with ⟨cause | done, d⟩ <;> rfl

lemma pushWeights_watch : (s.watch flow registry buffers).pushWeights =
    (s.pushWeights.1, s.pushWeights.2.watch flow registry buffers) := by
  have usable : (s.watch flow registry buffers).requireDevice = s.requireDevice := rfl
  have written : Device.writeWeights (s.watch flow registry buffers).weights
      (s.watch flow registry buffers).device = Device.writeWeights s.weights s.device := rfl
  unfold pushWeights
  rw [usable, written]
  cases s.requireDevice with
  | error fault => rfl
  | ok done => rcases Device.writeWeights s.weights s.device with ⟨cause | done, d⟩ <;> rfl

lemma pullWeights_watch : (s.watch flow registry buffers).pullWeights =
    (s.pullWeights.1, s.pullWeights.2.watch flow registry buffers) := by
  have usable : (s.watch flow registry buffers).requireDevice = s.requireDevice := rfl
  have sync : (s.watch flow registry buffers).weightSync = s.weightSync := rfl
  have device : (s.watch flow registry buffers).device = s.device := rfl
  unfold pullWeights
  rw [usable, sync, device]
  cases s.requireDevice with
  | error fault => rfl
  | ok done =>
    dsimp only
    split
    · rfl
    · rcases Device.readWeights s.device with ⟨cause | weights, d⟩ <;> rfl

lemma pushOptimizer_watch : (s.watch flow registry buffers).pushOptimizer =
    (s.pushOptimizer.1, s.pushOptimizer.2.watch flow registry buffers) := by
  have usable : (s.watch flow registry buffers).requireDevice = s.requireDevice := rfl
  have held : (s.watch flow registry buffers).requireOptimizer = s.requireOptimizer := rfl
  have device : (s.watch flow registry buffers).device = s.device := rfl
  unfold pushOptimizer
  rw [usable, held, device]
  cases s.requireDevice with
  | error fault => rfl
  | ok done =>
    cases s.requireOptimizer with
    | error fault => rfl
    | ok optimizer =>
      dsimp only
      rcases Device.writeOptimizer optimizer s.device with ⟨cause | done, d⟩ <;> rfl

omit [Device D] in
lemma updateOptimizer_watch (next : Optimizer) :
    (s.watch flow registry buffers).updateOptimizer next =
      ((s.updateOptimizer next).1, (s.updateOptimizer next).2.watch flow registry buffers) := by
  have live : (s.watch flow registry buffers).requireLive = s.requireLive := rfl
  have held : (s.watch flow registry buffers).requireOptimizer = s.requireOptimizer := rfl
  unfold updateOptimizer
  rw [live, held]
  cases s.requireLive with
  | error fault => rfl
  | ok done =>
    cases s.requireOptimizer with
    | error fault => rfl
    | ok current =>
      dsimp only
      cases current.checkReplacement next <;> rfl

omit [Device D] in
lemma resetWeights_watch (model : Bytes) :
    (s.watch flow registry buffers).resetWeights model =
      ((s.resetWeights model).1, (s.resetWeights model).2.watch flow registry buffers) := by
  have live : (s.watch flow registry buffers).requireLive = s.requireLive := rfl
  have weights : (s.watch flow registry buffers).weights = s.weights := rfl
  unfold resetWeights
  rw [live, weights]
  cases s.requireLive with
  | error fault => rfl
  | ok done =>
    cases Exchange.readWeights model with
    | error cause => rfl
    | ok source =>
      dsimp only
      cases s.weights.resetFrom source <;> rfl

lemma exportModel_watch : (s.watch flow registry buffers).exportModel =
    (s.exportModel.1, s.exportModel.2.watch flow registry buffers) := by
  unfold exportModel
  rw [pullWeights_watch]
  rcases s.pullWeights with ⟨fault | done, s'⟩
  · rfl
  · have merged : Exchange.mergeWeights (s'.watch flow registry buffers).graph.model
        (s'.watch flow registry buffers).weights =
          Exchange.mergeWeights s'.graph.model s'.weights := rfl
    dsimp only
    rw [merged]
    cases Exchange.mergeWeights s'.graph.model s'.weights <;> rfl

lemma releaseExport_watch : (s.watch flow registry buffers).releaseExport =
    (s.releaseExport.1, s.releaseExport.2.watch flow registry buffers) := by
  have options : (s.watch flow registry buffers).options = s.options := rfl
  unfold releaseExport
  rw [exportModel_watch, options]
  cases s.options.exportPath with
  | none => rfl
  | some path => rcases s.exportModel with ⟨fault | model, s'⟩ <;> rfl

lemma release_watch : (s.watch flow registry buffers).release =
    (s.release.1, s.release.2.watch flow registry buffers) := by
  have acquired : (s.watch flow registry buffers).acquired = s.acquired := rfl
  have state : (s.watch flow registry buffers).state = s.state := rfl
  unfold release
  rw [releaseExport_watch, acquired, state]
  split
  · rfl
  split
  · rfl
  · rfl

/-- **Requests other than steps do not look at the anchors**, and leave them alone. -/
lemma perform_watch {request : Request} (other : ∀ inputs, request ≠ .runStep inputs) :
    (s.watch flow registry buffers).perform request =
      ((s.perform request).1, (s.perform request).2.watch flow registry buffers) := by
  cases request with
  | prepare => rw [perform, perform, prepare_watch]
  | pushWeights => rw [perform, perform, pushWeights_watch]
  | pullWeights =>
    rw [perform, perform, pullWeights_watch]
    rfl
  | pushOptimizer => rw [perform, perform, pushOptimizer_watch]
  | updateOptimizer next => rw [perform, perform, updateOptimizer_watch]
  | resetWeights model => rw [perform, perform, resetWeights_watch]
  | runStep inputs => exact absurd rfl (other inputs)
  | exportModel => rw [perform, perform, exportModel_watch]
  | release => rw [perform, perform, release_watch]

end Watch

/-! ### Two sessions that differ in their anchors -/

/-- **Two sessions that differ in their anchors only**, that are sound and not faulted, and check no
numbers. Anchors that both have show the same. -/
structure Watched (s t : Session HostDevice) : Prop where
  /-- The other session is the one with other anchors. -/
  same : ∃ flow registry buffers, t = s.watch flow registry buffers
  /-- Steps are cut into as many micro-batches. -/
  microBatches : t.flow.microBatches = s.flow.microBatches
  /-- Numbers are not checked. -/
  unchecked : s.options.checkNumerics = false
  /-- Neither is faulted. -/
  live : s.state ≠ .faulted
  /-- The one is sound. -/
  sound_left : s.Sound
  /-- The other is sound. -/
  sound_right : t.Sound
  /-- The buffers of the one belong to its anchors. -/
  order_left : s.InOrder
  /-- The buffers of the other belong to its anchors. -/
  order_right : t.InOrder
  /-- An anchor that both have shows the same in both. -/
  shared : ∀ (i j : Nat) (a : RegisteredAnchor), s.registry.anchors[i]? = some a →
    t.registry.anchors[j]? = some a → t.buffers[j]? = s.buffers[i]?

variable {s t : Session HostDevice}

/-- **A request that is no step** does the same to both sessions. -/
lemma Watched.perform_of_ne (h : Watched s t) {request : Request}
    (other : ∀ inputs, request ≠ .runStep inputs) :
    (t.perform request).1 = (s.perform request).1 ∧
      Watched (s.perform request).2 (t.perform request).2 := by
  obtain ⟨flow, registry, buffers, rfl⟩ := h.same
  have outside := outsideStep_perform s other
  have live : (s.perform request).2.state ≠ .faulted :=
    fun faulted => h.live (outside.faulted.1 faulted)
  have sound_right := h.sound_right.perform request
  have order_left := inOrder_perform (fun _ => h.order_left) request live
  rw [perform_watch s flow registry buffers other] at sound_right ⊢
  refine ⟨rfl, ⟨flow, registry, buffers, rfl⟩, ?_, ?_, live, h.sound_left.perform request,
    sound_right, order_left, h.order_right.of_eq rfl rfl rfl, ?_⟩
  · rw [outside.flow]
    exact h.microBatches
  · rw [outside.options]
    exact h.unchecked
  · rw [outside.registry, outside.buffers]
    exact h.shared

/-- **A step that succeeds for both sessions** leaves the same device, and the same buffers of the
anchors that both have.

**Proof sketch.** The micro-batches leave the same device, whatever is wanted. An anchor that both
have gets the same column of values, which fill the same buffer. -/
lemma Watched.of_runStep (h : Watched s t) {inputs : StepInputs} {s' t' : Session HostDevice}
    (run : s.runStep inputs = (.ok (), s')) (run' : t.runStep inputs = (.ok (), t')) :
    Watched s' t' := by
  have sound_left := h.sound_left.perform (.runStep inputs)
  have sound_right := h.sound_right.perform (.runStep inputs)
  rw [perform, run] at sound_left
  rw [perform, run'] at sound_right
  have order_left := h.order_left.runStep run
  have order_right := h.order_right.runStep run'
  obtain ⟨streams, values, begins, executed, count, width, filled, made⟩ := runStep_eq_ok run
  obtain ⟨streams', values', begins', executed', count', width', filled', made'⟩ :=
    runStep_eq_ok run'
  obtain ⟨flow, registry, buffers, rfl⟩ := h.same
  -- both sessions cut the inputs in the same way
  have accepted := begins'.2
  rw [h.microBatches] at accepted executed'
  obtain rfl : streams' = streams := Except.ok.inj (accepted.symm.trans begins.2)
  obtain ⟨device, columns⟩ := HostDevice.executeAll_apart executed executed'
  refine ⟨⟨flow, registry, t'.buffers, ?_⟩, ?_, ?_, ?_, sound_left, sound_right, order_left,
    order_right, ?_⟩
  · rw [made', device, made]
    rfl
  · rw [made, made']
    exact h.microBatches
  · rw [made]
    exact h.unchecked
  · rw [made]
    simp
  · intro i j a hi hj
    rw [made] at hi
    rw [made'] at hj
    obtain ⟨old, new, ho, hn, taken, -⟩ := (h.order_left.fillStep count width filled).2 i a hi
    obtain ⟨old', new', ho', hn', taken', -⟩ :=
      (h.order_right.fillStep count' width' filled').2 j a hj
    obtain rfl : old' = old :=
      Option.some.inj (ho'.symm.trans ((h.shared i j a hi hj).trans ho))
    rw [columns i j a.name (Registry.getElem?_names hi) (Registry.getElem?_names hj)] at taken'
    rw [hn, hn', Except.ok.inj (taken'.symm.trans taken)]

/-- **A step** is refused by both sessions and changes neither, or it succeeds for both. -/
lemma Watched.runStep (h : Watched s t) (inputs : StepInputs) :
    (t.runStep inputs).1 = (s.runStep inputs).1 ∧
      Watched (s.runStep inputs).2 (t.runStep inputs).2 := by
  have ready_iff : t.requireReady = s.requireReady := by
    obtain ⟨flow, registry, buffers, rfl⟩ := h.same
    rfl
  have device : t.device = s.device := by
    obtain ⟨flow, registry, buffers, rfl⟩ := h.same
    rfl
  have unchecked : t.options.checkNumerics = false := by
    obtain ⟨flow, registry, buffers, rfl⟩ := h.same
    exact h.unchecked
  cases ready : s.requireReady with
  | error fault =>
    have refused : s.runStep inputs = (.error fault, s) := by rw [Session.runStep, ready]
    have refused' : t.runStep inputs = (.error fault, t) := by
      rw [Session.runStep, ready_iff, ready]
    rw [refused, refused']
    exact ⟨rfl, h⟩
  | ok done =>
    have left := h.sound_left.unchecked_cases h.order_left ready h.unchecked inputs
    have right := h.sound_right.unchecked_cases h.order_right (ready_iff.trans ready) unchecked
      inputs
    rw [device, h.microBatches] at right
    rcases left with ⟨fault, refused, unchanged⟩ | ⟨streams, s', accepted, ran⟩
    · rcases right with ⟨fault', refused', unchanged'⟩ | ⟨streams', t', accepted', ran'⟩
      · rw [unchanged, unchanged', Except.error.inj (refused'.symm.trans refused)]
        exact ⟨rfl, h⟩
      · rw [refused] at accepted'
        cases accepted'
    · rcases right with ⟨fault', refused', unchanged'⟩ | ⟨streams', t', accepted', ran'⟩
      · rw [accepted] at refused'
        cases refused'
      · rw [ran, ran']
        exact ⟨rfl, h.of_runStep ran ran'⟩

/-- **One request to both sessions** has the same answer, and they still differ in their anchors
only. -/
lemma Watched.perform (h : Watched s t) (request : Request) :
    (t.perform request).1 = (s.perform request).1 ∧
      Watched (s.perform request).2 (t.perform request).2 := by
  by_cases step : ∃ inputs, request = .runStep inputs
  · obtain ⟨inputs, rfl⟩ := step
    obtain ⟨same, next⟩ := h.runStep inputs
    exact ⟨congrArg (Except.map fun _ => Reply.done) same, next⟩
  · exact h.perform_of_ne fun inputs he => step ⟨inputs, he⟩

/-- **Requests to both sessions**: they still differ in their anchors only. -/
lemma Watched.after (h : Watched s t) (requests : List Request) :
    Watched (s.after requests) (t.after requests) := by
  induction requests generalizing s t with
  | nil => exact h
  | cons request rest ih => exact ih (h.perform request).2

/-- New buffers for an anchor are the same in all sessions with as many micro-batches. -/
lemma getElem?_makeBuffers {registry registry' : Registry} {flow flow' : DataFlow}
    {buffers buffers' : List Buffer} (made : makeBuffers registry flow = .ok buffers)
    (made' : makeBuffers registry' flow' = .ok buffers')
    (microBatches : flow'.microBatches = flow.microBatches) {i j : Nat} {a : RegisteredAnchor}
    (hi : registry.anchors[i]? = some a) (hj : registry'.anchors[j]? = some a) :
    buffers'[j]? = buffers[i]? := by
  obtain ⟨layouts, laid_out, filled⟩ := Outcome.bind_eq_ok_iff.1 made
  obtain ⟨layouts', laid_out', filled'⟩ := Outcome.bind_eq_ok_iff.1 made'
  rw [microBatches] at laid_out'
  obtain ⟨layout, hl, here⟩ := exists_getElem?_of_forall₂ (Outcome.mapM_eq_ok_iff.1 laid_out) hi
  obtain ⟨layout', hl', here'⟩ :=
    exists_getElem?_of_forall₂ (Outcome.mapM_eq_ok_iff.1 laid_out') hj
  obtain rfl : layout' = layout := Except.ok.inj (here'.symm.trans here)
  obtain ⟨b, hb, new⟩ := exists_getElem?_of_forall₂ (Outcome.mapM_eq_ok_iff.1 filled) hl
  obtain ⟨b', hb', new'⟩ := exists_getElem?_of_forall₂ (Outcome.mapM_eq_ok_iff.1 filled') hl'
  rw [hb, hb', Except.ok.inj (new'.symm.trans new)]

/-- **Sessions that are built from one graph with different anchors** differ in them only. -/
lemma watched_build {model : Bytes} {shapes : NameMap TensorInfo} {graph : Graph}
    {flow flow' : DataFlow} {target : Target} {kind : Kind} {options : Options}
    {s₀ t₀ : Session HostDevice} (loaded : Exchange.loadGraph model shapes = .ok graph)
    (unchecked : options.checkNumerics = false)
    (microBatches : flow'.microBatches = flow.microBatches)
    (built : build HostDevice.backend graph flow target kind options = .ok s₀)
    (built' : build HostDevice.backend graph flow' target kind options = .ok t₀)
    (fits : ∀ name info, s₀.device.program.infos.find? name = some info → info.byteCount?.isSome)
    (buffers_fit : ∀ b ∈ s₀.buffers, b.layout.buffer.byteCount?.isSome)
    (buffers_fit' : ∀ b ∈ t₀.buffers, b.layout.buffer.byteCount?.isSome) : Watched s₀ t₀ := by
  have order_left := inOrder_build built buffers_fit
  have order_right := inOrder_build built' buffers_fit'
  have sound_left := sound_build loaded built fits
  have sound_right := sound_build loaded built'
  obtain ⟨device, registry, buffers, compiled, -, made, rfl⟩ := build_eq_ok built
  obtain ⟨device', registry', buffers', compiled', -, made', rfl⟩ := build_eq_ok built'
  obtain rfl : device' = device := Except.ok.inj (compiled'.symm.trans compiled)
  exact ⟨⟨flow', registry', buffers', rfl⟩, microBatches, unchecked, State.noConfusion,
    sound_left, sound_right fits, order_left, order_right,
    fun i j a hi hj => getElem?_makeBuffers made made' microBatches hi hj⟩

/-- **Anchors only observe.** Take two sessions that were built from one loaded graph with as many
micro-batches but different anchors, that check no numbers and in which all payload sizes fit, and
ask the same of both.

Every request has the same answer in both. They have the same device then, and so the same weights
on it, and export the same model. An anchor that both were asked for has the same buffer in both.

A device that hands out some tensors for a micro-batch, and others for the same one, hands out all
of them together; what it is left with does not depend on them.

**Proof sketch.** No request but a step looks at the anchors. A step is refused by both sessions, or
succeeds for both, and its micro-batches leave the same device and the same column of values for
an anchor that both have. -/
theorem anchors_only_observe {model : Bytes} {shapes : NameMap TensorInfo} {graph : Graph}
    {flow flow' : DataFlow} {target : Target} {kind : Kind} {options : Options}
    {s₀ t₀ : Session HostDevice} (loaded : Exchange.loadGraph model shapes = .ok graph)
    (unchecked : options.checkNumerics = false)
    (microBatches : flow'.microBatches = flow.microBatches)
    (built : build HostDevice.backend graph flow target kind options = .ok s₀)
    (built' : build HostDevice.backend graph flow' target kind options = .ok t₀)
    (fits : ∀ name info, s₀.device.program.infos.find? name = some info → info.byteCount?.isSome)
    (buffers_fit : ∀ b ∈ s₀.buffers, b.layout.buffer.byteCount?.isSome)
    (buffers_fit' : ∀ b ∈ t₀.buffers, b.layout.buffer.byteCount?.isSome) :
    (∀ requests request,
      ((t₀.after requests).perform request).1 = ((s₀.after requests).perform request).1) ∧
    (∀ requests, (t₀.after requests).device = (s₀.after requests).device ∧
      (t₀.after requests).exportModel.1 = (s₀.after requests).exportModel.1) ∧
    (∀ requests (i j : Nat) (anchor : Anchor), flow.anchors[i]? = some anchor →
      flow'.anchors[j]? = some anchor → ∃ b : Buffer,
        (s₀.after requests).buffers[i]? = some b ∧ (t₀.after requests).buffers[j]? = some b) ∧
    (∀ (d : HostDevice) inputs f g tensors tensors', (d.execute inputs f).1 = .ok tensors →
      (d.execute inputs g).1 = .ok tensors' →
        (d.execute inputs (f ++ g)).1 = .ok (tensors ++ tensors')) ∧
    ∀ (d : HostDevice) inputs f g, (d.execute inputs g).2 = (d.execute inputs f).2 := by
  have start := watched_build loaded unchecked microBatches built built' fits buffers_fit
    buffers_fit'
  refine ⟨fun requests request => ((start.after requests).perform request).1,
    fun requests => ?devices, fun requests i j anchor hi hj => ?buffers,
    fun d inputs f g tensors tensors' first second => HostDevice.execute_append first second,
    fun d inputs f g => HostDevice.execute_snd inputs f g d⟩
  case devices =>
    obtain ⟨flow₁, registry, buffers, same⟩ := (start.after requests).same
    rw [same, exportModel_watch]
    exact ⟨rfl, rfl⟩
  case buffers =>
    have now := start.after requests
    have setup := sameSetup_after s₀ requests
    have setup' := sameSetup_after t₀ requests
    obtain ⟨device, registry, buffers, compiled, registered, -, made⟩ := build_eq_ok built
    obtain ⟨device', registry', buffers', compiled', registered', -, made'⟩ := build_eq_ok built'
    obtain rfl : device' = device := Except.ok.inj (compiled'.symm.trans compiled)
    obtain ⟨info, known, here⟩ := Registry.exists_of_registerAll registered rfl hi
    obtain ⟨info', known', here'⟩ := Registry.exists_of_registerAll registered' rfl hj
    obtain rfl : info' = info := Option.some.inj (known'.symm.trans known)
    have place : (s₀.after requests).registry.anchors[i]? = some ⟨anchor, info'⟩ := by
      rw [setup.registry, made, here]
    have place' : (t₀.after requests).registry.anchors[j]? = some ⟨anchor, info'⟩ := by
      rw [setup'.registry, made', here']
    obtain ⟨b, hb⟩ := exists_getElem?_of_length_eq now.order_left.length place
    exact ⟨b, hb, (now.shared i j _ place place').trans hb⟩

/-- A data flow that watches the gradient of the weight and the product. -/
def gradientFlow : DataFlow := ⟨2, [⟨"d__w", .last⟩, ⟨"MatMul:0", .sum⟩], Nat.two_pos⟩

/-- The small session that trains does so in the same way when its gradient is watched, and the sum
of the products is the same. -/
theorem anchors_only_observe_sample : ∃ s₀ t₀,
    samplePair sampleFlow gradientFlow sampleTraining {} = some (s₀, t₀) ∧
    ∀ requests, (t₀.after requests).device = (s₀.after requests).device ∧
      ∃ b, (s₀.after requests).buffers[2]? = some b ∧ (t₀.after requests).buffers[1]? = some b := by
  obtain ⟨graph, s₀, t₀, found, loaded, built, built', tested⟩ :=
    exists_of_samplePair sampleFlow gradientFlow sampleTraining {}
      (fun s t => s.device.program.infos.entries.all (fun e => e.2.byteCount?.isSome) &&
        s.buffers.all (fun b => b.layout.buffer.byteCount?.isSome) &&
        t.buffers.all (fun b => b.layout.buffer.byteCount?.isSome))
      (by decide +kernel)
  simp only [Bool.and_eq_true, List.all_eq_true] at tested
  obtain ⟨⟨fits, buffers_fit⟩, buffers_fit'⟩ := tested
  have microBatches : gradientFlow.microBatches = sampleFlow.microBatches := rfl
  obtain ⟨-, devices, shared, -, -⟩ := anchors_only_observe loaded rfl microBatches built built'
    (fun name info known => fits (name, info) (NameMap.find?_eq_some_iff.1 known)) buffers_fit
    buffers_fit'
  exact ⟨s₀, t₀, found, fun requests => ⟨(devices requests).1, shared requests 2 1 _ rfl rfl⟩⟩

end Session

end Microbatch
