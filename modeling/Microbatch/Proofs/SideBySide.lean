import Microbatch.Proofs.Faulted
import Microbatch.Proofs.HostSession
import Microbatch.Proofs.StepBuffers

set_option relaxedAutoImplicit false
set_option autoImplicit false

/-!
# Two sessions side by side

Two sessions that run the same program on the same weights, with the same anchors, take the same
steps, whatever was done with each of them before. What they were built from, where they run and
what the host has kept does not matter; neither does what a step has left in the anchor buffers,
because a new step empties the stacks, sets the sums to zero and replaces the last values.

## Main definitions

* `Microbatch.Buffer.Alike` — buffers that a step makes the same of.
* `Microbatch.HostDevice.Twin` — devices that run alike.
* `Microbatch.Session.InStep` — sessions that take the same steps.
* `Microbatch.Session.play` — several steps, each with what it hands out.
* `Microbatch.Session.SameSteps` — no steps tell two sessions apart.
* `Microbatch.Session.SameStart` — built sessions that differ in nothing that a step keeps.

## Main results

* `Microbatch.Session.alike_after` — the buffers of a session stay alike.
* `Microbatch.Session.InStep.runStep` — one step of sessions side by side.
* `Microbatch.Session.InStep.sameSteps` — all steps of sessions side by side.
* `Microbatch.Session.SameStart.inStep` — which sessions are side by side.
-/

namespace Microbatch

/-- Lists that are related place by place to one list are related to each other. -/
lemma forall₂_trans {α : Type} {R : α → α → Prop} (trans : ∀ x y z, R x y → R y z → R x z)
    {xs ys zs : List α} (h : List.Forall₂ R xs ys) (h' : List.Forall₂ R ys zs) :
    List.Forall₂ R xs zs := by
  induction h generalizing zs with
  | nil => exact h'
  | cons first _ ih =>
    cases h' with
    | cons second rest => exact .cons (trans _ _ _ first second) (ih rest)

/-! ### Zeros -/

namespace Bytes

lemma words32_zeros : (n : Nat) → words32 (List.replicate n 0) = List.replicate (n / 4) 0
  | 0 => rfl
  | 1 => rfl
  | 2 => rfl
  | 3 => rfl
  | n + 4 => by
    have word : toWord32 0 0 0 0 = 0 := by decide
    have more : (n + 4) / 4 = n / 4 + 1 := by omega
    rw [more]
    simp only [List.replicate_succ, words32_cons, words32_zeros n, word]

lemma pairWords_zeros : (n : Nat) → pairWords (List.replicate n 0) = List.replicate (n / 2) 0
  | 0 => rfl
  | 1 => rfl
  | n + 2 => by
    have word : joinWords 0 0 = 0 := by decide
    have more : (n + 2) / 2 = n / 2 + 1 := by omega
    rw [more]
    simp only [List.replicate_succ, pairWords_cons, pairWords_zeros n, word]

end Bytes

namespace Summand

variable (s : Summand)

/-- Zero bytes are zero words; bytes left over are dropped. -/
lemma read_zeros (n : Nat) :
    s.read (List.replicate n 0) = List.replicate (n / s.width) s.zero := by
  cases s with
  | single =>
    show (Bytes.words32 (List.replicate n 0)).map Single.mk = _
    rw [Bytes.words32_zeros, List.map_replicate]
    rfl
  | int32 => exact Bytes.words32_zeros n
  | int64 =>
    show Bytes.pairWords (Bytes.words32 (List.replicate n 0)) = _
    rw [Bytes.words32_zeros, Bytes.pairWords_zeros, Nat.div_div_eq_div_mul]
    rfl

/-- A payload has as many words as fit in it. -/
lemma length_read_eq (bytes : Bytes) : (s.read bytes).length = bytes.length / s.width := by
  cases s with
  | single =>
    show ((Bytes.words32 bytes).map Single.mk).length = _
    rw [List.length_map, Bytes.length_words32]
    rfl
  | int32 => exact Bytes.length_words32 bytes
  | int64 =>
    show (Bytes.pairWords (Bytes.words32 bytes)).length = _
    rw [Bytes.length_pairWords, Bytes.length_words32, Nat.div_div_eq_div_mul]
    rfl

/-- Adding a payload keeps the number of words. -/
lemma words_addInto (buffer value : Bytes) :
    (s.addInto buffer value).length / s.width = buffer.length / s.width := by
  have width : 0 < s.width := by cases s <;> decide
  rw [addInto_eq, length_write, Nat.mul_div_cancel _ width, length_foldOnto, length_read_eq]

/-- Zeros with the same number of words make the same sums. -/
lemma addInto_zeros {m n : Nat} (same : m / s.width = n / s.width) (value : Bytes) :
    s.addInto (List.replicate m 0) value = s.addInto (List.replicate n 0) value := by
  rw [addInto_eq, addInto_eq, read_zeros, read_zeros, same]

end Summand

/-! ### Buffers -/

namespace Buffer

/-- **Buffers that a step makes the same of**: they have one layout, are filled in one way, and sums
have the same number of words. -/
structure Alike (b b' : Buffer) : Prop where
  /-- The layout. -/
  layout : b'.layout = b.layout
  /-- How values enter. -/
  filling : b'.filling = b.filling
  /-- The number of words of a sum. -/
  words : ∀ summand, b.filling = .sum summand →
    b'.data.length / summand.width = b.data.length / summand.width

/-- **Buffers that the same values enter in the same way.** -/
def FilledAlike (b b' : Buffer) : Prop :=
  ∀ checkNumerics value, fill checkNumerics b' value = fill checkNumerics b value

variable {b b' b'' : Buffer} {buffers buffers' : List Buffer} {checkNumerics : Bool}

lemma Alike.refl (b : Buffer) : Alike b b := ⟨rfl, rfl, fun _ _ => rfl⟩

lemma Alike.symm (h : Alike b b') : Alike b' b :=
  ⟨h.layout.symm, h.filling.symm, fun summand hs => (h.words summand (h.filling ▸ hs)).symm⟩

lemma Alike.trans (h : Alike b b') (h' : Alike b' b'') : Alike b b'' :=
  ⟨h'.layout.trans h.layout, h'.filling.trans h.filling, fun summand hs =>
    (h'.words summand (h.filling.trans hs)).trans (h.words summand hs)⟩

/-- A new step keeps a buffer alike. -/
lemma alike_beginStep (b : Buffer) : Alike b b.beginStep where
  layout := layout_beginStep b
  filling := filling_beginStep b
  words summand hs := by
    rw [data_beginStep, hs, Filling.ready, List.length_replicate]

/-- A value that enters a buffer keeps it alike. -/
lemma alike_of_fill {value : Tensor} (filled : fill checkNumerics b value = .ok b') :
    Alike b b' := by
  obtain ⟨-, rfl⟩ := fill_eq_ok_iff.1 filled
  refine ⟨rfl, rfl, fun summand hs => ?_⟩
  rw [data_take, hs, Filling.enter, summand.words_addInto]

/-- **In a new step, the same values enter alike buffers in the same way.** -/
lemma Alike.filledAlike (h : Alike b b') : FilledAlike b.beginStep b'.beginStep := by
  intro checkNumerics value
  have layout : b'.beginStep.layout = b.beginStep.layout := by simp [h.layout]
  have name : b'.beginStep.name = b.beginStep.name := congrArg Layout.name layout
  have filling : b'.beginStep.filling = b.beginStep.filling := by simp [h.filling]
  -- what is left of the parts at the start of a step is the same, or the value replaces it
  have parts : b'.beginStep.partsWith value.payload = b.beginStep.partsWith value.payload := by
    unfold partsWith
    rw [filling, filling_beginStep]
    cases hf : b.filling with
    | stack => simp [beginStep, h.filling, hf]
    | sum summand =>
      simp only [data_beginStep, h.filling, hf, Filling.ready]
      rw [summand.addInto_zeros (h.words summand hf)]
    | replace => rfl
  unfold fill
  rw [name, layout, filling, parts]

/-- The same values enter buffers in the same way, place by place. -/
lemma fillAll_congr (h : List.Forall₂ FilledAlike buffers buffers') (values : List Tensor) :
    fillAll checkNumerics buffers' values = fillAll checkNumerics buffers values := by
  induction h generalizing values with
  | nil => rfl
  | cons first _ ih =>
    cases values with
    | nil => rfl
    | cons value rest =>
      have others := ih rest
      unfold fillAll at others ⊢
      rw [List.zip_cons_cons, List.zip_cons_cons, List.mapM_cons, List.mapM_cons,
        first checkNumerics value, others]

/-- Micro-batches keep buffers alike. -/
lemma alike_of_fillAll {values : List Tensor} (width : values.length = buffers.length)
    (filled : fillAll checkNumerics buffers values = .ok buffers') :
    List.Forall₂ Alike buffers buffers' := by
  obtain ⟨length, each⟩ := fillAll_eq_ok width filled
  refine List.forall₂_iff_get.2 ⟨length.symm, fun i hi hi' => ?_⟩
  obtain ⟨v, b', -, hb', taken⟩ := each i buffers[i] (List.getElem?_eq_getElem hi)
  rw [List.getElem?_eq_getElem hi', Option.some.injEq] at hb'
  exact alike_of_fill (hb' ▸ taken)

/-- The micro-batches of a step keep buffers alike. -/
lemma alike_of_foldlM_fillAll {values : List (List Tensor)}
    (width : ∀ v ∈ values, v.length = buffers.length)
    (filled : values.foldlM (fillAll checkNumerics) buffers = .ok buffers') :
    List.Forall₂ Alike buffers buffers' := by
  induction values generalizing buffers with
  | nil =>
    cases filled
    exact List.forall₂_same.2 fun b _ => .refl b
  | cons first rest ih =>
    obtain ⟨width_first, width_rest⟩ := List.forall_mem_cons.1 width
    rw [List.foldlM_cons, Outcome.bind_eq_ok_iff] at filled
    obtain ⟨between, entered, filled⟩ := filled
    have before := alike_of_fillAll width_first entered
    have after := ih (fun v hv => (width_rest v hv).trans before.length_eq) filled
    exact forall₂_trans (fun _ _ _ first second => first.trans second) before after

end Buffer

/-! ### Devices -/

namespace HostDevice

/-- **Devices that run alike**: the same program on the same weights and, if it trains, with the
same optimizer. Where they run does not matter. -/
structure Twin (d d' : HostDevice) : Prop where
  /-- The program. -/
  program : d'.program = d.program
  /-- Whether running moves the weights. -/
  training : d'.training = d.training
  /-- Whether the device is attached. -/
  attached : d'.attached = d.attached
  /-- The weights. -/
  weights : d'.weights = d.weights
  /-- The optimizer of a training program. -/
  optimizer : d.training = true → d'.optimizer = d.optimizer

/-- **Twins return the same for a micro-batch**, and stay twins. -/
lemma Twin.execute {d d' : HostDevice} (h : Twin d d') (inputs : List (String × Tensor))
    (wanted : List String) :
    (d'.execute inputs wanted).1 = (d.execute inputs wanted).1 ∧
      Twin (d.execute inputs wanted).2 (d'.execute inputs wanted).2 := by
  obtain ⟨program, training, attached, weights, optimizer⟩ := id h
  unfold HostDevice.execute
  rw [program, training, attached, weights]
  split
  · exact ⟨rfl, h⟩
  split
  · exact ⟨rfl, h⟩
  split
  · exact ⟨rfl, h⟩
  split
  · rename_i trains
    rw [optimizer trains]
    split
    · exact ⟨rfl, h⟩
    split
    · exact ⟨rfl, h⟩
    · exact ⟨rfl, rfl, rfl, rfl, rfl, fun _ => rfl⟩
  · exact ⟨rfl, h⟩

end HostDevice

namespace Session

/-! ### Histories -/

/-- Micro-batches of a step keep the buffers alike, if there is one for each anchor. -/
lemma alike_of_beginStep {s : Session HostDevice} {buffers : List Buffer}
    {values : List (List Tensor)} (wide : s.buffers.length = s.registry.names.length)
    (width : ∀ v ∈ values, v.length = s.registry.names.length)
    (filled : values.foldlM (Buffer.fillAll s.options.checkNumerics)
      (s.buffers.map Buffer.beginStep) = .ok buffers) :
    List.Forall₂ Buffer.Alike s.buffers buffers := by
  have begun : List.Forall₂ Buffer.Alike s.buffers (s.buffers.map Buffer.beginStep) := by
    rw [List.forall₂_map_right_iff, List.forall₂_same]
    exact fun b _ => Buffer.alike_beginStep b
  have wide' : ∀ v ∈ values, v.length = (s.buffers.map Buffer.beginStep).length := by
    intro v hv
    rw [width v hv, List.length_map, wide]
  exact forall₂_trans (fun _ _ _ first second => first.trans second) begun
    (Buffer.alike_of_foldlM_fillAll wide' filled)

/-- Every request keeps the buffers alike. -/
lemma alike_perform {s : Session HostDevice} (wide : s.buffers.length = s.registry.names.length)
    (request : Request) : List.Forall₂ Buffer.Alike s.buffers (s.perform request).2.buffers := by
  have same : List.Forall₂ Buffer.Alike s.buffers s.buffers :=
    List.forall₂_same.2 fun b _ => .refl b
  by_cases step : ∃ inputs, request = .runStep inputs
  · obtain ⟨inputs, rfl⟩ := step
    show List.Forall₂ Buffer.Alike s.buffers (s.runStep inputs).2.buffers
    rcases runStep_cases s inputs with
      ⟨fault, hr, -⟩ | ⟨streams, begins, ⟨fault, s', hr, hm⟩ | ⟨s', hr, hm⟩⟩
    · rw [hr]
      exact same
    · obtain ⟨-, before, inputs, rest, values, device, -, -, width, filled, -⟩ :=
        runMicroBatches_eq_error hm
      rw [hr]
      exact alike_of_beginStep wide width filled
    · obtain ⟨values, -, -, width, filled, -⟩ := runMicroBatches_eq_ok hm
      rw [hr]
      exact alike_of_beginStep wide width filled
  · rw [(outsideStep_perform s fun inputs he => step ⟨inputs, he⟩).buffers]
    exact same

/-- **The buffers of a session stay alike**, whatever is asked of it. -/
lemma alike_after {s : Session HostDevice} (wide : s.buffers.length = s.registry.names.length)
    (requests : List Request) : List.Forall₂ Buffer.Alike s.buffers (s.after requests).buffers := by
  have start : SameSetup s s ∧ List.Forall₂ Buffer.Alike s.buffers s.buffers :=
    ⟨.refl s, List.forall₂_same.2 fun b _ => .refl b⟩
  refine (after_induction (P := fun s' => SameSetup s s' ∧
    List.Forall₂ Buffer.Alike s.buffers s'.buffers) start (fun s' request kept => ?_) requests).2
  obtain ⟨setup, alike⟩ := kept
  have wide' : s'.buffers.length = s'.registry.names.length := by
    rw [← alike.length_eq, wide, setup.registry]
  exact ⟨setup.trans (sameSetup_perform s' request),
    forall₂_trans (fun _ _ _ first second => first.trans second) alike
      (alike_perform wide' request)⟩

/-- A built session has one buffer for each anchor. -/
lemma length_buffers_build {graph : Graph} {flow : DataFlow} {target : Target} {kind : Kind}
    {options : Options} {s : Session HostDevice}
    (built : build HostDevice.backend graph flow target kind options = .ok s) :
    s.buffers.length = s.registry.names.length := by
  obtain ⟨device, registry, buffers, -, -, made, rfl⟩ := build_eq_ok built
  exact (makeBuffers_eq_ok made).1.trans (List.length_map _).symm

/-! ### Micro-batches side by side -/

/-- **Sessions that run a micro-batch alike**: twin devices, the same anchors and buffers that the
same values enter in the same way. -/
structure Paired (s t : Session HostDevice) : Prop where
  /-- The anchors. -/
  registry : t.registry = s.registry
  /-- Whether numbers are checked. -/
  checks : t.options.checkNumerics = s.options.checkNumerics
  /-- The devices. -/
  device : s.device.Twin t.device
  /-- The buffers. -/
  buffers : List.Forall₂ Buffer.FilledAlike s.buffers t.buffers

variable {s t : Session HostDevice}

/-- **One micro-batch of sessions side by side** ends alike. If it succeeds, the buffers are the
same from then on. -/
lemma Paired.runMicroBatch (h : Paired s t) (feed : List (String × Tensor)) :
    (t.runMicroBatch feed).1 = (s.runMicroBatch feed).1 ∧
      Paired (s.runMicroBatch feed).2 (t.runMicroBatch feed).2 ∧
      ((s.runMicroBatch feed).1 = .ok () →
        (t.runMicroBatch feed).2.buffers = (s.runMicroBatch feed).2.buffers) := by
  obtain ⟨registry, checks, device, buffers⟩ := h
  obtain ⟨returned, twins⟩ := device.execute feed s.registry.names
  have taken : ∀ values, t.takeValues values = s.takeValues values := by
    intro values
    rw [takeValues, takeValues, registry, checks, Buffer.fillAll_congr buffers]
  have executed : ∀ d : HostDevice, Device.execute feed s.registry.names d =
      ((d.execute feed s.registry.names).1, (d.execute feed s.registry.names).2) := fun _ => rfl
  unfold Session.runMicroBatch
  simp only [registry, executed, returned, taken]
  cases (s.device.execute feed s.registry.names).1 with
  | error cause =>
    exact ⟨rfl, ⟨rfl, checks, twins, buffers⟩, fun impossible => nomatch impossible⟩
  | ok values =>
    simp only
    cases s.takeValues values with
    | error fault =>
      exact ⟨rfl, ⟨rfl, checks, twins, buffers⟩, fun impossible => nomatch impossible⟩
    | ok filled =>
      exact ⟨rfl, ⟨rfl, checks, twins, List.forall₂_same.2 fun b _ _ _ => rfl⟩, fun _ => rfl⟩

/-- **The micro-batches of sessions side by side** end alike. If there is one and all succeed, the
buffers are the same from then on.

**Proof sketch.** Induction on the micro-batches. The first one makes the buffers the same, so that
the others are run side by side as well. -/
lemma Paired.runMicroBatches (h : Paired s t) (feeds : List (List (String × Tensor))) :
    (t.runMicroBatches feeds).1 = (s.runMicroBatches feeds).1 ∧
      Paired (s.runMicroBatches feeds).2 (t.runMicroBatches feeds).2 ∧
      (feeds ≠ [] → (s.runMicroBatches feeds).1 = .ok () →
        (t.runMicroBatches feeds).2.buffers = (s.runMicroBatches feeds).2.buffers) := by
  induction feeds generalizing s t with
  | nil => exact ⟨rfl, h, fun impossible => absurd rfl impossible⟩
  | cons feed rest ih =>
    obtain ⟨same, paired, buffers⟩ := h.runMicroBatch feed
    simp only [Session.runMicroBatches]
    rcases hs : s.runMicroBatch feed with ⟨result, s'⟩
    rcases ht : t.runMicroBatch feed with ⟨result', t'⟩
    rw [hs, ht] at same paired buffers
    obtain rfl : result' = result := same
    cases result' with
    | error fault =>
      refine ⟨rfl, ⟨paired.registry, paired.checks, paired.device, paired.buffers⟩,
        fun _ impossible => ?_⟩
      cases impossible
    | ok done =>
      obtain ⟨same_rest, paired_rest, buffers_rest⟩ := ih paired
      refine ⟨same_rest, paired_rest, fun _ succeeded => ?_⟩
      by_cases last : rest = []
      · subst rest
        exact buffers rfl
      · exact buffers_rest last succeeded

/-! ### Exported models -/

/-- **A session that can use current weights exports the model with what its device holds.** -/
lemma exportModel_eq {weights : NameMap Parameter} {merged : Exchange.Merged} (h : s.Consistent)
    (usable : s.Usable) (synced : s.weightSync = .synced) (held : s.device.weights = some weights)
    (made : Exchange.mergeWeights s.graph.model (HostDevice.tensors weights) = .ok merged) :
    s.exportModel = (.ok merged.model, { s with weights := HostDevice.tensors weights }) := by
  unfold exportModel
  rcases pullWeights_cases h with ⟨fault, hr, -⟩ | ⟨-, -, weights', held', hr⟩
  · unfold pullWeights at hr
    have read : Device.readWeights s.device = (.ok (HostDevice.tensors weights), s.device) := by
      show s.device.readWeights = _
      rw [HostDevice.readWeights, held]
      rfl
    simp [requireDevice_eq_ok_iff.2 usable, synced, read] at hr
  · obtain rfl : weights' = weights := Option.some.inj (held'.symm.trans held)
    simp only [hr, made]

/-- **What a session exports** is the model with what its device holds. -/
lemma exportModel_eq_ok {model : Bytes} (h : s.Consistent)
    (exported : s.exportModel.1 = .ok model) :
    s.Usable ∧ s.weightSync = .synced ∧ ∃ weights merged, s.device.weights = some weights ∧
      Exchange.mergeWeights s.graph.model (HostDevice.tensors weights) = .ok merged ∧
      merged.model = model ∧
      s.exportModel.2 = { s with weights := HostDevice.tensors weights } := by
  rcases exportModel_cases h with ⟨fault, hr, -⟩ | ⟨usable, synced, weights, model', held, hr⟩
  · rw [hr] at exported
    cases exported
  · obtain ⟨merged, made⟩ := h.mergeable (HostDevice.tensors weights)
    have same := exportModel_eq h usable synced held made
    rw [same] at exported
    exact ⟨usable, synced, weights, merged, held, made, Except.ok.inj exported, by rw [same]⟩

/-! ### Steps side by side -/

/-- **Sessions that take the same steps**: both are ready, with the same data flow and anchors, on
twin devices and with alike buffers, and the same weights make the same models of theirs. What the
host has kept does not matter. -/
structure InStep (s t : Session HostDevice) : Prop where
  /-- The marks of the one are true. -/
  consistent_left : s.Consistent
  /-- The marks of the other are true. -/
  consistent_right : t.Consistent
  /-- The one is ready. -/
  ready_left : s.requireReady = .ok ()
  /-- The other is ready. -/
  ready_right : t.requireReady = .ok ()
  /-- The data flow. -/
  flow : t.flow = s.flow
  /-- The anchors. -/
  registry : t.registry = s.registry
  /-- Whether numbers are checked. -/
  checks : t.options.checkNumerics = s.options.checkNumerics
  /-- The devices. -/
  device : s.device.Twin t.device
  /-- There is one buffer for each anchor. -/
  wide : s.buffers.length = s.registry.names.length
  /-- The buffers. -/
  buffers : List.Forall₂ Buffer.Alike s.buffers t.buffers
  /-- The models with new weights. -/
  models : ∀ weights : WeightStore, weights.names = s.device.program.weights.names →
    Exchange.mergeWeights t.graph.model weights = Exchange.mergeWeights s.graph.model weights

namespace InStep

/-- Sessions in step are paired when a step begins. -/
lemma paired (h : InStep s t) : Paired s.beginStep t.beginStep where
  registry := h.registry
  checks := h.checks
  device := h.device
  buffers := by
    show List.Forall₂ _ (s.buffers.map Buffer.beginStep) (t.buffers.map Buffer.beginStep)
    rw [List.forall₂_map_left_iff, List.forall₂_map_right_iff]
    exact h.buffers.imp fun _ _ alike => alike.filledAlike

/-- Sessions in step are so again after a step that succeeds for both. -/
lemma of_runStep (h : InStep s t) {inputs : StepInputs} {s' t' : Session HostDevice}
    (run : s.runStep inputs = (.ok (), s')) (run' : t.runStep inputs = (.ok (), t'))
    (twins : s'.device.Twin t'.device) (same : t'.buffers = s'.buffers) : InStep s' t' := by
  have left := transition_perform h.consistent_left (.runStep inputs)
  have right := transition_perform h.consistent_right (.runStep inputs)
  have alike := alike_perform h.wide (.runStep inputs)
  simp only [perform, run] at left alike
  simp only [perform, run'] at right
  have program := left.program_eq
  obtain ⟨usable, synced, fresh⟩ := requireReady_eq_ok_iff.1 h.ready_left
  obtain ⟨usable', synced', fresh'⟩ := requireReady_eq_ok_iff.1 h.ready_right
  obtain ⟨-, -, -, -, -, -, -, made⟩ := runStep_eq_ok run
  obtain ⟨-, -, -, -, -, -, -, made'⟩ := runStep_eq_ok run'
  refine ⟨left.consistent h.consistent_left, right.consistent h.consistent_right, ?_, ?_, ?_, ?_,
    ?_, twins, ?_, ?_, ?_⟩
  · rw [made]
    exact requireReady_eq_ok_iff.2 ⟨.inr rfl, synced, fresh⟩
  · rw [made']
    exact requireReady_eq_ok_iff.2 ⟨.inr rfl, synced', fresh'⟩
  · rw [made, made']
    exact h.flow
  · rw [made, made']
    exact h.registry
  · rw [made, made']
    exact h.checks
  · have registry : s'.registry = s.registry := by rw [made]
    rw [← alike.length_eq, registry, h.wide]
  · rw [same]
    exact List.forall₂_same.2 fun b _ => .refl b
  · have graph : s'.graph = s.graph := by rw [made]
    have graph' : t'.graph = t.graph := by rw [made']
    rw [program, graph, graph']
    exact h.models

/-- **One step of sessions in step**: it is refused by both and changes neither, it faults both, or
it succeeds for both, which are in step again with the same buffers.

**Proof sketch.** The inputs are checked against the same program, and cut into the same
micro-batches, of which there is at least one. -/
lemma runStep (h : InStep s t) (inputs : StepInputs) :
    (∃ fault, s.runStep inputs = (.error fault, s) ∧ t.runStep inputs = (.error fault, t)) ∨
      (∃ fault s' t', s.runStep inputs = (.error fault, s') ∧
        t.runStep inputs = (.error fault, t') ∧ s'.state = .faulted ∧ t'.state = .faulted) ∨
      ∃ s' t', s.runStep inputs = (.ok (), s') ∧ t.runStep inputs = (.ok (), t') ∧ InStep s' t' ∧
        t'.buffers = s'.buffers := by
  have signature : Device.signature t.device = Device.signature s.device :=
    congrArg Program.signature h.device.program
  have checked : inputs.streams (Device.signature t.device).inputs s.flow.microBatches =
      inputs.streams (Device.signature s.device).inputs s.flow.microBatches := by
    rw [signature]
  cases hc : inputs.streams (Device.signature s.device).inputs s.flow.microBatches with
  | error fault =>
    rw [hc] at checked
    refine .inl ⟨fault, ?_, ?_⟩
    · simp only [Session.runStep, h.ready_left, hc]
    · simp only [Session.runStep, h.ready_right, h.flow, checked]
  | ok streams =>
    rw [hc] at checked
    have some_feed : Stream.feeds streams s.flow.microBatches ≠ [] := by
      rw [← List.length_pos_iff, length_feeds]
      exact s.flow.microBatches_pos
    obtain ⟨result, paired, buffers⟩ :=
      h.paired.runMicroBatches (Stream.feeds streams s.flow.microBatches)
    rcases hs : s.beginStep.runMicroBatches (Stream.feeds streams s.flow.microBatches) with ⟨r, s'⟩
    rcases ht : t.beginStep.runMicroBatches (Stream.feeds streams s.flow.microBatches) with ⟨r', t'⟩
    rw [hs, ht] at result paired buffers
    obtain rfl : r' = r := result
    cases r' with
    | error fault =>
      refine .inr (.inl ⟨fault, s', t', ?_, ?_, ?_, ?_⟩)
      · simp only [Session.runStep, h.ready_left, hc, hs]
      · simp only [Session.runStep, h.ready_right, h.flow, checked, ht]
      · rw [(runMicroBatches_eq_error hs).1]
      · rw [(runMicroBatches_eq_error ht).1]
    | ok done =>
      have run : s.runStep inputs = (.ok (), { s' with steps := s'.steps + 1 }) := by
        simp only [Session.runStep, h.ready_left, hc, hs]
      have run' : t.runStep inputs = (.ok (), { t' with steps := t'.steps + 1 }) := by
        simp only [Session.runStep, h.ready_right, h.flow, checked, ht]
      have same := buffers some_feed rfl
      exact .inr (.inr ⟨_, _, run, run', h.of_runStep run run' paired.device same, same⟩)

/-- Sessions in step with the same buffers show the same anchors. -/
lemma anchors_eq (h : InStep s t) (same : t.buffers = s.buffers) : t.anchors = s.anchors := by
  have live : ∀ {u : Session HostDevice}, u.requireReady = .ok () → u.requireLive = .ok () := by
    intro u ready
    obtain ⟨usable | usable, -⟩ := requireReady_eq_ok_iff.1 ready <;> simp [requireLive, usable]
  rw [anchors, anchors, live h.ready_left, live h.ready_right, same]

/-- **Sessions in step export the same model.** -/
lemma exportModel_eq (h : InStep s t) : t.exportModel.1 = s.exportModel.1 := by
  obtain ⟨usable, synced, -⟩ := requireReady_eq_ok_iff.1 h.ready_left
  obtain ⟨usable', synced', -⟩ := requireReady_eq_ok_iff.1 h.ready_right
  obtain ⟨weights, held, -⟩ := h.consistent_left.weights usable synced
  obtain ⟨merged, made⟩ := h.consistent_left.mergeable (HostDevice.tensors weights)
  have names : (HostDevice.tensors weights).names = s.device.program.weights.names := by
    rw [← h.consistent_left.held weights held, ← HostDevice.mapValues_info_tensors,
      NameMap.names_mapValues]
  have made' := (h.models _ names).trans made
  have held' := h.device.weights.trans held
  rw [Session.exportModel_eq h.consistent_left usable synced held made,
    Session.exportModel_eq h.consistent_right usable' synced' held' made']

end InStep

/-! ### Runs side by side -/

section Play

variable {D : Type} [Device D]

/-- **Runs steps in order**, and keeps what each of them hands out. -/
def play (s : Session D) :
    List StepInputs → List (Except Fault (List (String × Tensor))) × Session D
  | [] => ([], s)
  | inputs :: rest =>
    let (result, s) := s.runStepSnapshot inputs
    let (results, s) := s.play rest
    (result :: results, s)

lemma play_cons (s : Session D) (inputs : StepInputs) (rest : List StepInputs) :
    s.play (inputs :: rest) =
      ((s.runStepSnapshot inputs).1 :: ((s.runStepSnapshot inputs).2.play rest).1,
        ((s.runStepSnapshot inputs).2.play rest).2) := rfl

/-- A faulted session runs no step. -/
lemma play_of_faulted {s : Session D} (faulted : s.state = .faulted) (inputs : List StepInputs) :
    s.play inputs = (inputs.map fun _ => .error .sessionFaulted, s) := by
  induction inputs with
  | nil => rfl
  | cons first rest ih =>
    have refused : s.runStepSnapshot first = (.error .sessionFaulted, s) := by
      rw [runStepSnapshot, runStep, requireReady, requireDevice_of_faulted faulted]
    rw [play_cons, refused, ih, List.map_cons]

end Play

/-- **No steps tell two sessions apart**: whatever steps are run in both, they hand out the same,
and the exported models are the same afterwards. So are the anchors, unless all steps were refused:
then neither session has changed, and each still shows what it has shown before. -/
structure SameSteps (s t : Session HostDevice) : Prop where
  /-- What the steps hand out. -/
  results : ∀ inputs, (t.play inputs).1 = (s.play inputs).1
  /-- The anchors afterwards. -/
  anchors : ∀ inputs, (t.play inputs).2.anchors = (s.play inputs).2.anchors ∨
    ((s.play inputs).2 = s ∧ (t.play inputs).2 = t)
  /-- The exported models afterwards. -/
  exports : ∀ inputs, (t.play inputs).2.exportModel.1 = (s.play inputs).2.exportModel.1

/-- **Steps of sessions in step** hand out the same. Afterwards both sessions are as they were, or
both are faulted, or they are in step with the same buffers.

**Proof sketch.** Induction on the steps. A step that is refused leaves both sessions alone, so the
others start from the same sessions; after a step that faults both, nothing runs. -/
lemma InStep.play (h : InStep s t) (inputs : List StepInputs) :
    (t.play inputs).1 = (s.play inputs).1 ∧
      (((s.play inputs).2 = s ∧ (t.play inputs).2 = t) ∨
        ((s.play inputs).2.state = .faulted ∧ (t.play inputs).2.state = .faulted) ∨
        (InStep (s.play inputs).2 (t.play inputs).2 ∧
          (t.play inputs).2.buffers = (s.play inputs).2.buffers)) := by
  induction inputs generalizing s t with
  | nil => exact ⟨rfl, .inl ⟨rfl, rfl⟩⟩
  | cons first rest ih =>
    rw [play_cons, play_cons]
    rcases h.runStep first with ⟨fault, hs, ht⟩ | ⟨fault, s', t', hs, ht, faulted, faulted'⟩ |
      ⟨s', t', hs, ht, next, same⟩
    · simp only [runStepSnapshot, hs, ht]
      obtain ⟨results, ends⟩ := ih h
      exact ⟨by rw [results], ends⟩
    · simp only [runStepSnapshot, hs, ht, play_of_faulted faulted, play_of_faulted faulted']
      exact ⟨trivial, .inr (.inl ⟨faulted, faulted'⟩)⟩
    · simp only [runStepSnapshot, hs, ht, next.anchors_eq same]
      obtain ⟨results, unchanged | ends⟩ := ih next
      · exact ⟨by rw [results], .inr (.inr (by rw [unchanged.1, unchanged.2]; exact ⟨next, same⟩))⟩
      · exact ⟨by rw [results], .inr ends⟩

/-- **No steps tell sessions in step apart.** -/
lemma InStep.sameSteps (h : InStep s t) : SameSteps s t where
  results inputs := (h.play inputs).1
  anchors inputs := by
    rcases (h.play inputs).2 with unchanged | ⟨faulted, faulted'⟩ | ⟨next, same⟩
    · exact .inr unchanged
    · exact .inl ((anchors_of_faulted faulted').trans (anchors_of_faulted faulted).symm)
    · exact .inl (next.anchors_eq same)
  exports inputs := by
    rcases (h.play inputs).2 with ⟨hs, ht⟩ | ⟨faulted, faulted'⟩ | ⟨next, -⟩
    · rw [hs, ht, h.exportModel_eq]
    · rw [exportModel, exportModel, pullWeights, pullWeights, requireDevice_of_faulted faulted,
        requireDevice_of_faulted faulted']
    · exact next.exportModel_eq

/-! ### Sessions with one start -/

/-- **Sessions with one start**: the same program, data flow, anchors and buffers, and models that
new weights make the same. Weights, optimizer and place may differ. -/
structure SameStart (s₀ t₀ : Session HostDevice) : Prop where
  /-- The marks of the one are true. -/
  consistent_left : s₀.Consistent
  /-- The marks of the other are true. -/
  consistent_right : t₀.Consistent
  /-- The program. -/
  program : t₀.device.program = s₀.device.program
  /-- Whether running moves the weights. -/
  training : t₀.device.training = s₀.device.training
  /-- The data flow. -/
  flow : t₀.flow = s₀.flow
  /-- The anchors. -/
  registry : t₀.registry = s₀.registry
  /-- Whether numbers are checked. -/
  checks : t₀.options.checkNumerics = s₀.options.checkNumerics
  /-- The buffers. -/
  buffers : t₀.buffers = s₀.buffers
  /-- There is one buffer for each anchor. -/
  wide : s₀.buffers.length = s₀.registry.names.length
  /-- The models with new weights. -/
  models : ∀ weights : WeightStore, weights.names = s₀.device.program.weights.names →
    Exchange.mergeWeights t₀.graph.model weights = Exchange.mergeWeights s₀.graph.model weights

variable {s₀ t₀ : Session HostDevice}

/-- **Sessions that are built from graphs with one program have one start**, wherever they run. -/
lemma sameStart_of_build {graph graph' : Graph} {flow : DataFlow} {target target' : Target}
    {kind kind' : Kind} {options : Options}
    (built : build HostDevice.backend graph flow target kind options = .ok s₀)
    (built' : build HostDevice.backend graph' flow target' kind' options = .ok t₀)
    (compiled : Program.compile graph' kind' = Program.compile graph kind)
    (trains : kind'.isTraining = kind.isTraining)
    (models : ∀ weights : WeightStore, weights.names = graph.weights.names →
      Exchange.mergeWeights graph'.model weights = Exchange.mergeWeights graph.model weights) :
    SameStart s₀ t₀ := by
  have consistent := consistent_build built
  have consistent' := consistent_build built'
  have wide := length_buffers_build built
  obtain ⟨device, registry, buffers, hd, hr, hb, rfl⟩ := build_eq_ok built
  obtain ⟨device', registry', buffers', hd', hr', hb', rfl⟩ := build_eq_ok built'
  obtain ⟨program, hp, rfl⟩ := HostDevice.compile_eq_ok hd
  obtain ⟨program', hp', rfl⟩ := HostDevice.compile_eq_ok hd'
  obtain rfl : program' = program := Except.ok.inj ((hp'.symm.trans compiled).trans hp)
  obtain rfl : registry' = registry := Except.ok.inj (hr'.symm.trans hr)
  obtain rfl : buffers' = buffers := Except.ok.inj (hb'.symm.trans hb)
  refine ⟨consistent, consistent', rfl, trains, rfl, rfl, rfl, rfl, wide, fun weights names => ?_⟩
  refine models weights ?_
  rw [names, ← consistent.expected, NameMap.names_mapValues]

/-- **Sessions with one start are in step** once they are ready and their devices hold the same,
whatever has been asked of each of them. -/
lemma SameStart.inStep (start : SameStart s₀ t₀) {requests requests' : List Request}
    (ready : (s₀.after requests).requireReady = .ok ())
    (ready' : (t₀.after requests').requireReady = .ok ())
    (weights : (t₀.after requests').device.weights = (s₀.after requests).device.weights)
    (optimizer : (s₀.after requests).optimizer.isSome →
      (t₀.after requests').device.optimizer = (s₀.after requests).device.optimizer) :
    InStep (s₀.after requests) (t₀.after requests') := by
  have consistent := consistent_after start.consistent_left requests
  have consistent' := consistent_after start.consistent_right requests'
  have setup := sameSetup_after s₀ requests
  have setup' := sameSetup_after t₀ requests'
  obtain ⟨program, training⟩ := program_after start.consistent_left requests
  obtain ⟨program', training'⟩ := program_after start.consistent_right requests'
  have alike := alike_after start.wide requests
  have alike' := alike_after (by rw [start.buffers, start.registry, start.wide]) requests'
  have attached : (t₀.after requests').device.attached = (s₀.after requests).device.attached := by
    rw [consistent.attached, consistent'.attached,
      consistent.usable (requireReady_eq_ok_iff.1 ready).1,
      consistent'.usable (requireReady_eq_ok_iff.1 ready').1]
  refine ⟨consistent, consistent', ready, ready', ?flow, ?registry, ?checks,
    ⟨?program, ?training, attached, weights, fun trains => optimizer ?_⟩, ?wide, ?buffers, ?models⟩
  case flow => rw [setup.flow, setup'.flow, start.flow]
  case registry => rw [setup.registry, setup'.registry, start.registry]
  case checks => rw [setup.options, setup'.options, start.checks]
  case program => rw [program, program', start.program]
  case training => rw [training, training', start.training]
  case wide => rw [← alike.length_eq, setup.registry, start.wide]
  case buffers =>
    rw [start.buffers] at alike'
    have back := List.Forall₂.flip (alike.imp fun _ _ same => same.symm)
    exact forall₂_trans (fun _ _ _ first second => first.trans second) back alike'
  case models =>
    rw [setup.graph, setup'.graph, program]
    exact start.models
  · exact consistent.training.symm.trans trains

end Session

end Microbatch
