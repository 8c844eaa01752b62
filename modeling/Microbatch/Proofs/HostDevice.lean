import Mathlib.Logic.Relation
import Microbatch.Device.Host
import Microbatch.Proofs.Names
import Microbatch.Proofs.Requests

set_option relaxedAutoImplicit false
set_option autoImplicit false

/-!
# What the host does as a device

The device takes weights as lists of numbers and hands them back as tensors. Nothing is lost on
the way: a store with the described weights comes back as it went in. Running micro-batches
moves nothing but the weights of a training program, by steps of descent that keep their shapes.

## Main definitions

* `Microbatch.HostDevice.tensors`, `Microbatch.HostDevice.described` — weights on the device as
  tensors, and their descriptions.
* `Microbatch.HostDevice.Descends` — one step of descent.
* `Microbatch.HostDevice.Ran` — what running micro-batches does to a device.
* `Microbatch.DeviceFault.isLack`, `Microbatch.Supplied` — the faults of a device that was not
  given what it needs, and checks that do not end with them.

## Main results

* `Microbatch.HostDevice.tensors_parameters` — a store that is handed over is what the device
  holds.
* `Microbatch.HostDevice.ran_executeAll` — micro-batches move the weights only.
* `Microbatch.HostDevice.isLack_execute` — a device that has what it needs never lacks it.
-/

namespace Microbatch

/-! ### Compiling -/

open Exchange in
/-- **What compiling a graph goes through.** -/
lemma Program.compile_eq_ok {graph : Graph} {kind : Kind} {program : Program}
    (h : compile graph kind = .ok program) : ∃ message graphMessage infos,
      ModelMessage.decode graph.model = .ok message ∧ message.requireGraph = .ok graphMessage ∧
      checkSources (sources graph) = .ok () ∧
      typeNodes (sources graph) graphMessage.nodes = .ok (program.nodes, infos) ∧
      typeLosses infos kind.losses = .ok program.infos ∧ program.losses = kind.losses ∧
      (program.weights = graph.weights.mapValues fun _ t => t.info) ∧
      program.trainable = trainableWeights program.weights program.nodes kind ∧
      program.signature = ⟨graph.inputs, outputs program.infos program.trainable⟩ := by
  unfold compile at h
  obtain ⟨message, hm, h⟩ := Outcome.bind_eq_ok_iff.1 h
  obtain ⟨graphMessage, hg, h⟩ := Outcome.bind_eq_ok_iff.1 h
  obtain ⟨checked, hc, h⟩ := Outcome.bind_eq_ok_iff.1 h
  obtain ⟨⟨nodes, infos⟩, hn, h⟩ := Outcome.bind_eq_ok_iff.1 h
  obtain ⟨all, hl, h⟩ := Outcome.bind_eq_ok_iff.1 h
  split at h
  · cases h
  · cases h
    exact ⟨message, graphMessage, infos, Outcome.mapError_eq_ok_iff.1 hm,
      Outcome.mapError_eq_ok_iff.1 hg, hc, hn, hl, rfl, rfl, rfl, rfl⟩

/-- The model that new weights make of a model that can be read. -/
lemma Exchange.mergeWeights_eq_of_decode {model : Bytes} {message : ModelMessage}
    {graphMessage : GraphMessage} (decoded : ModelMessage.decode model = .ok message)
    (found : message.requireGraph = .ok graphMessage) (weights : WeightStore) :
    mergeWeights model weights = .ok
      { model := ModelMessage.encode { message with graph := some (graphMessage.update weights) }
        unplaced := weights.names.filter fun name =>
          !(graphMessage.initializers.map (·.name)).contains name } := by
  rw [mergeWeights, decoded, Outcome.ok_bind, found, Outcome.ok_bind]
  rfl

/-- Weights can be put into a model that can be read. -/
lemma Exchange.mergeWeights_of_decode {model : Bytes} {message : ModelMessage}
    {graphMessage : GraphMessage} (decoded : ModelMessage.decode model = .ok message)
    (found : message.requireGraph = .ok graphMessage) (weights : WeightStore) :
    ∃ merged, mergeWeights model weights = .ok merged :=
  ⟨_, mergeWeights_eq_of_decode decoded found weights⟩

/-- A device for the host has the compiled program, and nothing else yet. -/
lemma HostDevice.compile_eq_ok {graph : Graph} {kind : Kind} {target : Target} {d : HostDevice}
    (h : HostDevice.backend.compile graph kind target = .ok d) : ∃ program,
      Program.compile graph kind = .ok program ∧
      d = { target := target, program := program, training := kind.isTraining } := by
  unfold backend at h
  simp only at h
  split at h
  · rename_i program hp
    exact ⟨program, hp, (Except.ok.inj h).symm⟩
  · cases h

/-! ### Weights on the device -/

namespace HostDevice

/-- **The weights on a device as tensors**, as it hands them back. -/
def tensors (weights : NameMap Parameter) : WeightStore :=
  weights.mapValues fun _ p => .ofSingles p.shape p.values

/-- The descriptions of weights on a device. -/
def described (weights : NameMap Parameter) : NameMap TensorInfo :=
  weights.mapValues fun _ p => ⟨.float32, p.shape⟩

lemma mapValues_info_tensors (weights : NameMap Parameter) :
    ((tensors weights).mapValues fun _ t => t.info) = described weights :=
  NameMap.mapValues_mapValues _ _ _

/-- The device takes a weight that has the expected description, and its payload word by word. -/
lemma parameter_eq_ok {store : WeightStore} {name : String} {info : TensorInfo} {p : Parameter}
    (h : parameter store name info = .ok p) :
    info = ⟨.float32, p.shape⟩ ∧ store.find? name = some (.ofSingles p.shape p.values) := by
  unfold parameter at h
  split at h
  · cases h
  rename_i t found
  split at h
  · rename_i same
    obtain ⟨values, hv, rfl⟩ := Outcome.map_eq_ok_iff.1 h
    have singles := Outcome.mapError_eq_ok_iff.1 hv
    unfold Tensor.toSingles Tensor.singlesOfBytes at singles
    split at singles
    · rename_i float
      split at singles
      · rename_i whole
        cases singles
        have description : info = ⟨.float32, info.shape⟩ := by rw [← same, ← float]
        refine ⟨description, ?_⟩
        rw [found, Tensor.ofSingles, Single.bytesOfList_listOfBytes _ whole, ← description, ← same]
      · cases singles
    · cases singles
  · cases h

/-- The device takes one parameter for every weight that it expects. -/
lemma find?_parameters {infos : NameMap TensorInfo} {store : WeightStore}
    {weights : NameMap Parameter} (h : parameters infos store = .ok weights) :
    weights.names = infos.names ∧ ∀ name p, weights.find? name = some p → ∃ info,
      infos.find? name = some info ∧ parameter store name info = .ok p := by
  unfold parameters at h
  obtain ⟨entries, he, made⟩ := Outcome.bind_eq_ok_iff.1 h
  obtain rfl : NameMap.ofList entries = weights := Except.ok.inj made
  have taken : List.Forall₂ (fun e p => ∃ value, parameter store e.1 e.2 = .ok value ∧
      p = (e.1, value)) infos.entries entries := by
    refine (Outcome.mapM_eq_ok_iff.1 he).imp fun e p hp => ?_
    obtain ⟨value, hv, same⟩ := Outcome.bind_eq_ok_iff.1 hp
    exact ⟨value, hv, (Except.ok.inj same).symm⟩
  have names : entries.map (·.1) = infos.names := by
    have firsts : List.Forall₂ (fun e p => e.1 = p.1) infos.entries entries := by
      refine taken.imp fun e p hp => ?_
      obtain ⟨value, -, rfl⟩ := hp
      rfl
    exact (Outcome.forall₂_eq_iff_map.1 (List.forall₂_map_right_iff.2 firsts)).symm
  have same_entries := NameMap.ofList_eq_of_names names
  refine ⟨by rw [← names, NameMap.names, same_entries], fun name p hp => ?_⟩
  have member : (name, p) ∈ entries := by
    rw [← same_entries]
    exact NameMap.find?_eq_some_iff.1 hp
  obtain ⟨e, he, value, hv, same⟩ := Outcome.exists_of_forall₂_right taken member
  cases same
  exact ⟨e.2, NameMap.find?_of_mem_entries he, hv⟩

/-- What the device takes has the descriptions that it expects. -/
lemma described_parameters {infos : NameMap TensorInfo} {store : WeightStore}
    {weights : NameMap Parameter} (h : parameters infos store = .ok weights) :
    described weights = infos := by
  obtain ⟨names, each⟩ := find?_parameters h
  refine NameMap.ext_find? fun name => ?_
  rw [described, NameMap.find?_mapValues]
  cases hp : weights.find? name with
  | none =>
    have unknown : name ∉ infos.names := by
      rw [← names]
      exact NameMap.find?_eq_none_iff.1 hp
    rw [NameMap.find?_eq_none_iff.2 unknown]
    rfl
  | some p =>
    obtain ⟨info, hi, taken⟩ := each name p hp
    rw [hi, (parameter_eq_ok taken).1]
    rfl

/-- **A store that is handed over is what the device holds**, if it has the weights that the
device expects and no others. -/
lemma tensors_parameters {infos : NameMap TensorInfo} {store : WeightStore}
    {weights : NameMap Parameter} (h : parameters infos store = .ok weights)
    (same : (store.mapValues fun _ t => t.info) = infos) : tensors weights = store := by
  obtain ⟨names, each⟩ := find?_parameters h
  refine NameMap.ext_find? fun name => ?_
  rw [tensors, NameMap.find?_mapValues]
  cases hp : weights.find? name with
  | none =>
    have unknown : name ∉ store.names := by
      rw [← NameMap.names_mapValues (fun _ t => t.info) store, same, ← names]
      exact NameMap.find?_eq_none_iff.1 hp
    rw [NameMap.find?_eq_none_iff.2 unknown]
    rfl
  | some p =>
    obtain ⟨info, -, taken⟩ := each name p hp
    rw [(parameter_eq_ok taken).2]
    rfl

/-! ### Descent -/

/-- **One step of descent** on the weights that a program trains. -/
def Descends (program : Program) (weights weights' : NameMap Parameter) : Prop :=
  ∃ optimizer gradients, weights' = descend program.trainable optimizer gradients weights

/-- Descent keeps the shapes of weights. -/
lemma Descends.described_eq {program : Program} {weights weights' : NameMap Parameter}
    (h : Descends program weights weights') : described weights' = described weights := by
  obtain ⟨optimizer, gradients, rfl⟩ := h
  rw [described, descend, NameMap.mapValues_mapValues]
  refine NameMap.mapValues_congr fun name p _ => ?_
  split
  · split <;> rfl
  · rfl

/-- Several steps of descent keep the shapes of weights. -/
lemma described_of_descends {program : Program} {weights weights' : NameMap Parameter}
    (h : Relation.ReflTransGen (Descends program) weights weights') :
    described weights' = described weights := by
  induction h with
  | refl => rfl
  | tail _ last ih => rw [last.described_eq, ih]

/-- **What running micro-batches does to a device**: all but the weights stays, and those of a
training program move by steps of descent. -/
structure Ran (d d' : HostDevice) : Prop where
  /-- All but the weights stays. -/
  same : d' = { d with weights := d'.weights }
  /-- Without training the weights stay as well. -/
  kept : d.training = false → d'.weights = d.weights
  /-- The weights move by steps of descent. -/
  moved : ∀ weights, d.weights = some weights → ∃ weights', d'.weights = some weights' ∧
    Relation.ReflTransGen (Descends d.program) weights weights'

section

variable {d d' : HostDevice} (h : Ran d d')
include h

lemma Ran.program_eq : d'.program = d.program := by rw [h.same]

lemma Ran.training_eq : d'.training = d.training := by rw [h.same]

lemma Ran.attached_eq : d'.attached = d.attached := by rw [h.same]

lemma Ran.optimizer_eq : d'.optimizer = d.optimizer := by rw [h.same]

end

lemma Ran.refl (d : HostDevice) : Ran d d :=
  ⟨rfl, fun _ => rfl, fun weights h => ⟨weights, h, .refl⟩⟩

lemma Ran.trans {d d' d'' : HostDevice} (h : Ran d d') (h' : Ran d' d'') : Ran d d'' := by
  refine ⟨?_, fun inference => ?_, fun weights hw => ?_⟩
  · rw [h'.same, h.same]
  · rw [h'.kept (h.training_eq.trans inference), h.kept inference]
  · obtain ⟨between, hb, first⟩ := h.moved weights hw
    obtain ⟨last, hl, second⟩ := h'.moved between hb
    rw [h.program_eq] at second
    exact ⟨last, hl, first.trans second⟩

/-- The descriptions of the weights of a device stay when it runs. -/
lemma Ran.described_eq {d d' : HostDevice} (h : Ran d d') {weights weights' : NameMap Parameter}
    (hw : d.weights = some weights) (hw' : d'.weights = some weights') :
    described weights' = described weights := by
  obtain ⟨found, hf, moves⟩ := h.moved weights hw
  obtain rfl : found = weights' := Option.some.inj (hf.symm.trans hw')
  exact described_of_descends moves

/-- **One micro-batch moves the weights only.** -/
lemma ran_execute (inputs : List (String × Tensor)) (wanted : List String) (d : HostDevice) :
    Ran d (execute inputs wanted d).2 := by
  unfold execute
  split
  · exact .refl d
  split
  · exact .refl d
  rename_i weights held
  split
  · exact .refl d
  split
  · rename_i training
    split
    · exact .refl d
    split
    · exact .refl d
    rename_i optimizer _ _ gradients _
    refine ⟨rfl, fun inference => ?_, fun before hb => ?_⟩
    · rw [training] at inference
      cases inference
    · obtain rfl : weights = before := Option.some.inj (held.symm.trans hb)
      exact ⟨_, rfl, .single ⟨optimizer, gradients, rfl⟩⟩
  · exact .refl d

/-- **Micro-batches move the weights only.** -/
lemma ran_executeAll (wanted : List String) (d : HostDevice)
    (feeds : List (List (String × Tensor))) :
    Ran d (Session.executeAll wanted d feeds).2 := by
  induction feeds generalizing d with
  | nil => exact .refl d
  | cons inputs rest ih =>
    unfold Session.executeAll
    have first : Ran d (Device.execute inputs wanted d).2 := ran_execute inputs wanted d
    split
    · rename_i h
      rwa [h] at first
    · rename_i next h
      rw [h] at first
      exact first.trans (ih next)

end HostDevice

/-! ### What a device may lack -/

/-- **The faults of a device that lacks what it should have been given**: it is not attached, or
it was given no weights or no optimizer. -/
def DeviceFault.isLack : DeviceFault → Bool
  | notAttached => true
  | noWeights => true
  | weightsNeverWritten => true
  | optimizerNeverWritten => true
  | _ => false

/-- **A check that does not end with a lack.** -/
def Supplied {α : Type} (x : Except DeviceFault α) : Prop :=
  ∀ cause, x = .error cause → cause.isLack = false

namespace Supplied

variable {α β : Type}

lemma ok (a : α) : Supplied (.ok a) := fun _ h => nomatch h

lemma error {cause : DeviceFault} (h : cause.isLack = false) :
    Supplied (.error cause : Except DeviceFault α) := by
  rintro _ ⟨⟩
  exact h

/-- Two steps do not end with a lack if neither does. -/
lemma bind {x : Except DeviceFault α} {f : α → Except DeviceFault β} (hx : Supplied x)
    (hf : ∀ a, Supplied (f a)) : Supplied (x >>= f) := by
  intro cause h
  rcases Outcome.bind_eq_error_iff.1 h with h | ⟨a, -, h⟩
  · exact hx cause h
  · exact hf a cause h

lemma map {x : Except DeviceFault α} {f : α → β} (hx : Supplied x) : Supplied (x.map f) :=
  fun cause h => hx cause (Outcome.map_eq_error_iff.1 h)

/-- A tensor that is refused is no lack. -/
lemma mapError_tensor (x : Except TensorFault α) : Supplied (x.mapError .tensor) := by
  intro cause h
  obtain ⟨refused, -, rfl⟩ := Outcome.mapError_eq_error_iff.1 h
  rfl

lemma mapM {f : α → Except DeviceFault β} {xs : List α} (hf : ∀ a, Supplied (f a)) :
    Supplied (xs.mapM f) := by
  intro cause h
  obtain ⟨x, -, hx⟩ := Outcome.exists_of_mapM_eq_error h
  exact hf x cause hx

lemma foldlM {f : β → α → Except DeviceFault β} {xs : List α} {b : β}
    (hf : ∀ b a, Supplied (f b a)) : Supplied (xs.foldlM f b) := by
  intro cause h
  obtain ⟨x, -, b', hx⟩ := Outcome.exists_of_foldlM_eq_error h
  exact hf b' x cause hx

lemma foldrM {f : α → β → Except DeviceFault β} {xs : List α} {b : β}
    (hf : ∀ a b, Supplied (f a b)) : Supplied (xs.foldrM f b) := by
  intro cause h
  obtain ⟨x, -, b', hx⟩ := Outcome.exists_of_foldrM_eq_error h
  exact hf x b' cause hx

end Supplied

section Programs

variable {F : Type} (values : Values F)

/-- A value that is not there is no lack of the device. -/
lemma supplied_read (name : String) : Supplied (values.read name) := by
  unfold Values.read
  split
  · exact .ok _
  · exact .error rfl

variable [Scalar F]

lemma supplied_evaluate (e : Expression) : Supplied (e.evaluate values) := by
  cases e with
  | matmul size left right =>
    exact (supplied_read values left).bind fun _ => (supplied_read values right).bind fun _ => .ok _
  | add left right =>
    exact (supplied_read values left).bind fun _ => (supplied_read values right).bind fun _ => .ok _
  | relu operand => exact (supplied_read values operand).bind fun _ => .ok _
  | identity operand => exact supplied_read values operand
  | scale factor operand => exact (supplied_read values operand).bind fun _ => .ok _

/-- What fails on the way forward is the reading of a value. -/
lemma supplied_forward (program : Program) : Supplied (program.forward values) := by
  refine Supplied.bind (.foldlM fun before node => ?_) fun _ => .foldlM fun before loss => ?_
  · exact (supplied_evaluate before node.expression).bind fun _ => .ok _
  · exact (supplied_read before loss.input).bind fun _ => .ok _

lemma supplied_handBack (gradient : List F) (gradients : Gradients F) (e : Expression) :
    Supplied (e.handBack values gradient gradients) := by
  cases e with
  | matmul size left right =>
    exact (supplied_read values left).bind fun _ => (supplied_read values right).bind fun _ => .ok _
  | add left right => exact (supplied_read values right).bind fun _ => .ok _
  | relu operand => exact (supplied_read values operand).bind fun _ => .ok _
  | identity operand => exact .ok _
  | scale factor operand => exact .ok _

/-- What fails on the way back is the reading of a value. -/
lemma supplied_backward (program : Program) : Supplied (program.backward values) := by
  refine Supplied.bind (.foldlM fun before loss => ?_) fun _ => .foldrM fun node before => ?_
  · exact (supplied_read values loss.input).bind fun _ => .ok _
  · unfold Node.handBack
    split
    · exact .ok _
    · exact supplied_handBack values _ before node.expression

end Programs

namespace HostDevice

/-- Weights that the device does not take are not as it expects them. -/
lemma supplied_parameters (infos : NameMap TensorInfo) (store : WeightStore) :
    Supplied (parameters infos store) := by
  refine Supplied.bind (.mapM fun e => ?_) fun _ => .ok _
  refine Supplied.bind ?_ fun _ => .ok _
  unfold parameter
  split
  · exact .error rfl
  split
  · exact (Supplied.mapError_tensor _).map
  · exact .error rfl

/-- Inputs that are no numbers are refused as such. -/
lemma supplied_startValues (inputs : List (String × Tensor)) (weights : NameMap Parameter) :
    Supplied (startValues inputs weights) :=
  Supplied.bind (.mapM fun _ => (Supplied.mapError_tensor _).bind fun _ => .ok _) fun _ => .ok _

lemma supplied_fetchInfo (program : Program) (key name : String) :
    Supplied (fetchInfo program key name) := by
  unfold fetchInfo
  split
  · exact .ok _
  · exact .error rfl

/-- A tensor that is not handed out was not computed or is not described. -/
lemma supplied_fetch (program : Program) (values : Values Single) (gradients : Gradients Single)
    (name : String) : Supplied (fetch program values gradients name) := by
  unfold fetch
  split
  · exact (supplied_fetchInfo program _ name).bind fun _ => .ok _
  split
  · exact .error rfl
  · exact (supplied_fetchInfo program name name).bind fun _ => .ok _

/-- **A device that has what it needs never lacks it** when it runs.

**Proof sketch.** The three checks at the start are passed. What can fail later is a conversion
of inputs, the reading of a value, or a tensor that is handed out. -/
lemma isLack_execute {inputs : List (String × Tensor)} {wanted : List String} {d d' : HostDevice}
    {cause : DeviceFault} (attached : d.attached = true) (weights : d.weights.isSome)
    (optimizer : d.training = true → d.optimizer.isSome)
    (h : execute inputs wanted d = (.error cause, d')) : cause.isLack = false := by
  obtain ⟨held, hw⟩ := Option.isSome_iff_exists.1 weights
  simp only [execute, attached, Bool.true_eq_false, if_false, hw] at h
  split at h
  · rename_i cause' hf
    cases h
    exact Supplied.bind (supplied_startValues inputs held)
      (fun start => supplied_forward start d.program) cause hf
  rename_i values _
  split at h
  · rename_i training
    obtain ⟨o, ho⟩ := Option.isSome_iff_exists.1 (optimizer training)
    simp only [ho] at h
    split at h
    · rename_i cause' hb
      cases h
      exact supplied_backward values d.program cause hb
    · rename_i gradients _
      exact Supplied.mapM (supplied_fetch d.program values gradients) cause (congrArg Prod.fst h)
  · exact Supplied.mapM (supplied_fetch d.program values .empty) cause (congrArg Prod.fst h)

end HostDevice

end Microbatch
