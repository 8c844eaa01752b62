import Microbatch.Proofs.Declarations
import Microbatch.Proofs.HostDevice
import Microbatch.Proofs.Shapes
import Microbatch.Proofs.Typing

set_option relaxedAutoImplicit false
set_option autoImplicit false

/-!
# Compiled programs

A program that is compiled from a loaded graph is typed, from its inputs and weights to its
losses. So it runs forward and back from any values of the described sizes, and every tensor
that it offers can be handed out as it is described.

## Main definitions

* `Microbatch.Program.WellTyped` — a program with right descriptions.
* `Microbatch.Program.ForwardInRange`, `Microbatch.Program.BackwardInRange` — a program that
  finds all that it goes through.

## Main results

* `Microbatch.Program.wellTyped_of_compile` — compilation gives such a program.
* `Microbatch.Program.WellTyped.forward`, `Microbatch.Program.WellTyped.backward` — it runs.
* `Microbatch.Program.WellTyped.fetch` — what it offers can be handed out.
-/

namespace Microbatch

/-! ### Loaded graphs -/

namespace Exchange

/-- A streamed input is no weight. -/
lemma find?_streamedInputs {weights : WeightStore} {shapes inputs : NameMap TensorInfo}
    {values : List ValueMessage} (h : streamedInputs weights shapes values = .ok inputs)
    {name : String} {info : TensorInfo} (streamed : inputs.find? name = some info) :
    weights.find? name = none := by
  obtain ⟨entries, related, rfl⟩ := streamedInputs_eq_ok_iff.1 h
  obtain ⟨value, fresh, rfl, -⟩ :=
    Outcome.exists_of_forall₂_right related (NameMap.mem_of_find?_ofList streamed)
  exact find?_of_not_contains (by simpa using (List.mem_filter.1 fresh).2)

/-- A weight of a graph has the payload that it describes. -/
lemma length_of_weights {g : GraphMessage} {weights : WeightStore} (h : g.weights = .ok weights)
    {name : String} {t : Tensor} (found : weights.find? name = some t) :
    t.payload.length = t.info.byteCount := by
  obtain ⟨entries, related, rfl⟩ := GraphMessage.weights_eq_ok_iff.1 h
  obtain ⟨m, -, -, read⟩ :=
    Outcome.exists_of_forall₂_right related (NameMap.mem_of_find?_ofList found)
  exact (TensorMessage.toTensor_eq_ok_iff_stores.1 read).length

/-- **A loaded graph**: no input is a weight, and weights have the payloads that they describe. -/
lemma loadGraph_eq_ok {model : Bytes} {shapes : NameMap TensorInfo} {graph : Graph}
    (h : loadGraph model shapes = .ok graph) :
    (∀ name info, graph.inputs.find? name = some info → graph.weights.find? name = none) ∧
      ∀ name t, graph.weights.find? name = some t → t.payload.length = t.info.byteCount := by
  unfold loadGraph at h
  obtain ⟨message, -, h⟩ := Outcome.bind_eq_ok_iff.1 h
  obtain ⟨graphMessage, -, h⟩ := Outcome.bind_eq_ok_iff.1 h
  obtain ⟨weights, hw, h⟩ := Outcome.bind_eq_ok_iff.1 h
  obtain ⟨inputs, hi, h⟩ := Outcome.bind_eq_ok_iff.1 h
  obtain ⟨-, -, h⟩ := Outcome.bind_eq_ok_iff.1 h
  cases h
  exact ⟨fun name info => find?_streamedInputs hi,
    fun name t => length_of_weights (Outcome.mapError_eq_ok_iff.1 hw)⟩

end Exchange

/-! ### Typed programs -/

namespace Program

/-- **A program with right descriptions.** -/
structure WellTyped (program : Program) : Prop where
  /-- From inputs and weights on, nodes and then losses are described rightly. -/
  described : ∃ infos,
    NodesTyped (program.signature.inputs.insertAll program.weights.entries) program.nodes infos ∧
      LossesTyped infos program.losses program.infos
  /-- All tensors hold single-precision numbers. -/
  float : AllFloat program.infos
  /-- The inputs are described. -/
  inputs : Extends program.signature.inputs program.infos
  /-- The weights are described. -/
  weights : Extends program.weights program.infos
  /-- Only weights are trained. -/
  trainable : ∀ name ∈ program.trainable, ∃ info, program.weights.find? name = some info
  /-- All tensors are offered, and the gradients of trained weights. -/
  outputs : program.signature.outputs = Program.outputs program.infos program.trainable

/-- The description of an input or a weight. -/
lemma find?_sources (graph : Graph) (name : String) : (sources graph).find? name =
    ((graph.weights.find? name).map (·.info)).or (graph.inputs.find? name) := by
  rw [sources, NameMap.find?_insertAll_entries, NameMap.find?_mapValues]

/-- A compiled program starts from the inputs that it takes and its weights. -/
lemma sources_eq_of_compile {graph : Graph} {kind : Kind} {program : Program}
    (compiled : compile graph kind = .ok program) :
    sources graph = program.signature.inputs.insertAll program.weights.entries := by
  obtain ⟨_, _, _, -, -, -, -, -, -, weights, -, signature⟩ := compile_eq_ok compiled
  rw [signature, weights]
  rfl

/-- The weights of a compiled program are described as they are declared. -/
lemma extends_weights_of_compile {graph : Graph} {kind : Kind} {program : Program}
    (compiled : compile graph kind = .ok program) : Extends program.weights program.infos := by
  obtain ⟨_, _, _, -, -, -, typed, losses, -, weights, -⟩ := compile_eq_ok compiled
  have all :=
    (nodesTyped_of_typeNodes typed).extends.trans (lossesTyped_of_typeLosses losses).extends
  intro name info known
  refine all name info ?_
  rw [weights] at known
  rw [sources, NameMap.find?_insertAll_entries, known]
  rfl

/-- All tensors of a compiled program hold single-precision numbers. -/
lemma allFloat_of_compile {graph : Graph} {kind : Kind} {program : Program}
    (compiled : compile graph kind = .ok program) : AllFloat program.infos := by
  obtain ⟨_, _, _, -, -, checked, typed, losses, -⟩ := compile_eq_ok compiled
  exact (lossesTyped_of_typeLosses losses).allFloat
    ((nodesTyped_of_typeNodes typed).allFloat (allFloat_of_checkSources checked))

/-- A compiled program trains weights only. -/
lemma weight_of_mem_trainable {graph : Graph} {kind : Kind} {program : Program}
    (compiled : compile graph kind = .ok program) {name : String}
    (trained : name ∈ program.trainable) : ∃ info, program.weights.find? name = some info := by
  obtain ⟨_, _, _, -, -, -, -, -, -, -, trainable, -⟩ := compile_eq_ok compiled
  rw [trainable] at trained
  unfold trainableWeights at trained
  split at trained
  · exact NameMap.find?_of_mem_names (List.mem_filter.1 trained).1
  · cases trained

/-- **Compilation gives a program with right descriptions.** -/
lemma wellTyped_of_compile {graph : Graph} {kind : Kind} {program : Program}
    (apart : ∀ name info, graph.inputs.find? name = some info → graph.weights.find? name = none)
    (h : compile graph kind = .ok program) : program.WellTyped := by
  obtain ⟨_, _, infos, -, -, -, typed, losses, same_losses, -, -, signature⟩ := compile_eq_ok h
  have from_program := sources_eq_of_compile h
  have typed_nodes := nodesTyped_of_typeNodes typed
  have typed_losses := lossesTyped_of_typeLosses losses
  have all := typed_nodes.extends.trans typed_losses.extends
  refine ⟨⟨infos, from_program ▸ typed_nodes, same_losses ▸ typed_losses⟩, allFloat_of_compile h,
    ?_, ?_, ?_, ?_⟩
  · intro name info known
    refine all name info ?_
    rw [signature] at known
    rw [find?_sources, apart name info known, known]
    rfl
  · exact extends_weights_of_compile h
  · exact fun name trained => weight_of_mem_trainable h trained
  · rw [signature]

variable {program : Program}

/-- Every node of a typed program is described by what the program knows. -/
lemma WellTyped.nodes (t : program.WellTyped) {node : Node} (h : node ∈ program.nodes) :
    node.expression.HasInfo program.infos node.info ∧
      program.infos.find? node.output = some node.info := by
  obtain ⟨infos, nodes, losses⟩ := t.described
  obtain ⟨expression, output⟩ := nodes.of_mem h
  exact ⟨expression.mono losses.extends, losses.extends _ _ output⟩

/-! ### Running -/

section Running

variable {F : Type} [Scalar F]

/-- **A program runs forward in range**: every node finds what it reads among the values before
it. -/
structure ForwardInRange (program : Program) (start values : Values F) : Prop where
  /-- The program runs. -/
  ran : program.forward start = .ok values
  /-- The shapes that a node's kernel is made for are those of its operands. -/
  described : ∀ node ∈ program.nodes, node.expression.HasInfo program.infos node.info
  /-- Each node finds what it reads. -/
  reads : ∀ before node rest, program.nodes = before ++ node :: rest → ∃ sofar,
    before.foldlM runNode start = .ok sofar ∧ node.expression.ReadsInRange sofar

/-- **A program runs back in range**: every node that a gradient reaches finds what it needs to
hand it back. -/
structure BackwardInRange (program : Program) (values : Values F) (gradients : Gradients F) :
    Prop where
  /-- The program runs back. -/
  ran : program.backward values = .ok gradients
  /-- Each node finds what it needs for the gradient of its result. -/
  handsBack : ∀ before node rest, program.nodes = before ++ node :: rest → ∃ seeds sofar,
    program.losses.foldlM (fun g loss => loss.seed values g) .empty = .ok seeds ∧
    rest.foldrM (fun node g => node.handBack values g) seeds = .ok sofar ∧
    ∀ gradient, sofar.find? node.output = some gradient →
      node.expression.HandsBackInRange values gradient

/-- **A typed program runs forward** from values of the described sizes to such values. -/
lemma WellTyped.forward (t : program.WellTyped) {start : Values F}
    (typed : start.Typed (program.signature.inputs.insertAll program.weights.entries)) :
    ∃ values, program.ForwardInRange start values ∧ values.Typed program.infos := by
  obtain ⟨infos, nodes, losses⟩ := t.described
  obtain ⟨between, ran_nodes, typed_between⟩ := nodes.run typed
  obtain ⟨values, ran_losses, typed_values⟩ := losses.run typed_between
  refine ⟨values, ⟨?_, fun node h => (t.nodes h).1, fun before node rest split => ?_⟩, typed_values⟩
  · rw [Program.forward, ran_nodes]
    exact ran_losses
  · obtain ⟨known, typed_before, expression⟩ := (split ▸ nodes).split
    obtain ⟨sofar, ran, typed_sofar⟩ := typed_before.run typed
    exact ⟨sofar, ran, expression.readsInRange typed_sofar⟩

/-- **A typed program runs back** from values of the described sizes to gradients of such sizes.
-/
lemma WellTyped.backward (t : program.WellTyped) {values : Values F}
    (typed : values.Typed program.infos) :
    ∃ gradients, program.BackwardInRange values gradients ∧ gradients.Typed program.infos := by
  obtain ⟨infos, -, losses⟩ := t.described
  have untouched : Gradients.Typed program.infos (.empty : Gradients F) := by
    intro name xs impossible
    cases impossible
  obtain ⟨seeds, seeded, typed_seeds⟩ := seeds_typed (fun loss h => losses.of_mem h) typed untouched
  obtain ⟨gradients, ran, typed_gradients⟩ :=
    handBack_typed (fun node h => t.nodes h) typed typed_seeds
  refine ⟨gradients, ⟨?_, fun before node rest split => ?_⟩, typed_gradients⟩
  · rw [Program.backward, seeded]
    exact ran
  · have later : ∀ node ∈ rest, node ∈ program.nodes := by
      intro other h
      rw [split]
      exact List.mem_append_right _ (List.mem_cons_of_mem _ h)
    have here : node ∈ program.nodes := by
      rw [split]
      exact List.mem_append_right _ (List.mem_cons_self ..)
    obtain ⟨sofar, ran_rest, typed_sofar⟩ :=
      handBack_typed (fun node h => t.nodes (later node h)) typed typed_seeds
    refine ⟨seeds, sofar, seeded, ran_rest, fun gradient reached => ?_⟩
    obtain ⟨info, known, length⟩ := typed_sofar _ _ reached
    obtain ⟨expression, output⟩ := t.nodes here
    obtain rfl : info = node.info := Option.some.inj (known.symm.trans output)
    exact expression.handsBackInRange typed length

end Running

end Program

/-! ### Handing out -/

/-- A tensor of as many numbers as its shape has elements fits its description. -/
lemma Tensor.fits_ofSingles {info : TensorInfo} (float : info.elementType = .float32)
    (sized : info.byteCount?.isSome) {xs : List Single}
    (length : xs.length = info.shape.dims.prod) : (Tensor.ofSingles info.shape xs).Fits info := by
  refine ⟨?_, ?_⟩
  · rw [Tensor.ofSingles, ← float]
  · rw [TensorInfo.byteCount?_of_isSome sized, float, Tensor.ofSingles, Single.length_bytesOfList,
      length, ElementType.byteSize, Nat.mul_comm]

/-- A name that is read as that of a gradient is the name of the gradient. -/
lemma eq_gradientName {name tensor : String} (h : gradientOf? name = some tensor) :
    name = gradientName tensor := by
  unfold gradientOf? at h
  split at h
  · rename_i rest letters
    cases h
    rw [gradientName, String.toList_ofList, gradientMark, List.cons_append, List.cons_append,
      List.cons_append, List.nil_append, ← letters, String.ofList_toList]
  · cases h

namespace HostDevice

/-- A trained gradient is the gradient of a trained weight. -/
lemma trainedGradient?_eq_some {program : Program} {name weight : String}
    (h : trainedGradient? program name = some weight) :
    name = gradientName weight ∧ weight ∈ program.trainable := by
  unfold trainedGradient? at h
  obtain ⟨read, hr, trained⟩ := Option.bind_eq_some_iff.1 h
  split at trained
  · rename_i member
    cases trained
    exact ⟨eq_gradientName hr, List.contains_iff_mem.1 member⟩
  · cases trained

/-- The gradient of a trained weight is a trained gradient. -/
lemma trainedGradient?_gradientName {program : Program} {weight : String}
    (h : weight ∈ program.trainable) :
    trainedGradient? program (gradientName weight) = some weight := by
  simp [trainedGradient?, h]

end HostDevice

namespace Program

/-- The gradients that are offered, with their descriptions. -/
def gradientInfos (infos : NameMap TensorInfo) (trainable : List String) :
    List (String × TensorInfo) :=
  trainable.filterMap fun name => (infos.find? name).map fun info => (gradientName name, info)

/-- A gradient is described like its weight. -/
lemma mem_gradientInfos {infos : NameMap TensorInfo} {trainable : List String} {name : String}
    {info : TensorInfo} : (name, info) ∈ gradientInfos infos trainable ↔
      ∃ weight ∈ trainable, name = gradientName weight ∧ infos.find? weight = some info := by
  simp only [gradientInfos, List.mem_filterMap, Option.map_eq_some_iff, Prod.mk.injEq]
  constructor
  · rintro ⟨weight, trained, _, found, rfl, rfl⟩
    exact ⟨weight, trained, rfl, found⟩
  · rintro ⟨weight, trained, rfl, found⟩
    exact ⟨weight, trained, info, found, rfl, rfl⟩

variable {program : Program}

/-- The weights that a typed program trains are described. -/
lemma WellTyped.find?_trainable (t : program.WellTyped) {name : String}
    (trained : name ∈ program.trainable) : ∃ info, program.infos.find? name = some info := by
  obtain ⟨info, hi⟩ := t.trainable name trained
  exact ⟨info, t.weights name info hi⟩

/-- **What is offered under a name**: for the gradient of a trained weight the description of
the weight, and else that of the tensor. -/
lemma find?_outputs
    (described : ∀ name ∈ program.trainable, ∃ info, program.infos.find? name = some info)
    (name : String) : (outputs program.infos program.trainable).find? name =
      program.infos.find? ((HostDevice.trainedGradient? program name).getD name) := by
  have offered : outputs program.infos program.trainable =
      program.infos.insertAll (gradientInfos program.infos program.trainable) := rfl
  rw [offered, NameMap.find?_insertAll]
  cases hl : (gradientInfos program.infos program.trainable).reverse.lookup name with
  | some info =>
    obtain ⟨weight, trained, rfl, found⟩ :=
      mem_gradientInfos.1 (List.mem_reverse.1 (NameMap.mem_of_lookup hl))
    rw [HostDevice.trainedGradient?_gradientName trained, Option.getD_some, found]
    rfl
  | none =>
    cases hg : HostDevice.trainedGradient? program name with
    | none => rfl
    | some weight =>
      obtain ⟨rfl, trained⟩ := HostDevice.trainedGradient?_eq_some hg
      obtain ⟨info, found⟩ := described weight trained
      have listed := mem_gradientInfos.2 ⟨weight, trained, rfl, found⟩
      have absent := List.lookup_eq_none_iff.1 hl _ (List.mem_reverse.2 listed)
      simp at absent

/-- The same for a typed program. -/
lemma WellTyped.find?_outputs (t : program.WellTyped) (name : String) :
    program.signature.outputs.find? name =
      program.infos.find? ((HostDevice.trainedGradient? program name).getD name) := by
  rw [t.outputs]
  exact Program.find?_outputs (fun _ trained => t.find?_trainable trained) name

/-- A tensor with a payload size has as many zeros as its shape has elements. -/
lemma count_of_isSome {info : TensorInfo} (sized : info.byteCount?.isSome) :
    info.shape.count = info.shape.dims.prod := by
  obtain ⟨n, hn⟩ := Option.isSome_iff_exists.1 sized
  obtain ⟨count, hc, -⟩ := Option.bind_eq_some_iff.1 hn
  rw [Shape.count, hc, Option.getD_some, Shape.count?_eq_some hc]

/-- **What a typed program offers can be handed out** as it is described. -/
lemma WellTyped.fetch (t : program.WellTyped)
    (sized : ∀ name info, program.infos.find? name = some info → info.byteCount?.isSome)
    {values : Values Single} (typed : values.Typed program.infos) {gradients : Gradients Single}
    (typed_gradients : gradients.Typed program.infos) {name : String} {info : TensorInfo}
    (offered : program.signature.outputs.find? name = some info) :
    ∃ tensor, HostDevice.fetch program values gradients name = .ok tensor ∧ tensor.Fits info := by
  rw [t.find?_outputs] at offered
  unfold HostDevice.fetch
  cases hg : HostDevice.trainedGradient? program name with
  | some weight =>
    rw [hg, Option.getD_some] at offered
    have length : ((gradients.find? weight).getD (Kernel.zeros info.shape.count)).length =
        info.shape.dims.prod := by
      cases found : gradients.find? weight with
      | some gradient =>
        obtain ⟨info', known, length⟩ := typed_gradients weight gradient found
        obtain rfl : info' = info := Option.some.inj (known.symm.trans offered)
        exact length
      | none =>
        rw [Option.getD_none, Kernel.length_zeros, count_of_isSome (sized _ _ offered)]
    refine ⟨_, ?_, Tensor.fits_ofSingles (t.float _ _ offered) (sized _ _ offered) length⟩
    simp only [HostDevice.fetchInfo, offered]
    rfl
  | none =>
    rw [hg, Option.getD_none] at offered
    obtain ⟨data, found, length⟩ := typed.find? offered
    refine ⟨_, ?_, Tensor.fits_ofSingles (t.float _ _ offered) (sized _ _ offered) length⟩
    simp only [found, HostDevice.fetchInfo, offered]
    rfl

end Program

end Microbatch
