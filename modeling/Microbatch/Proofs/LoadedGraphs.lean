import Microbatch.Exchange.Builder
import Microbatch.Proofs.WeightShapes

set_option relaxedAutoImplicit false
set_option autoImplicit false

/-!
# Which models load

A model loads if it has a graph, if each of its initializers holds a tensor, and if the inputs that
are streamed and the shapes that are supplied for them go together: every streamed input has a
supplied shape or declares one, and nothing else has a supplied shape. Inputs and initializers may
repeat names. Then every declaration and every initializer counts for whether the model loads, and
the last of a name for what it loads as.

## Main definitions

* `Microbatch.Exchange.GraphMessage.Streams` — an input that is streamed.
* `Microbatch.Exchange.GraphMessage.Loadable` — a graph that loads with the supplied shapes.
* `Microbatch.Exchange.GraphMessage.LoadsAs` — what it loads as.

## Main results

* `Microbatch.Exchange.GraphMessage.exists_weights_iff`,
  `Microbatch.Exchange.GraphMessage.exists_streamedInputs_iff` — when the weights and the inputs of
  a graph can be read.
* `Microbatch.Exchange.exists_loadGraph_iff_loadable` — exactly the loadable graphs load, and what
  they load as.
-/

namespace Microbatch

namespace Exchange

/-! ### Which graphs load -/

variable {model : Bytes} {shapes inputs : NameMap TensorInfo} {message : ModelMessage}
  {g : GraphMessage} {weights : WeightStore} {graph : Graph} {name : String}

/-- **An input that is streamed**: it is declared, and no initializer has its name. -/
def GraphMessage.Streams (g : GraphMessage) (name : String) : Prop :=
  name ∈ g.inputs.map (·.name) ∧ name ∉ g.initializers.map (·.name)

/-- **A graph that loads** with the supplied shapes. -/
structure GraphMessage.Loadable (g : GraphMessage) (shapes : NameMap TensorInfo) : Prop where
  /-- Every initializer holds a tensor. -/
  initializers : ∀ m ∈ g.initializers, ∃ t, m.Stores t
  /-- Every declaration of a streamed input gives a description, unless a shape is supplied. -/
  inputs : ∀ value ∈ g.inputs, g.Streams value.name →
    value.name ∈ shapes.names ∨ ∃ info, value.Declares info
  /-- Shapes are supplied for streamed inputs only. -/
  shapes : ∀ name ∈ shapes.names, g.Streams name

/-- **What a graph loads as.** -/
structure GraphMessage.LoadsAs (g : GraphMessage) (model : Bytes) (shapes : NameMap TensorInfo)
    (graph : Graph) : Prop where
  /-- The model stays as it is. -/
  model : graph.model = model
  /-- The inputs are the streamed ones. -/
  inputs : ∀ name, name ∈ graph.inputs.names ↔ g.Streams name
  /-- Each input is described as supplied, else as its last declaration says. -/
  described : ∀ name ∈ graph.inputs.names, ∃ value info,
    g.inputs.findRev? (·.name == name) = some value ∧ graph.inputs.find? name = some info ∧
      value.Resolves shapes info
  /-- The weights are the initializers. -/
  weights : ∀ name, name ∈ graph.weights.names ↔ name ∈ g.initializers.map (·.name)
  /-- Each weight is what the last initializer of its name holds. -/
  stored : ∀ name ∈ graph.weights.names, ∃ m t,
    g.initializers.findRev? (·.name == name) = some m ∧ graph.weights.find? name = some t ∧
      m.Stores t
  /-- No input is a weight. -/
  apart : ∀ name ∈ graph.inputs.names, name ∉ graph.weights.names
  /-- No size of a weight is clipped, if the length of the model fits. -/
  wellFormed : graph.model.length < Size.limit → ∀ name t, graph.weights.find? name = some t →
    t.WellFormed

/-- Weights can be read exactly if every initializer holds a tensor. -/
lemma GraphMessage.exists_weights_iff :
    (∃ weights, g.weights = .ok weights) ↔ ∀ m ∈ g.initializers, ∃ t, m.Stores t := by
  constructor
  · rintro ⟨weights, read⟩ m member
    obtain ⟨entries, read, -⟩ := weights_eq_ok_iff.1 read
    obtain ⟨e, -, -, stored⟩ := Outcome.exists_of_forall₂_right read.flip member
    exact ⟨e.2, TensorMessage.toTensor_eq_ok_iff_stores.1 stored⟩
  · intro stores
    have each : ∀ m ∈ g.initializers, ∃ e : String × Tensor,
        e.1 = m.name ∧ m.toTensor = .ok e.2 := by
      intro m member
      obtain ⟨t, stored⟩ := stores m member
      exact ⟨(m.name, t), rfl, TensorMessage.toTensor_eq_ok_iff_stores.2 stored⟩
    obtain ⟨entries, related⟩ := Outcome.exists_forall₂ each
    exact ⟨_, weights_eq_ok_iff.2 ⟨entries, related, rfl⟩⟩

/-- A declared input that is no weight is streamed. -/
lemma GraphMessage.mem_filter_iff_streams (read : g.weights = .ok weights) {value : ValueMessage} :
    value ∈ g.inputs.filter (!weights.contains ·.name) ↔
      value ∈ g.inputs ∧ g.Streams value.name := by
  rw [List.mem_filter, Streams, ← mem_names_weights read, ← NameMap.contains_iff_mem_names,
    Bool.not_eq_true', Bool.not_eq_true]
  exact ⟨fun ⟨member, fresh⟩ => ⟨member, List.mem_map_of_mem member, fresh⟩,
    fun ⟨member, _, fresh⟩ => ⟨member, fresh⟩⟩

/-- The streamed inputs have the names of the declared inputs that are no initializers. -/
lemma GraphMessage.mem_names_streamedInputs (read : g.weights = .ok weights)
    (streamed : streamedInputs weights shapes g.inputs = .ok inputs) :
    name ∈ inputs.names ↔ g.Streams name := by
  obtain ⟨entries, related, rfl⟩ := streamedInputs_eq_ok_iff.1 streamed
  rw [NameMap.mem_names_ofList, NameMap.map_fst_of_forall₂ related fun value e same => same.1,
    List.mem_map]
  simp only [mem_filter_iff_streams read]
  constructor
  · rintro ⟨value, ⟨-, streams⟩, rfl⟩
    exact streams
  · intro streams
    obtain ⟨value, member, rfl⟩ := List.mem_map.1 streams.1
    exact ⟨value, ⟨member, streams⟩, rfl⟩

/-- Inputs can be described exactly if every declaration of a streamed input resolves. -/
lemma GraphMessage.exists_streamedInputs_iff (read : g.weights = .ok weights) :
    (∃ inputs, streamedInputs weights shapes g.inputs = .ok inputs) ↔
      ∀ value ∈ g.inputs, g.Streams value.name → ∃ info, value.Resolves shapes info := by
  simp only [streamedInputs_eq_ok_iff]
  constructor
  · rintro ⟨inputs, entries, related, -⟩ value member streams
    obtain ⟨e, -, -, resolves⟩ := Outcome.exists_of_forall₂_right related.flip
      ((mem_filter_iff_streams read).2 ⟨member, streams⟩)
    exact ⟨e.2, resolves⟩
  · intro resolve
    have each : ∀ value ∈ g.inputs.filter (!weights.contains ·.name),
        ∃ e : String × TensorInfo, e.1 = value.name ∧ value.Resolves shapes e.2 := by
      intro value member
      obtain ⟨member, streams⟩ := (mem_filter_iff_streams read).1 member
      obtain ⟨info, resolves⟩ := resolve value member streams
      exact ⟨(value.name, info), rfl, resolves⟩
    obtain ⟨entries, related⟩ := Outcome.exists_forall₂ each
    exact ⟨_, entries, related, rfl⟩

/-- **What a graph loads as.** -/
lemma Holds.loadsAs (holds : Holds model message g weights)
    (loaded : loadGraph model shapes = .ok graph) : g.LoadsAs model shapes graph := by
  obtain ⟨inputs, streamed, -, rfl⟩ := holds.loadGraph_eq_ok_iff.1 loaded
  have names : ∀ name, name ∈ inputs.names ↔ g.Streams name := fun name =>
    GraphMessage.mem_names_streamedInputs holds.weights streamed
  have weight_names : ∀ name, name ∈ weights.names ↔ name ∈ g.initializers.map (·.name) :=
    fun name => GraphMessage.mem_names_weights holds.weights
  refine ⟨rfl, names, fun name known => ?_, weight_names, fun name known => ?_,
    fun name known weight => ((names name).1 known).2 ((weight_names name).1 weight),
    fun fits name t => wellFormed_of_loadGraph loaded fits⟩
  · have fresh : weights.contains name = false := by
      rw [← Bool.not_eq_true, NameMap.contains_iff_mem_names, weight_names]
      exact ((names name).1 known).2
    obtain ⟨info, found⟩ := NameMap.find?_of_mem_names known
    obtain ⟨entries, related, rfl⟩ := streamedInputs_eq_ok_iff.1 streamed
    obtain ⟨value, last, -, resolves⟩ :=
      NameMap.exists_findRev?_of_find? related (fun value e same => same.1) found
    refine ⟨value, info, ?_, found, resolves⟩
    rw [← last, List.findRev?_eq_find?_reverse, List.findRev?_eq_find?_reverse,
      ← List.filter_reverse, List.find?_filter]
    congr 1
    funext other
    by_cases here : other.name = name
    · simp [here, fresh]
    · simp [here]
  · obtain ⟨t, found⟩ := NameMap.find?_of_mem_names known
    obtain ⟨entries, related, rfl⟩ := GraphMessage.weights_eq_ok_iff.1 holds.weights
    obtain ⟨m, last, -, read⟩ :=
      NameMap.exists_findRev?_of_find? related (fun m e same => same.1) found
    exact ⟨m, t, last, found, TensorMessage.toTensor_eq_ok_iff_stores.1 read⟩

/-- A graph that was loaded is loadable. -/
lemma Holds.loadable (holds : Holds model message g weights)
    (loaded : loadGraph model shapes = .ok graph) : g.Loadable shapes := by
  obtain ⟨inputs, streamed, checked, -⟩ := holds.loadGraph_eq_ok_iff.1 loaded
  have resolve := (GraphMessage.exists_streamedInputs_iff holds.weights).1 ⟨inputs, streamed⟩
  refine ⟨GraphMessage.exists_weights_iff.1 ⟨_, holds.weights⟩, fun value member streams => ?_,
    fun name supplied => ?_⟩
  · obtain ⟨info, found | ⟨-, declares⟩⟩ := resolve value member streams
    · exact .inl (NameMap.mem_names_of_find? found)
    · exact .inr ⟨info, declares⟩
  · exact (GraphMessage.mem_names_streamedInputs holds.weights streamed).1
      (checkShapes_eq_ok_iff.1 checked name supplied)

/-- A loadable graph is loaded. -/
lemma GraphMessage.Loadable.exists_loadGraph (loadable : g.Loadable shapes)
    (decoded : ModelMessage.decode model = .ok message) (found : message.graph = some g) :
    ∃ graph, loadGraph model shapes = .ok graph := by
  obtain ⟨weights, read⟩ := exists_weights_iff.2 loadable.initializers
  have holds : Holds model message g weights :=
    ⟨decoded, ModelMessage.requireGraph_eq_ok_iff.2 found, read⟩
  have resolve : ∀ value ∈ g.inputs, g.Streams value.name →
      ∃ info, value.Resolves shapes info := by
    intro value member streams
    by_cases supplied : value.name ∈ shapes.names
    · obtain ⟨info, found⟩ := NameMap.find?_of_mem_names supplied
      exact ⟨info, .inl found⟩
    · obtain ⟨info, declares⟩ := (loadable.inputs value member streams).resolve_left supplied
      exact ⟨info, .inr ⟨supplied, declares⟩⟩
  obtain ⟨inputs, streamed⟩ := (exists_streamedInputs_iff read).2 resolve
  have checked : checkShapes weights inputs shapes = .ok () :=
    checkShapes_eq_ok_iff.2 fun name supplied =>
      (mem_names_streamedInputs read streamed).2 (loadable.shapes name supplied)
  exact ⟨_, holds.loadGraph_eq_ok_iff.2 ⟨inputs, streamed, checked, rfl⟩⟩

/-- **Exactly the loadable graphs load.** A model loads exactly if it is read as a message with a
graph, every initializer holds a tensor, every declaration of a streamed input gives a description
or has one supplied, and descriptions are supplied for streamed inputs only. What it loads as has
the given bytes as its model, the streamed inputs, described as supplied or by the last declaration,
and the weights, each the tensor of the last initializer of its name.

**Proof sketch.** Every step of loading says when it succeeds and what it leaves. Inputs and weights
are lists that are taken into a map, where the last entry of a name wins. -/
theorem exists_loadGraph_iff_loadable (model : Bytes) (shapes : NameMap TensorInfo) :
    ((∃ graph, loadGraph model shapes = .ok graph) ↔
      ∃ message g, ModelMessage.decode model = .ok message ∧ message.graph = some g ∧
        g.Loadable shapes) ∧
    ∀ graph, loadGraph model shapes = .ok graph →
      ∃ message g, ModelMessage.decode model = .ok message ∧ message.graph = some g ∧
        g.LoadsAs model shapes graph := by
  refine ⟨⟨?_, ?_⟩, ?_⟩
  · rintro ⟨graph, loaded⟩
    obtain ⟨message, g, holds, -⟩ := exists_holds_of_loadGraph loaded
    exact ⟨message, g, holds.decoded, ModelMessage.requireGraph_eq_ok_iff.1 holds.graph,
      holds.loadable loaded⟩
  · rintro ⟨message, g, decoded, found, loadable⟩
    exact loadable.exists_loadGraph decoded found
  · intro graph loaded
    obtain ⟨message, g, holds, -⟩ := exists_holds_of_loadGraph loaded
    exact ⟨message, g, holds.decoded, ModelMessage.requireGraph_eq_ok_iff.1 holds.graph,
      holds.loadsAs loaded⟩

/-- A model that declares `x` twice, leaves a dimension of `y` open, declares `w` without a type and
has two initializers for `w`. -/
def twiceSample : ModelMessage where
  graph := some
    { inputs := [
        ⟨"x", some (Builder.tensorType .float32 [some 2])⟩,
        ⟨"y", some (Builder.tensorType .uint8 [none])⟩,
        ⟨"w", none⟩,
        ⟨"x", some (Builder.tensorType .float32 [some 3])⟩]
      initializers := [
        { name := "w", elementCode := 1, dims := [1], floats := [.one] },
        { name := "w", elementCode := 2, raw := [9] }] }

/-- A shape for `y`. -/
def twiceShapes : NameMap TensorInfo := .ofList [("y", .float32 [4])]

/-- **A graph that loads.** Of the two declarations of `x` and the two initializers of `w`, the last
ones count. -/
theorem exists_loadGraph_iff_loadable_sample : ∃ message g graph,
    ModelMessage.decode twiceSample.encode = .ok message ∧ message.graph = some g ∧
    g.Loadable twiceShapes ∧ loadGraph twiceSample.encode twiceShapes = .ok graph ∧
    g.LoadsAs twiceSample.encode twiceShapes graph ∧
    graph.inputs = .ofList [("x", .float32 [3]), ("y", .float32 [4])] ∧
    graph.weights = .ofList [("w", ⟨⟨.uint8, ⟨[]⟩⟩, [9]⟩)] := by
  obtain ⟨graph, loaded, tested⟩ := Outcome.exists_of_any_toOption
    (show (loadGraph twiceSample.encode twiceShapes).toOption.any (fun graph =>
      decide (graph.inputs = .ofList [("x", .float32 [3]), ("y", .float32 [4])]) &&
      decide (graph.weights = .ofList [("w", ⟨⟨.uint8, ⟨[]⟩⟩, [9]⟩)])) = true by decide +kernel)
  simp only [Bool.and_eq_true, decide_eq_true_eq] at tested
  obtain ⟨inputs, weights⟩ := tested
  obtain ⟨loads_iff, loads⟩ := exists_loadGraph_iff_loadable twiceSample.encode twiceShapes
  obtain ⟨message, g, decoded, found, loadable⟩ := loads_iff.1 ⟨graph, loaded⟩
  obtain ⟨_, _, decoded', found', loadsAs⟩ := loads graph loaded
  cases decoded.symm.trans decoded'
  cases found.symm.trans found'
  exact ⟨message, g, graph, decoded, found, loadable, loaded, loadsAs, inputs, weights⟩

end Exchange

end Microbatch
