import Microbatch.Proofs.NodeOrder
import Microbatch.Proofs.Noninterference

set_option relaxedAutoImplicit false
set_option autoImplicit false

/-!
# Which weights are trained, and by which gradients

A model lists its nodes by what they read and produce. A weight is trained exactly if a chain of
these nodes leads from it to what some loss reads, and then it has a gradient in every micro-batch:
one of as many numbers as the weight has elements, even where that is none. So descent never passes
a trained weight over, and no gradient that is handed out stands for a missing one.

## Main definitions

* `Microbatch.Leads` — a chain of a model's nodes from one tensor to another.
* `Microbatch.Program.GradientsComplete` — gradients that leave no trained weight out.

## Main results

* `Microbatch.Program.reachesLoss_iff_leads` — compilation keeps the chains of the model.
* `Microbatch.Program.gradientsComplete_of_typed` — the gradients of one way back.
* `Microbatch.Program.trainable_exact_gradients_complete` — both, for training programs and for the
  devices that run them.
-/

namespace Microbatch

open Exchange

/-! ### Chains of a model's nodes -/

/-- **A chain of a model's nodes leads from one tensor to another.** Every tensor leads to itself.
-/
def Leads (messages : List NodeMessage) : String → String → Prop :=
  Relation.ReflTransGen fun source target => ∃ m ∈ messages, source ∈ m.inputs ∧ target ∈ m.outputs

/-- A message with one input lists it alone. -/
lemma Exchange.NodeMessage.inputs_of_one {m : NodeMessage} {x : String} (h : m.one = .ok x) :
    m.inputs = [x] := by
  unfold NodeMessage.one at h
  split at h
  · rename_i listed
    rw [listed, Except.ok.inj h]
  · cases h

/-- A message with two inputs lists them in order. -/
lemma Exchange.NodeMessage.inputs_of_two {m : NodeMessage} {x y : String}
    (h : m.two = .ok (x, y)) : m.inputs = [x, y] := by
  unfold NodeMessage.two at h
  split at h
  · rename_i listed
    cases h
    exact listed
  · cases h

/-- A message with one output lists it alone. -/
lemma Exchange.NodeMessage.outputs_of_result {m : NodeMessage} {x : String}
    (h : m.result = .ok x) : m.outputs = [x] := by
  unfold NodeMessage.result at h
  split at h
  · rename_i listed
    rw [listed, Except.ok.inj h]
  · cases h

/-- A node with one operand reads and produces what its message lists. -/
lemma Node.wiring_of_unary {infos : NameMap TensorInfo} {m : NodeMessage}
    {expression : String → Expression} {node : Node}
    (reads : ∀ operand, (expression operand).inputs = [operand])
    (typed : Node.unary infos m expression = .ok node) :
    m.inputs = node.expression.inputs ∧ m.outputs = [node.output] := by
  unfold Node.unary at typed
  obtain ⟨x, one, typed⟩ := Outcome.bind_eq_ok_iff.1 typed
  obtain ⟨output, result, typed⟩ := Outcome.bind_eq_ok_iff.1 typed
  obtain ⟨info, -, typed⟩ := Outcome.bind_eq_ok_iff.1 typed
  cases typed
  exact ⟨(NodeMessage.inputs_of_one one).trans (reads x).symm,
    NodeMessage.outputs_of_result result⟩

/-- **A node reads and produces what its message lists.** -/
lemma Node.wiring_of_ofMessage {infos : NameMap TensorInfo} {m : NodeMessage} {node : Node}
    (typed : Node.ofMessage infos m = .ok node) :
    m.inputs = node.expression.inputs ∧ m.outputs = [node.output] := by
  unfold Node.ofMessage at typed
  split at typed
  · obtain ⟨⟨left, right⟩, two, typed⟩ := Outcome.bind_eq_ok_iff.1 typed
    obtain ⟨output, result, typed⟩ := Outcome.bind_eq_ok_iff.1 typed
    obtain ⟨a, -, typed⟩ := Outcome.bind_eq_ok_iff.1 typed
    obtain ⟨b, -, typed⟩ := Outcome.bind_eq_ok_iff.1 typed
    obtain ⟨⟨size, info⟩, -, typed⟩ := Outcome.bind_eq_ok_iff.1 typed
    cases typed
    exact ⟨NodeMessage.inputs_of_two two, NodeMessage.outputs_of_result result⟩
  · obtain ⟨⟨left, right⟩, two, typed⟩ := Outcome.bind_eq_ok_iff.1 typed
    obtain ⟨output, result, typed⟩ := Outcome.bind_eq_ok_iff.1 typed
    obtain ⟨a, -, typed⟩ := Outcome.bind_eq_ok_iff.1 typed
    obtain ⟨b, -, typed⟩ := Outcome.bind_eq_ok_iff.1 typed
    obtain ⟨info, -, typed⟩ := Outcome.bind_eq_ok_iff.1 typed
    cases typed
    exact ⟨NodeMessage.inputs_of_two two, NodeMessage.outputs_of_result result⟩
  · exact Node.wiring_of_unary (fun _ => rfl) typed
  · exact Node.wiring_of_unary (fun _ => rfl) typed
  · obtain ⟨factor, -, typed⟩ := Outcome.bind_eq_ok_iff.1 typed
    exact Node.wiring_of_unary (fun _ => rfl) typed
  · cases typed

namespace Program

variable {graph : Graph} {kind : Kind} {program : Program} {messages : List NodeMessage}

/-- **The nodes of a program carry on what the nodes of its model carry on.** -/
lemma carries_iff_of_typeNodes {infos infos' : NameMap TensorInfo} {nodes : List Node}
    (typed : typeNodes infos messages = .ok (nodes, infos')) {source target : String} :
    Carries nodes source target ↔ ∃ m ∈ messages, source ∈ m.inputs ∧ target ∈ m.outputs := by
  have wired : List.Forall₂ (fun m node => m.inputs = node.expression.inputs ∧
      m.outputs = [node.output]) messages nodes :=
    (forall₂_of_typeNodes typed).imp fun _ _ h => Node.wiring_of_ofMessage h.1
  clear typed
  induction wired with
  | nil => simp [Carries]
  | @cons m node _ _ first _ ih =>
    obtain ⟨inputs, outputs⟩ := first
    have here : (source ∈ node.expression.inputs ∧ target = node.output) ↔
        source ∈ m.inputs ∧ target ∈ m.outputs := by
      rw [inputs, outputs, List.mem_singleton]
    rw [Carries, List.exists_mem_cons_iff, List.exists_mem_cons_iff]
    exact or_congr here ih

/-- **Compilation keeps the chains of the model**: some loss depends on a tensor exactly if a chain
of the model's nodes leads from it to what a loss of the session reads. -/
lemma reachesLoss_iff_leads (compiled : compile graph kind = .ok program)
    (lists : graph.Lists messages) {name : String} :
    program.ReachesLoss name ↔ ∃ loss ∈ kind.losses, Leads messages name loss.input := by
  obtain ⟨infos, typed, -⟩ := typeNodes_of_compile compiled lists
  obtain ⟨_, _, _, -, -, -, -, -, same_losses, -⟩ := compile_eq_ok compiled
  have same_chains : Reaches program.nodes = Leads messages := by
    unfold Reaches Leads
    congr 1
    funext source target
    exact propext (carries_iff_of_typeNodes typed)
  rw [ReachesLoss, same_losses, same_chains]

/-- A compiled program has the nodes that its model lists. -/
lemma exists_lists_of_compile (compiled : compile graph kind = .ok program) :
    ∃ messages, graph.Lists messages := by
  obtain ⟨message, g, _, decoded, has_graph, -⟩ := compile_eq_ok compiled
  exact ⟨g.nodes, message, g, decoded, has_graph, rfl⟩

/-! ### Gradients of one way back -/

/-- **Gradients that leave no trained weight out**, on the way back from some values. -/
structure GradientsComplete (program : Program) (values : Values Single)
    (gradients : Gradients Single) : Prop where
  /-- They are what the way back ends with. -/
  ran : program.backward values = .ok gradients
  /-- Exactly the tensors that some loss depends on have a gradient. -/
  reached : ∀ name, (∃ gradient, gradients.find? name = some gradient) ↔ program.ReachesLoss name
  /-- Every trained weight has one with as many numbers as the weight has elements. It is the one
  that is handed out for the weight, and the one that moves it. -/
  trained : ∀ name ∈ program.trainable, ∃ info gradient,
    program.weights.find? name = some info ∧ gradients.find? name = some gradient ∧
    gradient.length = info.shape.dims.prod ∧
    HostDevice.fetch program values gradients (gradientName name) =
      .ok (.ofSingles info.shape gradient) ∧
    ∀ optimizer weights p, weights.find? name = some p →
      (HostDevice.descend program.trainable optimizer gradients weights).find? name =
        some { p with values :=
          Kernel.descend optimizer.learningRate optimizer.weightDecay p.values gradient }

/-- **The gradients of one way back leave no trained weight out.** -/
lemma gradientsComplete_of_typed (compiled : compile graph kind = .ok program)
    {values : Values Single} {gradients : Gradients Single}
    (ran : program.backward values = .ok gradients) (typed : gradients.Typed program.infos) :
    program.GradientsComplete values gradients := by
  have reached : ∀ name, (∃ gradient, gradients.find? name = some gradient) ↔
      program.ReachesLoss name := by
    intro name
    rw [← mem_live_iff_reachesLoss compiled, ← contains_gradients ran, NameMap.contains,
      Option.isSome_iff_exists]
  refine ⟨ran, reached, fun name trained => ?_⟩
  obtain ⟨info, declared⟩ := weight_of_mem_trainable compiled trained
  have known : program.infos.find? name = some info :=
    extends_weights_of_compile compiled name info declared
  obtain ⟨gradient, found⟩ := (reached name).2 (reachesLoss_of_mem_trainable compiled trained)
  obtain ⟨info', known', length⟩ := typed name gradient found
  obtain rfl : info' = info := Option.some.inj (known'.symm.trans known)
  refine ⟨info', gradient, declared, found, length, ?_, fun optimizer weights p held => ?_⟩
  · have described : HostDevice.fetchInfo program name (gradientName name) = .ok info' := by
      rw [HostDevice.fetchInfo, known]
    simp only [HostDevice.fetch, HostDevice.trainedGradient?_gradientName trained, described, found]
    rfl
  · rw [HostDevice.descend, NameMap.find?_mapValues, held, Option.map_some,
      if_pos (List.contains_iff_mem.2 trained), found]

/-- **The trained weights are exact, and their gradients complete.** Take a graph that compiles for
training. The weights that are trained, each listed once, are exactly those from which a chain of
the model's nodes leads to what some loss reads.

From values of the declared sizes for inputs and weights the program runs forward to values of the
declared sizes; from any such values it runs back, and leaves gradients at exactly the tensors that
lead to what some loss reads. Every trained weight has one of its element count. That gradient is
handed out for the weight, and it is the one that moves it. So it is in every micro-batch that a
device runs.

**Proof sketch.** The pass that looks for the tensors behind the losses goes through the nodes in
the same order as the way back does, and finds exactly the starts of chains. -/
theorem trainable_exact_gradients_complete (compiled : compile graph kind = .ok program)
    (training : kind.isTraining = true) :
    (∃ messages, graph.Lists messages ∧ program.trainable.Nodup ∧ ∀ name,
      (program.ReachesLoss name ↔ ∃ loss ∈ kind.losses, Leads messages name loss.input) ∧
      (name ∈ program.trainable ↔
        name ∈ graph.weights.names ∧ ∃ loss ∈ kind.losses, Leads messages name loss.input)) ∧
    (program.weights = graph.weights.mapValues fun _ t => t.info) ∧
    (∀ start : Values Single, start.Typed (sources graph) →
      ∃ values, program.forward start = .ok values ∧ values.Typed program.infos) ∧
    (∀ values : Values Single, values.Typed program.infos →
      ∃ gradients, program.GradientsComplete values gradients) ∧
    ∀ (d : HostDevice) weights optimizer feed wanted, HostDevice.Loaded program weights d →
      d.training = true → d.optimizer = some optimizer →
      HostDevice.Supplies program.signature.inputs feed → ∃ values gradients,
        program.GradientsComplete values gradients ∧
        d.execute feed wanted = (wanted.mapM (HostDevice.fetch program values gradients),
          { d with
            weights :=
              some (HostDevice.descend program.trainable optimizer gradients weights) }) := by
  obtain ⟨_, _, _, -, -, -, -, -, -, weights_eq, trainable, -⟩ := compile_eq_ok compiled
  obtain ⟨messages, lists⟩ := exists_lists_of_compile compiled
  obtain ⟨infos, nodes, losses⟩ := typed_of_compile compiled
  have complete : ∀ values : Values Single, values.Typed program.infos →
      ∃ gradients, program.GradientsComplete values gradients := by
    intro values typed
    obtain ⟨gradients, ran, typed_gradients⟩ := exists_backward nodes losses typed
    exact ⟨gradients, gradientsComplete_of_typed compiled ran typed_gradients⟩
  refine ⟨⟨messages, lists, ?_, fun name => ⟨reachesLoss_iff_leads compiled lists, ?_⟩⟩, weights_eq,
    fun start typed => ?_, complete,
    fun d weights optimizer feed wanted loaded trains held fed => ?_⟩
  · rw [trainable, trainableWeights, if_pos training]
    refine List.Nodup.filter _ (program.weights.pairwise_names.imp fun before same => ?_)
    exact String.lt_irrefl _ (same ▸ before)
  · rw [mem_trainable_iff compiled training, reachesLoss_iff_leads compiled lists, weights_eq,
      NameMap.names_mapValues]
  · obtain ⟨values, _, ran, -, typed_values, -⟩ := exists_sweeps nodes losses typed
    exact ⟨values, ran, typed_values⟩
  · obtain ⟨start, values, gradients, started, ran, ran_back, typed⟩ :=
      loaded.exists_sweeps compiled fed
    obtain ⟨gradients', whole⟩ := complete values typed
    obtain rfl : gradients' = gradients := Except.ok.inj (whole.ran.symm.trans ran_back)
    exact ⟨values, gradients', whole,
      loaded.execute_of_training trains held started ran ran_back wanted⟩

/-! ### A weight without elements -/

/-- A product with an empty matrix that is added to itself, and one row more that is added. Another
weight is read by no loss. -/
def thinGraph : Graph where
  model := Exchange.ModelMessage.encode { graph := some { nodes :=
    [{ inputs := ["x", "thin"], outputs := ["product"], operation := "MatMul" },
      { inputs := ["product", "product"], outputs := ["twice"], operation := "Add" },
      { inputs := ["side"], outputs := ["unread"], operation := "Relu" },
      { inputs := ["twice", "row"], outputs := ["sum"], operation := "Add" }] } }
  inputs := .ofList [("x", .float32 [2, 0])]
  weights := .ofList [("thin", .ofSingles ⟨[0, 1]⟩ []), ("row", .ofSingles ⟨[1]⟩ [Single.one]),
    ("side", .ofSingles ⟨[1]⟩ [Single.one])]

/-- Training on the sum. -/
def thinKind : Kind :=
  .training [⟨"sum", "loss", Single.one, .sum⟩] ⟨.constant, Single.one, Single.zero⟩

/-- The weights as a device holds them. -/
def thinWeights : NameMap Parameter :=
  .ofList [("thin", ⟨⟨[0, 1]⟩, []⟩), ("row", ⟨⟨[1]⟩, [Single.one]⟩),
    ("side", ⟨⟨[1]⟩, [Single.one]⟩)]

/-- A device that trains the program. -/
def thinDevice (program : Program) : HostDevice where
  target := .cpu
  program := program
  training := true
  attached := true
  weights := some thinWeights
  optimizer := some ⟨.constant, Single.one, Single.zero⟩

/-- **A weight without elements is trained as well**, by a gradient without elements, and the weight
that no loss depends on is not. -/
theorem trainable_exact_gradients_complete_sample : ∃ program values gradients,
    compile thinGraph thinKind = .ok program ∧ thinKind.isTraining = true ∧
    (∀ name, name ∈ program.trainable ↔ name = "row" ∨ name = "thin") ∧
    program.GradientsComplete values gradients ∧ gradients.find? "thin" = some [] ∧
    gradients.find? "side" = none ∧
    ((thinDevice program).execute [("x", .ofSingles ⟨[2, 0]⟩ [])] [gradientName "thin"]).1 =
      .ok [.ofSingles ⟨[0, 1]⟩ []] := by
  obtain ⟨program, compiled, tested⟩ := Outcome.exists_of_any_toOption
    (show (compile thinGraph thinKind).toOption.any (fun program : Program =>
      decide (HostDevice.described thinWeights = program.weights) &&
      decide (HostDevice.Supplies program.signature.inputs [("x", .ofSingles ⟨[2, 0]⟩ [])]) &&
      decide (program.weights.find? "thin" = some (.float32 [0, 1])) &&
      decide ("side" ∉ live program.nodes program.losses) &&
      decide (program.trainable = ["row", "thin"])) = true by decide +kernel)
  simp only [Bool.and_eq_true, decide_eq_true_eq] at tested
  obtain ⟨⟨⟨⟨declared, supplied⟩, thin⟩, unread⟩, trainable⟩ := tested
  rw [mem_live_iff_reachesLoss compiled] at unread
  have training : thinKind.isTraining = true := rfl
  have loaded : HostDevice.Loaded program thinWeights (thinDevice program) :=
    ⟨rfl, rfl, rfl, declared, by decide +kernel⟩
  obtain ⟨-, -, -, -, runs⟩ := trainable_exact_gradients_complete compiled training
  obtain ⟨values, gradients, complete, executed⟩ :=
    runs _ _ _ _ [gradientName "thin"] loaded rfl rfl supplied
  obtain ⟨info, gradient, described, found, length, fetched, -⟩ :=
    complete.trained "thin" (by simp [trainable])
  obtain rfl : info = .float32 [0, 1] := Option.some.inj (described.symm.trans thin)
  obtain rfl : gradient = [] := List.length_eq_zero_iff.1 length
  refine ⟨program, values, gradients, compiled, training, fun name => ?_, complete, found, ?_, ?_⟩
  · rw [trainable, List.mem_pair]
  · exact Option.eq_none_iff_forall_ne_some.2 fun gradient reached =>
      unread ((complete.reached "side").1 ⟨gradient, reached⟩)
  · rw [executed, List.mapM_cons, fetched]
    rfl

end Program

end Microbatch
