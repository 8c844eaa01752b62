import Microbatch.Proofs.Codec
import Microbatch.Proofs.Dependence
import Microbatch.Proofs.Execution

set_option relaxedAutoImplicit false
set_option autoImplicit false

/-!
# The order of nodes

A graph lists its nodes in an order in which each reads what is known before it. The same nodes can
often be listed in other such orders. The order does not show in the compiled program, except for
the order of the program's nodes: every tensor has one producer, so that the description of a tensor
and its value are what its producer makes of what it reads, whenever the producer's turn is.

## Main definitions

* `Microbatch.Graph.Lists` — the nodes of a graph.
* `Microbatch.Graph.Reordered` — two graphs with the same nodes in two orders.

## Main results

* `Microbatch.Program.typeNodes_perm` — both orders describe the same tensors.
* `Microbatch.NodesTyped.values_unique`, `Microbatch.LossesTyped.values_unique` — the equations of
  the forward sweep have one solution.
* `Microbatch.Program.compile_reordered` — both orders compile to the same program, which computes
  the same.
-/

namespace Microbatch

open Exchange

/-! ### Types in a wider context -/

section Wider

variable {infos infos' : NameMap TensorInfo} (h : Extends infos infos')
include h

lemma operandInfo_mono {output input : String} {info : TensorInfo}
    (typed : operandInfo infos output input = .ok info) :
    operandInfo infos' output input = .ok info := by
  have known := h _ _ (operandInfo_eq_ok typed)
  rw [operandInfo, known]

lemma Node.unary_mono {m : NodeMessage} {expression : String → Expression} {node : Node}
    (typed : Node.unary infos m expression = .ok node) :
    Node.unary infos' m expression = .ok node := by
  unfold Node.unary at typed ⊢
  obtain ⟨x, hx, typed⟩ := Outcome.bind_eq_ok_iff.1 typed
  obtain ⟨output, ho, typed⟩ := Outcome.bind_eq_ok_iff.1 typed
  obtain ⟨info, hi, typed⟩ := Outcome.bind_eq_ok_iff.1 typed
  rw [hx, Outcome.ok_bind, ho, Outcome.ok_bind, operandInfo_mono h hi]
  exact typed

/-- **A node is typed the same when more is known.** -/
lemma Node.ofMessage_mono {m : NodeMessage} {node : Node}
    (typed : Node.ofMessage infos m = .ok node) : Node.ofMessage infos' m = .ok node := by
  unfold Node.ofMessage at typed ⊢
  split at typed
  · obtain ⟨⟨left, right⟩, two, typed⟩ := Outcome.bind_eq_ok_iff.1 typed
    obtain ⟨output, ho, typed⟩ := Outcome.bind_eq_ok_iff.1 typed
    obtain ⟨a, ha, typed⟩ := Outcome.bind_eq_ok_iff.1 typed
    obtain ⟨b, hb, typed⟩ := Outcome.bind_eq_ok_iff.1 typed
    simp only [two, ho, operandInfo_mono h ha, operandInfo_mono h hb, Outcome.ok_bind]
    exact typed
  · obtain ⟨⟨left, right⟩, two, typed⟩ := Outcome.bind_eq_ok_iff.1 typed
    obtain ⟨output, ho, typed⟩ := Outcome.bind_eq_ok_iff.1 typed
    obtain ⟨a, ha, typed⟩ := Outcome.bind_eq_ok_iff.1 typed
    obtain ⟨b, hb, typed⟩ := Outcome.bind_eq_ok_iff.1 typed
    simp only [two, ho, operandInfo_mono h ha, operandInfo_mono h hb, Outcome.ok_bind]
    exact typed
  · exact Node.unary_mono h typed
  · exact Node.unary_mono h typed
  · obtain ⟨factor, hf, typed⟩ := Outcome.bind_eq_ok_iff.1 typed
    rw [hf, Outcome.ok_bind]
    exact Node.unary_mono h typed
  · cases typed

end Wider

/-- Descriptions that extend each other are the same. -/
lemma Extends.antisymm {infos infos' : NameMap TensorInfo} (h : Extends infos infos')
    (h' : Extends infos' infos) : infos = infos' := by
  apply NameMap.ext_find?
  intro name
  cases known : infos.find? name with
  | some info => exact (h name info known).symm
  | none =>
    cases known' : infos'.find? name with
    | none => rfl
    | some info =>
      have := h' name info known'
      rw [known] at this
      cases this

/-! ### Both orders describe the same tensors -/

namespace Program

/-- **Every node is typed by all that is known at the end**, and described there. -/
lemma forall₂_of_typeNodes {infos infos' : NameMap TensorInfo} {messages : List NodeMessage}
    {nodes : List Node} (typed : typeNodes infos messages = .ok (nodes, infos')) :
    List.Forall₂ (fun m node => Node.ofMessage infos' m = .ok node ∧
      infos'.find? node.output = some node.info) messages nodes := by
  induction messages generalizing infos nodes with
  | nil =>
    cases typed
    exact .nil
  | cons m rest ih =>
    unfold typeNodes at typed
    obtain ⟨node, hn, typed⟩ := Outcome.bind_eq_ok_iff.1 typed
    split at typed
    · cases typed
    rename_i fresh
    obtain ⟨⟨others, last⟩, ho, typed⟩ := Outcome.bind_eq_ok_iff.1 typed
    cases typed
    have later := (nodesTyped_of_typeNodes ho).extends
    refine .cons ⟨?_, later _ _ (NameMap.find?_insert_self _ _ _)⟩ (ih ho)
    exact Node.ofMessage_mono ((extends_insert (find?_of_not_contains fresh)).trans later) hn

/-- Nodes that are all typed by what is known, and described there, make nothing else known. -/
lemma extends_of_typeNodes {infos infos' known : NameMap TensorInfo} {messages : List NodeMessage}
    {nodes : List Node} (typed : typeNodes infos messages = .ok (nodes, infos'))
    (below : Extends infos known)
    (again : ∀ m ∈ messages, ∃ node, Node.ofMessage known m = .ok node ∧
      known.find? node.output = some node.info) : Extends infos' known := by
  induction messages generalizing infos nodes with
  | nil =>
    cases typed
    exact below
  | cons m rest ih =>
    unfold typeNodes at typed
    obtain ⟨node, hn, typed⟩ := Outcome.bind_eq_ok_iff.1 typed
    split at typed
    · cases typed
    obtain ⟨⟨others, last⟩, ho, typed⟩ := Outcome.bind_eq_ok_iff.1 typed
    cases typed
    obtain ⟨⟨node', hn', described⟩, again_rest⟩ := List.forall_mem_cons.1 again
    have widened := Node.ofMessage_mono below hn
    obtain rfl : node' = node := Except.ok.inj (hn'.symm.trans widened)
    exact ih ho (below.insert described) again_rest

/-- **The same nodes in two orders describe the same tensors.**

**Proof sketch.** What the second order knows at the end types every node of the first order, so
that the first order makes nothing else known; and the other way round. Then each message gives the
same node in both orders. -/
theorem typeNodes_perm {infos known known' : NameMap TensorInfo}
    {messages messages' : List NodeMessage} {nodes nodes' : List Node}
    (perm : messages'.Perm messages) (typed : typeNodes infos messages = .ok (nodes, known))
    (typed' : typeNodes infos messages' = .ok (nodes', known')) :
    known' = known ∧ nodes'.Perm nodes := by
  have each := forall₂_of_typeNodes typed
  have each' := forall₂_of_typeNodes typed'
  have same : known' = known := by
    apply Extends.antisymm
    · refine extends_of_typeNodes typed' (nodesTyped_of_typeNodes typed).extends ?_
      intro m member
      obtain ⟨node, -, found⟩ := Outcome.exists_of_forall₂_right each.flip (perm.mem_iff.1 member)
      exact ⟨node, found⟩
    · refine extends_of_typeNodes typed (nodesTyped_of_typeNodes typed').extends ?_
      intro m member
      obtain ⟨node, -, found⟩ := Outcome.exists_of_forall₂_right each'.flip (perm.mem_iff.2 member)
      exact ⟨node, found⟩
  subst same
  refine ⟨rfl, ?_⟩
  refine List.rel_perm_imp ?_ each' each perm
  intro m node node' first second
  exact Except.ok.inj (first.1.symm.trans second.1)

/-- Both orders train the same weights. -/
lemma trainableWeights_perm {sources infos infos' weights : NameMap TensorInfo}
    {nodes nodes' : List Node} (t : NodesTyped sources nodes infos)
    (t' : NodesTyped sources nodes' infos') (perm : nodes'.Perm nodes) (kind : Kind) :
    trainableWeights weights nodes' kind = trainableWeights weights nodes kind := by
  unfold trainableWeights
  split
  · apply List.filter_congr
    intro name _
    rw [Bool.eq_iff_iff, List.contains_iff_mem, List.contains_iff_mem, mem_live_iff t,
      mem_live_iff t']
    simp only [reaches_iff_of_perm perm]
  · rfl

end Program

/-! ### Both orders compute the same values -/

section Values

variable {F : Type} [Scalar F] {infos infos' : NameMap TensorInfo} {values values' : Values F}

/-- **The equations of typed nodes have one solution**, given the values before them.

**Proof sketch.** Induction on the typing. Two solutions agree on what the first node reads, hence
on its result, hence on all that is known behind it. -/
lemma NodesTyped.values_unique {nodes : List Node} (t : NodesTyped infos nodes infos')
    (agree : ∀ name info, infos.find? name = some info → values'.find? name = values.find? name)
    (solved : ∀ node ∈ nodes, ∃ xs, node.expression.evaluate values = .ok xs ∧
      values.find? node.output = some xs)
    (solved' : ∀ node ∈ nodes, ∃ xs, node.expression.evaluate values' = .ok xs ∧
      values'.find? node.output = some xs) :
    ∀ name info, infos'.find? name = some info → values'.find? name = values.find? name := by
  induction t with
  | nil infos => exact agree
  | @cons infos infos' node rest described fresh others ih =>
    obtain ⟨⟨xs, computed, found⟩, solved_rest⟩ := List.forall_mem_cons.1 solved
    obtain ⟨⟨xs', computed', found'⟩, solved_rest'⟩ := List.forall_mem_cons.1 solved'
    have same_reads : node.expression.evaluate values' = node.expression.evaluate values := by
      apply Expression.evaluate_congr
      intro name read
      obtain ⟨a, known⟩ := described.known read
      exact agree name a known
    have same_result : xs' = xs := by
      rw [same_reads, computed] at computed'
      exact (Except.ok.inj computed').symm
    refine ih ?_ solved_rest solved_rest'
    intro name info known
    by_cases here : name = node.output
    · rw [here, found, found', same_result]
    · rw [NameMap.find?_insert_of_ne _ here] at known
      exact agree name info known

/-- **The equations of typed losses have one solution**, given the values before them. -/
lemma LossesTyped.values_unique {losses : List Loss} (t : LossesTyped infos losses infos')
    (agree : ∀ name info, infos.find? name = some info → values'.find? name = values.find? name)
    (solved : ∀ loss ∈ losses, ∃ xs, values.find? loss.input = some xs ∧
      values.find? loss.output = some [loss.value xs])
    (solved' : ∀ loss ∈ losses, ∃ xs, values'.find? loss.input = some xs ∧
      values'.find? loss.output = some [loss.value xs]) :
    ∀ name info, infos'.find? name = some info → values'.find? name = values.find? name := by
  induction t with
  | nil infos => exact agree
  | @cons infos infos' loss rest info known fresh others ih =>
    obtain ⟨⟨xs, read, found⟩, solved_rest⟩ := List.forall_mem_cons.1 solved
    obtain ⟨⟨xs', read', found'⟩, solved_rest'⟩ := List.forall_mem_cons.1 solved'
    have same_input : xs' = xs := by
      rw [agree _ _ known, read] at read'
      exact (Option.some.inj read').symm
    refine ih ?_ solved_rest solved_rest'
    intro name info known
    by_cases here : name = loss.output
    · rw [here, found, found', same_input]
    · rw [NameMap.find?_insert_of_ne _ here] at known
      exact agree name info known

omit [Scalar F] in
/-- Values of the described sizes are the same when they are the same for what is described. -/
lemma Values.Typed.ext (typed : values.Typed infos) (typed' : values'.Typed infos)
    (agree : ∀ name info, infos.find? name = some info → values'.find? name = values.find? name) :
    values' = values := by
  apply NameMap.ext_find?
  intro name
  cases known : infos.find? name with
  | some info => exact agree name info known
  | none =>
    have unknown := NameMap.find?_eq_none_iff.1 known
    have absent : values.find? name = none := by
      rw [NameMap.find?_eq_none_iff, NameMap.names_eq_of_mapValues typed]
      exact unknown
    have absent' : values'.find? name = none := by
      rw [NameMap.find?_eq_none_iff, NameMap.names_eq_of_mapValues typed']
      exact unknown
    rw [absent, absent']

/-- **Programs with the same nodes in two orders compute the same values.** -/
lemma Program.forward_eq_of_perm {program program' : Program} {sources : NameMap TensorInfo}
    (nodes : NodesTyped sources program.nodes infos)
    (losses : LossesTyped infos program.losses program.infos)
    (nodes' : NodesTyped sources program'.nodes infos')
    (losses' : LossesTyped infos' program'.losses program'.infos)
    (perm : program'.nodes.Perm program.nodes) (same_losses : program'.losses = program.losses)
    (same_infos : program'.infos = program.infos) {start : Values F}
    (typed : start.Typed sources) : ∃ values, program.forward start = .ok values ∧
      program'.forward start = .ok values ∧ values.Typed program.infos := by
  obtain ⟨values, _, ran, -, typed_values, -⟩ := exists_sweeps nodes losses typed
  obtain ⟨values', _, ran', -, typed_values', -⟩ := exists_sweeps nodes' losses' typed
  obtain ⟨kept, of_nodes, of_losses⟩ := forward_eq_ok nodes losses ran
  obtain ⟨kept', of_nodes', of_losses'⟩ := forward_eq_ok nodes' losses' ran'
  rw [same_infos] at typed_values'
  have begun : ∀ name info, sources.find? name = some info →
      values'.find? name = values.find? name := by
    intro name info known
    rw [kept name info known, kept' name info known]
  have behind_nodes := nodes.values_unique begun of_nodes fun node member =>
    of_nodes' node (perm.mem_iff.2 member)
  have behind_losses := losses.values_unique behind_nodes of_losses fun loss member =>
    of_losses' loss (same_losses ▸ member)
  obtain rfl := typed_values.ext typed_values' behind_losses
  exact ⟨values', ran, ran', typed_values⟩

end Values

/-! ### Compiling both orders -/

/-- **The nodes of a graph**, as its model lists them. -/
def Graph.Lists (graph : Graph) (nodes : List NodeMessage) : Prop :=
  ∃ message g, ModelMessage.decode graph.model = .ok message ∧ message.requireGraph = .ok g ∧
    g.nodes = nodes

/-- **Two graphs with the same nodes in two orders**, and with the same inputs and weights. -/
structure Graph.Reordered (graph graph' : Graph) : Prop where
  /-- The nodes of the one are those of the other in some order. -/
  nodes : ∃ messages messages', graph.Lists messages ∧ graph'.Lists messages' ∧
    messages'.Perm messages
  /-- The inputs are the same. -/
  inputs : graph'.inputs = graph.inputs
  /-- The weights are the same. -/
  weights : graph'.weights = graph.weights

namespace Program

/-- A compiled program has the nodes that its graph lists. -/
lemma typeNodes_of_compile {graph : Graph} {kind : Kind} {program : Program}
    {messages : List NodeMessage} (compiled : compile graph kind = .ok program)
    (lists : graph.Lists messages) : ∃ infos,
      typeNodes (sources graph) messages = .ok (program.nodes, infos) ∧
        typeLosses infos kind.losses = .ok program.infos := by
  obtain ⟨message, g, decoded, has_graph, rfl⟩ := lists
  obtain ⟨message', g', infos, decoded', has_graph', -, typed, losses, -⟩ :=
    compile_eq_ok compiled
  obtain rfl : message' = message := Except.ok.inj (decoded'.symm.trans decoded)
  obtain rfl : g' = g := Except.ok.inj (has_graph'.symm.trans has_graph)
  exact ⟨infos, typed, losses⟩

end Program

namespace HostDevice

variable {program program' : Program}

/-- A device that does not train looks at its program only to run it forward and for descriptions.
-/
lemma execute_congr (same_infos : program'.infos = program.infos)
    (same_trainable : program'.trainable = program.trainable) {d : HostDevice}
    {weights : NameMap Parameter} (loaded : Loaded program weights d)
    (inference : d.training = false) {feed : List (String × Tensor)}
    (same_values : (startValues feed weights >>= program'.forward) =
      (startValues feed weights >>= program.forward)) (wanted : List String) :
    (execute feed wanted { d with program := program' }).1 = (execute feed wanted d).1 := by
  have same_fetch : ∀ (values : Values Single) gradients,
      fetch program' values gradients = fetch program values gradients := by
    intro values gradients
    funext name
    simp only [fetch, trainedGradient?, fetchInfo, same_infos, same_trainable]
  unfold execute
  simp only [loaded.attached, loaded.program_eq, loaded.weights_eq, inference, same_values,
    same_fetch]
  cases startValues feed weights >>= program.forward with
  | error cause => rfl
  | ok values => rfl

/-- A device with an inference program hands out all that the program describes. -/
lemma Loaded.execute_of_inference {d : HostDevice} {weights : NameMap Parameter}
    (loaded : Loaded program weights d) (inference : d.training = false)
    (untrained : program.trainable = []) {feed : List (String × Tensor)} {values : Values Single}
    (ran : (startValues feed weights >>= program.forward) = .ok values)
    (typed : values.Typed program.infos) {wanted : List String}
    (known : ∀ name ∈ wanted, ∃ info, program.infos.find? name = some info) :
    ∃ tensors, (execute feed wanted d).1 = .ok tensors := by
  unfold execute
  simp only [loaded.attached, loaded.program_eq, loaded.weights_eq, inference, ran]
  apply Outcome.exists_mapM_eq_ok
  intro name member
  obtain ⟨info, described⟩ := known name member
  obtain ⟨data, found, -⟩ := typed.find? described
  have no_gradient : trainedGradient? program name = none := by
    simp [trainedGradient?, untrained]
  refine ⟨.ofSingles info.shape data, ?_⟩
  simp only [fetch, no_gradient, found, fetchInfo, described]
  rfl

end HostDevice

/-- **The order of nodes does not matter.** Take two graphs with the same nodes in two orders and
with the same inputs and weights, and compile both for one kind of session. Both programs describe
the same tensors, have the same weights, train the same of them, have the same losses and offer the
same. From all values of the declared sizes, under any arithmetic, they compute the same value for
every tensor. So a device that does not train returns the same with either of them, whatever is
wanted of it; and in an inference session it returns all that is offered.

**Proof sketch.** Both orders describe the same tensors, and their nodes are the same in two orders.
What losses depend on is a matter of chains of nodes, for which the order is nothing. The values at
the end solve the equations of all nodes and losses, and these have one solution. -/
theorem Program.compile_reordered {graph graph' : Graph} (reordered : graph.Reordered graph')
    {kind : Kind} {program program' : Program} (compiled : compile graph kind = .ok program)
    (compiled' : compile graph' kind = .ok program') :
    (program'.nodes.Perm program.nodes ∧ program'.infos = program.infos ∧
      program'.weights = program.weights ∧ program'.trainable = program.trainable ∧
      program'.losses = program.losses ∧ program'.signature = program.signature) ∧
    (∀ (F : Type) [Scalar F] (start : Values F), start.Typed (sources graph) →
      ∃ values, program.forward start = .ok values ∧ program'.forward start = .ok values ∧
        values.Typed program.infos) ∧
    ∀ (d : HostDevice) (weights : NameMap Parameter) (feed : List (String × Tensor)),
      HostDevice.Loaded program weights d → d.training = false →
      HostDevice.Supplies program.signature.inputs feed → ∀ wanted,
        (HostDevice.execute feed wanted { d with program := program' }).1 =
          (HostDevice.execute feed wanted d).1 ∧
        (kind.isTraining = false →
          (∀ name ∈ wanted, ∃ info, program.signature.outputs.find? name = some info) →
          ∃ tensors, (HostDevice.execute feed wanted d).1 = .ok tensors) := by
  obtain ⟨messages, messages', lists, lists', perm⟩ := reordered.nodes
  have same_sources : sources graph' = sources graph := by
    rw [sources, sources, reordered.inputs, reordered.weights]
  obtain ⟨infos, typed, losses⟩ := typeNodes_of_compile compiled lists
  obtain ⟨infos', typed', losses'⟩ := typeNodes_of_compile compiled' lists'
  rw [same_sources] at typed'
  obtain ⟨rfl, perm_nodes⟩ := typeNodes_perm perm typed typed'
  obtain ⟨_, _, _, -, -, -, -, -, from_kind, weights, trainable, signature⟩ :=
    compile_eq_ok compiled
  obtain ⟨_, _, _, -, -, -, -, -, from_kind', weights', trainable', signature'⟩ :=
    compile_eq_ok compiled'
  have nodes := nodesTyped_of_typeNodes typed
  have nodes' := nodesTyped_of_typeNodes typed'
  have same_infos : program'.infos = program.infos :=
    Except.ok.inj (losses'.symm.trans losses)
  have same_losses : program'.losses = program.losses := from_kind'.trans from_kind.symm
  have same_weights : program'.weights = program.weights := by
    rw [weights', weights, reordered.weights]
  have same_trainable : program'.trainable = program.trainable := by
    rw [trainable', trainable, same_weights]
    exact trainableWeights_perm nodes nodes' perm_nodes kind
  have same_signature : program'.signature = program.signature := by
    rw [signature', signature, reordered.inputs, same_infos, same_trainable]
  have runs : ∀ (F : Type) [Scalar F] (start : Values F), start.Typed (sources graph) →
      ∃ values, program.forward start = .ok values ∧ program'.forward start = .ok values ∧
        values.Typed program.infos := by
    intro F _ start begun
    refine forward_eq_of_perm nodes ?_ nodes' ?_ perm_nodes same_losses same_infos begun
    · exact from_kind ▸ lossesTyped_of_typeLosses losses
    · exact from_kind' ▸ lossesTyped_of_typeLosses losses'
  refine ⟨⟨perm_nodes, same_infos, same_weights, same_trainable, same_losses, same_signature⟩,
    runs, ?_⟩
  intro d held feed loaded inference supplied wanted
  obtain ⟨start, started, begun⟩ := HostDevice.startValues_typed supplied loaded.sized
  rw [loaded.declared, ← sources_eq_of_compile compiled] at begun
  obtain ⟨values, ran, ran', typed_values⟩ := runs Single start begun
  constructor
  · refine HostDevice.execute_congr same_infos same_trainable loaded inference ?_ wanted
    rw [started, Outcome.ok_bind, Outcome.ok_bind, ran, ran']
  · intro no_training offered
    have untrained := trainable_of_inference compiled no_training
    refine loaded.execute_of_inference inference untrained (by rw [started]; exact ran)
      typed_values ?_
    rw [signature, untrained] at offered
    exact offered

/-! ### A product and a copy -/

/-- A product and a copy, neither of which reads the other, and their sum. -/
def forkNodes : List NodeMessage :=
  [{ inputs := ["x", "w"], outputs := ["product"], operation := "MatMul" },
    { inputs := ["x"], outputs := ["copy"], operation := "Identity" },
    { inputs := ["product", "copy"], outputs := ["sum"], operation := "Add" }]

/-- The same with the copy before the product. -/
def forkNodesSwapped : List NodeMessage :=
  [{ inputs := ["x"], outputs := ["copy"], operation := "Identity" },
    { inputs := ["x", "w"], outputs := ["product"], operation := "MatMul" },
    { inputs := ["product", "copy"], outputs := ["sum"], operation := "Add" }]

/-- A graph with some nodes, one input and one weight. -/
def forkGraph (nodes : List NodeMessage) : Graph where
  model := ModelMessage.encode { graph := some { nodes := nodes } }
  inputs := .ofList [("x", .float32 [2, 1])]
  weights := .ofList [("w", .ofSingles ⟨[1, 1]⟩ [Single.one])]

/-- The graph lists the nodes that it is made of. -/
lemma lists_forkGraph {nodes : List NodeMessage} (plain : nodes.map NodeMessage.normal = nodes)
    (fits : (forkGraph nodes).model.length < Size.limit) : (forkGraph nodes).Lists nodes :=
  ⟨_, _, ModelMessage.decode_encode fits, rfl, plain⟩

/-- The weight on a device. -/
def forkWeights : NameMap Parameter := .ofList [("w", ⟨⟨[1, 1]⟩, [Single.one]⟩)]

/-- What the device is fed. -/
def forkFeed : List (String × Tensor) :=
  [("x", .ofSingles ⟨[2, 1]⟩ [Single.one, Single.zero])]

/-- The values that the graph starts from. -/
def forkStart : Values Single := .ofList [("w", [Single.one]), ("x", [Single.one, Single.zero])]

/-- A device that runs a program of the graph. -/
def forkDevice (program : Program) : HostDevice where
  target := .cpu
  program := program
  training := false
  attached := true
  weights := some forkWeights

/-- **The product and the copy may change places**: the programs differ, and all that they describe,
compute and return is the same. -/
theorem Program.compile_reordered_sample : ∃ program program' values tensors,
    compile (forkGraph forkNodes) .inference = .ok program ∧
    compile (forkGraph forkNodesSwapped) .inference = .ok program' ∧
    program'.nodes ≠ program.nodes ∧ program'.infos = program.infos ∧
    program.forward forkStart = .ok values ∧ program'.forward forkStart = .ok values ∧
    (HostDevice.execute forkFeed ["sum"] (forkDevice program)).1 = .ok tensors ∧
    (HostDevice.execute forkFeed ["sum"] (forkDevice program')).1 = .ok tensors := by
  have reordered : (forkGraph forkNodes).Reordered (forkGraph forkNodesSwapped) :=
    { nodes := ⟨forkNodes, forkNodesSwapped,
        lists_forkGraph (by decide) (by decide +kernel),
        lists_forkGraph (by decide) (by decide +kernel), .swap _ _ _⟩
      inputs := rfl
      weights := rfl }
  have begun : forkStart.Typed (sources (forkGraph forkNodes)) := by decide +kernel
  obtain ⟨program, compiled, tested⟩ := Outcome.exists_of_any_toOption
    (show (compile (forkGraph forkNodes) .inference).toOption.any (fun program =>
      decide (HostDevice.described forkWeights = program.weights) &&
      decide (HostDevice.Supplies program.signature.inputs forkFeed) &&
      (program.signature.outputs.find? "sum").isSome &&
      (compile (forkGraph forkNodesSwapped) .inference).toOption.any fun program' =>
        decide (program'.nodes ≠ program.nodes)) = true by decide +kernel)
  simp only [Bool.and_eq_true, decide_eq_true_eq] at tested
  obtain ⟨⟨⟨declared, supplied⟩, offered⟩, swapped⟩ := tested
  obtain ⟨program', compiled', differ⟩ := Outcome.exists_of_any_toOption swapped
  have loaded : HostDevice.Loaded program forkWeights (forkDevice program) :=
    ⟨rfl, rfl, rfl, declared, by decide +kernel⟩
  obtain ⟨⟨-, same_infos, -⟩, runs, executes⟩ :=
    compile_reordered reordered compiled compiled'
  obtain ⟨values, ran, ran', -⟩ := runs Single forkStart begun
  obtain ⟨same, returns⟩ := executes _ _ _ loaded rfl supplied ["sum"]
  obtain ⟨tensors, returned⟩ := returns rfl (by simpa [Option.isSome_iff_exists] using offered)
  exact ⟨program, program', values, tensors, compiled, compiled', of_decide_eq_true differ,
    same_infos, ran, ran', returned, same.trans returned⟩

end Microbatch
