import Microbatch.Proofs.TrainedWeights

set_option relaxedAutoImplicit false
set_option autoImplicit false

/-!
# Which graphs compile

A graph compiles exactly if it is a well-typed program in single assignment: every node is one of
the five operations, reads what is known before it and makes one new tensor known, losses do the
same behind the nodes, and there are descriptions of all tensors under which every operation takes
its operands. Compilation goes through nodes and losses once, and the map that it grows serves for
all of this at a time; here each condition stands on its own, and about the graph as a whole.

## Main definitions

* `Microbatch.Exchange.NodeMessage.WellFormed` — a message that is one operation.
* `Microbatch.Derives`, `Microbatch.Exchange.NodeMessage.Fits` — the description of a result, and a
  node under given descriptions of all tensors.
* `Microbatch.ReadsEarlier` — a list of steps that each read what is known before them.
* `Microbatch.Graph.Typing` — descriptions of exactly the tensors of a graph.
* `Microbatch.Graph.WellFormed` — a graph that compiles, for a kind of session.

## Main results

* `Microbatch.Node.fits_of_ofMessage`, `Microbatch.Node.exists_ofMessage` — one node.
* `Microbatch.Program.singleAssignment_of_typeNodes`, `Microbatch.Program.exists_typeNodes` — all
  nodes.
* `Microbatch.Program.compile_iff_wellFormed` — which graphs compile, and to what.
-/

namespace Microbatch

open Exchange

/-! ### Single nodes -/

/-- How many inputs an operation has, if there is such an operation. -/
def inputCount? (operation : String) : Option Nat :=
  if operation = "MatMul" ∨ operation = "Add" then some 2
  else if operation = "Relu" ∨ operation = "Identity" ∨ operation = "Scale" then some 1
  else none

/-- **A message that is one operation.** -/
structure Exchange.NodeMessage.WellFormed (m : NodeMessage) : Prop where
  /-- There is such an operation, and it has that many inputs. -/
  inputs : inputCount? m.operation = some m.inputs.length
  /-- There is one output. -/
  output : ∃ name, m.outputs = [name]
  /-- A scaling has a factor. -/
  factor : m.operation = "Scale" → ∃ a ∈ m.attributes, a.name = "scale"

/-- Only a scaling needs a factor. -/
lemma Exchange.NodeMessage.wellFormed_of_ne {m : NodeMessage} {name : String}
    (plain : m.operation ≠ "Scale") (inputs : inputCount? m.operation = some m.inputs.length)
    (output : m.outputs = [name]) : m.WellFormed :=
  ⟨inputs, ⟨name, output⟩, fun scaling => absurd scaling plain⟩

/-- **The description of a result**, given those of the inputs. -/
inductive Derives : String → List TensorInfo → TensorInfo → Prop where
  /-- Two matrices with equal inner dimensions have a product. -/
  | matmul {a b : TensorInfo} {rows inner columns : Nat} (left : a.shape.dims = [rows, inner])
      (right : b.shape.dims = [inner, columns]) :
      Derives "MatMul" [a, b] (.float32 [rows, columns])
  /-- To a tensor one of the same shape can be added, and to a matrix a row of its columns. -/
  | add {a b : TensorInfo} (alike : a.shape = b.shape ∨
      ∃ rows columns, a.shape.dims = [rows, columns] ∧ b.shape.dims = [columns]) :
      Derives "Add" [a, b] a
  /-- What is above zero is described like all. -/
  | relu (a : TensorInfo) : Derives "Relu" [a] a
  /-- The operand itself is described as it is. -/
  | identity (a : TensorInfo) : Derives "Identity" [a] a
  /-- A multiple is described like the operand. -/
  | scale (a : TensorInfo) : Derives "Scale" [a] a

/-- **A node under given descriptions of all tensors**: its operands are described so that the
operation takes them, and its result is described as the operation makes it. -/
def Exchange.NodeMessage.Fits (infos : NameMap TensorInfo) (m : NodeMessage) : Prop :=
  ∃ operands result,
    List.Forall₂ (fun name info => infos.find? name = some info) m.inputs operands ∧
    Derives m.operation operands result ∧ ∀ name ∈ m.outputs, infos.find? name = some result

/-- The operation of an expression. -/
def Expression.operation : Expression → String
  | matmul .. => "MatMul"
  | add .. => "Add"
  | relu .. => "Relu"
  | identity .. => "Identity"
  | scale .. => "Scale"

/-- **A node is what a message says**: the same operation on the same inputs, with the same output.
-/
structure Exchange.NodeMessage.Denotes (m : NodeMessage) (node : Node) : Prop where
  /-- The operation is the same. -/
  operation : node.expression.operation = m.operation
  /-- The inputs are the same, in order. -/
  inputs : node.expression.inputs = m.inputs
  /-- The output is the same. -/
  output : m.outputs = [node.output]
  /-- A factor is that of the first setting of its name. -/
  factor : ∀ factor operand, node.expression = .scale factor operand →
    (m.attributes.find? fun a => a.name == "scale").map (·.number) = some factor

variable {infos : NameMap TensorInfo} {m : NodeMessage}

/-- A node with one operand is such a message. -/
lemma Node.fits_of_unary {expression : String → Expression} {node : Node}
    (typed : Node.unary infos m expression = .ok node) : ∃ operand name,
      m.inputs = [operand] ∧ m.outputs = [name] ∧ infos.find? operand = some node.info ∧
        node = ⟨expression operand, name, node.info⟩ := by
  unfold Node.unary at typed
  obtain ⟨operand, one, typed⟩ := Outcome.bind_eq_ok_iff.1 typed
  obtain ⟨name, result, typed⟩ := Outcome.bind_eq_ok_iff.1 typed
  obtain ⟨info, known, typed⟩ := Outcome.bind_eq_ok_iff.1 typed
  cases typed
  exact ⟨operand, name, NodeMessage.inputs_of_one one, NodeMessage.outputs_of_result result,
    operandInfo_eq_ok known, rfl⟩

/-- **A node that is typed is one operation**, and its result is described as the operation makes it
of what is known about its inputs. -/
lemma Node.fits_of_ofMessage {node : Node} (typed : Node.ofMessage infos m = .ok node) :
    m.WellFormed ∧ m.Denotes node ∧ ∃ operands,
      List.Forall₂ (fun name info => infos.find? name = some info) m.inputs operands ∧
        Derives m.operation operands node.info := by
  obtain ⟨inputs, outputs, _, operation, attributes, _⟩ := m
  unfold Node.ofMessage at typed
  dsimp only at typed
  split at typed
  · obtain ⟨⟨left, right⟩, two, typed⟩ := Outcome.bind_eq_ok_iff.1 typed
    obtain ⟨output, result, typed⟩ := Outcome.bind_eq_ok_iff.1 typed
    obtain ⟨a, ha, typed⟩ := Outcome.bind_eq_ok_iff.1 typed
    obtain ⟨b, hb, typed⟩ := Outcome.bind_eq_ok_iff.1 typed
    obtain ⟨⟨size, info⟩, product, typed⟩ := Outcome.bind_eq_ok_iff.1 typed
    cases typed
    obtain rfl : inputs = [left, right] := NodeMessage.inputs_of_two two
    obtain rfl : outputs = [output] := NodeMessage.outputs_of_result result
    obtain ⟨left_dims, right_dims, rfl⟩ := matmulInfo_eq_ok (Outcome.mapError_eq_ok_iff.1 product)
    refine ⟨NodeMessage.wellFormed_of_ne (show "MatMul" ≠ "Scale" by decide) rfl rfl,
      ⟨rfl, rfl, rfl, fun _ _ => nofun⟩, [a, b], ?_, .matmul left_dims right_dims⟩
    exact .cons (operandInfo_eq_ok ha) (.cons (operandInfo_eq_ok hb) .nil)
  · obtain ⟨⟨left, right⟩, two, typed⟩ := Outcome.bind_eq_ok_iff.1 typed
    obtain ⟨output, result, typed⟩ := Outcome.bind_eq_ok_iff.1 typed
    obtain ⟨a, ha, typed⟩ := Outcome.bind_eq_ok_iff.1 typed
    obtain ⟨b, hb, typed⟩ := Outcome.bind_eq_ok_iff.1 typed
    obtain ⟨info, sum, typed⟩ := Outcome.bind_eq_ok_iff.1 typed
    cases typed
    obtain rfl : inputs = [left, right] := NodeMessage.inputs_of_two two
    obtain rfl : outputs = [output] := NodeMessage.outputs_of_result result
    obtain ⟨rfl, alike⟩ := addInfo_eq_ok (Outcome.mapError_eq_ok_iff.1 sum)
    refine ⟨NodeMessage.wellFormed_of_ne (show "Add" ≠ "Scale" by decide) rfl rfl,
      ⟨rfl, rfl, rfl, fun _ _ => nofun⟩, [info, b], ?_,
      .add (alike.imp_right Shape.isRowOf_iff.1)⟩
    exact .cons (operandInfo_eq_ok ha) (.cons (operandInfo_eq_ok hb) .nil)
  · obtain ⟨operand, name, rfl, rfl, known, made⟩ := Node.fits_of_unary typed
    rw [made]
    exact ⟨NodeMessage.wellFormed_of_ne (show "Relu" ≠ "Scale" by decide) rfl rfl,
      ⟨rfl, rfl, rfl, fun _ _ => nofun⟩, [node.info], .cons known .nil, .relu node.info⟩
  · obtain ⟨operand, name, rfl, rfl, known, made⟩ := Node.fits_of_unary typed
    rw [made]
    exact ⟨NodeMessage.wellFormed_of_ne (show "Identity" ≠ "Scale" by decide) rfl rfl,
      ⟨rfl, rfl, rfl, fun _ _ => nofun⟩, [node.info], .cons known .nil, .identity node.info⟩
  · obtain ⟨factor, set, typed⟩ := Outcome.bind_eq_ok_iff.1 typed
    obtain ⟨operand, name, rfl, rfl, known, made⟩ := Node.fits_of_unary typed
    unfold NodeMessage.factor at set
    split at set
    · rename_i a found
      cases set
      have named : a.name = "scale" := by simpa using List.find?_some found
      rw [made]
      refine ⟨⟨rfl, ⟨name, rfl⟩, fun _ => ⟨a, List.mem_of_find?_eq_some found, named⟩⟩,
        ⟨rfl, rfl, rfl, fun factor operand same => ?_⟩, [node.info], .cons known .nil,
        .scale node.info⟩
      cases same
      exact congrArg _ found
    · cases set
  · cases typed

/-- **A message that is one operation is typed**, if its operands are known and the operation takes
them. -/
lemma Node.exists_ofMessage (formed : m.WellFormed) {operands : List TensorInfo}
    {result : TensorInfo}
    (known : List.Forall₂ (fun name info => infos.find? name = some info) m.inputs operands)
    (derives : Derives m.operation operands result) :
    ∃ node, Node.ofMessage infos m = .ok node ∧ node.info = result := by
  obtain ⟨inputs, outputs, _, operation, attributes, _⟩ := m
  obtain ⟨-, ⟨name, rfl⟩, factor⟩ := formed
  dsimp only at known derives factor
  cases derives with
  | matmul left_dims right_dims =>
    rcases known with _ | ⟨left_known, _ | ⟨right_known, _ | _⟩⟩
    exact ⟨_, ofMessage_matmul rfl rfl left_known right_known rfl left_dims right_dims, rfl⟩
  | add alike =>
    rcases known with _ | ⟨left_known, _ | ⟨right_known, _ | _⟩⟩
    exact ⟨_, ofMessage_add rfl rfl left_known right_known rfl
      (alike.imp_right Shape.isRowOf_iff.2), rfl⟩
  | relu =>
    rcases known with _ | ⟨operand_known, _ | _⟩
    exact ⟨_, unary_eq_ok rfl rfl operand_known, rfl⟩
  | identity =>
    rcases known with _ | ⟨operand_known, _ | _⟩
    exact ⟨_, unary_eq_ok rfl rfl operand_known, rfl⟩
  | scale =>
    obtain ⟨operand, _, operand_known, rest, rfl⟩ := List.forall₂_cons_right_iff.1 known
    obtain rfl := List.forall₂_nil_right_iff.1 rest
    obtain ⟨a, member, named⟩ := factor rfl
    obtain ⟨first, found⟩ : ∃ first, attributes.find? (fun a => a.name == "scale") = some first :=
      Option.isSome_iff_exists.1 (List.find?_isSome.2 ⟨a, member, by simp [named]⟩)
    refine ⟨⟨.scale first.number operand, name, result⟩, ?_, rfl⟩
    simp only [ofMessage, NodeMessage.factor, found, Outcome.ok_bind]
    exact unary_eq_ok rfl rfl operand_known

/-! ### Single assignment -/

section Steps

variable {α : Type} {reads writes : α → List String} {known : String → Prop} {step : α}
  {rest : List α}

/-- **Each step reads what is known before it**, from the start or from an earlier step. -/
def ReadsEarlier (reads writes : α → List String) (known : String → Prop) (steps : List α) : Prop :=
  ∀ before step after, steps = before ++ step :: after → ∀ name ∈ reads step,
    known name ∨ ∃ earlier ∈ before, name ∈ writes earlier

/-- Behind the first step, what it writes is known as well. -/
lemma readsEarlier_cons_iff : ReadsEarlier reads writes known (step :: rest) ↔
    (∀ name ∈ reads step, known name) ∧
      ReadsEarlier reads writes (fun name => known name ∨ name ∈ writes step) rest := by
  constructor
  · intro h
    refine ⟨fun name read => ?_, fun before later after split name read => ?_⟩
    · simpa using h [] step rest rfl name read
    · have := h (step :: before) later after (by rw [split, List.cons_append]) name read
      rwa [List.exists_mem_cons_iff, ← or_assoc] at this
  · rintro ⟨first, others⟩ before later after split name read
    cases before with
    | nil =>
      cases split
      exact .inl (first name read)
    | cons _ before =>
      cases split
      rw [List.exists_mem_cons_iff, ← or_assoc]
      exact others before later after rfl name read

/-- **Steps in single assignment**: each reads what is known before it, and what a step writes is
written once and was not known from the start. -/
structure SingleAssignment (reads writes : α → List String) (known : String → Prop)
    (steps : List α) : Prop where
  /-- Each step reads what is known before it. -/
  reads : ReadsEarlier reads writes known steps
  /-- Nothing is written twice. -/
  distinct : (steps.flatMap writes).Nodup
  /-- Nothing is written that was known from the start. -/
  fresh : ∀ name ∈ steps.flatMap writes, ¬ known name

/-- Without steps nothing is read or written. -/
lemma SingleAssignment.nil : SingleAssignment reads writes known [] where
  reads before step after split := absurd split (by simp)
  distinct := .nil
  fresh _ written := nomatch written

/-- Steps in single assignment, one at a time. -/
lemma singleAssignment_cons_iff {name : String} (writes_one : writes step = [name]) :
    SingleAssignment reads writes known (step :: rest) ↔
      (∀ read ∈ reads step, known read) ∧ ¬ known name ∧
        SingleAssignment reads writes (fun other => known other ∨ other = name) rest := by
  have later : (fun other => known other ∨ other ∈ writes step) =
      fun other => known other ∨ other = name := by
    simp only [writes_one, List.mem_singleton]
  have written : (step :: rest).flatMap writes = name :: rest.flatMap writes := by
    rw [List.flatMap_cons, writes_one, List.singleton_append]
  constructor
  · rintro ⟨reads_earlier, distinct, fresh⟩
    obtain ⟨first, others⟩ := readsEarlier_cons_iff.1 reads_earlier
    rw [written, List.nodup_cons] at distinct
    rw [written, List.forall_mem_cons] at fresh
    refine ⟨first, fresh.1, later ▸ others, distinct.2, fun other member => ?_⟩
    rintro (old | rfl)
    · exact fresh.2 other member old
    · exact distinct.1 member
  · rintro ⟨first, new, others⟩
    refine ⟨readsEarlier_cons_iff.2 ⟨first, later ▸ others.reads⟩, ?_, ?_⟩
    · rw [written, List.nodup_cons]
      exact ⟨fun again => others.fresh name again (.inr rfl), others.distinct⟩
    · rw [written, List.forall_mem_cons]
      exact ⟨new, fun other member old => others.fresh other member (.inl old)⟩

end Steps

/-- What a loss reads. -/
def Loss.reads (loss : Loss) : List String := [loss.input]

/-- What a loss writes. -/
def Loss.writes (loss : Loss) : List String := [loss.output]

/-- Descriptions that are known and name all tensors are all descriptions. -/
lemma Extends.eq_of_names {infos all : NameMap TensorInfo} (below : Extends infos all)
    (names : ∀ name ∈ all.names, name ∈ infos.names) : infos = all :=
  below.antisymm fun name _ described =>
    below.find?_of_mem_names (names name (NameMap.mem_names_of_find? described)) described

/-- After an insertion one name more is known. -/
lemma NameMap.mem_names_insert_eq {α : Type} (map : NameMap α) (name : String) (value : α) :
    (fun other => other ∈ (map.insert name value).names) =
      fun other => other ∈ map.names ∨ other = name :=
  funext fun _ => propext mem_names_insert

namespace Program

variable {messages : List NodeMessage} {losses : List Loss} {known all : NameMap TensorInfo}

/-- **Nodes that are typed are in single assignment**, and what they write is known behind them. -/
lemma singleAssignment_of_typeNodes {nodes : List Node}
    (typed : typeNodes infos messages = .ok (nodes, all)) :
    SingleAssignment (·.inputs) (·.outputs) (· ∈ infos.names) messages ∧
      ∀ name, name ∈ all.names ↔ name ∈ infos.names ∨ name ∈ messages.flatMap (·.outputs) := by
  induction messages generalizing infos nodes with
  | nil =>
    cases typed
    exact ⟨.nil, fun name => by simp⟩
  | cons m rest ih =>
    unfold typeNodes at typed
    obtain ⟨node, first, typed⟩ := Outcome.bind_eq_ok_iff.1 typed
    split at typed
    · cases typed
    rename_i fresh
    obtain ⟨⟨others, last⟩, later, typed⟩ := Outcome.bind_eq_ok_iff.1 typed
    cases typed
    obtain ⟨inputs, outputs⟩ := Node.wiring_of_ofMessage first
    obtain ⟨single, names⟩ := ih later
    rw [NameMap.mem_names_insert_eq] at single
    refine ⟨(singleAssignment_cons_iff outputs).2 ⟨fun name read => ?_, ?_, single⟩, fun name => ?_⟩
    · obtain ⟨info, found⟩ := (hasInfo_of_ofMessage first).known (inputs ▸ read)
      exact NameMap.mem_names_of_find? found
    · rwa [NameMap.contains_iff_mem_names] at fresh
    · rw [names, NameMap.mem_names_insert, List.flatMap_cons, outputs, List.singleton_append,
        List.mem_cons, or_assoc]

/-- **Losses that are typed are in single assignment**, and what they write is known behind them. -/
lemma singleAssignment_of_typeLosses (typed : typeLosses infos losses = .ok all) :
    SingleAssignment Loss.reads Loss.writes (· ∈ infos.names) losses ∧
      ∀ name, name ∈ all.names ↔ name ∈ infos.names ∨ name ∈ losses.map (·.output) := by
  induction losses generalizing infos with
  | nil =>
    cases typed
    exact ⟨.nil, fun name => by simp⟩
  | cons loss rest ih =>
    unfold typeLosses at typed
    split at typed
    · cases typed
    rename_i read
    split at typed
    · cases typed
    rename_i fresh
    obtain ⟨single, names⟩ := ih typed
    rw [NameMap.mem_names_insert_eq] at single
    have writes_one : loss.writes = [loss.output] := rfl
    refine ⟨(singleAssignment_cons_iff writes_one).2 ⟨?_, ?_, single⟩, fun name => ?_⟩
    · rw [Loss.reads, List.forall_mem_singleton, ← NameMap.contains_iff_mem_names]
      simpa using read
    · rwa [NameMap.contains_iff_mem_names] at fresh
    · rw [names, NameMap.mem_names_insert, List.map_cons, List.mem_cons, or_assoc]

/-- **Nodes in single assignment that fit descriptions of all tensors are typed**, as these
descriptions say.

**Proof sketch.** Induction on the nodes. What is known so far is part of the descriptions; the
first node reads only what is known, so that it is typed as it fits, and its result is new and as
described. -/
lemma exists_typeNodes (below : Extends infos all) (formed : ∀ m ∈ messages, m.WellFormed)
    (fits : ∀ m ∈ messages, m.Fits all)
    (single : SingleAssignment (·.inputs) (·.outputs) (· ∈ infos.names) messages) :
    ∃ nodes infos', typeNodes infos messages = .ok (nodes, infos') ∧ Extends infos' all := by
  induction messages generalizing infos with
  | nil => exact ⟨[], infos, rfl, below⟩
  | cons m rest ih =>
    obtain ⟨formed_first, formed⟩ := List.forall_mem_cons.1 formed
    obtain ⟨⟨operands, result, described, derives, makes⟩, fits⟩ := List.forall_mem_cons.1 fits
    obtain ⟨name, outputs⟩ := formed_first.output
    obtain ⟨reads, new, single⟩ := (singleAssignment_cons_iff outputs).1 single
    have known :
        List.Forall₂ (fun name info => infos.find? name = some info) m.inputs operands := by
      refine ((List.forall₂_and_left _ _).2 ⟨reads, described⟩).imp fun name info here => ?_
      exact below.find?_of_mem_names here.1 here.2
    obtain ⟨node, typed, rfl⟩ := Node.exists_ofMessage formed_first known derives
    obtain ⟨-, written⟩ := Node.wiring_of_ofMessage typed
    obtain rfl : name = node.output := by simpa using outputs.symm.trans written
    have fresh : infos.contains node.output = false := by
      rw [← Bool.not_eq_true, NameMap.contains_iff_mem_names]
      exact new
    have below' : Extends (infos.insert node.output node.info) all :=
      below.insert (makes node.output (by rw [written, List.mem_singleton]))
    rw [← NameMap.mem_names_insert_eq infos node.output node.info] at single
    obtain ⟨nodes, infos', rest_typed, extended⟩ := ih below' formed fits single
    refine ⟨node :: nodes, infos', ?_, extended⟩
    rw [typeNodes, typed, Outcome.ok_bind, fresh, if_neg Bool.false_ne_true, rest_typed]
    rfl

/-- **Losses in single assignment are typed**, as scalars. -/
lemma exists_typeLosses (below : Extends infos all)
    (scalars : ∀ loss ∈ losses, all.find? loss.output = some (.float32 []))
    (single : SingleAssignment Loss.reads Loss.writes (· ∈ infos.names) losses) :
    ∃ infos', typeLosses infos losses = .ok infos' ∧ Extends infos' all := by
  induction losses generalizing infos with
  | nil => exact ⟨infos, rfl, below⟩
  | cons loss rest ih =>
    obtain ⟨scalar, scalars⟩ := List.forall_mem_cons.1 scalars
    have writes_one : loss.writes = [loss.output] := rfl
    obtain ⟨reads, new, single⟩ := (singleAssignment_cons_iff writes_one).1 single
    have read : infos.contains loss.input = true :=
      NameMap.contains_iff_mem_names.2 (reads _ (List.mem_singleton_self _))
    have fresh : infos.contains loss.output = false := by
      rw [← Bool.not_eq_true, NameMap.contains_iff_mem_names]
      exact new
    rw [← NameMap.mem_names_insert_eq infos loss.output (.float32 [])] at single
    obtain ⟨infos', typed, extended⟩ := ih (below.insert scalar) scalars single
    refine ⟨infos', ?_, extended⟩
    rw [typeLosses, read, fresh, if_neg (by decide), if_neg Bool.false_ne_true, typed]

end Program

/-! ### Whole graphs -/

/-- An input or a weight. -/
def Graph.IsSource (graph : Graph) (name : String) : Prop :=
  name ∈ graph.inputs.names ∨ name ∈ graph.weights.names

/-- What the nodes and the losses write, in order. -/
def resultNames (messages : List NodeMessage) (losses : List Loss) : List String :=
  messages.flatMap (·.outputs) ++ losses.map (·.output)

/-- **Descriptions of exactly the tensors of a graph**: inputs and weights as declared, every result
of a node as its operation makes it, and loss values as scalars. -/
structure Graph.Typing (graph : Graph) (messages : List NodeMessage) (losses : List Loss)
    (infos : NameMap TensorInfo) : Prop where
  /-- These tensors are described and no others. -/
  names : ∀ name, name ∈ infos.names ↔ graph.IsSource name ∨ name ∈ resultNames messages losses
  /-- Inputs are as declared. -/
  inputs : Extends graph.inputs infos
  /-- Weights are as declared. -/
  weights : ∀ name t, graph.weights.find? name = some t → infos.find? name = some t.info
  /-- Every operation takes its operands and makes its result. -/
  nodes : ∀ m ∈ messages, m.Fits infos
  /-- Loss values are scalars. -/
  losses : ∀ loss ∈ losses, infos.find? loss.output = some (.float32 [])

/-- **A graph that compiles** for a kind of session, given the nodes that it lists. -/
structure Graph.WellFormed (graph : Graph) (messages : List NodeMessage) (kind : Kind) : Prop where
  /-- Inputs hold single-precision numbers. -/
  float_inputs : ∀ name info, graph.inputs.find? name = some info → info.elementType = .float32
  /-- Weights hold single-precision numbers. -/
  float_weights : ∀ name t, graph.weights.find? name = some t → t.info.elementType = .float32
  /-- Every node is one operation. -/
  operations : ∀ m ∈ messages, m.WellFormed
  /-- A node reads inputs, weights and the results of nodes before it. -/
  defined : ReadsEarlier (·.inputs) (·.outputs) graph.IsSource messages
  /-- No result has two producers. -/
  distinct : (resultNames messages kind.losses).Nodup
  /-- No result is an input or a weight. -/
  apart : ∀ name ∈ resultNames messages kind.losses, ¬ graph.IsSource name
  /-- Every operation takes its operands, under some descriptions of all tensors. -/
  typing : ∃ infos, graph.Typing messages kind.losses infos
  /-- A loss reads an input, a weight, the result of a node, or the value of a loss before it. -/
  losses : ReadsEarlier Loss.reads Loss.writes
    (fun name => graph.IsSource name ∨ name ∈ messages.flatMap (·.outputs)) kind.losses
  /-- Training has a loss. -/
  minimises : kind.isTraining = true → kind.losses ≠ []

/-- What losses write is the list of their outputs. -/
lemma Loss.flatMap_writes (losses : List Loss) :
    losses.flatMap Loss.writes = losses.map (·.output) :=
  List.map_eq_flatMap.symm

namespace Program

variable {graph : Graph} {messages : List NodeMessage} {kind : Kind}

/-- The sources are the inputs and the weights. -/
lemma mem_names_sources {name : String} :
    name ∈ (sources graph).names ↔ graph.IsSource name := by
  rw [Graph.IsSource, ← NameMap.contains_iff_mem_names, ← NameMap.contains_iff_mem_names,
    ← NameMap.contains_iff_mem_names, NameMap.contains, find?_sources]
  simp [NameMap.contains, or_comm]

/-- Descriptions of all tensors describe the sources as they are declared. -/
lemma extends_sources_of_typing {losses : List Loss} {infos : NameMap TensorInfo}
    (typing : graph.Typing messages losses infos) : Extends (sources graph) infos := by
  intro name info known
  rw [find?_sources] at known
  cases weight : graph.weights.find? name with
  | none => exact typing.inputs name info (by simpa [weight] using known)
  | some t =>
    rw [weight] at known
    cases known
    exact typing.weights name t weight

/-- **A compiled program describes exactly the tensors of its graph.** -/
lemma typing_of_compile {program : Program} (lists : graph.Lists messages)
    (apart : ∀ name info, graph.inputs.find? name = some info → graph.weights.find? name = none)
    (compiled : compile graph kind = .ok program) :
    graph.Typing messages kind.losses program.infos := by
  obtain ⟨infos, typed, typed_losses⟩ := typeNodes_of_compile compiled lists
  have behind := (lossesTyped_of_typeLosses typed_losses).extends
  have all := (nodesTyped_of_typeNodes typed).extends.trans behind
  constructor
  case names =>
    intro name
    rw [(singleAssignment_of_typeLosses typed_losses).2, (singleAssignment_of_typeNodes typed).2,
      mem_names_sources, resultNames, List.mem_append, or_assoc]
  case inputs =>
    intro name info declared
    refine all name info ?_
    rw [find?_sources, apart name info declared, declared]
    rfl
  case weights =>
    intro name t declared
    refine all name t.info ?_
    rw [find?_sources, declared]
    rfl
  case nodes =>
    intro m member
    obtain ⟨node, -, first, described⟩ :=
      Outcome.exists_of_forall₂_right (forall₂_of_typeNodes typed).flip member
    obtain ⟨-, denotes, operands, known, derives⟩ := Node.fits_of_ofMessage first
    refine ⟨operands, node.info, known.imp fun name info => behind name info, derives, ?_⟩
    rw [denotes.output, List.forall_mem_singleton]
    exact behind _ _ described
  case losses =>
    exact fun loss member => (lossesTyped_of_typeLosses typed_losses).find?_output member

/-- Training without a loss does not compile. -/
lemma losses_ne_nil_of_compile {program : Program} (compiled : compile graph kind = .ok program)
    (training : kind.isTraining = true) : kind.losses ≠ [] := by
  unfold compile at compiled
  obtain ⟨_, -, compiled⟩ := Outcome.bind_eq_ok_iff.1 compiled
  obtain ⟨_, -, compiled⟩ := Outcome.bind_eq_ok_iff.1 compiled
  obtain ⟨_, -, compiled⟩ := Outcome.bind_eq_ok_iff.1 compiled
  obtain ⟨_, -, compiled⟩ := Outcome.bind_eq_ok_iff.1 compiled
  obtain ⟨_, -, compiled⟩ := Outcome.bind_eq_ok_iff.1 compiled
  split at compiled
  · cases compiled
  · rename_i guarded
    exact fun no_loss => guarded ⟨training, no_loss⟩

/-- **A graph that compiles is well formed.** -/
lemma wellFormed_of_compile {program : Program} (lists : graph.Lists messages)
    (apart : ∀ name info, graph.inputs.find? name = some info → graph.weights.find? name = none)
    (compiled : compile graph kind = .ok program) : graph.WellFormed messages kind := by
  obtain ⟨infos, typed, typed_losses⟩ := typeNodes_of_compile compiled lists
  obtain ⟨_, _, _, -, -, checked, -, -, -, -, -, -⟩ := compile_eq_ok compiled
  have float := allFloat_of_checkSources checked
  obtain ⟨nodes_single, nodes_known⟩ := singleAssignment_of_typeNodes typed
  obtain ⟨losses_single, -⟩ := singleAssignment_of_typeLosses typed_losses
  have sources_known : (· ∈ (sources graph).names) = graph.IsSource :=
    funext fun _ => propext mem_names_sources
  have behind_nodes : (· ∈ infos.names) =
      fun name => graph.IsSource name ∨ name ∈ messages.flatMap (·.outputs) := by
    funext name
    rw [nodes_known, mem_names_sources]
  rw [sources_known] at nodes_single
  rw [behind_nodes] at losses_single
  have loss_names := Loss.flatMap_writes kind.losses
  constructor
  case float_inputs =>
    intro name info declared
    refine float name info ?_
    rw [find?_sources, apart name info declared, declared]
    rfl
  case float_weights =>
    intro name t declared
    refine float name t.info ?_
    rw [find?_sources, declared]
    rfl
  case operations =>
    intro m member
    obtain ⟨node, -, first, -⟩ :=
      Outcome.exists_of_forall₂_right (forall₂_of_typeNodes typed).flip member
    exact (Node.fits_of_ofMessage first).1
  case defined => exact nodes_single.reads
  case distinct =>
    refine List.nodup_append.2 ⟨nodes_single.distinct, loss_names ▸ losses_single.distinct, ?_⟩
    rintro name made _ lost rfl
    exact losses_single.fresh name (loss_names ▸ lost) (.inr made)
  case apart =>
    intro name made source
    rcases List.mem_append.1 made with made | lost
    · exact nodes_single.fresh name made source
    · exact losses_single.fresh name (loss_names ▸ lost) (.inl source)
  case typing => exact ⟨program.infos, typing_of_compile lists apart compiled⟩
  case losses => exact losses_single.reads
  case minimises => exact losses_ne_nil_of_compile compiled

/-- **A well-formed graph compiles**, and the program describes the tensors as any descriptions do
that the graph fits.

**Proof sketch.** The sources are described, and nodes and losses are in single assignment. So both
passes go through, and all that they make known is as described; and no other tensors are. -/
lemma exists_compile (lists : graph.Lists messages) (formed : graph.WellFormed messages kind)
    {all : NameMap TensorInfo} (typing : graph.Typing messages kind.losses all) :
    ∃ program, compile graph kind = .ok program ∧ program.infos = all := by
  have sources_known : (· ∈ (sources graph).names) = graph.IsSource :=
    funext fun _ => propext mem_names_sources
  have float : AllFloat (sources graph) := by
    intro name info known
    rw [find?_sources, Option.or_eq_some_iff, Option.map_eq_some_iff] at known
    obtain ⟨t, declared, rfl⟩ | ⟨-, declared⟩ := known
    · exact formed.float_weights name t declared
    · exact formed.float_inputs name info declared
  have nodes_single :
      SingleAssignment (·.inputs) (·.outputs) (· ∈ (sources graph).names) messages := by
    rw [sources_known]
    exact ⟨formed.defined, (List.nodup_append.1 formed.distinct).1,
      fun name made => formed.apart name (List.mem_append_left _ made)⟩
  obtain ⟨nodes, infos, typed, below⟩ := exists_typeNodes (extends_sources_of_typing typing)
    formed.operations typing.nodes nodes_single
  obtain ⟨-, nodes_known⟩ := singleAssignment_of_typeNodes typed
  have behind_nodes : (· ∈ infos.names) =
      fun name => graph.IsSource name ∨ name ∈ messages.flatMap (·.outputs) := by
    funext name
    rw [nodes_known, mem_names_sources]
  have losses_single : SingleAssignment Loss.reads Loss.writes (· ∈ infos.names) kind.losses := by
    have loss_names := Loss.flatMap_writes kind.losses
    obtain ⟨-, distinct, disjoint⟩ := List.nodup_append.1 formed.distinct
    rw [behind_nodes]
    refine ⟨formed.losses, loss_names ▸ distinct, fun name lost => ?_⟩
    rw [loss_names] at lost
    rintro (source | made)
    · exact formed.apart name (List.mem_append_right _ lost) source
    · exact disjoint name made name lost rfl
  obtain ⟨infos', typed_losses, below'⟩ := exists_typeLosses below typing.losses losses_single
  have same : infos' = all := by
    refine below'.eq_of_names fun name described => ?_
    rw [(singleAssignment_of_typeLosses typed_losses).2, nodes_known, mem_names_sources, or_assoc]
    rw [typing.names, resultNames, List.mem_append] at described
    exact described
  obtain ⟨message, g, decoded, has_graph, rfl⟩ := lists
  have guarded : ¬ (kind.isTraining = true ∧ kind.losses = []) :=
    fun ⟨training, no_loss⟩ => formed.minimises training no_loss
  unfold compile
  simp only [decoded, has_graph, Except.mapError, Outcome.ok_bind,
    checkSources_of_allFloat float, typed, typed_losses, if_neg guarded]
  exact ⟨_, rfl, same⟩

/-- **Exactly the well-typed programs in single assignment compile.** Take a graph whose bytes are a
model with a graph, and no input of which is a weight. For every kind of session it compiles if and
only if

* inputs and weights hold single-precision numbers,
* every node is one of the five operations, with its number of inputs, one output and, for a
  scaling, a factor,
* a node reads only inputs, weights and results of nodes before it, and a loss only these, results
  of any nodes and values of losses before it,
* no two results have the same name, nor has a result the name of an input or of a weight,
* all tensors have descriptions under which every operation takes its operands, and
* training has a loss.

The program then describes exactly the inputs, weights, results and loss values, and there are no
other such descriptions. Its nodes are those of the model, in order, each with the operation, the
inputs and the output that the model gives it, the sizes that its operands have, and its result as
it is described. -/
theorem compile_iff_wellFormed (lists : graph.Lists messages)
    (apart : ∀ name info, graph.inputs.find? name = some info → graph.weights.find? name = none) :
    ((∃ program, compile graph kind = .ok program) ↔ graph.WellFormed messages kind) ∧
    ∀ program, compile graph kind = .ok program →
      graph.Typing messages kind.losses program.infos ∧
      (∀ infos, graph.Typing messages kind.losses infos → infos = program.infos) ∧
      List.Forall₂ (fun m node => m.Denotes node ∧
        node.expression.HasInfo program.infos node.info ∧
        program.infos.find? node.output = some node.info) messages program.nodes := by
  refine ⟨⟨fun ⟨program, compiled⟩ => wellFormed_of_compile lists apart compiled, fun formed => ?_⟩,
    fun program compiled => ⟨typing_of_compile lists apart compiled, fun infos typing => ?_, ?_⟩⟩
  · obtain ⟨all, typing⟩ := formed.typing
    obtain ⟨program, compiled, -⟩ := exists_compile lists formed typing
    exact ⟨program, compiled⟩
  · obtain ⟨program', compiled', same⟩ :=
      exists_compile lists (wellFormed_of_compile lists apart compiled) typing
    obtain rfl : program' = program := Except.ok.inj (compiled'.symm.trans compiled)
    exact same.symm
  · obtain ⟨infos, typed, typed_losses⟩ := typeNodes_of_compile compiled lists
    have behind := (lossesTyped_of_typeLosses typed_losses).extends
    refine (forall₂_of_typeNodes typed).imp fun m node ⟨first, described⟩ => ?_
    obtain ⟨-, denotes, -⟩ := Node.fits_of_ofMessage first
    exact ⟨denotes, (hasInfo_of_ofMessage first).mono behind, behind _ _ described⟩

/-! ### A graph with all operations -/

/-- A chain of nodes with every operation. -/
def chainNodes : List NodeMessage :=
  [{ inputs := ["x", "w"], outputs := ["product"], operation := "MatMul" },
    { inputs := ["product"], outputs := ["positive"], operation := "Relu" },
    { inputs := ["positive"], outputs := ["scaled"], operation := "Scale",
      attributes := [{ name := "scale", number := Single.one }] },
    { inputs := ["scaled"], outputs := ["copy"], operation := "Identity" },
    { inputs := ["copy", "x"], outputs := ["sum"], operation := "Add" }]

/-- Training on a loss and on the absolute value of that loss. -/
def chainKind : Kind :=
  .training [⟨"sum", "loss", Single.one, .sum⟩, ⟨"loss", "again", Single.one, .mean⟩]
    ⟨.constant, Single.one, Single.zero⟩

/-- **The chain is well formed and compiles, and the chain from behind is not.** -/
theorem compile_iff_wellFormed_sample :
    (∃ program, compile (forkGraph chainNodes) chainKind = .ok program ∧
      (forkGraph chainNodes).WellFormed chainNodes chainKind ∧
      (forkGraph chainNodes).Typing chainNodes chainKind.losses program.infos ∧
      List.Forall₂ NodeMessage.Denotes chainNodes program.nodes) ∧
    (forkGraph chainNodes.reverse).Lists chainNodes.reverse ∧
    ¬ (forkGraph chainNodes.reverse).WellFormed chainNodes.reverse chainKind := by
  have apart : ∀ nodes, ∀ name info, (forkGraph nodes).inputs.find? name = some info →
      (forkGraph nodes).weights.find? name = none := by
    intro nodes name info declared
    rw [(NameMap.eq_of_find?_single declared).1]
    rfl
  have lists : (forkGraph chainNodes).Lists chainNodes :=
    lists_forkGraph (by decide) (by decide +kernel)
  have lists_reverse : (forkGraph chainNodes.reverse).Lists chainNodes.reverse :=
    lists_forkGraph (by decide) (by decide +kernel)
  obtain ⟨program, compiled, -⟩ := Outcome.exists_of_any_toOption
    (show (compile (forkGraph chainNodes) chainKind).toOption.any (fun _ => true) = true by
      decide +kernel)
  obtain ⟨cause, refused⟩ := Outcome.exists_of_isNone_toOption
    (show (compile (forkGraph chainNodes.reverse) chainKind).toOption.isNone = true by
      decide +kernel)
  obtain ⟨accepted, described⟩ := compile_iff_wellFormed lists (apart chainNodes)
  obtain ⟨typing, -, nodes⟩ := described program compiled
  refine ⟨⟨program, compiled, accepted.1 ⟨program, compiled⟩, typing, nodes.imp fun _ _ h => h.1⟩,
    lists_reverse, fun formed => ?_⟩
  obtain ⟨program', compiled'⟩ :=
    (compile_iff_wellFormed lists_reverse (apart chainNodes.reverse)).1.2 formed
  rw [refused] at compiled'
  cases compiled'

end Program

end Microbatch
