import Microbatch.Proofs.ExactNumbers
import Microbatch.Proofs.Requests
import Microbatch.Proofs.Sweeps

set_option relaxedAutoImplicit false
set_option autoImplicit false

/-!
# The reverse sweep is the transpose of the forward sweep

A change of the inputs and weights of a program changes every tensor of its graph. To first order
the changes follow the usual rules of differentiation, node by node in the order of execution. Over
exact numbers the reverse sweep is the transpose of this: the gradients of inputs and weights have
the same inner product with the change that was begun with as the seeds of the losses have with the
changes of the tensors that the losses read. A gradient that is dropped on some way through the
graph, or handed back twice, would break the equation.

## Main definitions

* `Microbatch.NameMap.elements` — the elements of a tensor, none if it has no entry.
* `Microbatch.Expression.tangent`, `Microbatch.Program.tangents` — changes by the usual rules.
* `Microbatch.Program.graphLosses` — the losses that read a tensor of the graph.
* `Microbatch.pairing` — the inner product of gradients and changes over the tensors known so far.

## Main results

* `Microbatch.Expression.HasInfo.pairing_handBack` — one node hands back the transpose of its rule.
* `Microbatch.NodesTyped.pairing_handBack` — all nodes keep the inner product.
* `Microbatch.backward_is_transpose` — the reverse sweep of a compiled program.
-/

namespace Microbatch

open Finset Kernel

/-! ### Elements -/

/-- The elements of a tensor in a map, none if it has no entry. -/
def NameMap.elements {α : Type} (m : NameMap (List α)) (name : String) : List α :=
  (m.find? name).getD []

namespace NameMap

variable {α : Type}

lemma elements_of_find? {m : NameMap (List α)} {name : String} {xs : List α}
    (h : m.find? name = some xs) : m.elements name = xs := by
  rw [elements, h]
  rfl

@[simp] lemma elements_insert_self (m : NameMap (List α)) (name : String) (xs : List α) :
    (m.insert name xs).elements name = xs :=
  elements_of_find? (find?_insert_self m name xs)

lemma elements_insert_of_ne {m : NameMap (List α)} {name other : String} (xs : List α)
    (h : other ≠ name) : (m.insert name xs).elements other = m.elements other := by
  rw [elements, find?_insert_of_ne xs h, elements]

end NameMap

/-- The names after a new entry. -/
lemma toFinset_names_insert {α : Type} (m : NameMap α) (name : String) (value : α) :
    (m.insert name value).names.toFinset = insert name m.names.toFinset := by
  ext other
  rw [mem_insert, List.mem_toFinset, List.mem_toFinset, ← NameMap.contains_iff_mem_names,
    ← NameMap.contains_iff_mem_names, NameMap.contains, NameMap.contains, NameMap.find?_insert]
  by_cases h : other = name
  · simp [h]
  · simp [h]

/-- **What a map says of the described tensors has their sizes.** -/
def Sized (infos : NameMap TensorInfo) (m : NameMap (List ℚ)) : Prop :=
  ∀ name info, infos.find? name = some info → (m.elements name).length = info.shape.dims.prod

lemma Values.Typed.sized {infos : NameMap TensorInfo} {values : Values ℚ}
    (typed : values.Typed infos) : Sized infos values := by
  intro name info known
  obtain ⟨xs, found, length⟩ := typed.find? known
  rwa [NameMap.elements_of_find? found]

section Rules

variable [Reading]

/-! ### Changes by the usual rules -/

/-- **The change of an expression's result** that changes of its operands make: the product rule,
the sum with the change of the row repeated, the change where the operand is above zero, the change
itself, and a multiple of it. -/
def Expression.tangent (values changes : Values ℚ) : Expression → List ℚ
  | matmul size left right => List.zipWith (· + ·)
      (Kernel.matmul size (changes.elements left) (values.elements right))
      (Kernel.matmul size (values.elements left) (changes.elements right))
  | add left right => Kernel.add (changes.elements left) (changes.elements right)
  | relu operand => List.zipWith (fun x d => if 0 < x then d else 0) (values.elements operand)
      (changes.elements operand)
  | identity operand => changes.elements operand
  | scale factor operand => (changes.elements operand).map (· * Reading.value factor)

/-- Changes that are handed on by the rules of nodes, in order. -/
def tangentsAlong (values : Values ℚ) (nodes : List Node) (changes : Values ℚ) : Values ℚ :=
  nodes.foldl (fun changes node =>
    changes.insert node.output (node.expression.tangent values changes)) changes

/-- **The changes of all tensors of the graph**, from those of inputs and weights. -/
def Program.tangents (program : Program) (values changes : Values ℚ) : Values ℚ :=
  tangentsAlong values program.nodes changes

/-- A change depends on what the expression reads only. -/
lemma Expression.tangent_congr {e : Expression} {values changes changes' : Values ℚ}
    (h : ∀ name ∈ e.inputs, changes.elements name = changes'.elements name) :
    e.tangent values changes = e.tangent values changes' := by
  cases e <;> simp_all [Expression.tangent, Expression.inputs]

/-- The change of a result has the size of the result. -/
lemma Expression.HasInfo.length_tangent {infos : NameMap TensorInfo} {e : Expression}
    {info : TensorInfo} (t : e.HasInfo infos info) {values changes : Values ℚ}
    (values_sized : Sized infos values) (sized : Sized infos changes) :
    (e.tangent values changes).length = info.shape.dims.prod := by
  cases t with
  | matmul left_known right_known left_dims right_dims =>
    simp [Expression.tangent, TensorInfo.float32]
  | add left_known right_known alike => exact (length_add _ _).trans (sized _ _ left_known)
  | relu known =>
    rw [Expression.tangent, List.length_zipWith, values_sized _ _ known, sized _ _ known,
      Nat.min_self]
  | identity known => exact sized _ _ known
  | scale known => exact (List.length_map _).trans (sized _ _ known)

/-- **Changes follow the rules of nodes.** -/
def Follows (values changes : Values ℚ) (nodes : List Node) : Prop :=
  ∀ node ∈ nodes, changes.elements node.output = node.expression.tangent values changes

/-- **The changes of a program follow its rules**, have the described sizes, and are those that were
begun with at what was known before.

**Proof sketch.** Induction on the typing. A node makes a new tensor known, so that its change
replaces none that it, or a node before it, has read. -/
lemma NodesTyped.tangents {infos infos' : NameMap TensorInfo} {nodes : List Node}
    (t : NodesTyped infos nodes infos') {values changes : Values ℚ}
    (values_sized : Sized infos' values) (typed : changes.Typed infos) :
    (tangentsAlong values nodes changes).Typed infos' ∧
      Follows values (tangentsAlong values nodes changes) nodes ∧
      ∀ name info, infos.find? name = some info →
        (tangentsAlong values nodes changes).elements name = changes.elements name := by
  induction t generalizing changes with
  | nil infos => exact ⟨typed, fun _ h => (List.not_mem_nil h).elim, fun _ _ _ => rfl⟩
  | @cons infos infos' node rest described fresh others ih =>
    have before : Extends infos infos' := (extends_insert fresh).trans others.extends
    have length := described.length_tangent
      (fun name info known => values_sized name info (before name info known)) typed.sized
    have next : tangentsAlong values (node :: rest) changes = tangentsAlong values rest
        (changes.insert node.output (node.expression.tangent values changes)) := rfl
    obtain ⟨typed', follows, kept⟩ := ih values_sized (typed.insert length)
    rw [next]
    have kept_before : ∀ name info, infos.find? name = some info →
        (tangentsAlong values rest (changes.insert node.output
          (node.expression.tangent values changes))).elements name = changes.elements name := by
      intro name info known
      have other : name ≠ node.output := by
        rintro rfl
        exact nomatch fresh.symm.trans known
      rw [kept name info (extends_insert fresh name info known),
        NameMap.elements_insert_of_ne _ other]
    refine ⟨typed', fun other h => ?_, kept_before⟩
    rcases List.mem_cons.1 h with rfl | h
    · rw [kept _ _ (NameMap.find?_insert_self _ _ _), NameMap.elements_insert_self]
      refine Expression.tangent_congr fun name read => ?_
      obtain ⟨a, known⟩ := described.known read
      exact (kept_before name a known).symm
    · exact follows other h

/-! ### The inner product of gradients and changes -/

/-- **The inner product of gradients and changes**, over the described tensors. -/
def pairing (infos : NameMap TensorInfo) (gradients : Gradients ℚ) (changes : Values ℚ) : ℚ :=
  ∑ name ∈ infos.names.toFinset, dot (gradients.elements name) (changes.elements name)

omit [Reading] in
/-- Without gradients there is no inner product. -/
lemma pairing_empty (infos : NameMap TensorInfo) (changes : Values ℚ) :
    pairing infos .empty changes = 0 :=
  sum_eq_zero fun _ _ => rfl

omit [Reading] in
/-- A new tensor adds its own inner product. -/
lemma pairing_insert {infos : NameMap TensorInfo} {name : String} (fresh : infos.find? name = none)
    (info : TensorInfo) (gradients : Gradients ℚ) (changes : Values ℚ) :
    pairing (infos.insert name info) gradients changes =
      dot (gradients.elements name) (changes.elements name) + pairing infos gradients changes := by
  have new : name ∉ infos.names.toFinset := by
    rw [List.mem_toFinset]
    exact NameMap.find?_eq_none_iff.1 fresh
  rw [pairing, toFinset_names_insert, sum_insert new, pairing]

omit [Reading] in
/-- Gradients of the described sizes are there with their size, or not yet. -/
lemma Gradients.Typed.elements {infos : NameMap TensorInfo} {gradients : Gradients ℚ}
    (typed : gradients.Typed infos) {name : String} {info : TensorInfo}
    (known : infos.find? name = some info) :
    gradients.elements name = [] ∨ (gradients.elements name).length = info.shape.dims.prod := by
  unfold NameMap.elements
  cases found : gradients.find? name with
  | none => exact .inl rfl
  | some xs =>
    obtain ⟨info', known', length⟩ := typed name xs found
    obtain rfl : info' = info := Option.some.inj (known'.symm.trans known)
    exact .inr length

variable {infos known : NameMap TensorInfo} {values changes : Values ℚ} {gradients : Gradients ℚ}

/-- **A gradient that is handed to a tensor** adds its inner product with the tensor's change.
-/
lemma pairing_push (sized : Sized infos changes) (typed : gradients.Typed known)
    (later : Extends infos known) {name : String} {info : TensorInfo}
    (here : infos.find? name = some info) {g : List ℚ} (length : g.length = info.shape.dims.prod) :
    pairing infos (gradients.push name g) changes =
      pairing infos gradients changes + dot g (changes.elements name) := by
  have size := sized name info here
  have first : gradients.elements name = [] ∨
      (gradients.elements name).length = (changes.elements name).length := by
    rw [size]
    exact typed.elements (later name info here)
  have each : ∀ other, dot ((gradients.push name g).elements other) (changes.elements other) =
      dot (gradients.elements other) (changes.elements other) +
        if name = other then dot g (changes.elements other) else 0 := by
    intro other
    by_cases same : name = other
    · subst same
      rw [if_pos rfl, Gradients.push, NameMap.elements_insert_self]
      exact dot_accumulate (length.trans size.symm) first
    · rw [if_neg same, Gradients.push, NameMap.elements_insert_of_ne _ (Ne.symm same), add_zero]
  have member : name ∈ infos.names.toFinset :=
    List.mem_toFinset.2 (NameMap.contains_iff_mem_names.1 (by rw [NameMap.contains, here]; rfl))
  rw [pairing, sum_congr rfl fun other _ => each other, sum_add_distrib, sum_ite_eq,
    if_pos member, pairing]

/-- A gradient that is handed to a tensor that is not described adds nothing. -/
lemma pairing_push_of_unknown {name : String} (other : infos.find? name = none) (g : List ℚ) :
    pairing infos (gradients.push name g) changes = pairing infos gradients changes := by
  refine sum_congr rfl fun here member => ?_
  have ne : here ≠ name := by
    rintro rfl
    exact NameMap.find?_eq_none_iff.1 other (List.mem_toFinset.1 member)
  rw [Gradients.push, NameMap.elements_insert_of_ne _ ne]

/-! ### One node -/

omit [Reading] in
/-- A value that is read is the tensor's elements. -/
lemma Values.Typed.read_elements (typed : values.Typed known) {name : String} {info : TensorInfo}
    (here : known.find? name = some info) : values.read name = .ok (values.elements name) := by
  obtain ⟨xs, read, found, -⟩ := typed.read here
  rw [read, NameMap.elements_of_find? found]

omit [Reading] in
/-- A summand is repeated a whole number of times. -/
lemma exists_repetitions {a b : TensorInfo}
    (h : a.shape = b.shape ∨ b.shape.isRowOf a.shape = true) :
    ∃ count, a.shape.dims.prod = count * b.shape.dims.prod := by
  rcases h with same | row
  · exact ⟨1, by rw [same, Nat.one_mul]⟩
  · unfold Shape.isRowOf at row
    split at row
    · rename_i n m m' matrix vector
      have same : m = m' := by simpa using row
      refine ⟨n, ?_⟩
      rw [matrix, vector, List.prod_cons, List.prod_singleton, List.prod_singleton, same]
    · cases row

/-- **A node hands back the transpose of its rule.** The inner product grows by that of the
gradient of the result and the change of the result.

**Proof sketch.** A case for each kind of expression: each operand is handed a gradient, which adds
an inner product, and the two, or the one, make up that of the result. -/
lemma Expression.HasInfo.pairing_handBack {e : Expression} {info : TensorInfo}
    (t : e.HasInfo infos info) (later : Extends infos known) (values_typed : values.Typed known)
    (sized : Sized infos changes) (typed : gradients.Typed known) {g : List ℚ}
    (length : g.length = info.shape.dims.prod) {gradients' : Gradients ℚ}
    (handed : e.handBack values g gradients = .ok gradients') :
    pairing infos gradients' changes =
      pairing infos gradients changes + dot g (e.tangent values changes) := by
  have values_sized := values_typed.sized
  cases t with
  | @matmul size left right a b left_known right_known left_dims right_dims =>
    have left_later := later _ _ left_known
    have right_later := later _ _ right_known
    have left_count : a.shape.dims.prod = size.rows * size.inner := by
      rw [left_dims, List.prod_cons, List.prod_singleton]
    have right_count : b.shape.dims.prod = size.inner * size.columns := by
      rw [right_dims, List.prod_cons, List.prod_singleton]
    have count : g.length = size.rows * size.columns := by
      simpa [TensorInfo.float32] using length
    rw [Expression.handBack, values_typed.read_elements left_later, Outcome.ok_bind,
      values_typed.read_elements right_later] at handed
    cases handed
    have to_left : (matmulLeft size (values.elements right) g).length = a.shape.dims.prod :=
      (length_matmulLeft _ _ _).trans left_count.symm
    have to_right : (matmulRight size (values.elements left) g).length = b.shape.dims.prod :=
      (length_matmulRight _ _ _).trans right_count.symm
    rw [pairing_push sized (typed.push left_later to_left) later right_known to_right,
      pairing_push sized typed later left_known to_left, add_assoc, Expression.tangent,
      dot_matmul ((values_sized _ _ left_later).trans left_count)
        ((values_sized _ _ right_later).trans right_count)
        ((sized _ _ left_known).trans left_count) ((sized _ _ right_known).trans right_count) count]
  | @add left right a b left_known right_known alike =>
    have right_later := later _ _ right_known
    have width := values_sized _ _ right_later
    obtain ⟨count, repeated⟩ := exists_repetitions alike
    rw [Expression.handBack, values_typed.read_elements right_later] at handed
    cases handed
    have to_right : (unbroadcast g (values.elements right).length).length = b.shape.dims.prod :=
      (length_unbroadcast _ _).trans width
    rw [pairing_push sized (typed.push (later _ _ left_known) length) later right_known to_right,
      pairing_push sized typed later left_known length, add_assoc, Expression.tangent, width,
      dot_add ((sized _ _ left_known).trans repeated) (sized _ _ right_known)
        (length.trans repeated)]
  | @relu operand _ operand_known =>
    have operand_later := later _ _ operand_known
    have width := values_sized _ _ operand_later
    rw [Expression.handBack, values_typed.read_elements operand_later] at handed
    cases handed
    have to_operand : (reluGradient (values.elements operand) g).length = info.shape.dims.prod := by
      rw [length_reluGradient, width, length, Nat.min_self]
    rw [pairing_push sized typed later operand_known to_operand, Expression.tangent,
      dot_relu (width.trans length.symm) ((sized _ _ operand_known).trans length.symm)]
  | identity operand_known =>
    cases handed
    rw [pairing_push sized typed later operand_known length, Expression.tangent]
  | scale operand_known =>
    cases handed
    rw [pairing_push sized typed later operand_known ((length_scale _ g).trans length),
      Expression.tangent, dot_scale _ ((sized _ _ operand_known).trans length.symm)]
    rfl

/-! ### All nodes -/

/-- **Typed nodes keep the inner product** while they hand gradients back: over what is known
before them it is afterwards what it was over all that is known behind them.

**Proof sketch.** Induction on the typing, along the reverse sweep. The nodes behind the first one
have kept the inner product over what is known behind it, the first node's result included. The
first node replaces the share of its result by equal shares of its operands. -/
lemma NodesTyped.pairing_handBack {infos infos' : NameMap TensorInfo} {nodes : List Node}
    (t : NodesTyped infos nodes infos') (later : Extends infos' known)
    (values_typed : values.Typed known) (sized : Sized infos' changes)
    (follows : Follows values changes nodes) {seeds gradients : Gradients ℚ}
    (typed : seeds.Typed known)
    (handed : nodes.foldrM (fun node g => node.handBack values g) seeds = .ok gradients) :
    pairing infos gradients changes = pairing infos' seeds changes := by
  induction t generalizing gradients with
  | nil infos =>
    obtain rfl : seeds = gradients := Except.ok.inj handed
    rfl
  | @cons infos infos' node rest described fresh others ih =>
    obtain ⟨rule, follows_rest⟩ := List.forall_mem_cons.1 follows
    have now := (extends_insert fresh).trans others.extends
    have output : infos'.find? node.output = some node.info :=
      others.extends _ _ (NameMap.find?_insert_self _ _ _)
    rw [List.foldrM_cons] at handed
    obtain ⟨between, rest_handed, handed⟩ := Outcome.bind_eq_ok_iff.1 handed
    have kept := ih later sized follows_rest rest_handed
    have described_later : ∀ node ∈ rest, node.expression.HasInfo known node.info ∧
        known.find? node.output = some node.info := by
      intro other h
      obtain ⟨expression, result⟩ := others.of_mem h
      exact ⟨expression.mono later, later _ _ result⟩
    obtain ⟨between', again, typed_between⟩ := handBack_typed described_later values_typed typed
    obtain rfl : between' = between := Except.ok.inj (again.symm.trans rest_handed)
    rw [← kept, pairing_insert fresh, rule, add_comm]
    unfold Node.handBack at handed
    split at handed
    · rename_i none_reached
      cases handed
      rw [NameMap.elements, none_reached, Option.getD_none, nil_dot, add_zero]
    · rename_i g reached
      obtain ⟨info, result, length⟩ := typed_between _ _ reached
      obtain rfl : info = node.info := Option.some.inj (result.symm.trans (later _ _ output))
      rw [NameMap.elements_of_find? reached]
      exact described.pairing_handBack (now.trans later) values_typed
        (fun name info here => sized name info (now name info here)) typed_between length handed

/-! ### Losses -/

/-- The losses that read a described tensor give it their gradients. -/
lemma pairing_seeds (sized : Sized infos changes) (later : Extends infos known)
    (values_typed : values.Typed known) {losses : List Loss}
    (read : ∀ loss ∈ losses, ∃ info, known.find? loss.input = some info) {seeds : Gradients ℚ}
    (typed : gradients.Typed known)
    (seeded : losses.foldlM (fun g loss => loss.seed values g) gradients = .ok seeds) :
    pairing infos seeds changes = pairing infos gradients changes +
      ((losses.filter fun loss => infos.contains loss.input).map fun loss =>
        dot (loss.gradient (values.elements loss.input)) (changes.elements loss.input)).sum := by
  induction losses generalizing gradients with
  | nil =>
    cases seeded
    simp
  | cons loss rest ih =>
    obtain ⟨⟨info, here⟩, others⟩ := List.forall_mem_cons.1 read
    have length : (loss.gradient (values.elements loss.input)).length = info.shape.dims.prod := by
      rw [Loss.gradient, List.length_map]
      exact values_typed.sized _ _ here
    rw [List.foldlM_cons, Loss.seed, values_typed.read_elements here] at seeded
    have rest_seeded := ih others (typed.push here length) seeded
    rw [rest_seeded, List.filter_cons]
    cases graph : infos.find? loss.input with
    | none =>
      have unknown : infos.contains loss.input = false := by rw [NameMap.contains, graph]; rfl
      rw [pairing_push_of_unknown graph, unknown]
      rfl
    | some info' =>
      obtain rfl : info' = info := Option.some.inj ((later _ _ graph).symm.trans here)
      have read_here : infos.contains loss.input = true := by rw [NameMap.contains, graph]; rfl
      rw [pairing_push sized typed later graph length, read_here, if_pos rfl, List.map_cons,
        List.sum_cons, add_assoc]

/-! ### Programs -/

omit [Reading] in
/-- What is known behind some nodes is what was known before and their results. -/
lemma NodesTyped.contains_eq {infos infos' : NameMap TensorInfo} {nodes : List Node}
    (t : NodesTyped infos nodes infos') (name : String) :
    infos'.contains name = (infos.contains name || nodes.any fun node => node.output == name) := by
  induction t with
  | nil infos => simp
  | @cons infos infos' node rest described fresh others ih =>
    rw [ih, List.any_cons, ← Bool.or_assoc]
    congr 1
    rw [NameMap.contains, NameMap.find?_insert, NameMap.contains]
    by_cases h : name = node.output
    · simp [h]
    · simp [h, Ne.symm h]

/-- Whether a tensor belongs to the graph of a program: it is an input, a weight or the result of a
node, and not that of a loss. -/
def Program.isGraphTensor (program : Program) (name : String) : Bool :=
  (program.signature.inputs.contains name || program.weights.contains name) ||
    program.nodes.any fun node => node.output == name

/-- **The losses that read a tensor of the graph.** -/
def Program.graphLosses (program : Program) : List Loss :=
  program.losses.filter fun loss => program.isGraphTensor loss.input

namespace Program

omit [Reading] in
/-- **A compiled program is described** from its inputs and weights on, and the tensors of its graph
are those that are known before its losses. -/
lemma described_of_compile {graph : Graph} {kind : Kind} {program : Program}
    (compiled : compile graph kind = .ok program) : ∃ infos,
      NodesTyped (sources graph) program.nodes infos ∧
      LossesTyped infos program.losses program.infos ∧
      ∀ name, program.isGraphTensor name = infos.contains name := by
  obtain ⟨infos, nodes, losses⟩ := typed_of_compile compiled
  obtain ⟨_, _, _, -, -, -, -, -, -, weights, -, signature⟩ := compile_eq_ok compiled
  refine ⟨infos, nodes, losses, fun name => ?_⟩
  rw [nodes.contains_eq, isGraphTensor, signature, weights]
  congr 1
  rw [NameMap.contains, NameMap.contains, NameMap.contains, sources,
    NameMap.find?_insertAll_entries, Option.isSome_or, Bool.or_comm]

variable {program : Program} {sources infos : NameMap TensorInfo}

/-- **The inner product that a reverse sweep ends with.** The seeds begin with the inner products of
the losses that read a tensor of the graph, and the nodes keep them. -/
lemma pairing_backward (nodes : NodesTyped sources program.nodes infos)
    (losses : LossesTyped infos program.losses program.infos)
    (graph_tensors : ∀ name, program.isGraphTensor name = infos.contains name)
    {values changes : Values ℚ} (typed : values.Typed program.infos)
    (changes_typed : changes.Typed sources) {gradients : Gradients ℚ}
    (ran : program.backward values = .ok gradients) :
    ∑ name ∈ sources.names.toFinset, dot (gradients.elements name) (changes.elements name) =
      (program.graphLosses.map fun loss => dot (loss.gradient (values.elements loss.input))
        ((program.tangents values changes).elements loss.input)).sum := by
  obtain ⟨seeds, seeded, handed⟩ := Outcome.bind_eq_ok_iff.1 ran
  have untouched : Gradients.Typed program.infos (.empty : Gradients ℚ) :=
    fun _ _ impossible => nomatch impossible
  have read : ∀ loss ∈ program.losses, ∃ info, program.infos.find? loss.input = some info :=
    fun loss h => losses.of_mem h
  obtain ⟨seeds', again, typed_seeds⟩ := seeds_typed read typed untouched
  obtain rfl : seeds' = seeds := Except.ok.inj (again.symm.trans seeded)
  obtain ⟨tangents_typed, follows, kept⟩ := nodes.tangents
    (fun name info known => typed.sized name info (losses.extends name info known)) changes_typed
  have begun : pairing sources gradients (program.tangents values changes) =
      ∑ name ∈ sources.names.toFinset, dot (gradients.elements name) (changes.elements name) := by
    refine sum_congr rfl fun name member => ?_
    obtain ⟨info, known⟩ := NameMap.find?_of_mem_names (List.mem_toFinset.1 member)
    rw [tangents, kept name info known]
  rw [← begun, tangents, nodes.pairing_handBack losses.extends typed tangents_typed.sized follows
    typed_seeds handed, pairing_seeds tangents_typed.sized losses.extends typed read untouched
    seeded, pairing_empty, zero_add, graphLosses]
  simp only [graph_tensors]

end Program

/-- **The reverse sweep is the transpose of the forward sweep.** Take a compiled program, values of
the declared sizes for its inputs and weights, and a change of each. The program runs forward and
back, and the inner product of the gradients of inputs and weights with their changes is that of
the seeds of the losses that read a tensor of the graph with the changes of what they read.

**Proof sketch.** What the losses are seeded with has that inner product over all tensors of the
graph. In the reverse sweep each node takes its result out of the inner product and puts equal
shares of its operands in, so that in the end inputs and weights are left. -/
theorem backward_is_transpose {graph : Graph} {kind : Kind} {program : Program}
    (compiled : Program.compile graph kind = .ok program) {start changes : Values ℚ}
    (start_typed : start.Typed (Program.sources graph))
    (changes_typed : changes.Typed (Program.sources graph)) :
    ∃ values gradients, program.forward start = .ok values ∧
      program.backward values = .ok gradients ∧
      ∑ name ∈ (Program.sources graph).names.toFinset,
          dot (gradients.elements name) (changes.elements name) =
        (program.graphLosses.map fun loss => dot (loss.gradient (values.elements loss.input))
          ((program.tangents values changes).elements loss.input)).sum := by
  obtain ⟨infos, nodes, losses, graph_tensors⟩ := Program.described_of_compile compiled
  obtain ⟨values, gradients, forward, backward, typed, -⟩ :=
    Program.exists_sweeps nodes losses start_typed
  exact ⟨values, gradients, forward, backward,
    Program.pairing_backward nodes losses graph_tensors typed changes_typed backward⟩

end Rules

/-! ### A program with two losses -/

/-- Training on the product of a small model and on the loss of the product. -/
def chainedTraining : Kind :=
  .training [⟨"MatMul:0", "first", Single.one, .sum⟩, ⟨"first", "second", Single.one, .sum⟩]
    ⟨.constant, Single.one, Single.zero⟩

/-- A small model, loaded and compiled. -/
def compiledSample (kind : Kind) : Option (Graph × Program) :=
  (Exchange.loadGraph Session.sampleModel .empty).toOption.bind fun graph =>
    (Program.compile graph kind).toOption.map fun program => (graph, program)

/-- What is seen of the compiled model without looking at it is seen of a graph and its program. -/
lemma exists_of_compiledSample (kind : Kind) (test : Graph → Program → Bool)
    (h : (compiledSample kind).any (fun c => test c.1 c.2) = true) : ∃ graph program,
      Exchange.loadGraph Session.sampleModel .empty = .ok graph ∧
      Program.compile graph kind = .ok program ∧ test graph program = true := by
  cases hc : compiledSample kind with
  | none => simp [hc] at h
  | some c =>
    obtain ⟨graph, hg, made⟩ := Option.bind_eq_some_iff.1 hc
    obtain ⟨program, hp, rfl⟩ := Option.map_eq_some_iff.1 made
    exact ⟨graph, program, Outcome.toOption_eq_some_iff.1 hg, Outcome.toOption_eq_some_iff.1 hp,
      by simpa [hc] using h⟩

/-- **The transpose in numbers.** With the input `(1, -3)`, the weight `2`, and changes `(5, 7)` and
`11`, the product `(2, -6)` changes by `(21, -19)`, and both inner products are `40`. -/
theorem backward_is_transpose_sample : ∃ graph program values gradients,
    Exchange.loadGraph Session.sampleModel .empty = .ok graph ∧
    Program.compile graph chainedTraining = .ok program ∧
    program.forward (.ofList [("w", [2]), ("x", [1, -3])] : Values ℚ) = .ok values ∧
    program.backward values = .ok gradients ∧
    ∑ name ∈ (Program.sources graph).names.toFinset, dot (gradients.elements name)
      ((.ofList [("w", [11]), ("x", [5, 7])] : Values ℚ).elements name) = 40 := by
  obtain ⟨graph, program, loaded, compiled, tested⟩ := exists_of_compiledSample chainedTraining
    (fun graph program => decide (Values.Typed (Program.sources graph)
        (.ofList [("w", [2]), ("x", [1, -3])] : Values ℚ)) &&
      (decide (Values.Typed (Program.sources graph)
        (.ofList [("w", [11]), ("x", [5, 7])] : Values ℚ)) &&
      (program.forward (.ofList [("w", [2]), ("x", [1, -3])] : Values ℚ)).toOption.any fun values =>
        decide ((program.graphLosses.map fun loss =>
          dot (loss.gradient (values.elements loss.input)) ((program.tangents values
            (.ofList [("w", [11]), ("x", [5, 7])])).elements loss.input)).sum = 40)))
    (by decide +kernel)
  simp only [Bool.and_eq_true, decide_eq_true_eq] at tested
  obtain ⟨start_typed, changes_typed, result⟩ := tested
  obtain ⟨values, gradients, forward, backward, transpose⟩ :=
    backward_is_transpose compiled start_typed changes_typed
  rw [forward] at result
  have total := of_decide_eq_true result
  exact ⟨graph, program, values, gradients, loaded, compiled, forward, backward,
    transpose.trans total⟩

end Microbatch
