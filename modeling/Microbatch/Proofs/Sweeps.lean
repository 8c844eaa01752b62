import Microbatch.Proofs.Compilation

set_option relaxedAutoImplicit false
set_option autoImplicit false

/-!
# What the two sweeps of a program leave

Every tensor has one producer, so that the values that a program ends with are still those that its
nodes have read: each node's result is its expression on the final values. The reverse sweep leaves
a gradient at exactly the tensors that some loss depends on.

## Main results

* `Microbatch.Program.exists_sweeps` — a compiled program runs, forward and back.
* `Microbatch.Program.forward_eq_ok` — the final values satisfy the equations of nodes and losses.
* `Microbatch.Program.contains_gradients` — the tensors that a gradient reaches.
-/

namespace Microbatch

variable {F : Type} [Scalar F] {infos infos' : NameMap TensorInfo}

/-! ### Both sweeps end -/

namespace Program

omit [Scalar F] in
/-- **A compiled program is typed** from the inputs and weights of its graph on. -/
lemma typed_of_compile {graph : Graph} {kind : Kind} {program : Program}
    (compiled : compile graph kind = .ok program) : ∃ infos,
      NodesTyped (sources graph) program.nodes infos ∧
        LossesTyped infos program.losses program.infos := by
  obtain ⟨_, _, infos, -, -, -, typed, losses, same_losses, -⟩ := compile_eq_ok compiled
  exact ⟨infos, nodesTyped_of_typeNodes typed, same_losses ▸ lossesTyped_of_typeLosses losses⟩

/-- **A typed program runs back** from values of the described sizes. -/
lemma exists_backward {program : Program} {sources : NameMap TensorInfo}
    (nodes : NodesTyped sources program.nodes infos)
    (losses : LossesTyped infos program.losses program.infos) {values : Values F}
    (typed : values.Typed program.infos) :
    ∃ gradients, program.backward values = .ok gradients ∧ gradients.Typed program.infos := by
  have untouched : Gradients.Typed program.infos (.empty : Gradients F) :=
    fun _ _ impossible => nomatch impossible
  obtain ⟨seeds, seeded, typed_seeds⟩ :=
    seeds_typed (fun loss h => losses.of_mem h) typed untouched
  have described : ∀ node ∈ program.nodes, node.expression.HasInfo program.infos node.info ∧
      program.infos.find? node.output = some node.info := by
    intro node h
    obtain ⟨expression, output⟩ := nodes.of_mem h
    exact ⟨expression.mono losses.extends, losses.extends _ _ output⟩
  obtain ⟨gradients, handed, typed_gradients⟩ := handBack_typed described typed typed_seeds
  refine ⟨gradients, ?_, typed_gradients⟩
  rw [backward, seeded]
  exact handed

/-- **A typed program runs**, forward and back, from values of the described sizes. -/
lemma exists_sweeps {program : Program} {sources : NameMap TensorInfo}
    (nodes : NodesTyped sources program.nodes infos)
    (losses : LossesTyped infos program.losses program.infos) {start : Values F}
    (typed : start.Typed sources) : ∃ values gradients, program.forward start = .ok values ∧
      program.backward values = .ok gradients ∧ values.Typed program.infos ∧
      gradients.Typed program.infos := by
  obtain ⟨between, ran_nodes, typed_between⟩ := nodes.run typed
  obtain ⟨values, ran_losses, typed_values⟩ := losses.run typed_between
  obtain ⟨gradients, ran_back, typed_gradients⟩ := exists_backward nodes losses typed_values
  refine ⟨values, gradients, ?_, ran_back, typed_values, typed_gradients⟩
  rw [forward, ran_nodes]
  exact ran_losses

end Program

/-! ### The equations of the forward sweep -/

/-- The elements of an expression depend on what it reads only. -/
lemma Expression.evaluate_congr {e : Expression} {values values' : Values F}
    (h : ∀ name ∈ e.inputs, values.find? name = values'.find? name) :
    e.evaluate values = e.evaluate values' := by
  have read : ∀ name ∈ e.inputs, values.read name = values'.read name := by
    intro name member
    rw [Values.read, Values.read, h name member]
  cases e <;> simp_all [Expression.evaluate, Expression.inputs]

omit [Scalar F] in
/-- What a rightly described expression reads is described. -/
lemma Expression.HasInfo.known {e : Expression} {info : TensorInfo} (t : e.HasInfo infos info)
    {name : String} (h : name ∈ e.inputs) : ∃ a, infos.find? name = some a := by
  cases t with
  | matmul left_known right_known _ _ =>
    rcases List.mem_pair.1 h with rfl | rfl
    · exact ⟨_, left_known⟩
    · exact ⟨_, right_known⟩
  | add left_known right_known _ =>
    rcases List.mem_pair.1 h with rfl | rfl
    · exact ⟨_, left_known⟩
    · exact ⟨_, right_known⟩
  | relu known => exact ⟨_, List.mem_singleton.1 h ▸ known⟩
  | identity known => exact ⟨_, List.mem_singleton.1 h ▸ known⟩
  | scale known => exact ⟨_, List.mem_singleton.1 h ▸ known⟩

/-- **The values behind typed nodes** are those before them where something was known, and the
result of each node is its expression.

**Proof sketch.** Induction on the typing. The nodes behind the first one make new tensors known,
so that what the first one has read, and what it has produced, is there unchanged at the end. -/
lemma NodesTyped.run_eq_ok {nodes : List Node} (t : NodesTyped infos nodes infos')
    {values values' : Values F} (ran : nodes.foldlM Program.runNode values = .ok values') :
    (∀ name info, infos.find? name = some info → values'.find? name = values.find? name) ∧
      ∀ node ∈ nodes, ∃ xs, node.expression.evaluate values' = .ok xs ∧
        values'.find? node.output = some xs := by
  induction t generalizing values with
  | nil infos =>
    obtain rfl : values = values' := Except.ok.inj ran
    exact ⟨fun _ _ _ => rfl, fun _ h => (List.not_mem_nil h).elim⟩
  | @cons infos infos' node rest described fresh others ih =>
    rw [List.foldlM_cons] at ran
    obtain ⟨between, first, ran⟩ := Outcome.bind_eq_ok_iff.1 ran
    obtain ⟨xs, computed, inserted⟩ := Outcome.bind_eq_ok_iff.1 first
    cases inserted
    obtain ⟨kept, equations⟩ := ih ran
    have kept_before : ∀ name info, infos.find? name = some info →
        values'.find? name = values.find? name := by
      intro name info known
      have other : name ≠ node.output := by
        rintro rfl
        exact nomatch fresh.symm.trans known
      rw [kept name info (extends_insert fresh name info known), NameMap.find?_insert_of_ne _ other]
    refine ⟨kept_before, fun other h => ?_⟩
    rcases List.mem_cons.1 h with rfl | h
    · refine ⟨xs, ?_, ?_⟩
      · rw [← computed]
        refine Expression.evaluate_congr fun name read => ?_
        obtain ⟨a, known⟩ := described.known read
        exact kept_before name a known
      · rw [kept _ _ (NameMap.find?_insert_self _ _ _), NameMap.find?_insert_self]
    · exact equations other h

/-- **The values behind typed losses** are those before them where something was known, and the
result of each loss is its value. -/
lemma LossesTyped.run_eq_ok {losses : List Loss} (t : LossesTyped infos losses infos')
    {values values' : Values F} (ran : losses.foldlM Program.runLoss values = .ok values') :
    (∀ name info, infos.find? name = some info → values'.find? name = values.find? name) ∧
      ∀ loss ∈ losses, ∃ xs, values'.find? loss.input = some xs ∧
        values'.find? loss.output = some [loss.value xs] := by
  induction t generalizing values with
  | nil infos =>
    obtain rfl : values = values' := Except.ok.inj ran
    exact ⟨fun _ _ _ => rfl, fun _ h => (List.not_mem_nil h).elim⟩
  | @cons infos infos' loss rest info known fresh others ih =>
    rw [List.foldlM_cons] at ran
    obtain ⟨between, first, ran⟩ := Outcome.bind_eq_ok_iff.1 ran
    obtain ⟨xs, read, inserted⟩ := Outcome.bind_eq_ok_iff.1 first
    cases inserted
    obtain ⟨kept, equations⟩ := ih ran
    have kept_before : ∀ name info, infos.find? name = some info →
        values'.find? name = values.find? name := by
      intro name info known
      have other : name ≠ loss.output := by
        rintro rfl
        exact nomatch fresh.symm.trans known
      rw [kept name info (extends_insert fresh name info known), NameMap.find?_insert_of_ne _ other]
    refine ⟨kept_before, fun other h => ?_⟩
    rcases List.mem_cons.1 h with rfl | h
    · refine ⟨xs, ?_, ?_⟩
      · rw [kept_before _ _ known]
        unfold Values.read at read
        split at read
        · rename_i found
          rw [found, Except.ok.inj read]
        · cases read
      · rw [kept _ _ (NameMap.find?_insert_self _ _ _), NameMap.find?_insert_self]
    · exact equations other h

/-- **The equations of the forward sweep**: inputs and weights have the values that were begun
with, every node's result is its expression on the final values, and every loss's is its value. -/
lemma Program.forward_eq_ok {program : Program} {sources : NameMap TensorInfo}
    (nodes : NodesTyped sources program.nodes infos)
    (losses : LossesTyped infos program.losses program.infos) {start values : Values F}
    (ran : program.forward start = .ok values) :
    (∀ name info, sources.find? name = some info → values.find? name = start.find? name) ∧
      (∀ node ∈ program.nodes, ∃ xs, node.expression.evaluate values = .ok xs ∧
        values.find? node.output = some xs) ∧
      ∀ loss ∈ program.losses, ∃ xs, values.find? loss.input = some xs ∧
        values.find? loss.output = some [loss.value xs] := by
  obtain ⟨between, ran_nodes, ran_losses⟩ := Outcome.bind_eq_ok_iff.1 ran
  obtain ⟨kept_nodes, of_nodes⟩ := nodes.run_eq_ok ran_nodes
  obtain ⟨kept_losses, of_losses⟩ := losses.run_eq_ok ran_losses
  refine ⟨fun name info known => ?_, fun node h => ?_, of_losses⟩
  · rw [kept_losses name info (nodes.extends name info known), kept_nodes name info known]
  · obtain ⟨xs, computed, found⟩ := of_nodes node h
    obtain ⟨expression, output⟩ := nodes.of_mem h
    refine ⟨xs, ?_, by rw [kept_losses _ _ output, found]⟩
    rw [← computed]
    refine Expression.evaluate_congr fun name read => ?_
    obtain ⟨a, known⟩ := expression.known read
    exact kept_losses name a known

/-! ### Where gradients are left -/

/-- A tensor has a gradient once one is handed to it. -/
lemma Gradients.contains_push {gradients : Gradients F} {name other : String} {g : List F} :
    (gradients.push name g).contains other = true ↔
      other = name ∨ gradients.contains other = true := by
  rw [Gradients.push, NameMap.contains, NameMap.find?_insert, NameMap.contains]
  by_cases h : other = name
  · simp [h]
  · simp [h]

/-- An expression hands gradients to what it reads. -/
lemma Expression.contains_handBack {e : Expression} {values : Values F} {g : List F}
    {gradients gradients' : Gradients F} (handed : e.handBack values g gradients = .ok gradients')
    {name : String} :
    gradients'.contains name = true ↔ name ∈ e.inputs ∨ gradients.contains name = true := by
  cases e with
  | matmul size left right =>
    obtain ⟨a, -, handed⟩ := Outcome.bind_eq_ok_iff.1 handed
    obtain ⟨b, -, handed⟩ := Outcome.bind_eq_ok_iff.1 handed
    cases handed
    simp [Gradients.contains_push, Expression.inputs, or_left_comm, or_assoc]
  | add left right =>
    obtain ⟨b, -, handed⟩ := Outcome.bind_eq_ok_iff.1 handed
    cases handed
    simp [Gradients.contains_push, Expression.inputs, or_left_comm, or_assoc]
  | relu operand =>
    obtain ⟨x, -, handed⟩ := Outcome.bind_eq_ok_iff.1 handed
    cases handed
    simp [Gradients.contains_push, Expression.inputs]
  | identity operand =>
    cases handed
    simp [Gradients.contains_push, Expression.inputs]
  | scale factor operand =>
    cases handed
    simp [Gradients.contains_push, Expression.inputs]

/-- The seeds are at the inputs of the losses. -/
lemma contains_seeds {losses : List Loss} {values : Values F} {gradients seeds : Gradients F}
    (seeded : losses.foldlM (fun g loss => loss.seed values g) gradients = .ok seeds)
    {name : String} : seeds.contains name = true ↔
      name ∈ losses.map (·.input) ∨ gradients.contains name = true := by
  induction losses generalizing gradients with
  | nil =>
    cases seeded
    simp
  | cons loss rest ih =>
    rw [List.foldlM_cons] at seeded
    obtain ⟨next, first, seeded⟩ := Outcome.bind_eq_ok_iff.1 seeded
    obtain ⟨xs, -, pushed⟩ := Outcome.bind_eq_ok_iff.1 first
    cases pushed
    rw [ih seeded, Gradients.contains_push, List.map_cons, List.mem_cons, or_left_comm, or_assoc]

/-- **A gradient reaches exactly the tensors that some loss depends on.**

**Proof sketch.** The reverse sweep and the tracking of what losses depend on go through the nodes
in the same order. A node hands gradients to its operands exactly when one has reached its result,
and then its operands are tracked as well. -/
lemma Program.contains_gradients {program : Program} {values : Values F} {gradients : Gradients F}
    (ran : program.backward values = .ok gradients) {name : String} :
    gradients.contains name = true ↔ name ∈ live program.nodes program.losses := by
  obtain ⟨seeds, seeded, handed⟩ := Outcome.bind_eq_ok_iff.1 ran
  clear ran
  unfold live
  generalize program.nodes = nodes at handed
  induction nodes generalizing gradients name with
  | nil =>
    cases handed
    rw [contains_seeds seeded, List.foldr_nil]
    simp [NameMap.contains]
  | cons node rest ih =>
    rw [List.foldrM_cons] at handed
    obtain ⟨between, rest_handed, handed⟩ := Outcome.bind_eq_ok_iff.1 handed
    have reached : between.contains node.output = true ↔ _ := ih rest_handed
    rw [List.foldr_cons]
    unfold Node.handBack at handed
    split at handed
    · rename_i none_reached
      obtain rfl : between = gradients := Except.ok.inj handed
      have not_live : ¬ between.contains node.output = true := by
        rw [NameMap.contains, none_reached]
        simp
      rw [if_neg (by rwa [List.contains_iff_mem, ← reached]), ih rest_handed]
    · rename_i g found
      have is_live : between.contains node.output = true := by
        rw [NameMap.contains, found]
        rfl
      rw [if_pos (by rwa [List.contains_iff_mem, ← reached]), Expression.contains_handBack handed,
        List.mem_append, ih rest_handed]

end Microbatch
