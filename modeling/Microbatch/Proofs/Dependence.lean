import Mathlib.Logic.Relation
import Microbatch.Proofs.Sweeps

set_option relaxedAutoImplicit false
set_option autoImplicit false

/-!
# What losses depend on

A node carries what it reads over to its result. A loss depends on a tensor if a chain of nodes
leads from the tensor to what the loss reads. Compilation finds these tensors in one pass over the
nodes, from the last to the first. One pass is enough: a node reads what is known before it, so that
a chain never leads back to a node that the pass has left behind.

## Main definitions

* `Microbatch.Carries`, `Microbatch.Reaches` — one node, and a chain of nodes, from one tensor to
  another.
* `Microbatch.Program.ReachesLoss` — some loss depends on a tensor.

## Main results

* `Microbatch.reaches_cons_iff` — a chain uses the first node at its start or not at all.
* `Microbatch.mem_live_iff` — one pass finds exactly the tensors that some loss depends on.
* `Microbatch.Program.mem_trainable_iff` — a program trains exactly the weights among them.
-/

namespace Microbatch

variable {infos infos' : NameMap TensorInfo}

/-! ### Chains of nodes -/

/-- One of the nodes reads the first tensor and produces the second. -/
def Carries (nodes : List Node) (source target : String) : Prop :=
  ∃ node ∈ nodes, source ∈ node.expression.inputs ∧ target = node.output

/-- **A chain of nodes leads from one tensor to another.** Every tensor leads to itself. -/
def Reaches (nodes : List Node) : String → String → Prop := Relation.ReflTransGen (Carries nodes)

/-- **Some loss depends on a tensor**: what the loss reads is reached from there. -/
def Program.ReachesLoss (program : Program) (name : String) : Prop :=
  ∃ loss ∈ program.losses, Reaches program.nodes name loss.input

/-- Chains through some of the nodes are chains through all of them. -/
lemma Reaches.mono {nodes nodes' : List Node} (h : ∀ node ∈ nodes, node ∈ nodes')
    {source target : String} (chain : Reaches nodes source target) :
    Reaches nodes' source target := by
  refine Relation.ReflTransGen.mono ?_ _ _ chain
  rintro a b ⟨node, member, reads, produces⟩
  exact ⟨node, h node member, reads, produces⟩

/-- Chains do not depend on the order of the nodes. -/
lemma reaches_iff_of_perm {nodes nodes' : List Node} (h : nodes.Perm nodes')
    {source target : String} : Reaches nodes source target ↔ Reaches nodes' source target :=
  ⟨.mono fun _ => h.mem_iff.1, .mono fun _ => h.mem_iff.2⟩

/-- What a node produces was not known before. -/
lemma NodesTyped.fresh_of_mem {nodes : List Node} (t : NodesTyped infos nodes infos') {node : Node}
    (h : node ∈ nodes) : infos.find? node.output = none := by
  induction t with
  | nil infos => cases h
  | @cons infos infos' first rest described fresh others ih =>
    rcases List.mem_cons.1 h with rfl | h
    · exact fresh
    · have later := ih h
      rw [NameMap.find?_insert] at later
      split at later
      · cases later
      · exact later

/-- **A chain uses the first of some nodes at its start or not at all.** Whatever the first node
reads was known before, and no node produces it.

**Proof sketch.** Induction on the chain from its start. If the chain goes on from where the first
node could be used, then what it has come from was produced by a node; the first node does not read
that. -/
lemma reaches_cons_iff {node : Node} {rest : List Node}
    (t : NodesTyped infos (node :: rest) infos') {source target : String} :
    Reaches (node :: rest) source target ↔ Reaches rest source target ∨
      source ∈ node.expression.inputs ∧ Reaches rest node.output target := by
  have not_read : ∀ other ∈ node :: rest, other.output ∉ node.expression.inputs := by
    intro other member read
    have fresh := t.fresh_of_mem member
    cases t with
    | cons described _ _ =>
      obtain ⟨a, known⟩ := described.known read
      rw [fresh] at known
      cases known
  constructor
  · intro chain
    induction chain using Relation.ReflTransGen.head_induction_on with
    | refl => exact .inl .refl
    | head step _ ih =>
      obtain ⟨other, member, reads, rfl⟩ := step
      rcases ih with chain | ⟨again, -⟩
      · rcases List.mem_cons.1 member with rfl | later
        · exact .inr ⟨reads, chain⟩
        · exact .inl (.head ⟨other, later, reads, rfl⟩ chain)
      · exact absurd again (not_read other member)
  · rintro (chain | ⟨reads, chain⟩)
    · exact chain.mono fun _ => List.mem_cons_of_mem _
    · refine .head ⟨node, List.mem_cons_self .., reads, rfl⟩ ?_
      exact chain.mono fun _ => List.mem_cons_of_mem _

/-- What a loss reads leads to the loss. -/
lemma Program.reachesLoss_input {program : Program} {loss : Loss} (h : loss ∈ program.losses) :
    program.ReachesLoss loss.input :=
  ⟨loss, h, .refl⟩

/-- What a node reads leads where its result leads. -/
lemma Program.ReachesLoss.of_output {program : Program} {node : Node} (h : node ∈ program.nodes)
    (reaches : program.ReachesLoss node.output) {name : String}
    (read : name ∈ node.expression.inputs) : program.ReachesLoss name := by
  obtain ⟨loss, member, chain⟩ := reaches
  exact ⟨loss, member, .head ⟨node, h, read, rfl⟩ chain⟩

/-! ### One pass finds them -/

/-- **One pass over the nodes finds exactly the tensors that some loss depends on.** -/
theorem mem_live_iff {nodes : List Node} (t : NodesTyped infos nodes infos') {losses : List Loss}
    {name : String} :
    name ∈ Program.live nodes losses ↔ ∃ loss ∈ losses, Reaches nodes name loss.input := by
  induction nodes generalizing infos name with
  | nil =>
    have stays : ∀ target, Reaches [] name target ↔ name = target := by
      intro target
      constructor
      · intro chain
        cases chain with
        | refl => rfl
        | tail _ step =>
          obtain ⟨node, member, -⟩ := step
          cases member
      · rintro rfl
        exact .refl
    simp only [Program.live, List.foldr_nil, List.mem_map, stays]
    constructor
    · rintro ⟨loss, member, rfl⟩
      exact ⟨loss, member, rfl⟩
    · rintro ⟨loss, member, rfl⟩
      exact ⟨loss, member, rfl⟩
  | cons node rest ih =>
    have chains : ∀ target, Reaches (node :: rest) name target ↔ Reaches rest name target ∨
        name ∈ node.expression.inputs ∧ Reaches rest node.output target :=
      fun _ => reaches_cons_iff t
    cases t with
    | cons described fresh others =>
      have unfolded : Program.live (node :: rest) losses =
          if (Program.live rest losses).contains node.output then
            node.expression.inputs ++ Program.live rest losses
          else Program.live rest losses := rfl
      simp only [chains, and_or_left, exists_or]
      rw [unfolded, ← ih others]
      split
      · rename_i live
        rw [List.contains_iff_mem, ih others] at live
        obtain ⟨loss, member, chain⟩ := live
        rw [List.mem_append, or_comm]
        refine or_congr_right ⟨fun reads => ⟨loss, member, reads, chain⟩, ?_⟩
        rintro ⟨_, _, reads, _⟩
        exact reads
      · rename_i dead
        rw [List.contains_iff_mem, ih others] at dead
        refine (or_iff_left ?_).symm
        rintro ⟨loss, member, _, chain⟩
        exact dead ⟨loss, member, chain⟩

namespace Program

variable {graph : Graph} {kind : Kind} {program : Program}

/-- In a compiled program, one pass finds exactly the tensors that some loss depends on. -/
lemma mem_live_iff_reachesLoss (compiled : compile graph kind = .ok program) {name : String} :
    name ∈ live program.nodes program.losses ↔ program.ReachesLoss name := by
  obtain ⟨infos, nodes, -⟩ := typed_of_compile compiled
  exact mem_live_iff nodes

/-- **A training program trains exactly the weights that some loss depends on.** -/
theorem mem_trainable_iff (compiled : compile graph kind = .ok program)
    (training : kind.isTraining = true) {name : String} :
    name ∈ program.trainable ↔ name ∈ program.weights.names ∧ program.ReachesLoss name := by
  obtain ⟨_, _, _, -, -, -, -, -, same_losses, -, trainable, -⟩ := compile_eq_ok compiled
  rw [trainable, trainableWeights, if_pos training, List.mem_filter, List.contains_iff_mem,
    ← same_losses, mem_live_iff_reachesLoss compiled]

/-- Some loss depends on every weight that a program trains. -/
lemma reachesLoss_of_mem_trainable (compiled : compile graph kind = .ok program) {name : String}
    (trained : name ∈ program.trainable) : program.ReachesLoss name := by
  cases training : kind.isTraining with
  | true => exact ((mem_trainable_iff compiled training).1 trained).2
  | false =>
    obtain ⟨_, _, _, -, -, -, -, -, -, -, trainable, -⟩ := compile_eq_ok compiled
    rw [trainable, trainableWeights, training] at trained
    cases trained

/-- An inference program trains no weight. -/
lemma trainable_of_inference (compiled : compile graph kind = .ok program)
    (inference : kind.isTraining = false) : program.trainable = [] := by
  obtain ⟨_, _, _, -, -, -, -, -, -, -, trainable, -⟩ := compile_eq_ok compiled
  rw [trainable, trainableWeights, inference]
  rfl

end Program

end Microbatch
