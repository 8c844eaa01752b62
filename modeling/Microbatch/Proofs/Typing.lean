import Microbatch.Device.Host
import Microbatch.Proofs.Kernels
import Microbatch.Proofs.Names
import Microbatch.Proofs.Outcomes

set_option relaxedAutoImplicit false
set_option autoImplicit false

/-!
# Typed programs

Compilation describes every tensor of a program. A program whose descriptions are right can be
run from values of the described sizes: every value that is read is there, every kernel finds
all places that it goes through, and every result has the described size, on the way forward and
on the way back.

## Main definitions

* `Microbatch.Expression.HasInfo`, `Microbatch.NodesTyped`, `Microbatch.LossesTyped` — right
  descriptions.
* `Microbatch.Values.Typed`, `Microbatch.Gradients.Typed` — values of the described sizes.
* `Microbatch.Expression.ReadsInRange`, `Microbatch.Expression.HandsBackInRange` — an expression
  finds all that it goes through.

## Main results

* `Microbatch.Expression.HasInfo.evaluate`, `Microbatch.Expression.HasInfo.handBack` — one
  expression.
* `Microbatch.NodesTyped.run`, `Microbatch.LossesTyped.run` — all nodes, and all losses.
* `Microbatch.nodesTyped_of_typeNodes`, `Microbatch.lossesTyped_of_typeLosses` — compilation
  describes tensors rightly.
-/

namespace Microbatch

/-! ### Descriptions -/

/-- **The description of an expression's result**, given what is known about the tensors that it
reads. -/
inductive Expression.HasInfo (infos : NameMap TensorInfo) : Expression → TensorInfo → Prop where
  /-- Two matrices that fit together have a product. -/
  | matmul {size : MatrixSize} {left right : String} {a b : TensorInfo}
      (left_known : infos.find? left = some a) (right_known : infos.find? right = some b)
      (left_dims : a.shape.dims = [size.rows, size.inner])
      (right_dims : b.shape.dims = [size.inner, size.columns]) :
      HasInfo infos (.matmul size left right) (.float32 [size.rows, size.columns])
  /-- A tensor of the same shape, or one row of it, can be added. -/
  | add {left right : String} {a b : TensorInfo} (left_known : infos.find? left = some a)
      (right_known : infos.find? right = some b)
      (alike : a.shape = b.shape ∨ b.shape.isRowOf a.shape = true) :
      HasInfo infos (.add left right) a
  /-- What is above zero is described like all. -/
  | relu {operand : String} {a : TensorInfo} (known : infos.find? operand = some a) :
      HasInfo infos (.relu operand) a
  /-- The operand itself is described as it is. -/
  | identity {operand : String} {a : TensorInfo} (known : infos.find? operand = some a) :
      HasInfo infos (.identity operand) a
  /-- A multiple is described like the operand. -/
  | scale {factor : Single} {operand : String} {a : TensorInfo}
      (known : infos.find? operand = some a) : HasInfo infos (.scale factor operand) a

/-- **Nodes with right descriptions**: each reads what is known by then, and makes a new tensor
known. -/
inductive NodesTyped : NameMap TensorInfo → List Node → NameMap TensorInfo → Prop where
  /-- Without nodes nothing more becomes known. -/
  | nil (infos : NameMap TensorInfo) : NodesTyped infos [] infos
  /-- A node and those behind it. -/
  | cons {infos infos' : NameMap TensorInfo} {node : Node} {rest : List Node}
      (described : node.expression.HasInfo infos node.info)
      (fresh : infos.find? node.output = none)
      (others : NodesTyped (infos.insert node.output node.info) rest infos') :
      NodesTyped infos (node :: rest) infos'

/-- **Losses with right descriptions**: each reads what is known by then, and makes a new scalar
known. -/
inductive LossesTyped : NameMap TensorInfo → List Loss → NameMap TensorInfo → Prop where
  /-- Without losses nothing more becomes known. -/
  | nil (infos : NameMap TensorInfo) : LossesTyped infos [] infos
  /-- A loss and those behind it. -/
  | cons {infos infos' : NameMap TensorInfo} {loss : Loss} {rest : List Loss} {info : TensorInfo}
      (known : infos.find? loss.input = some info) (fresh : infos.find? loss.output = none)
      (others : LossesTyped (infos.insert loss.output (.float32 [])) rest infos') :
      LossesTyped infos (loss :: rest) infos'

/-- **What is known stays known.** -/
def Extends (infos infos' : NameMap TensorInfo) : Prop :=
  ∀ name info, infos.find? name = some info → infos'.find? name = some info

lemma Extends.refl (infos : NameMap TensorInfo) : Extends infos infos := fun _ _ h => h

lemma Extends.trans {infos infos' infos'' : NameMap TensorInfo} (h : Extends infos infos')
    (h' : Extends infos' infos'') : Extends infos infos'' :=
  fun name info known => h' name info (h name info known)

/-- A new tensor leaves what is known. -/
lemma extends_insert {infos : NameMap TensorInfo} {name : String} {info : TensorInfo}
    (fresh : infos.find? name = none) : Extends infos (infos.insert name info) := by
  intro other known h
  rw [NameMap.find?_insert_of_ne info ?_, h]
  rintro rfl
  rw [fresh] at h
  cases h

/-- What becomes known under its description leaves less than all known. -/
lemma Extends.insert {infos all : NameMap TensorInfo} (below : Extends infos all) {name : String}
    {info : TensorInfo} (described : all.find? name = some info) :
    Extends (infos.insert name info) all := by
  intro other known found
  rw [NameMap.find?_insert] at found
  split at found
  · rename_i same
    rw [same, described, ← found]
  · exact below other known found

/-- A known tensor is described as it is when all is known. -/
lemma Extends.find?_of_mem_names {infos all : NameMap TensorInfo} (below : Extends infos all)
    {name : String} {info : TensorInfo} (known : name ∈ infos.names)
    (described : all.find? name = some info) : infos.find? name = some info := by
  obtain ⟨info', found⟩ := NameMap.find?_of_mem_names known
  rw [found, ← described, below name info' found]

lemma NodesTyped.extends {infos infos' : NameMap TensorInfo} {nodes : List Node}
    (t : NodesTyped infos nodes infos') : Extends infos infos' := by
  induction t with
  | nil infos => exact .refl infos
  | cons _ fresh _ ih => exact (extends_insert fresh).trans ih

lemma LossesTyped.extends {infos infos' : NameMap TensorInfo} {losses : List Loss}
    (t : LossesTyped infos losses infos') : Extends infos infos' := by
  induction t with
  | nil infos => exact .refl infos
  | cons _ fresh _ ih => exact (extends_insert fresh).trans ih

/-- The description of a result stays right when more is known. -/
lemma Expression.HasInfo.mono {infos infos' : NameMap TensorInfo} (h : Extends infos infos')
    {e : Expression} {info : TensorInfo} (t : e.HasInfo infos info) : e.HasInfo infos' info := by
  cases t with
  | matmul left_known right_known left_dims right_dims =>
    exact .matmul (h _ _ left_known) (h _ _ right_known) left_dims right_dims
  | add left_known right_known alike => exact .add (h _ _ left_known) (h _ _ right_known) alike
  | relu known => exact .relu (h _ _ known)
  | identity known => exact .identity (h _ _ known)
  | scale known => exact .scale (h _ _ known)

/-- In a typed list of nodes, every node is described rightly by what is known at the end. -/
lemma NodesTyped.of_mem {infos infos' : NameMap TensorInfo} {nodes : List Node}
    (t : NodesTyped infos nodes infos') {node : Node} (h : node ∈ nodes) :
    node.expression.HasInfo infos' node.info ∧ infos'.find? node.output = some node.info := by
  induction t with
  | nil infos => cases h
  | cons described fresh others ih =>
    rcases List.mem_cons.1 h with rfl | h
    · refine ⟨described.mono ((extends_insert fresh).trans others.extends), ?_⟩
      exact others.extends _ _ (NameMap.find?_insert_self _ _ _)
    · exact ih h

/-- In a typed list of losses, every loss has its input among what is known at the end. -/
lemma LossesTyped.of_mem {infos infos' : NameMap TensorInfo} {losses : List Loss}
    (t : LossesTyped infos losses infos') {loss : Loss} (h : loss ∈ losses) :
    ∃ info, infos'.find? loss.input = some info := by
  induction t with
  | nil infos => cases h
  | cons known fresh others ih =>
    rcases List.mem_cons.1 h with rfl | h
    · exact ⟨_, ((extends_insert fresh).trans others.extends) _ _ known⟩
    · exact ih h

/-- In a typed list of losses, every loss has its value known at the end, as a scalar. -/
lemma LossesTyped.find?_output {infos infos' : NameMap TensorInfo} {losses : List Loss}
    (t : LossesTyped infos losses infos') {loss : Loss} (h : loss ∈ losses) :
    infos'.find? loss.output = some (.float32 []) := by
  induction t with
  | nil infos => cases h
  | cons known fresh others ih =>
    rcases List.mem_cons.1 h with rfl | h
    · exact others.extends _ _ (NameMap.find?_insert_self _ _ _)
    · exact ih h

/-- A typed list of nodes is typed up to each of its nodes. -/
lemma NodesTyped.split {infos infos' : NameMap TensorInfo} {before rest : List Node} {node : Node}
    (t : NodesTyped infos (before ++ node :: rest) infos') : ∃ between,
      NodesTyped infos before between ∧ node.expression.HasInfo between node.info := by
  induction before generalizing infos with
  | nil =>
    cases t with
    | cons described fresh others => exact ⟨infos, .nil infos, described⟩
  | cons first before ih =>
    cases t with
    | cons described fresh others =>
      obtain ⟨between, typed, reads⟩ := ih others
      exact ⟨between, .cons described fresh typed, reads⟩

/-! ### Compilation describes tensors rightly -/

/-- A tensor that a node reads is known. -/
lemma operandInfo_eq_ok {infos : NameMap TensorInfo} {output input : String} {info : TensorInfo}
    (h : operandInfo infos output input = .ok info) : infos.find? input = some info := by
  unfold operandInfo at h
  split at h
  · rename_i found
    rwa [← Except.ok.inj h]
  · cases h

/-- The size of a product is that of its matrices. -/
lemma matmulInfo_eq_ok {a b info : TensorInfo} {size : MatrixSize}
    (h : matmulInfo a b = .ok (size, info)) : a.shape.dims = [size.rows, size.inner] ∧
      b.shape.dims = [size.inner, size.columns] ∧ info = .float32 [size.rows, size.columns] := by
  unfold matmulInfo at h
  split at h
  · rename_i n k k' m left right
    split at h
    · rename_i same
      cases h
      exact ⟨left, by rw [right, same], rfl⟩
    · cases h
  · cases h

/-- A shape is one row of another exactly when it is a vector of the other's columns. -/
lemma Shape.isRowOf_iff {row matrix : Shape} : row.isRowOf matrix = true ↔
    ∃ rows columns, matrix.dims = [rows, columns] ∧ row.dims = [columns] := by
  unfold isRowOf
  split
  · rename_i rows columns columns' matrix_dims row_dims
    rw [decide_eq_true_iff, matrix_dims, row_dims]
    simp
  · rename_i no_row
    simp only [Bool.false_eq_true, false_iff]
    rintro ⟨rows, columns, matrix_dims, row_dims⟩
    exact no_row _ _ _ matrix_dims row_dims

/-- The description of a sum is that of its first summand. -/
lemma addInfo_eq_ok {a b info : TensorInfo} (h : addInfo a b = .ok info) :
    info = a ∧ (a.shape = b.shape ∨ b.shape.isRowOf a.shape = true) := by
  unfold addInfo at h
  split at h
  · rename_i alike
    exact ⟨(Except.ok.inj h).symm, alike⟩
  · cases h

/-- A node with one operand hands its description on. -/
lemma hasInfo_of_unary {infos : NameMap TensorInfo} {m : Exchange.NodeMessage}
    {expression : String → Expression} {node : Node}
    (typed : ∀ operand a, infos.find? operand = some a → (expression operand).HasInfo infos a)
    (h : Node.unary infos m expression = .ok node) : node.expression.HasInfo infos node.info := by
  unfold Node.unary at h
  obtain ⟨x, -, h⟩ := Outcome.bind_eq_ok_iff.1 h
  obtain ⟨output, -, h⟩ := Outcome.bind_eq_ok_iff.1 h
  obtain ⟨info, hi, h⟩ := Outcome.bind_eq_ok_iff.1 h
  cases h
  exact typed x info (operandInfo_eq_ok hi)

/-- **A node is described rightly.** -/
lemma hasInfo_of_ofMessage {infos : NameMap TensorInfo} {m : Exchange.NodeMessage} {node : Node}
    (h : Node.ofMessage infos m = .ok node) : node.expression.HasInfo infos node.info := by
  unfold Node.ofMessage at h
  split at h
  · obtain ⟨⟨left, right⟩, -, h⟩ := Outcome.bind_eq_ok_iff.1 h
    obtain ⟨output, -, h⟩ := Outcome.bind_eq_ok_iff.1 h
    obtain ⟨a, ha, h⟩ := Outcome.bind_eq_ok_iff.1 h
    obtain ⟨b, hb, h⟩ := Outcome.bind_eq_ok_iff.1 h
    obtain ⟨⟨size, info⟩, hs, h⟩ := Outcome.bind_eq_ok_iff.1 h
    cases h
    obtain ⟨left_dims, right_dims, rfl⟩ := matmulInfo_eq_ok (Outcome.mapError_eq_ok_iff.1 hs)
    exact .matmul (operandInfo_eq_ok ha) (operandInfo_eq_ok hb) left_dims right_dims
  · obtain ⟨⟨left, right⟩, -, h⟩ := Outcome.bind_eq_ok_iff.1 h
    obtain ⟨output, -, h⟩ := Outcome.bind_eq_ok_iff.1 h
    obtain ⟨a, ha, h⟩ := Outcome.bind_eq_ok_iff.1 h
    obtain ⟨b, hb, h⟩ := Outcome.bind_eq_ok_iff.1 h
    obtain ⟨info, hs, h⟩ := Outcome.bind_eq_ok_iff.1 h
    cases h
    obtain ⟨rfl, alike⟩ := addInfo_eq_ok (Outcome.mapError_eq_ok_iff.1 hs)
    exact .add (operandInfo_eq_ok ha) (operandInfo_eq_ok hb) alike
  · exact hasInfo_of_unary (fun _ _ known => .relu known) h
  · exact hasInfo_of_unary (fun _ _ known => .identity known) h
  · obtain ⟨factor, -, h⟩ := Outcome.bind_eq_ok_iff.1 h
    exact hasInfo_of_unary (fun _ _ known => .scale known) h
  · cases h

/-- A node that hands the description of its operand on. -/
lemma Node.unary_eq_ok {infos : NameMap TensorInfo} {m : Exchange.NodeMessage}
    {expression : String → Expression} {operand result : String} {info : TensorInfo}
    (reads : m.inputs = [operand]) (makes : m.outputs = [result])
    (known : infos.find? operand = some info) :
    Node.unary infos m expression = .ok ⟨expression operand, result, info⟩ := by
  have one : m.one = .ok operand := by rw [Exchange.NodeMessage.one, reads]
  have out : m.result = .ok result := by rw [Exchange.NodeMessage.result, makes]
  rw [Node.unary, one, Outcome.ok_bind, out, Outcome.ok_bind, operandInfo, known]
  rfl

section Binary

variable {infos : NameMap TensorInfo} {m : Exchange.NodeMessage} {left right result : String}
  {a b : TensorInfo} (reads : m.inputs = [left, right]) (makes : m.outputs = [result])
  (left_known : infos.find? left = some a) (right_known : infos.find? right = some b)
include reads makes left_known right_known

/-- A product of two matrices that fit together is typed. -/
lemma Node.ofMessage_matmul (operation : m.operation = "MatMul") {rows inner columns : Nat}
    (left_dims : a.shape.dims = [rows, inner]) (right_dims : b.shape.dims = [inner, columns]) :
    Node.ofMessage infos m =
      .ok ⟨.matmul ⟨rows, inner, columns⟩ left right, result, .float32 [rows, columns]⟩ := by
  have two : m.two = .ok (left, right) := by rw [Exchange.NodeMessage.two, reads]
  have out : m.result = .ok result := by rw [Exchange.NodeMessage.result, makes]
  have product : matmulInfo a b = .ok (⟨rows, inner, columns⟩, .float32 [rows, columns]) := by
    simp [matmulInfo, left_dims, right_dims]
  simp only [Node.ofMessage, operation, two, out, operandInfo, left_known, right_known, product,
    Outcome.ok_bind]
  rfl

/-- A sum with a tensor of the same shape or with one row is typed. -/
lemma Node.ofMessage_add (operation : m.operation = "Add")
    (alike : a.shape = b.shape ∨ b.shape.isRowOf a.shape = true) :
    Node.ofMessage infos m = .ok ⟨.add left right, result, a⟩ := by
  have two : m.two = .ok (left, right) := by rw [Exchange.NodeMessage.two, reads]
  have out : m.result = .ok result := by rw [Exchange.NodeMessage.result, makes]
  have sum : addInfo a b = .ok a := by rw [addInfo, if_pos alike]
  simp only [Node.ofMessage, operation, two, out, operandInfo, left_known, right_known, sum,
    Outcome.ok_bind]
  rfl

end Binary

/-- A name that is not contained has no value. -/
lemma find?_of_not_contains {α : Type} {m : NameMap α} {name : String}
    (h : ¬ m.contains name = true) : m.find? name = none := by
  simpa [NameMap.contains] using h

/-- **Nodes are described rightly.** -/
lemma nodesTyped_of_typeNodes {infos infos' : NameMap TensorInfo}
    {messages : List Exchange.NodeMessage} {nodes : List Node}
    (h : Program.typeNodes infos messages = .ok (nodes, infos')) :
    NodesTyped infos nodes infos' := by
  induction messages generalizing infos nodes with
  | nil =>
    cases h
    exact .nil _
  | cons m rest ih =>
    unfold Program.typeNodes at h
    obtain ⟨node, hn, h⟩ := Outcome.bind_eq_ok_iff.1 h
    split at h
    · cases h
    rename_i fresh
    obtain ⟨⟨others, last⟩, ho, h⟩ := Outcome.bind_eq_ok_iff.1 h
    cases h
    exact .cons (hasInfo_of_ofMessage hn) (find?_of_not_contains fresh) (ih ho)

/-- **Losses are described rightly.** -/
lemma lossesTyped_of_typeLosses {infos infos' : NameMap TensorInfo} {losses : List Loss}
    (h : Program.typeLosses infos losses = .ok infos') : LossesTyped infos losses infos' := by
  induction losses generalizing infos with
  | nil =>
    cases h
    exact .nil _
  | cons loss rest ih =>
    unfold Program.typeLosses at h
    split at h
    · cases h
    rename_i known
    split at h
    · cases h
    rename_i fresh
    obtain ⟨info, hi⟩ : ∃ info, infos.find? loss.input = some info :=
      Option.ne_none_iff_exists'.1 (by simpa [NameMap.contains] using known)
    exact .cons hi (find?_of_not_contains fresh) (ih h)

/-- **All tensors hold single-precision numbers.** -/
def AllFloat (infos : NameMap TensorInfo) : Prop :=
  ∀ name info, infos.find? name = some info → info.elementType = .float32

lemma AllFloat.insert {infos : NameMap TensorInfo} (h : AllFloat infos) {name : String}
    {info : TensorInfo} (float : info.elementType = .float32) :
    AllFloat (infos.insert name info) := by
  intro other known found
  rw [NameMap.find?_insert] at found
  split at found
  · cases found
    exact float
  · exact h other known found

/-- The result of an expression on numbers holds numbers. -/
lemma AllFloat.hasInfo {infos : NameMap TensorInfo} (h : AllFloat infos) {e : Expression}
    {info : TensorInfo} (t : e.HasInfo infos info) : info.elementType = .float32 := by
  cases t with
  | matmul left_known right_known left_dims right_dims => rfl
  | add left_known right_known alike => exact h _ _ left_known
  | relu known => exact h _ _ known
  | identity known => exact h _ _ known
  | scale known => exact h _ _ known

lemma NodesTyped.allFloat {infos infos' : NameMap TensorInfo} {nodes : List Node}
    (t : NodesTyped infos nodes infos') (h : AllFloat infos) : AllFloat infos' := by
  induction t with
  | nil infos => exact h
  | cons described _ _ ih => exact ih (h.insert (h.hasInfo described))

lemma LossesTyped.allFloat {infos infos' : NameMap TensorInfo} {losses : List Loss}
    (t : LossesTyped infos losses infos') (h : AllFloat infos) : AllFloat infos' := by
  induction t with
  | nil infos => exact h
  | cons _ _ _ ih => exact ih (h.insert rfl)

/-- Inputs and weights hold numbers. -/
lemma allFloat_of_checkSources {infos : NameMap TensorInfo}
    (h : Program.checkSources infos = .ok ()) : AllFloat infos := by
  unfold Program.checkSources at h
  split at h
  · rename_i none_other
    intro name info found
    have checked := List.find?_eq_none.1 none_other _ (NameMap.find?_eq_some_iff.1 found)
    simpa using checked
  · cases h

/-- Sources that all hold numbers are accepted. -/
lemma checkSources_of_allFloat {infos : NameMap TensorInfo} (h : AllFloat infos) :
    Program.checkSources infos = .ok () := by
  have none_other : (infos.entries.find? fun e => e.2.elementType != .float32) = none := by
    rw [List.find?_eq_none]
    intro e member
    simp [h e.1 e.2 (NameMap.find?_of_mem_entries member)]
  rw [Program.checkSources, none_other]

/-! ### Values of the described sizes -/

section Values

variable {F : Type}

/-- **Values of the described sizes**: exactly the described tensors have values, and each has
as many elements as its shape. -/
def Values.Typed (infos : NameMap TensorInfo) (values : Values F) : Prop :=
  (values.mapValues fun _ xs => xs.length) = infos.mapValues fun _ info => info.shape.dims.prod

instance {infos : NameMap TensorInfo} {values : Values F} : Decidable (values.Typed infos) :=
  inferInstanceAs (Decidable (_ = _))

/-- A described tensor has a value. -/
lemma Values.Typed.find? {infos : NameMap TensorInfo} {values : Values F} (h : values.Typed infos)
    {name : String} {info : TensorInfo} (known : infos.find? name = some info) :
    ∃ xs, values.find? name = some xs ∧ xs.length = info.shape.dims.prod :=
  NameMap.exists_find?_of_mapValues (Eq.symm h) known

/-- A described tensor can be read. -/
lemma Values.Typed.read {infos : NameMap TensorInfo} {values : Values F} (h : values.Typed infos)
    {name : String} {info : TensorInfo} (known : infos.find? name = some info) :
    ∃ xs, values.read name = .ok xs ∧ values.find? name = some xs ∧
      xs.length = info.shape.dims.prod := by
  obtain ⟨xs, found, length⟩ := h.find? known
  exact ⟨xs, by rw [Values.read, found], found, length⟩

/-- A result of the described size makes its tensor known. -/
lemma Values.Typed.insert {infos : NameMap TensorInfo} {values : Values F} (h : values.Typed infos)
    {name : String} {xs : List F} {info : TensorInfo} (length : xs.length = info.shape.dims.prod) :
    Values.Typed (infos.insert name info) (values.insert name xs) := by
  rw [Values.Typed, NameMap.mapValues_insert, NameMap.mapValues_insert, h, length]

/-- **Gradients of the described sizes.** -/
def Gradients.Typed (infos : NameMap TensorInfo) (gradients : Gradients F) : Prop :=
  ∀ name xs, gradients.find? name = some xs → ∃ info, infos.find? name = some info ∧
    xs.length = info.shape.dims.prod

/-- **An expression finds what it reads**: the operands are there, and every place that the
kernel goes through is a place of its operand. -/
def Expression.ReadsInRange (values : Values F) : Expression → Prop
  | matmul size left right => ∃ a b, values.find? left = some a ∧ values.find? right = some b ∧
      Kernel.Covers size.rows size.inner a ∧ Kernel.Covers size.inner size.columns b
  | add left right => ∃ a b, values.find? left = some a ∧ values.find? right = some b ∧
      Kernel.Cycles a.length b.length
  | relu operand => ∃ x, values.find? operand = some x
  | identity operand => ∃ x, values.find? operand = some x
  | scale _ operand => ∃ x, values.find? operand = some x

/-- **An expression finds what it needs to hand a gradient back**: the operands that the
gradient depends on are there, and every place that the kernels go through is a place of its
list. -/
def Expression.HandsBackInRange (values : Values F) (gradient : List F) : Expression → Prop
  | matmul size left right => ∃ a b, values.find? left = some a ∧ values.find? right = some b ∧
      Kernel.Covers size.rows size.inner a ∧ Kernel.Covers size.inner size.columns b ∧
      Kernel.Covers size.rows size.columns gradient
  | add _ right => ∃ b, values.find? right = some b ∧ Kernel.Cycles gradient.length b.length
  | relu operand => ∃ x, values.find? operand = some x
  | identity _ => True
  | scale _ _ => True

/-- A row of a matrix is not empty if the matrix is not. -/
lemma pos_of_alike {a b : TensorInfo} (h : a.shape = b.shape ∨ b.shape.isRowOf a.shape = true)
    (pos : 0 < a.shape.dims.prod) : 0 < b.shape.dims.prod := by
  rcases h with same | row
  · rwa [← same]
  · unfold Shape.isRowOf at row
    split at row
    · rename_i n m m' matrix vector
      have same : m = m' := by simpa using row
      rw [matrix, List.prod_cons, List.prod_singleton] at pos
      rw [vector, List.prod_singleton, ← same]
      exact Nat.pos_of_mul_pos_left pos
    · cases row

variable {infos : NameMap TensorInfo} {values : Values F}

/-- **A rightly described expression finds what it reads.** -/
lemma Expression.HasInfo.readsInRange {e : Expression} {info : TensorInfo}
    (t : e.HasInfo infos info) (typed : values.Typed infos) : e.ReadsInRange values := by
  cases t with
  | matmul left_known right_known left_dims right_dims =>
    obtain ⟨a, found_a, la⟩ := typed.find? left_known
    obtain ⟨b, found_b, lb⟩ := typed.find? right_known
    rw [left_dims, List.prod_cons, List.prod_singleton] at la
    rw [right_dims, List.prod_cons, List.prod_singleton] at lb
    exact ⟨a, b, found_a, found_b, Kernel.covers_of_length la, Kernel.covers_of_length lb⟩
  | add left_known right_known alike =>
    obtain ⟨a, found_a, la⟩ := typed.find? left_known
    obtain ⟨b, found_b, lb⟩ := typed.find? right_known
    refine ⟨a, b, found_a, found_b, Kernel.cycles_of_pos fun pos => ?_⟩
    rw [lb]
    exact pos_of_alike alike (la ▸ pos)
  | relu known =>
    obtain ⟨x, found, -⟩ := typed.find? known
    exact ⟨x, found⟩
  | identity known =>
    obtain ⟨x, found, -⟩ := typed.find? known
    exact ⟨x, found⟩
  | scale known =>
    obtain ⟨x, found, -⟩ := typed.find? known
    exact ⟨x, found⟩

/-- **A rightly described expression finds what it needs to hand a gradient back.** -/
lemma Expression.HasInfo.handsBackInRange {e : Expression} {info : TensorInfo}
    (t : e.HasInfo infos info) (typed : values.Typed infos) {gradient : List F}
    (length : gradient.length = info.shape.dims.prod) : e.HandsBackInRange values gradient := by
  cases t with
  | matmul left_known right_known left_dims right_dims =>
    obtain ⟨a, found_a, la⟩ := typed.find? left_known
    obtain ⟨b, found_b, lb⟩ := typed.find? right_known
    rw [left_dims, List.prod_cons, List.prod_singleton] at la
    rw [right_dims, List.prod_cons, List.prod_singleton] at lb
    simp only [TensorInfo.float32, List.prod_cons, List.prod_nil, Nat.mul_one] at length
    exact ⟨a, b, found_a, found_b, Kernel.covers_of_length la, Kernel.covers_of_length lb,
      Kernel.covers_of_length length⟩
  | add left_known right_known alike =>
    obtain ⟨b, found_b, lb⟩ := typed.find? right_known
    refine ⟨b, found_b, Kernel.cycles_of_pos fun pos => ?_⟩
    rw [lb]
    exact pos_of_alike alike (length ▸ pos)
  | relu known =>
    obtain ⟨x, found, -⟩ := typed.find? known
    exact ⟨x, found⟩
  | identity known => trivial
  | scale known => trivial

/-! ### On the way forward -/

variable [Scalar F]

/-- **A rightly described expression has a value of the described size.** -/
lemma Expression.HasInfo.evaluate {e : Expression} {info : TensorInfo} (t : e.HasInfo infos info)
    (typed : values.Typed infos) :
    ∃ xs, e.evaluate values = .ok xs ∧ xs.length = info.shape.dims.prod := by
  cases t with
  | @matmul size left right a b left_known right_known left_dims right_dims =>
    obtain ⟨xs, read_left, -, -⟩ := typed.read left_known
    obtain ⟨ys, read_right, -, -⟩ := typed.read right_known
    refine ⟨Kernel.matmul size xs ys, ?_, ?_⟩
    · rw [Expression.evaluate, read_left, Outcome.ok_bind, read_right]
      rfl
    · simp [TensorInfo.float32]
  | add left_known right_known alike =>
    obtain ⟨xs, read_left, -, length⟩ := typed.read left_known
    obtain ⟨ys, read_right, -, -⟩ := typed.read right_known
    refine ⟨Kernel.add xs ys, ?_, (Kernel.length_add xs ys).trans length⟩
    rw [Expression.evaluate, read_left, Outcome.ok_bind, read_right]
    rfl
  | relu known =>
    obtain ⟨xs, read, -, length⟩ := typed.read known
    refine ⟨Kernel.relu xs, ?_, (Kernel.length_relu xs).trans length⟩
    rw [Expression.evaluate, read]
    rfl
  | identity known =>
    obtain ⟨xs, read, -, length⟩ := typed.read known
    exact ⟨xs, read, length⟩
  | @scale factor operand a known =>
    obtain ⟨xs, read, -, length⟩ := typed.read known
    refine ⟨Kernel.scale (Scalar.ofSingle factor) xs, ?_, (Kernel.length_scale _ xs).trans length⟩
    rw [Expression.evaluate, read]
    rfl

/-- **Typed nodes run** from values of the described sizes to such values.

**Proof sketch.** Induction on the typing. A node's expression has a value of the described
size, so that the values behind it are again as described. -/
lemma NodesTyped.run {infos infos' : NameMap TensorInfo} {nodes : List Node}
    (t : NodesTyped infos nodes infos') {values : Values F} (typed : values.Typed infos) :
    ∃ values', nodes.foldlM Program.runNode values = .ok values' ∧ values'.Typed infos' := by
  induction t generalizing values with
  | nil infos => exact ⟨values, rfl, typed⟩
  | @cons infos infos' node rest described fresh others ih =>
    obtain ⟨xs, computed, length⟩ := described.evaluate typed
    obtain ⟨values', ran, typed'⟩ := ih (typed.insert length)
    refine ⟨values', ?_, typed'⟩
    rw [List.foldlM_cons, Program.runNode, computed]
    exact ran

/-- **Typed losses run** from values of the described sizes to such values. -/
lemma LossesTyped.run {infos infos' : NameMap TensorInfo} {losses : List Loss}
    (t : LossesTyped infos losses infos') {values : Values F} (typed : values.Typed infos) :
    ∃ values', losses.foldlM Program.runLoss values = .ok values' ∧ values'.Typed infos' := by
  induction t generalizing values with
  | nil infos => exact ⟨values, rfl, typed⟩
  | @cons infos infos' loss rest info known fresh others ih =>
    obtain ⟨xs, read, -, -⟩ := typed.read known
    have inserted : Values.Typed (infos.insert loss.output (.float32 []))
        (values.insert loss.output [loss.value xs]) := typed.insert rfl
    obtain ⟨values', ran, typed'⟩ := ih inserted
    refine ⟨values', ?_, typed'⟩
    rw [List.foldlM_cons, Program.runLoss, read]
    exact ran

/-! ### On the way back -/

/-- A gradient of the described size is added to those of its tensor. -/
lemma Gradients.Typed.push {gradients : Gradients F} (typed : gradients.Typed infos) {name : String}
    {info : TensorInfo} (known : infos.find? name = some info) {gradient : List F}
    (length : gradient.length = info.shape.dims.prod) :
    (gradients.push name gradient).Typed infos := by
  have sofar : (gradients.find? name).getD [] = [] ∨
      ((gradients.find? name).getD []).length = info.shape.dims.prod := by
    cases found : gradients.find? name with
    | none => exact .inl rfl
    | some xs =>
      obtain ⟨info', known', length'⟩ := typed name xs found
      obtain rfl : info' = info := Option.some.inj (known'.symm.trans known)
      exact .inr length'
  intro other xs found
  unfold Gradients.push at found
  rw [NameMap.find?_insert] at found
  split at found
  · rename_i same
    cases found
    exact ⟨info, same ▸ known, Kernel.length_accumulate sofar length⟩
  · exact typed other xs found

/-- **A rightly described expression hands back gradients of the described sizes.** -/
lemma Expression.HasInfo.handBack {e : Expression} {info : TensorInfo} (t : e.HasInfo infos info)
    (typed : values.Typed infos) {gradient : List F}
    (length : gradient.length = info.shape.dims.prod) {gradients : Gradients F}
    (known : gradients.Typed infos) : ∃ gradients',
      e.handBack values gradient gradients = .ok gradients' ∧ gradients'.Typed infos := by
  cases t with
  | @matmul size left right a b left_known right_known left_dims right_dims =>
    obtain ⟨xs, read_left, -, -⟩ := typed.read left_known
    obtain ⟨ys, read_right, -, -⟩ := typed.read right_known
    have to_left : (Kernel.matmulLeft size ys gradient).length = a.shape.dims.prod := by
      rw [Kernel.length_matmulLeft, left_dims, List.prod_cons, List.prod_singleton]
    have to_right : (Kernel.matmulRight size xs gradient).length = b.shape.dims.prod := by
      rw [Kernel.length_matmulRight, right_dims, List.prod_cons, List.prod_singleton]
    refine ⟨_, ?_, (known.push left_known to_left).push right_known to_right⟩
    rw [Expression.handBack, read_left, Outcome.ok_bind, read_right]
    rfl
  | @add left right a b left_known right_known alike =>
    obtain ⟨ys, read_right, -, length_right⟩ := typed.read right_known
    have to_right : (Kernel.unbroadcast gradient ys.length).length = b.shape.dims.prod := by
      rw [Kernel.length_unbroadcast, length_right]
    refine ⟨_, ?_, (known.push left_known length).push right_known to_right⟩
    rw [Expression.handBack, read_right]
    rfl
  | relu known_operand =>
    obtain ⟨xs, read, -, length_operand⟩ := typed.read known_operand
    have to_operand : (Kernel.reluGradient xs gradient).length = info.shape.dims.prod := by
      rw [Kernel.length_reluGradient, length_operand, length, Nat.min_self]
    refine ⟨_, ?_, known.push known_operand to_operand⟩
    rw [Expression.handBack, read]
    rfl
  | identity known_operand => exact ⟨_, rfl, known.push known_operand length⟩
  | scale known_operand =>
    exact ⟨_, rfl, known.push known_operand ((Kernel.length_scale _ gradient).trans length)⟩

/-- The seeds of losses have the described sizes. -/
lemma seeds_typed {losses : List Loss}
    (known : ∀ loss ∈ losses, ∃ info, infos.find? loss.input = some info)
    (typed : values.Typed infos) {gradients : Gradients F} (sofar : gradients.Typed infos) :
    ∃ seeds, losses.foldlM (fun g loss => loss.seed values g) gradients = .ok seeds ∧
      seeds.Typed infos := by
  induction losses generalizing gradients with
  | nil => exact ⟨gradients, rfl, sofar⟩
  | cons loss rest ih =>
    obtain ⟨⟨info, hi⟩, others⟩ := List.forall_mem_cons.1 known
    obtain ⟨xs, read, -, length⟩ := typed.read hi
    have to_input : (loss.gradient xs).length = info.shape.dims.prod := by
      simp [Loss.gradient, length]
    have pushed := sofar.push hi to_input
    obtain ⟨seeds, ran, typed'⟩ := ih others pushed
    refine ⟨seeds, ?_, typed'⟩
    rw [List.foldlM_cons, Loss.seed, read]
    exact ran

/-- **Typed nodes hand back** gradients of the described sizes. -/
lemma handBack_typed {nodes : List Node}
    (described : ∀ node ∈ nodes, node.expression.HasInfo infos node.info ∧
      infos.find? node.output = some node.info)
    (typed : values.Typed infos) {seeds : Gradients F} (sofar : seeds.Typed infos) :
    ∃ gradients, nodes.foldrM (fun node g => node.handBack values g) seeds = .ok gradients ∧
      gradients.Typed infos := by
  induction nodes with
  | nil => exact ⟨seeds, rfl, sofar⟩
  | cons node rest ih =>
    obtain ⟨⟨expression, output⟩, others⟩ := List.forall_mem_cons.1 described
    obtain ⟨between, ran, typed_between⟩ := ih others
    rw [List.foldrM_cons, ran, Outcome.ok_bind, Node.handBack]
    cases found : between.find? node.output with
    | none => exact ⟨between, rfl, typed_between⟩
    | some gradient =>
      obtain ⟨info, known, length⟩ := typed_between node.output gradient found
      obtain rfl : info = node.info := Option.some.inj (known.symm.trans output)
      exact expression.handBack typed length typed_between

end Values

end Microbatch
