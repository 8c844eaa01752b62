import Microbatch.Proofs.NodeOrder

set_option relaxedAutoImplicit false
set_option autoImplicit false

/-!
# Which tensors of a program are too large

Payload sizes are checked where data comes in, and a program is compiled without looking at them.
Sums, cut-offs, copies and multiples have the shape of an operand, and losses have one element; only
a product can be larger than what it is made of. So when the inputs and the weights of a graph have
payload sizes, every tensor has one except for products with too many elements. There are such
products, of small and even of empty matrices.

## Main definitions

* `Microbatch.IsOversized` — the description of a product with too many elements.
* `Microbatch.TensorInfo.SizedUnless` — what every description of a program satisfies.

## Main results

* `Microbatch.Expression.HasInfo.sizedUnless`, `Microbatch.NodesTyped.sizedUnless` — one operation,
  and all nodes.
* `Microbatch.Program.sized_or_oversized` — which tensors of a program have payload sizes.
* `Microbatch.Program.exists_unsized_product` — a product of empty matrices that has none.
-/

namespace Microbatch

/-! ### Payload sizes of matrices -/

namespace TensorInfo

/-- The leading dimension is a size if there is a payload size. -/
lemma leading_lt_of_byteCount? {info : TensorInfo} (sized : info.byteCount?.isSome) :
    ∀ leading ∈ info.shape.dims.head?, leading < Size.limit := by
  obtain ⟨elementType, ⟨dims⟩⟩ := info
  obtain ⟨n, hn⟩ := Option.isSome_iff_exists.1 sized
  obtain ⟨count, counted, -⟩ := Option.bind_eq_some_iff.1 hn
  cases dims with
  | nil => simp
  | cons leading rest =>
    simpa using Shape.leading_lt_of_count? (Option.isSome_of_eq_some counted)

/-- **A matrix has a payload size** exactly if its rows and its bytes can be counted. -/
lemma isSome_byteCount?_matrix {rows columns : Nat} :
    (float32 [rows, columns]).byteCount?.isSome ↔
      rows < Size.limit ∧ rows * columns * 4 < Size.limit := by
  constructor
  · intro sized
    refine ⟨leading_lt_of_byteCount? sized rows rfl, ?_⟩
    obtain ⟨n, hn⟩ := Option.isSome_iff_exists.1 sized
    obtain ⟨count, counted, bytes⟩ := Option.bind_eq_some_iff.1 hn
    obtain ⟨rfl, fits⟩ := Size.mul?_eq_some_iff.1 bytes
    rw [Shape.count?_eq_some counted] at fits
    simpa [float32, ElementType.byteSize] using fits
  · rintro ⟨rows_fit, fits⟩
    have elements : rows * columns < Size.limit := by omega
    have counted : (⟨[rows, columns]⟩ : Shape).count? = some (rows * columns) := by
      rw [Shape.count?_cons rows_fit, List.foldlM_cons, Size.mul?_of_lt elements]
      rfl
    rw [byteCount?, float32, counted, Option.bind_some, ElementType.byteSize,
      Size.mul?_of_lt fits]
    rfl

/-- **A description with a payload size**, or one of some exceptions. Its leading dimension is a
size in any case. -/
structure SizedUnless (exempt : TensorInfo → Prop) (info : TensorInfo) : Prop where
  /-- The leading dimension is a size. -/
  leading : ∀ leading ∈ info.shape.dims.head?, leading < Size.limit
  /-- There is a payload size, or the description is an exception. -/
  sized : info.byteCount?.isSome ∨ exempt info

/-- A description with a payload size. -/
lemma sizedUnless_of_isSome {exempt : TensorInfo → Prop} {info : TensorInfo}
    (sized : info.byteCount?.isSome) : info.SizedUnless exempt :=
  ⟨leading_lt_of_byteCount? sized, .inl sized⟩

end TensorInfo

/-! ### All tensors of a program -/

/-- **The description of a product with too many elements**, of one of some nodes. -/
def IsOversized (nodes : List Node) (info : TensorInfo) : Prop :=
  ∃ node ∈ nodes, ∃ size left right, node.expression = .matmul size left right ∧
    info = .float32 [size.rows, size.columns] ∧ Size.limit ≤ size.rows * size.columns * 4

section Typed

variable {exempt : TensorInfo → Prop} {infos infos' : NameMap TensorInfo}

/-- **One operation.** Only a product can have a result without a payload size if its operands have
one.

**Proof sketch.** The result of a product has the rows of the left matrix, so that these can be
counted; its bytes can be counted, or it is too large. All other results are described like an
operand. -/
lemma Expression.HasInfo.sizedUnless {e : Expression} {info : TensorInfo} (t : e.HasInfo infos info)
    (sofar : ∀ name info, infos.find? name = some info → info.SizedUnless exempt)
    (products : ∀ size left right, e = .matmul size left right →
      Size.limit ≤ size.rows * size.columns * 4 → exempt (.float32 [size.rows, size.columns])) :
    info.SizedUnless exempt := by
  cases t with
  | @matmul size left right a b left_known right_known left_dims right_dims =>
    have rows_fit : size.rows < Size.limit :=
      (sofar left a left_known).leading size.rows (by rw [left_dims]; rfl)
    rcases Nat.lt_or_ge (size.rows * size.columns * 4) Size.limit with fits | large
    · exact TensorInfo.sizedUnless_of_isSome
        (TensorInfo.isSome_byteCount?_matrix.2 ⟨rows_fit, fits⟩)
    · refine ⟨?_, .inr (products size left right rfl large)⟩
      simpa [TensorInfo.float32] using rows_fit
  | add left_known _ _ => exact sofar _ _ left_known
  | relu known => exact sofar _ _ known
  | identity known => exact sofar _ _ known
  | scale known => exact sofar _ _ known

/-- What holds of all descriptions holds of them with one more. -/
lemma forall_find?_insert {P : TensorInfo → Prop} {name : String} {info : TensorInfo}
    (sofar : ∀ name info, infos.find? name = some info → P info) (here : P info) :
    ∀ other info', (infos.insert name info).find? other = some info' → P info' := by
  intro other info' found
  rw [NameMap.find?_insert] at found
  split at found
  · cases found
    exact here
  · exact sofar other info' found

/-- **All nodes**: what is described behind them has a payload size or is too large a product. -/
lemma NodesTyped.sizedUnless {nodes : List Node} (t : NodesTyped infos nodes infos')
    (products : ∀ node ∈ nodes, ∀ size left right, node.expression = .matmul size left right →
      Size.limit ≤ size.rows * size.columns * 4 → exempt (.float32 [size.rows, size.columns]))
    (sofar : ∀ name info, infos.find? name = some info → info.SizedUnless exempt) :
    ∀ name info, infos'.find? name = some info → info.SizedUnless exempt := by
  induction t with
  | nil infos => exact sofar
  | cons described _ _ ih =>
    obtain ⟨first, others⟩ := List.forall_mem_cons.1 products
    exact ih others (forall_find?_insert sofar (described.sizedUnless sofar first))

/-- The values of losses have a payload size. -/
lemma LossesTyped.sizedUnless {losses : List Loss} (t : LossesTyped infos losses infos')
    (sofar : ∀ name info, infos.find? name = some info → info.SizedUnless exempt) :
    ∀ name info, infos'.find? name = some info → info.SizedUnless exempt := by
  induction t with
  | nil infos => exact sofar
  | cons _ _ _ ih =>
    exact ih (forall_find?_insert sofar (TensorInfo.sizedUnless_of_isSome (by decide)))

end Typed

namespace Program

variable {graph : Graph} {kind : Kind} {program : Program}

/-- The operands and the result of a product node are described as the matrices that it is about. -/
lemma described_of_product (compiled : compile graph kind = .ok program) {node : Node}
    (member : node ∈ program.nodes) {size : MatrixSize} {left right : String}
    (product : node.expression = .matmul size left right) :
    program.infos.find? left = some (.float32 [size.rows, size.inner]) ∧
      program.infos.find? right = some (.float32 [size.inner, size.columns]) ∧
      node.info = .float32 [size.rows, size.columns] ∧
      program.infos.find? node.output = some node.info := by
  obtain ⟨infos, nodes, losses⟩ := typed_of_compile compiled
  obtain ⟨described, output⟩ := nodes.of_mem member
  have float := allFloat_of_compile compiled
  have matrix : ∀ {name : String} {info : TensorInfo} {dims : List Nat},
      infos.find? name = some info → info.shape.dims = dims →
        program.infos.find? name = some (.float32 dims) := by
    rintro name ⟨elementType, ⟨dims⟩⟩ _ known rfl
    have known := losses.extends _ _ known
    obtain rfl : elementType = .float32 := float _ _ known
    exact known
  rw [product] at described
  generalize node.info = info at described output
  cases described with
  | matmul left_known right_known left_dims right_dims =>
    exact ⟨matrix left_known left_dims, matrix right_known right_dims, rfl,
      losses.extends _ _ output⟩

/-- **Which tensors have payload sizes.** Take any graph that compiles and all inputs and weights of
which have a payload size. A tensor of the program has none exactly if it is described as the
product of some node with too many elements. So all tensors have one exactly if the bytes of every
product can be counted.

Where both operands of a product have a payload size, the bytes of both gradients that it hands back
can be counted; and those of the product itself exactly if its result has a payload size.

**Proof sketch.** One operation keeps to the rule if its operands do, since the result of every
other operation is described like an operand; then induction on the nodes. -/
theorem sized_or_oversized (compiled : compile graph kind = .ok program)
    (sized_inputs : ∀ name info, graph.inputs.find? name = some info → info.byteCount?.isSome)
    (sized_weights : ∀ name t, graph.weights.find? name = some t → t.info.byteCount?.isSome) :
    (∀ name info, program.infos.find? name = some info →
      (info.byteCount? = none ↔ IsOversized program.nodes info)) ∧
    ((∀ name info, program.infos.find? name = some info → info.byteCount?.isSome) ↔
      ∀ node ∈ program.nodes, ∀ size left right, node.expression = .matmul size left right →
        size.rows * size.columns * 4 < Size.limit) ∧
    ∀ node ∈ program.nodes, ∀ size left right, node.expression = .matmul size left right →
      (∀ name ∈ [left, right], ∀ info, program.infos.find? name = some info →
        info.byteCount?.isSome) →
      ∀ a b gradient : List Single,
        (Kernel.matmulLeft size b gradient).length * 4 < Size.limit ∧
        (Kernel.matmulRight size a gradient).length * 4 < Size.limit ∧
        ((Kernel.matmul size a b).length * 4 < Size.limit ↔ node.info.byteCount?.isSome) := by
  obtain ⟨infos, nodes, losses⟩ := typed_of_compile compiled
  have begun : ∀ name info, (sources graph).find? name = some info →
      info.SizedUnless (IsOversized program.nodes) := by
    intro name info known
    apply TensorInfo.sizedUnless_of_isSome
    rw [find?_sources, Option.or_eq_some_iff, Option.map_eq_some_iff] at known
    obtain ⟨t, declared, rfl⟩ | ⟨-, declared⟩ := known
    · exact sized_weights name t declared
    · exact sized_inputs name info declared
  have all : ∀ name info, program.infos.find? name = some info →
      info.SizedUnless (IsOversized program.nodes) :=
    losses.sizedUnless (nodes.sizedUnless (fun node member size left right product large =>
      ⟨node, member, size, left, right, product, rfl, large⟩) begun)
  have unsized : ∀ {info}, IsOversized program.nodes info → ¬ info.byteCount?.isSome := by
    rintro _ ⟨node, -, size, left, right, -, rfl, large⟩ sized
    exact absurd (TensorInfo.isSome_byteCount?_matrix.1 sized).2 (by omega)
  refine ⟨fun name info known => ?_, ⟨fun sized node member size left right product => ?_,
    fun products name info known => ?_⟩, fun node member size left right product operands => ?_⟩
  · rw [← Option.not_isSome_iff_eq_none]
    exact ⟨(all name info known).sized.resolve_left, unsized⟩
  · obtain ⟨-, -, made, output⟩ := described_of_product compiled member product
    exact (TensorInfo.isSome_byteCount?_matrix.1 (made ▸ sized _ _ output)).2
  · refine (all name info known).sized.resolve_right ?_
    rintro ⟨node, member, size, left, right, product, -, large⟩
    exact absurd (products node member size left right product) (by omega)
  · obtain ⟨left_known, right_known, made, -⟩ := described_of_product compiled member product
    have left_sized := TensorInfo.isSome_byteCount?_matrix.1 (operands left (by simp) _ left_known)
    have right_sized :=
      TensorInfo.isSome_byteCount?_matrix.1 (operands right (by simp) _ right_known)
    intro a b gradient
    rw [Kernel.length_matmulLeft, Kernel.length_matmulRight, Kernel.length_matmul, made,
      TensorInfo.isSome_byteCount?_matrix]
    exact ⟨left_sized.2, right_sized.2, fun fits => ⟨left_sized.1, fits⟩, fun sized => sized.2⟩

/-! ### A product of empty matrices -/

/-- A product of two matrices without elements, of many rows and of many columns. -/
def wideGraph (rows columns : Nat) : Graph where
  model := Exchange.ModelMessage.encode { graph := some { nodes :=
    [{ inputs := ["x", "w"], outputs := ["product"], operation := "MatMul" }] } }
  inputs := .ofList [("x", .float32 [rows, 0])]
  weights := .ofList [("w", .ofSingles ⟨[0, columns]⟩ [])]

/-- Both matrices have a payload size, however many rows and columns there are. -/
lemma sized_wideGraph {rows : Nat} (fits : rows < Size.limit) (columns : Nat) :
    (∀ name info, (wideGraph rows columns).inputs.find? name = some info →
      info.byteCount?.isSome) ∧
    ∀ name t, (wideGraph rows columns).weights.find? name = some t → t.info.byteCount?.isSome := by
  constructor
  · intro name info declared
    rw [(NameMap.eq_of_find?_single declared).2]
    exact TensorInfo.isSome_byteCount?_matrix.2 ⟨fits, by simp [Size.limit]⟩
  · intro name t declared
    rw [(NameMap.eq_of_find?_single declared).2]
    exact TensorInfo.isSome_byteCount?_matrix.2 (by simp [Size.limit])

/-- **With few rows and columns** every tensor has a payload size. -/
theorem sized_or_oversized_sample : ∃ program, compile (wideGraph 2 3) .inference = .ok program ∧
    (∀ name info, (wideGraph 2 3).inputs.find? name = some info → info.byteCount?.isSome) ∧
    (∀ name t, (wideGraph 2 3).weights.find? name = some t → t.info.byteCount?.isSome) ∧
    ∀ name info, program.infos.find? name = some info → info.byteCount?.isSome := by
  obtain ⟨program, compiled, tested⟩ := Outcome.exists_of_any_toOption
    (show (compile (wideGraph 2 3) .inference).toOption.any (fun program : Program =>
      program.nodes.map (·.expression) = [.matmul ⟨2, 0, 3⟩ "x" "w"]) = true by decide +kernel)
  obtain ⟨sized_inputs, sized_weights⟩ := sized_wideGraph (show 2 < Size.limit by decide) 3
  refine ⟨program, compiled, sized_inputs, sized_weights,
    (sized_or_oversized compiled sized_inputs sized_weights).2.1.2 ?_⟩
  intro node member size left right product
  have listed := List.mem_map_of_mem (f := (·.expression)) member
  rw [of_decide_eq_true tested, product, List.mem_singleton] at listed
  cases listed
  decide

/-- **A product of empty matrices that is too large.** Neither matrix has an element, so that both
can be given; the graph compiles, and the product has as many elements as no payload can have. -/
theorem exists_unsized_product : ∃ program info,
    compile (wideGraph (2 ^ 33) (2 ^ 33)) .inference = .ok program ∧
    (∀ name info, (wideGraph (2 ^ 33) (2 ^ 33)).inputs.find? name = some info →
      info.byteCount?.isSome) ∧
    (∀ name t, (wideGraph (2 ^ 33) (2 ^ 33)).weights.find? name = some t →
      t.info.byteCount?.isSome) ∧
    program.infos.find? "product" = some info ∧ info.byteCount? = none := by
  obtain ⟨program, compiled, tested⟩ := Outcome.exists_of_any_toOption
    (show (compile (wideGraph (2 ^ 33) (2 ^ 33)) .inference).toOption.any (fun program : Program =>
      (program.infos.find? "product").any fun info => info.byteCount?.isNone) = true by
      decide +kernel)
  obtain ⟨info, described, unsized⟩ := (Option.any_eq_true _ _).1 tested
  obtain ⟨sized_inputs, sized_weights⟩ :=
    sized_wideGraph (show 2 ^ 33 < Size.limit by decide) (2 ^ 33)
  exact ⟨program, info, compiled, sized_inputs, sized_weights, described,
    Option.isNone_iff_eq_none.1 unsized⟩

end Program

end Microbatch
