import Microbatch.Proofs.BuilderCalls
import Microbatch.Proofs.Merging

set_option relaxedAutoImplicit false
set_option autoImplicit false

/-!
# Models that are built

A model is built by calls, is written, is loaded with descriptions for its open inputs, and is
compiled. The parts agree: what the calls declare is what is loaded, and what they compute is what
is compiled.

A weight is written twice, as an initializer and as an input, and loading takes it out of the inputs
again. Dimensions go through signed 64-bit numbers. The number of a scaling is written as a plain
number, so that a negative zero is read as a zero.

## Main definitions

* `Microbatch.Exchange.Builder.WellBuilt` — calls that fit together.
* `Microbatch.Exchange.Builder.Call.Fits` — the shapes of an operation's operands and result.
* `Microbatch.Exchange.Builder.Realizes` — a node is the operation of a call.
* `Microbatch.Exchange.Builder.InScope` — what is known before each call when nodes are typed.

## Main results

* `Microbatch.Exchange.Builder.WellBuilt.loadGraph_eq_ok` — a built model is loaded.
* `Microbatch.Exchange.Builder.typeNodes_results` — the nodes of the operations are typed.
* `Microbatch.Exchange.Builder.loads_and_compiles` — a built model is loaded and compiled as it was
  built.
-/

namespace Microbatch.Exchange.Builder

/-! ### Calls that fit together -/

/-- **The shapes of the operands and of the result of an operation go together**, as told by the
shape of every tensor. -/
def Call.Fits (shapeOf : String → Shape) : Call → String → Prop
  | matmul left right, result => ∃ rows inner columns,
    shapeOf left = ⟨[rows, inner]⟩ ∧ shapeOf right = ⟨[inner, columns]⟩ ∧
      shapeOf result = ⟨[rows, columns]⟩
  | add left right, result => shapeOf result = shapeOf left ∧
    (shapeOf right = shapeOf left ∨
      ∃ rows columns, shapeOf left = ⟨[rows, columns]⟩ ∧ shapeOf right = ⟨[columns]⟩)
  | relu operand, result => shapeOf result = shapeOf operand
  | identity operand, result => shapeOf result = shapeOf operand
  | scale operand _, result => shapeOf result = shapeOf operand
  | _, _ => True

/-- **An expression is the operation of a call** on the operands of the call. A factor that is a
negative zero is a zero there. -/
def Call.Computes (shapeOf : String → Shape) : Call → Expression → Prop
  | matmul left right, e => ∃ size : MatrixSize, e = .matmul size left right ∧
    shapeOf left = ⟨[size.rows, size.inner]⟩ ∧ shapeOf right = ⟨[size.inner, size.columns]⟩
  | add left right, e => e = .add left right
  | relu operand, e => e = .relu operand
  | identity operand, e => e = .identity operand
  | scale operand factor, e => e = .scale factor.dropNegZero operand
  | _, _ => False

/-- **A node is the operation of a call**, and its result has the name that the call returns. -/
def Realizes (shapeOf : String → Shape) (r : Call × String) (node : Node) : Prop :=
  node.output = r.2 ∧ node.info = ⟨.float32, shapeOf r.2⟩ ∧ r.1.Computes shapeOf node.expression

/-- **Calls that fit together**, given the descriptions that are supplied for loading and the shape
of every tensor. -/
structure WellBuilt (title : String) (calls : List Call) (shapes : NameMap TensorInfo)
    (shapeOf : String → Shape) : Prop where
  /-- Inputs and weights have distinct names. -/
  distinct : (calls.filterMap Call.given?).Nodup
  /-- No result is called like one of them. -/
  apart : ∀ r ∈ (named title).results calls, r.2 ∉ calls.filterMap Call.given?
  /-- Operations read what was returned before. -/
  reads : (named title).ReadsReturned [] calls
  /-- Dimensions are signed 64-bit numbers. -/
  small : ∀ call ∈ calls, ∀ d ∈ call.dims, d < 2 ^ 63
  /-- The payloads of weights have the described sizes. -/
  payloads : ∀ e ∈ calls.filterMap Call.weight?, e.2.payload.length = e.2.info.byteCount
  /-- Exactly the inputs with open dimensions are supplied with descriptions. -/
  overridden : ∀ name, shapes.contains name = true ↔ name ∈ calls.filterMap Call.open?
  /-- Streamed inputs hold numbers and have their shapes. -/
  streamed : ∀ e ∈ calls.filterMap (Call.streamed? shapes), e.2 = ⟨.float32, shapeOf e.1⟩
  /-- Weights hold numbers and have their shapes. -/
  weights : ∀ e ∈ calls.filterMap Call.weight?, e.2.info = ⟨.float32, shapeOf e.1⟩
  /-- The shapes of operands and results go together. -/
  fitting : ∀ r ∈ (named title).results calls, r.1.Fits shapeOf r.2

variable {b : Builder} {call : Call} {calls rest : List Call} {op title : String}
  {shapes : NameMap TensorInfo} {shapeOf : String → Shape}

/-! ### What is declared -/

/-- The dimensions of a declared type are read back. -/
lemma sizes_tensorType {dims : List (Option Nat)} (small : ∀ d ∈ dims.filterMap id, d < 2 ^ 63) :
    (dims.zipIdx.map fun d => dimension d.2 d.1).map DimensionMessage.size? = dims := by
  have each : ∀ d ∈ dims.zipIdx, (dimension d.2 d.1).size? = d.1 := by
    rintro ⟨d, axis⟩ member
    cases d with
    | none => rfl
    | some n =>
      have listed : some n ∈ dims := List.fst_mem_of_mem_zipIdx member
      exact sizeOfDimension?_eq_some_iff.2 <|
        isSize_ofNat (small n (List.mem_filterMap.2 ⟨some n, listed, rfl⟩))
  rw [List.map_map]
  exact (List.map_congr_left each).trans (List.zipIdx_map_fst 0 dims)

/-- A declared type is read back. -/
lemma declaration_tensorType {name : String} {elementType : ElementType} {dims : List (Option Nat)}
    (small : ∀ d ∈ dims.filterMap id, d < 2 ^ 63) :
    ({ name := name, type := tensorType elementType dims } : ValueMessage).declaration =
      .ok ⟨name, elementType, dims⟩ := by
  have code : ElementType.ofCode? elementType.code = some elementType := ElementType.ofCode?_code _
  simp only [ValueMessage.declaration, tensorType, Option.bind_some, code, Option.getD_some,
    sizes_tensorType small]

/-- An input without open dimensions and without a supplied description is described by its
declaration. -/
lemma inputInfo_of_closed {name : String} {elementType : ElementType} {dims : List (Option Nat)}
    {sizes : List Nat} (own : shapes.contains name = false)
    (small : ∀ d ∈ dims.filterMap id, d < 2 ^ 63) (closed : dims.mapM id = some sizes) :
    inputInfo shapes { name := name, type := tensorType elementType dims } =
      .ok ⟨elementType, ⟨sizes⟩⟩ := by
  have none_supplied : shapes.find? name = none := find?_of_not_contains (by simp [own])
  simp only [inputInfo, none_supplied, declaration_tensorType small, Declaration.resolve, closed]
  rfl

/-! ### Loading -/

/-- The weights that calls add. -/
def storeOf (calls : List Call) : WeightStore := .ofList (calls.filterMap Call.weight?)

/-- The streamed inputs that calls add. -/
def inputsOf (shapes : NameMap TensorInfo) (calls : List Call) : NameMap TensorInfo :=
  .ofList (calls.filterMap (Call.streamed? shapes))

namespace WellBuilt

variable (built : WellBuilt title calls shapes shapeOf)
include built

lemma find?_storeOf {name : String} {t : Tensor} :
    (storeOf calls).find? name = some t ↔ (name, t) ∈ calls.filterMap Call.weight? :=
  NameMap.find?_ofList_eq_some_iff
    (nodup_filterMap (fun _ _ => given?_of_weight?) built.distinct)

lemma find?_inputsOf {name : String} {info : TensorInfo} :
    (inputsOf shapes calls).find? name = some info ↔
      (name, info) ∈ calls.filterMap (Call.streamed? shapes) :=
  NameMap.find?_ofList_eq_some_iff
    (nodup_filterMap (fun _ _ => given?_of_streamed?) built.distinct)

/-- A name is that of a weight exactly when the call that gives it adds a weight. -/
lemma contains_storeOf (member : call ∈ calls) {name : String} (given : call.given? = some name) :
    (storeOf calls).contains name = call.weight?.isSome := by
  rw [Bool.eq_iff_iff, NameMap.contains, Option.isSome_iff_exists]
  constructor
  · rintro ⟨t, found⟩
    obtain ⟨call', member', adds⟩ := List.mem_filterMap.1 (built.find?_storeOf.1 found)
    rw [eq_of_given? built.distinct member member' given (given?_of_weight? adds), adds]
    rfl
  · intro adds
    obtain ⟨e, adds⟩ := Option.isSome_iff_exists.1 adds
    obtain rfl : e.1 = name := Option.some.inj ((given?_of_weight? adds).symm.trans given)
    exact ⟨e.2, built.find?_storeOf.2 (List.mem_filterMap.2 ⟨call, member, adds⟩)⟩

/-- A name has a supplied description exactly when the call that gives it leaves dimensions open. -/
lemma contains_shapes (member : call ∈ calls) {name : String} (given : call.given? = some name) :
    shapes.contains name = call.open?.isSome := by
  rw [Bool.eq_iff_iff, built.overridden, Option.isSome_iff_exists]
  constructor
  · intro supplied
    obtain ⟨call', member', leaves⟩ := List.mem_filterMap.1 supplied
    rw [eq_of_given? built.distinct member member' given (given?_of_open? leaves)]
    exact ⟨name, leaves⟩
  · rintro ⟨name', leaves⟩
    obtain rfl : name' = name := Option.some.inj ((given?_of_open? leaves).symm.trans given)
    exact List.mem_filterMap.2 ⟨call, member, leaves⟩

/-- **A declared input is described as the call says**: by its own dimensions if these are all
there, else by what is supplied. -/
lemma inputInfo_eq_ok (member : call ∈ calls) (no_weight : call.weight? = none)
    {value : ValueMessage} (declared : call.declared? = some value) :
    ∃ info, inputInfo shapes value = .ok info ∧
      call.streamed? shapes = some (value.name, info) := by
  cases call with
  | input name info =>
    cases declared
    have own : shapes.contains name = false := built.contains_shapes member rfl
    refine ⟨info, inputInfo_of_closed own ?_ (Outcome.mapM_id_eq_some_iff.2 rfl), rfl⟩
    rw [List.filterMap_map, Function.id_comp, List.filterMap_some]
    exact built.small _ member
  | dynamic name elementType dims =>
    cases declared
    cases closed : dims.mapM id with
    | some sizes =>
      have not_open : none ∉ dims := by
        rw [← mapM_id_eq_none_iff, closed]
        simp
      have own : shapes.contains name = false := by
        rw [built.contains_shapes member rfl, Call.open?, if_neg not_open]
        rfl
      refine ⟨⟨elementType, ⟨sizes⟩⟩, inputInfo_of_closed own (built.small _ member) closed, ?_⟩
      simp only [Call.streamed?, closed]
    | none =>
      have leaves : (Call.dynamic name elementType dims).open? = some name := by
        rw [Call.open?, if_pos (mapM_id_eq_none_iff.1 closed)]
      have supplied : shapes.contains name = true := by
        rw [built.contains_shapes member rfl, leaves]
        rfl
      obtain ⟨info, found⟩ := Option.isSome_iff_exists.1 supplied
      refine ⟨info, ?_, streamed?_of_open? leaves found⟩
      simp only [inputInfo, found]
  | weight name value => cases no_weight
  | _ => cases declared

/-- **The streamed inputs of the calls are those that are found**, call by call. -/
lemma streamedInputs_eq_ok :
    streamedInputs (storeOf calls) shapes (calls.filterMap Call.declared?) =
      .ok (inputsOf shapes calls) := by
  -- what a name stands for is a matter of all calls, so the induction is over a part of them
  have each : ∀ some_calls : List Call, (∀ call ∈ some_calls, call ∈ calls) →
      ∀ start : NameMap TensorInfo, List.foldlM (fun inputs (value : ValueMessage) =>
        if (storeOf calls).contains value.name then .ok inputs
        else do return inputs.insert value.name (← inputInfo shapes value)) start
          (some_calls.filterMap Call.declared?) =
        .ok (start.insertAll (some_calls.filterMap (Call.streamed? shapes))) := by
    intro some_calls
    induction some_calls with
    | nil =>
      intro _ start
      rfl
    | cons call rest ih =>
      intro all start
      obtain ⟨member, others⟩ := List.forall_mem_cons.1 all
      rw [List.filterMap_cons, List.filterMap_cons]
      cases declared : call.declared? with
      | none =>
        rw [streamed?_of_not_declared declared]
        exact ih others start
      | some value =>
        dsimp only
        rw [List.foldlM_cons, built.contains_storeOf member (given?_of_declared? declared)]
        cases adds : call.weight? with
        | some e =>
          -- the weight is declared as an input as well, and is passed over there
          rw [streamed?_of_weight? adds]
          exact ih others start
        | none =>
          obtain ⟨info, described, streams⟩ := built.inputInfo_eq_ok member adds declared
          rw [described, streams]
          exact ih others (start.insert value.name info)
  exact each calls (fun _ member => member) .empty

/-- The tensors of weights can be stored. -/
lemma storable_of_mem {e : String × Tensor} (member : e ∈ calls.filterMap Call.weight?) :
    e.2.Storable := by
  refine ⟨?_, built.payloads e member⟩
  obtain ⟨call, listed, adds⟩ := List.mem_filterMap.1 member
  cases call <;> cases adds
  exact built.small _ listed

/-- The weights of the graph are those of the calls. -/
lemma weights_eq_ok {g : GraphMessage}
    (initializers : g.initializers =
      (calls.filterMap Call.weight?).map fun e => .ofTensor e.1 e.2) :
    g.weights = .ok (storeOf calls) := by
  refine GraphMessage.weights_eq_ok_iff.2 ⟨calls.filterMap Call.weight?, ?_, rfl⟩
  rw [initializers, List.forall₂_map_left_iff, List.forall₂_same]
  intro e member
  exact ⟨rfl, TensorMessage.toTensor_ofTensor (built.storable_of_mem member)⟩

/-- Only streamed inputs are supplied with descriptions. -/
lemma checkShapes_eq_ok : checkShapes (storeOf calls) (inputsOf shapes calls) shapes = .ok () := by
  refine checkShapes_eq_ok_iff.2 fun name listed => ?_
  have supplied := NameMap.contains_iff_mem_names.2 listed
  obtain ⟨call, member, leaves⟩ := List.mem_filterMap.1 ((built.overridden name).1 supplied)
  obtain ⟨info, found⟩ := Option.isSome_iff_exists.1 supplied
  exact NameMap.mem_names_of_find? <| built.find?_inputsOf.2 <|
    List.mem_filterMap.2 ⟨call, member, streamed?_of_open? leaves found⟩

/-- **What is written is read as it was built**, with zeros in place of negative zeros. -/
lemma holds_encode (fits : (build title calls).encode.length < Size.limit) :
    Holds (build title calls).encode (build title calls).model.normal
      (build title calls).graph.normal (storeOf calls) := by
  obtain ⟨-, -, initializers⟩ := graph_performAll (named title) calls
  exact ⟨ModelMessage.decode_encode fits, rfl, built.weights_eq_ok initializers⟩

/-- **A built model is loaded** with the inputs and weights of its calls. -/
lemma loadGraph_eq_ok (fits : (build title calls).encode.length < Size.limit) :
    loadGraph (build title calls).encode shapes =
      .ok ⟨(build title calls).encode, inputsOf shapes calls, storeOf calls⟩ := by
  obtain ⟨-, inputs, -⟩ := graph_performAll (named title) calls
  refine (built.holds_encode fits).loadGraph_eq_ok_iff.2
    ⟨inputsOf shapes calls, ?_, built.checkShapes_eq_ok, rfl⟩
  show streamedInputs _ _ (build title calls).graph.inputs = _
  rw [build, inputs]
  exact built.streamedInputs_eq_ok

/-! ### Compiling -/

/-- A call that gives a name adds a weight or a streamed input of that name. -/
lemma exists_source {name : String} (given : name ∈ calls.filterMap Call.given?) :
    (∃ t, (storeOf calls).find? name = some t) ∨
      ∃ info, (inputsOf shapes calls).find? name = some info := by
  obtain ⟨call, member, gives⟩ := List.mem_filterMap.1 given
  cases adds : call.weight? with
  | some e =>
    obtain rfl : e.1 = name := Option.some.inj ((given?_of_weight? adds).symm.trans gives)
    exact .inl ⟨e.2, built.find?_storeOf.2 (List.mem_filterMap.2 ⟨call, member, adds⟩)⟩
  | none =>
    obtain ⟨value, declared⟩ := exists_declared? gives
    obtain rfl : value.name = name :=
      Option.some.inj ((given?_of_declared? declared).symm.trans gives)
    obtain ⟨info, -, streams⟩ := built.inputInfo_eq_ok member adds declared
    exact .inr ⟨info, built.find?_inputsOf.2 (List.mem_filterMap.2 ⟨call, member, streams⟩)⟩

/-- **What is known before the first node**: exactly the names that calls give, each with its shape.
-/
lemma find?_sources (model : Bytes) (name : String) :
    (Program.sources ⟨model, inputsOf shapes calls, storeOf calls⟩).find? name =
      if name ∈ calls.filterMap Call.given? then some ⟨.float32, shapeOf name⟩ else none := by
  rw [Program.sources, NameMap.find?_insertAll_entries, NameMap.find?_mapValues]
  cases stored : (storeOf calls).find? name with
  | some t =>
    have member := built.find?_storeOf.1 stored
    obtain ⟨call, listed, adds⟩ := List.mem_filterMap.1 member
    rw [if_pos (List.mem_filterMap.2 ⟨call, listed, given?_of_weight? adds⟩)]
    exact congrArg some (built.weights _ member)
  | none =>
    cases streamed : (inputsOf shapes calls).find? name with
    | some info =>
      have member := built.find?_inputsOf.1 streamed
      obtain ⟨call, listed, streams⟩ := List.mem_filterMap.1 member
      rw [if_pos (List.mem_filterMap.2 ⟨call, listed, given?_of_streamed? streams⟩)]
      exact congrArg some (built.streamed _ member)
    | none =>
      rw [if_neg]
      · rfl
      · intro given
        simpa [stored, streamed] using built.exists_source given

end WellBuilt

section Nodes

variable {infos : NameMap TensorInfo} {result : String}

/-- **A node of an operation is typed**, if its operands are known and the shapes go together. -/
lemma exists_ofMessage_node (added : call.operation? = some op)
    (known : ∀ name ∈ call.operands, infos.find? name = some ⟨.float32, shapeOf name⟩)
    (fits : call.Fits shapeOf result) :
    ∃ e, Node.ofMessage infos (call.node result).normal =
        .ok ⟨e, result, ⟨.float32, shapeOf result⟩⟩ ∧ call.Computes shapeOf e := by
  cases call with
  | matmul left right =>
    obtain ⟨rows, inner, columns, left_shape, right_shape, result_shape⟩ := fits
    refine ⟨.matmul ⟨rows, inner, columns⟩ left right, ?_, _, rfl, left_shape, right_shape⟩
    rw [result_shape]
    exact Node.ofMessage_matmul rfl rfl (known left (by simp [Call.operands]))
      (known right (by simp [Call.operands])) rfl (by rw [left_shape]) (by rw [right_shape])
  | add left right =>
    obtain ⟨result_shape, alike⟩ := fits
    refine ⟨.add left right, ?_, rfl⟩
    rw [result_shape]
    refine Node.ofMessage_add rfl rfl (known left (by simp [Call.operands]))
      (known right (by simp [Call.operands])) rfl ?_
    rcases alike with same | ⟨rows, columns, left_shape, right_shape⟩
    · exact .inl same.symm
    · exact .inr (Shape.isRowOf_iff.2 ⟨rows, columns, by rw [left_shape], by rw [right_shape]⟩)
  | relu operand =>
    refine ⟨.relu operand, ?_, rfl⟩
    rw [show shapeOf result = shapeOf operand from fits]
    exact Node.unary_eq_ok rfl rfl (known operand (List.mem_singleton_self _))
  | identity operand =>
    refine ⟨.identity operand, ?_, rfl⟩
    rw [show shapeOf result = shapeOf operand from fits]
    exact Node.unary_eq_ok rfl rfl (known operand (List.mem_singleton_self _))
  | scale operand factor =>
    -- the factor comes from the setting as it is read back
    have read : ((Call.scale operand factor).node result).normal.factor =
        .ok factor.dropNegZero := rfl
    refine ⟨.scale factor.dropNegZero operand, ?_, rfl⟩
    rw [show shapeOf result = shapeOf operand from fits]
    show (NodeMessage.factor _ >>= fun factor => Node.unary infos _ (.scale factor)) = _
    rw [read, Outcome.ok_bind]
    exact Node.unary_eq_ok rfl rfl (known operand (List.mem_singleton_self _))
  | _ => cases added

/-- **What is known before calls are compiled**, of which earlier calls have returned some names:
these names and all inputs and weights are known with their shapes, and the results that are still
to come are not known. -/
structure InScope (shapeOf : String → Shape) (b : Builder) (known : List String)
    (calls : List Call) (infos : NameMap TensorInfo) : Prop where
  /-- Names that were returned are known. -/
  returned : ∀ name ∈ known, infos.find? name = some ⟨.float32, shapeOf name⟩
  /-- Names of inputs and weights are known. -/
  given : ∀ name ∈ calls.filterMap Call.given?, infos.find? name = some ⟨.float32, shapeOf name⟩
  /-- Results are not known yet. -/
  fresh : ∀ r ∈ b.results calls, infos.find? r.2 = none

namespace InScope

variable {known : List String} (scope : InScope shapeOf b known (call :: rest) infos)
include scope

/-- A call without an operation returns a name that is known. -/
lemma step_plain (added : call.operation? = none) :
    InScope shapeOf (b.perform call).2 (known ++ (b.perform call).1.toList) rest infos := by
  constructor
  · intro name listed
    rw [(perform_plain added).1, List.mem_append, Option.mem_toList] at listed
    rcases listed with before | gives
    · exact scope.returned name before
    · exact scope.given name (List.mem_filterMap.2 ⟨call, List.mem_cons_self .., gives⟩)
  · intro name later
    exact scope.given name (mem_given?_cons later)
  · intro r later
    exact scope.fresh r (by rwa [results_cons_plain added])

/-- **A call with an operation makes its result known**, and no later result is called like it. -/
lemma step_operation (added : call.operation? = some op) :
    InScope shapeOf (b.perform call).2 (known ++ (b.perform call).1.toList) rest
      (infos.insert s!"{op}:{b.next}" ⟨.float32, shapeOf s!"{op}:{b.next}"⟩) := by
  have distinct := nodup_results b (call :: rest)
  have fresh := scope.fresh
  rw [results_cons_operation added, List.map_cons, List.nodup_cons] at distinct
  rw [results_cons_operation added, List.forall_mem_cons] at fresh
  have kept : Extends infos
      (infos.insert s!"{op}:{b.next}" ⟨.float32, shapeOf s!"{op}:{b.next}"⟩) :=
    extends_insert fresh.1
  constructor
  · intro name listed
    rw [perform_operation added, List.mem_append] at listed
    rcases listed with before | made
    · exact kept name _ (scope.returned name before)
    · rw [List.mem_singleton.1 made]
      exact NameMap.find?_insert_self ..
  · intro name later
    exact kept name _ (scope.given name (mem_given?_cons later))
  · intro r later
    rw [NameMap.find?_insert_of_ne]
    · exact fresh.2 r later
    · intro same
      exact distinct.1 (List.mem_map.2 ⟨r, later, same⟩)

end InScope

/-- **The nodes of the operations are typed**, one after the other.

**Proof sketch.** Induction on the calls, along which `InScope` is kept. -/
lemma typeNodes_results {known : List String} (reads : b.ReadsReturned known calls)
    (fitting : ∀ r ∈ b.results calls, r.1.Fits shapeOf r.2)
    (scope : InScope shapeOf b known calls infos) :
    ∃ nodes infos', Program.typeNodes infos
        ((b.results calls).map fun r => (r.1.node r.2).normal) = .ok (nodes, infos') ∧
      List.Forall₂ (Realizes shapeOf) (b.results calls) nodes := by
  induction calls generalizing b known infos with
  | nil => exact ⟨[], infos, rfl, .nil⟩
  | cons call rest ih =>
    obtain ⟨operands, reads⟩ := reads
    cases added : call.operation? with
    | none =>
      rw [results_cons_plain added] at fitting ⊢
      exact ih reads fitting (scope.step_plain added)
    | some op =>
      have later := scope.step_operation added
      have fresh := scope.fresh
      rw [results_cons_operation added, List.forall_mem_cons] at fitting fresh
      rw [results_cons_operation added]
      obtain ⟨e, typed, computes⟩ := exists_ofMessage_node added
        (fun name operand => scope.returned name (operands name operand)) fitting.1
      have unknown : infos.contains s!"{op}:{b.next}" = false := by
        rw [NameMap.contains, fresh.1]
        rfl
      obtain ⟨nodes, infos', others, realized⟩ := ih reads fitting.2 later
      refine ⟨⟨e, s!"{op}:{b.next}", ⟨.float32, shapeOf s!"{op}:{b.next}"⟩⟩ :: nodes, infos', ?_,
        .cons ⟨rfl, rfl, computes⟩ realized⟩
      rw [List.map_cons, Program.typeNodes, typed, Outcome.ok_bind, unknown, others]
      rfl

end Nodes

namespace WellBuilt

variable (built : WellBuilt title calls shapes shapeOf)
include built

/-- Inputs and weights hold numbers. -/
lemma allFloat_sources (model : Bytes) :
    AllFloat (Program.sources ⟨model, inputsOf shapes calls, storeOf calls⟩) := by
  intro name info found
  rw [built.find?_sources] at found
  split at found
  · cases found
    rfl
  · cases found

/-- **A loaded model is compiled** to the operations of its calls. -/
lemma exists_compile (fits : (build title calls).encode.length < Size.limit) :
    ∃ program, Program.compile ⟨(build title calls).encode, inputsOf shapes calls, storeOf calls⟩
        .inference = .ok program ∧
      List.Forall₂ (Realizes shapeOf) ((named title).results calls) program.nodes := by
  have holds := built.holds_encode fits
  have known := built.find?_sources (build title calls).encode
  have scope : InScope shapeOf (named title) [] calls
      (Program.sources ⟨(build title calls).encode, inputsOf shapes calls, storeOf calls⟩) :=
    { returned := fun _ nothing => nomatch nothing
      given := fun name given => (known name).trans (if_pos given)
      fresh := fun r result => (known r.2).trans (if_neg (built.apart r result)) }
  obtain ⟨nodes, infos, typed, realized⟩ := typeNodes_results built.reads built.fitting scope
  have messages : (build title calls).graph.normal.nodes =
      ((named title).results calls).map fun r => (r.1.node r.2).normal := by
    obtain ⟨nodes, -⟩ := graph_performAll (named title) calls
    show (build title calls).graph.nodes.map NodeMessage.normal = _
    rw [build, nodes]
    exact List.map_map
  refine ⟨⟨nodes, [], infos, (storeOf calls).mapValues fun _ t => t.info, [],
    ⟨inputsOf shapes calls, Program.outputs infos []⟩⟩, ?_, realized⟩
  unfold Program.compile
  rw [holds.decoded]
  simp only [Except.mapError, Outcome.ok_bind, holds.graph,
    checkSources_of_allFloat (built.allFloat_sources _), messages, typed]
  rfl

end WellBuilt

/-- **A built model is loaded and compiled as it was built.** Whatever the calls are, the results of
their operations have distinct names. Now let calls fit together, and let exactly the inputs with
open dimensions be supplied with descriptions. Then the written model is loaded. Its inputs are the
streamed inputs that the calls add, each with the description that the call gives or that is
supplied for it, and its weights are the weights that the calls add, each with its tensor. The graph
is compiled for inference, to one node for each operation in the order of the calls: it is that
operation on these operands, and its result has the name that the call returned.

Lengths on the wire are 64-bit numbers; no byte string of the program is too long for them.

**Proof sketch.** The model is read back as it was written, up to negative zeros. Names that calls
give are distinct, so an input is a weight, or is supplied with a description, exactly if the call
that declares it says so. Before each call the names returned so far are known, and no name is made
twice. -/
theorem loads_and_compiles :
    (∀ title calls, (((named title).results calls).map (·.2)).Nodup) ∧
    ∀ title calls shapes shapeOf, WellBuilt title calls shapes shapeOf →
      (build title calls).encode.length < Size.limit →
      ∃ graph program, loadGraph (build title calls).encode shapes = .ok graph ∧
        (∀ name info, graph.inputs.find? name = some info ↔
          (name, info) ∈ calls.filterMap (Call.streamed? shapes)) ∧
        (∀ name t, graph.weights.find? name = some t ↔ (name, t) ∈ calls.filterMap Call.weight?) ∧
        Program.compile graph .inference = .ok program ∧
        List.Forall₂ (Realizes shapeOf) ((named title).results calls) program.nodes := by
  refine ⟨fun title calls => nodup_results _ calls, fun title calls shapes shapeOf built fits => ?_⟩
  obtain ⟨program, compiled, realized⟩ := built.exists_compile fits
  exact ⟨_, program, built.loadGraph_eq_ok fits, fun _ _ => built.find?_inputsOf,
    fun _ _ => built.find?_storeOf, compiled, realized⟩

/-- Calls with every operation: an input with an open dimension, one without, two weights, and a
factor that is a negative zero. -/
def mixedCalls : List Call :=
  [.dynamic "x" .float32 [none, some 2],
    .weight "w" (.ofSingles ⟨[2, 1]⟩ [Single.one, Single.zero]),
    .matmul "x" "w",
    .weight "c" (.ofSingles ⟨[1]⟩ [Single.one]),
    .add "MatMul:0" "c",
    .scale "Add:1" .negZero,
    .input "y" (.float32 [3, 1]),
    .add "Scale:2" "y",
    .relu "Add:3",
    .identity "Relu:4",
    .output "Identity:5"]

/-- The open dimension is a three. -/
def mixedSupplied : NameMap TensorInfo := .ofList [("x", .float32 [3, 2])]

/-- The shapes of the tensors. -/
def mixedShape (name : String) : Shape :=
  if name = "x" then ⟨[3, 2]⟩
  else if name = "w" then ⟨[2, 1]⟩
  else if name = "c" then ⟨[1]⟩
  else ⟨[3, 1]⟩

/-- The operations among the calls, with their results. -/
def mixedResults : List (Call × String) :=
  [(.matmul "x" "w", "MatMul:0"), (.add "MatMul:0" "c", "Add:1"),
    (.scale "Add:1" .negZero, "Scale:2"), (.add "Scale:2" "y", "Add:3"), (.relu "Add:3", "Relu:4"),
    (.identity "Relu:4", "Identity:5")]

/-- **The calls fit together**, so their model is loaded and compiled to six nodes. -/
theorem loads_and_compiles_sample :
    WellBuilt "mixed" mixedCalls mixedSupplied mixedShape ∧
    ∃ graph program, loadGraph (build "mixed" mixedCalls).encode mixedSupplied = .ok graph ∧
      graph.inputs.find? "x" = some (.float32 [3, 2]) ∧
      Program.compile graph .inference = .ok program ∧
      List.Forall₂ (Realizes mixedShape) mixedResults program.nodes := by
  have open_inputs : mixedSupplied.names = mixedCalls.filterMap Call.open? := by decide +kernel
  have results : (named "mixed").results mixedCalls = mixedResults := rfl
  have built : WellBuilt "mixed" mixedCalls mixedSupplied mixedShape :=
    { distinct := by decide +kernel
      apart := by decide +kernel
      reads := by decide +kernel
      small := by decide +kernel
      payloads := by decide +kernel
      overridden := by
        intro name
        rw [NameMap.contains_iff_mem_names, open_inputs]
      streamed := by decide +kernel
      weights := by decide +kernel
      fitting := by
        rw [results]
        simp only [mixedResults, List.forall_mem_cons]
        exact ⟨⟨3, 2, 1, rfl, rfl, rfl⟩, ⟨rfl, .inr ⟨3, 1, rfl, rfl⟩⟩, rfl, ⟨rfl, .inl rfl⟩, rfl,
          rfl, fun _ none_left => nomatch none_left⟩ }
  obtain ⟨graph, program, loaded, inputs, -, compiled, realized⟩ :=
    loads_and_compiles.2 "mixed" mixedCalls mixedSupplied mixedShape built (by decide +kernel)
  rw [results] at realized
  exact ⟨built, graph, program, loaded, (inputs _ _).2 (by decide +kernel), compiled, realized⟩

end Microbatch.Exchange.Builder
