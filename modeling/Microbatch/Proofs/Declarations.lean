import Microbatch.Exchange.Load
import Microbatch.Proofs.Names
import Microbatch.Proofs.Outcomes

set_option relaxedAutoImplicit false
set_option autoImplicit false

/-!
# What initializers and declarations stand for

An initializer holds a tensor, and a declaration gives a description, under conditions that say
nothing of the order in which a reader checks them. The parts of loading a model are each said to
succeed exactly if these hold, with what they then leave.

## Main definitions

* `Microbatch.Exchange.TensorMessage.Stores` — the tensor that an initializer holds.
* `Microbatch.Exchange.ValueMessage.Declares` — the description that a declaration gives.
* `Microbatch.Exchange.ValueMessage.Resolves` — the description of a streamed input.

## Main results

* `Microbatch.Exchange.TensorMessage.toTensor_eq_ok_iff_stores`,
  `Microbatch.Exchange.GraphMessage.weights_eq_ok_iff` — initializers.
* `Microbatch.Exchange.inputInfo_eq_ok_iff`, `Microbatch.Exchange.streamedInputs_eq_ok_iff`,
  `Microbatch.Exchange.checkShapes_eq_ok_iff` — streamed inputs.
-/

namespace Microbatch.Exchange

/-! ### Initializers -/

/-- **A dimension that is a size**, so that it is not negative. -/
def IsSize (d : Int64) (n : Nat) : Prop := d.toInt = n

lemma sizeOfDimension?_eq_some_iff {d : Int64} {n : Nat} :
    sizeOfDimension? d = some n ↔ IsSize d n := by
  unfold IsSize
  have zero : (0 : Int64).toInt = 0 := rfl
  unfold sizeOfDimension?
  split
  · rename_i negative
    rw [Int64.lt_iff_toInt_lt, zero] at negative
    exact iff_of_false (by simp) (by omega)
  · rename_i positive
    rw [Int64.lt_iff_toInt_lt, zero] at positive
    rw [Option.some.injEq]
    omega

/-- **The tensor that an initializer holds.** -/
structure TensorMessage.Stores (m : TensorMessage) (t : Tensor) : Prop where
  /-- The element type is known. -/
  code : ElementType.ofCode? m.elementCode = some t.info.elementType
  /-- No dimension is negative. -/
  dims : List.Forall₂ IsSize m.dims t.info.shape.dims
  /-- If there are bytes, they are the payload. -/
  bytes : m.raw ≠ [] → t.payload = m.raw
  /-- If there are numbers only, their bytes are the payload, and the elements are numbers. -/
  numbers : m.raw = [] → m.floats ≠ [] →
    t.info.elementType = .float32 ∧ t.payload = Single.bytesOfList m.floats
  /-- If there is neither, the payload is empty. -/
  nothing : m.raw = [] → m.floats = [] → t.payload = []
  /-- The payload has the described size. -/
  length : t.payload.length = t.info.byteCount

lemma TensorMessage.sizes_eq_ok_iff {m : TensorMessage} {dims : List Nat} :
    m.sizes = .ok dims ↔ List.Forall₂ IsSize m.dims dims := by
  rw [sizes, Outcome.mapM_eq_ok_iff]
  constructor
  · intro read
    refine read.imp fun d n sized => ?_
    split at sized
    · rename_i found
      cases sized
      exact sizeOfDimension?_eq_some_iff.1 found
    · cases sized
  · intro sizes
    refine sizes.imp fun d n size => ?_
    rw [sizeOfDimension?_eq_some_iff.2 size]

lemma TensorMessage.payload_eq_ok_iff {m : TensorMessage} {elementType : ElementType}
    {payload : Bytes} : m.payload elementType = .ok payload ↔
      (m.raw ≠ [] → payload = m.raw) ∧
      (m.raw = [] → m.floats ≠ [] →
        elementType = .float32 ∧ payload = Single.bytesOfList m.floats) ∧
      (m.raw = [] → m.floats = [] → payload = []) := by
  unfold TensorMessage.payload
  by_cases bytes : m.raw = []
  · by_cases numbers : m.floats = []
    · simp [bytes, numbers, eq_comm]
    · by_cases typed : elementType = .float32
      · simp [bytes, numbers, typed, eq_comm]
      · simp [bytes, numbers, typed]
  · simp [bytes, eq_comm]

/-- **An initializer is read as the tensor that it holds.** -/
lemma TensorMessage.toTensor_eq_ok_iff_stores {m : TensorMessage} {t : Tensor} :
    m.toTensor = .ok t ↔ m.Stores t := by
  constructor
  · intro read
    unfold toTensor at read
    split at read
    · cases read
    rename_i elementType known
    obtain ⟨dims, sizes, read⟩ := Outcome.bind_eq_ok_iff.1 read
    obtain ⟨payload, found, read⟩ := Outcome.bind_eq_ok_iff.1 read
    dsimp only at read
    split at read
    · rename_i size
      cases read
      obtain ⟨bytes, numbers, nothing⟩ := payload_eq_ok_iff.1 found
      exact ⟨known, sizes_eq_ok_iff.1 sizes, bytes, numbers, nothing, size⟩
    · cases read
  · intro stores
    have sizes := sizes_eq_ok_iff.2 stores.dims
    have payload := payload_eq_ok_iff.2 ⟨stores.bytes, stores.numbers, stores.nothing⟩
    unfold toTensor
    rw [stores.code]
    simp only [sizes, payload, Outcome.ok_bind]
    rw [if_pos stores.length]

/-- The weights of a graph are the tensors of its initializers. -/
lemma GraphMessage.weights_eq_ok_iff {g : GraphMessage} {weights : WeightStore} :
    g.weights = .ok weights ↔ ∃ entries : List (String × Tensor),
      List.Forall₂ (fun m e => e.1 = m.name ∧ m.toTensor = .ok e.2) g.initializers entries ∧
        NameMap.ofList entries = weights := by
  unfold GraphMessage.weights
  rw [Outcome.bind_eq_ok_iff]
  have each : ∀ (m : TensorMessage) (e : String × Tensor),
      (do return (m.name, ← m.toTensor) : Except ReadFault (String × Tensor)) = .ok e ↔
        e.1 = m.name ∧ m.toTensor = .ok e.2 := by
    intro m e
    rw [Outcome.bind_eq_ok_iff]
    constructor
    · rintro ⟨t, read, made⟩
      cases made
      exact ⟨rfl, read⟩
    · rintro ⟨name, read⟩
      exact ⟨e.2, read, by rw [← name]; rfl⟩
  constructor
  · rintro ⟨entries, read, made⟩
    exact ⟨entries, (Outcome.mapM_eq_ok_iff.1 read).imp fun m e => (each m e).1,
      Except.ok.inj made⟩
  · rintro ⟨entries, read, rfl⟩
    exact ⟨entries, Outcome.mapM_eq_ok_iff.2 (read.imp fun m e => (each m e).2), rfl⟩

/-! ### Declarations -/

/-- **A declared dimension that is a size.** -/
def DimensionMessage.HasSize (d : DimensionMessage) (n : Nat) : Prop :=
  ∃ v, d.value = some v ∧ IsSize v n

/-- **The description that a declaration gives**: that of a tensor of a known element type with no
dimension left open. -/
def ValueMessage.Declares (value : ValueMessage) (info : TensorInfo) : Prop :=
  ∃ type, value.type.bind (·.tensorType) = some type ∧
    ElementType.ofCode? type.elementCode = some info.elementType ∧
    List.Forall₂ DimensionMessage.HasSize (type.shape.getD {}).dims info.shape.dims

/-- **The description of a streamed input**: the one supplied, else the one declared. -/
def ValueMessage.Resolves (shapes : NameMap TensorInfo) (value : ValueMessage)
    (info : TensorInfo) : Prop :=
  shapes.find? value.name = some info ∨ value.name ∉ shapes.names ∧ value.Declares info

lemma DimensionMessage.size?_eq_some_iff {d : DimensionMessage} {n : Nat} :
    d.size? = some n ↔ d.HasSize n := by
  simp only [size?, HasSize, Option.bind_eq_some_iff, sizeOfDimension?_eq_some_iff]

/-- What is declared with no dimension open is the description. -/
lemma ValueMessage.declares_iff {value : ValueMessage} {info : TensorInfo} :
    (∃ declaration, value.declaration = .ok declaration ∧ declaration.resolve = .ok info) ↔
      value.Declares info := by
  unfold declaration Declares
  cases value.type.bind (·.tensorType) with
  | none => simp
  | some type =>
    cases known : ElementType.ofCode? type.elementCode with
    | none => simp [known]
    | some elementType =>
      have closed : ∀ dims, ((type.shape.getD {}).dims.map DimensionMessage.size?).mapM id =
          some dims ↔ List.Forall₂ DimensionMessage.HasSize (type.shape.getD {}).dims dims := by
        intro dims
        rw [Outcome.mapM_id_eq_some_iff, ← Outcome.forall₂_eq_iff_map, List.forall₂_map_right_iff]
        simp only [DimensionMessage.size?_eq_some_iff]
      constructor
      · rintro ⟨declaration, declared, resolved⟩
        simp only [known, Except.ok.injEq] at declared
        subst declared
        unfold Declaration.resolve at resolved
        split at resolved
        · rename_i dims all
          cases resolved
          exact ⟨type, rfl, known, (closed dims).1 all⟩
        · cases resolved
      · rintro ⟨_, ⟨⟩, same, all⟩
        rw [known] at same
        cases same
        refine ⟨⟨value.name, info.elementType,
          (type.shape.getD {}).dims.map DimensionMessage.size?⟩, by simp only [known], ?_⟩
        rw [Declaration.resolve]
        simp only [(closed _).2 all]

/-- An input is described as it resolves. -/
lemma inputInfo_eq_ok_iff {shapes : NameMap TensorInfo} {value : ValueMessage} {info : TensorInfo} :
    inputInfo shapes value = .ok info ↔ value.Resolves shapes info := by
  unfold inputInfo ValueMessage.Resolves
  rw [← ValueMessage.declares_iff, ← NameMap.find?_eq_none_iff]
  cases shapes.find? value.name with
  | some supplied => simp
  | none =>
    cases value.declaration with
    | error cause => simp
    | ok declaration => simp [Outcome.mapError_eq_ok_iff]

/-! ### Streamed inputs -/

/-- **The streamed inputs** are the declared ones that are no weights, each described as it
resolves. -/
lemma streamedInputs_eq_ok_iff {weights : WeightStore} {shapes inputs : NameMap TensorInfo}
    {values : List ValueMessage} : streamedInputs weights shapes values = .ok inputs ↔
      ∃ entries : List (String × TensorInfo),
        List.Forall₂ (fun value e => e.1 = value.name ∧ value.Resolves shapes e.2)
          (values.filter (!weights.contains ·.name)) entries ∧ NameMap.ofList entries = inputs := by
  -- the inputs that were read are handed on, so the induction is for any of them
  have from_any : ∀ start : NameMap TensorInfo, values.foldlM (fun inputs value =>
      if weights.contains value.name then .ok inputs
      else do return inputs.insert value.name (← inputInfo shapes value)) start = .ok inputs ↔
        ∃ entries : List (String × TensorInfo),
          List.Forall₂ (fun value e => e.1 = value.name ∧ value.Resolves shapes e.2)
            (values.filter (!weights.contains ·.name)) entries ∧
              start.insertAll entries = inputs := by
    induction values with
    | nil =>
      intro start
      rw [List.foldlM_nil, List.filter_nil]
      simp [NameMap.insertAll]
    | cons value rest ih =>
      intro start
      rw [List.foldlM_cons]
      by_cases weight : weights.contains value.name = true
      · rw [if_pos weight, Outcome.ok_bind, ih, List.filter_cons_of_neg (by simp [weight])]
      · rw [if_neg weight, List.filter_cons_of_pos (by simp [weight]), Outcome.bind_eq_ok_iff]
        constructor
        · rintro ⟨next, made, others⟩
          obtain ⟨info, described, made⟩ := Outcome.bind_eq_ok_iff.1 made
          cases made
          obtain ⟨entries, read, rfl⟩ := (ih _).1 others
          exact ⟨(value.name, info) :: entries,
            .cons ⟨rfl, inputInfo_eq_ok_iff.1 described⟩ read, rfl⟩
        · rintro ⟨entries, read, rfl⟩
          obtain ⟨⟨key, info⟩, others, ⟨rfl, resolves⟩, read_others, rfl⟩ :=
            List.forall₂_cons_left_iff.1 read
          refine ⟨start.insert value.name info, ?_, (ih _).2 ⟨others, read_others, rfl⟩⟩
          rw [inputInfo_eq_ok_iff.2 resolves]
          rfl
  exact from_any .empty

/-- Supplied shapes are accepted exactly when they are all of streamed inputs. -/
lemma checkShapes_eq_ok_iff {weights : WeightStore} {inputs shapes : NameMap TensorInfo} :
    checkShapes weights inputs shapes = .ok () ↔ ∀ name ∈ shapes.names, name ∈ inputs.names := by
  have none_left : (shapes.names.find? fun name => !inputs.contains name) = none ↔
      ∀ name ∈ shapes.names, name ∈ inputs.names := by
    simp [NameMap.contains_iff_mem_names]
  rw [← none_left]
  unfold checkShapes
  split
  · rename_i none_found
    simp [none_found]
  · rename_i name found
    simp [found]

end Microbatch.Exchange
