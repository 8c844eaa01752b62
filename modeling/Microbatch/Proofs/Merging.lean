import Microbatch.Proofs.Codec
import Microbatch.Proofs.Compilation

set_option relaxedAutoImplicit false
set_option autoImplicit false

/-!
# Models with other weights

Weights that are put into a model replace the values of its initializers and nothing else. So the
model that results is read like the one before, except for the weights: it has the same streamed
inputs, it compiles to the same program, and other weights that are put into it make the same model
as if they were put into the one before.

Compiling reads one plain number of the settings of a node, the factor of a scaling node. A model is
written with zero in place of a negative zero there, so that for the program to stay the same no
factor may be one.

## Main definitions

* `Microbatch.Tensor.Storable` — a tensor that an initializer can hold.
* `Microbatch.Exchange.GraphMessage.PlainFactors` — no factor is a negative zero.
* `Microbatch.Exchange.Holds` — a model with the parts that reading it finds.

## Main results

* `Microbatch.Exchange.TensorMessage.toTensor_ofTensor` — a tensor that is stored is read back.
* `Microbatch.Exchange.readWeights_of_merge` — weights that are put into a model are read back.
* `Microbatch.Exchange.loadGraph_of_merge` — a model with other weights loads as the same graph.
* `Microbatch.Exchange.mergeWeights_of_merge` — weights that are put in later take the place of
  those before.
* `Microbatch.Program.compile_of_merge` — a model with other weights compiles to the same program.
-/

namespace Microbatch

open Exchange

/-! ### Initializers -/

/-- **A tensor that an initializer can hold**: its dimensions are signed 64-bit numbers, and its
payload has the described size. -/
structure Tensor.Storable (t : Tensor) : Prop where
  /-- The dimensions fit. -/
  dims : ∀ d ∈ t.info.shape.dims, d < 2 ^ 63
  /-- The payload has the described size. -/
  length : t.payload.length = t.info.byteCount

namespace Exchange

lemma isSize_ofNat {n : Nat} (small : n < 2 ^ 63) : IsSize (Int64.ofNat n) n :=
  Int64.toInt_ofNat_of_lt small

/-- **A tensor that is stored is read back.** -/
lemma TensorMessage.toTensor_ofTensor {name : String} {t : Tensor} (storable : t.Storable) :
    (ofTensor name t).toTensor = .ok t := by
  refine toTensor_eq_ok_iff_stores.2 ⟨ElementType.ofCode?_code _, ?_, fun _ => rfl,
    fun _ numbers => absurd rfl numbers, fun empty _ => empty, storable.length⟩
  rw [ofTensor, List.forall₂_map_left_iff, List.forall₂_same]
  exact fun d member => isSize_ofNat (storable.dims d member)

/-- What is read of an initializer can be stored. -/
lemma storable_of_toTensor {m : TensorMessage} {t : Tensor} (h : m.toTensor = .ok t) :
    t.Storable := by
  have stores := TensorMessage.toTensor_eq_ok_iff_stores.1 h
  refine ⟨fun n member => ?_, stores.length⟩
  obtain ⟨d, -, size⟩ := Outcome.exists_of_forall₂_right stores.dims member
  have below := d.toInt_lt
  rw [IsSize] at size
  omega

/-! ### The weights of a graph -/

/-- Every weight of a graph can be stored. -/
lemma GraphMessage.storable_of_weights {g : GraphMessage} {weights : WeightStore}
    (h : g.weights = .ok weights) {name : String} {t : Tensor}
    (found : weights.find? name = some t) : t.Storable := by
  obtain ⟨entries, read, rfl⟩ := weights_eq_ok_iff.1 h
  obtain ⟨m, -, -, read⟩ :=
    Outcome.exists_of_forall₂_right read (NameMap.mem_of_find?_ofList found)
  exact storable_of_toTensor read

/-- The weights of a graph have the names of its initializers. -/
lemma GraphMessage.mem_names_weights {g : GraphMessage} {weights : WeightStore}
    (h : g.weights = .ok weights) {name : String} :
    name ∈ weights.names ↔ name ∈ g.initializers.map (·.name) := by
  obtain ⟨entries, read, rfl⟩ := weights_eq_ok_iff.1 h
  rw [NameMap.mem_names_ofList, NameMap.map_fst_of_forall₂ read fun m e same => same.1]

/-! ### New weights -/

section Update

variable {g : GraphMessage} {weights store other : WeightStore}

/-- Weights of the same names replace all weights. -/
lemma replaceFrom_eq_of_names (names : store.names = weights.names) :
    weights.replaceFrom store = store := by
  refine NameMap.ext_find? fun name => ?_
  rw [WeightStore.replaceFrom, NameMap.find?_mapValues]
  cases hw : weights.find? name with
  | none =>
    rw [NameMap.find?_eq_none_iff, ← names, ← NameMap.find?_eq_none_iff] at hw
    rw [hw]
    rfl
  | some current =>
    obtain ⟨t, ht⟩ := NameMap.find?_of_mem_names (names ▸ NameMap.mem_names_of_find? hw)
    rw [ht]
    rfl

lemma TensorMessage.name_update (m : TensorMessage) (store : WeightStore) :
    (m.update store).name = m.name := by
  unfold update
  split <;> rfl

/-- **Weights that are put into a graph** replace the graph's weights of these names. An initializer
may stand there several times under one name; all of them get the same value. -/
lemma GraphMessage.weights_update_eq (h : g.weights = .ok weights)
    (storable : ∀ name t, store.find? name = some t → t.Storable) :
    (g.update store).weights = .ok (weights.replaceFrom store) := by
  obtain ⟨entries, read, rfl⟩ := weights_eq_ok_iff.1 h
  refine weights_eq_ok_iff.2 ⟨entries.map fun e => (e.1, (store.find? e.1).getD e.2), ?_, ?_⟩
  · show List.Forall₂ _ (g.initializers.map (·.update store)) _
    rw [List.forall₂_map_left_iff, List.forall₂_map_right_iff]
    refine read.imp fun m e stored => ⟨stored.1.trans (m.name_update store).symm, ?_⟩
    cases found : store.find? m.name with
    | none => rw [TensorMessage.update, found, stored.1, found, stored.2, Option.getD_none]
    | some t =>
      rw [TensorMessage.update, found, stored.1, found, Option.getD_some]
      exact TensorMessage.toTensor_ofTensor (storable m.name t found)
  · exact (NameMap.mapValues_insertAll (fun name t => (store.find? name).getD t) .empty
      entries).symm

/-- **Weights that are put into a graph are the graph's weights** if they have all of its names. -/
lemma GraphMessage.weights_update (h : g.weights = .ok weights)
    (names : store.names = weights.names)
    (storable : ∀ name t, store.find? name = some t → t.Storable) :
    (g.update store).weights = .ok store := by
  rw [weights_update_eq h storable, replaceFrom_eq_of_names names]

/-- Weights that are put in later take the place of those before, if none of these stays. -/
lemma TensorMessage.update_update {m : TensorMessage} {t : Tensor}
    (replaced : other.find? m.name = some t) : (m.update store).update other = m.update other := by
  have first : m.update other = .ofTensor m.name t := by rw [update, replaced]
  rw [first, update, m.name_update store, replaced]

lemma GraphMessage.update_update
    (replaced : ∀ m ∈ g.initializers, ∃ t, other.find? m.name = some t) :
    (g.update store).update other = g.update other := by
  have each : ∀ m ∈ g.initializers, (m.update store).update other = m.update other := by
    intro m hm
    obtain ⟨t, ht⟩ := replaced m hm
    exact TensorMessage.update_update ht
  have all : (g.initializers.map (·.update store)).map (·.update other) =
      g.initializers.map (·.update other) := by
    rw [List.map_map]
    exact List.map_congr_left each
  simp only [update, all]

end Update

/-! ### Models -/

/-- The graph that is asked for is the one in the message. -/
lemma ModelMessage.requireGraph_eq_ok_iff {message : ModelMessage} {g : GraphMessage} :
    message.requireGraph = .ok g ↔ message.graph = some g := by
  unfold requireGraph
  cases message.graph <;> simp

/-- **A model with the parts that reading it finds**: its message, its graph and its weights. -/
structure Holds (model : Bytes) (message : ModelMessage) (g : GraphMessage)
    (weights : WeightStore) : Prop where
  /-- The bytes are read as the message. -/
  decoded : ModelMessage.decode model = .ok message
  /-- The message has the graph. -/
  graph : message.requireGraph = .ok g
  /-- The graph has the weights. -/
  weights : g.weights = .ok weights

variable {model : Bytes} {message : ModelMessage} {g : GraphMessage} {weights store : WeightStore}
  {merged : Merged} {shapes inputs : NameMap TensorInfo} {graph : Graph}

/-- What a graph is loaded from. -/
lemma exists_holds_of_loadGraph (h : loadGraph model shapes = .ok graph) :
    ∃ message g, Holds model message g graph.weights ∧ graph.model = model := by
  unfold loadGraph at h
  obtain ⟨message, hm, h⟩ := Outcome.bind_eq_ok_iff.1 h
  obtain ⟨g, hg, h⟩ := Outcome.bind_eq_ok_iff.1 h
  obtain ⟨weights, hw, h⟩ := Outcome.bind_eq_ok_iff.1 h
  obtain ⟨inputs, -, h⟩ := Outcome.bind_eq_ok_iff.1 h
  obtain ⟨-, -, h⟩ := Outcome.bind_eq_ok_iff.1 h
  cases h
  exact ⟨message, g, ⟨Outcome.mapError_eq_ok_iff.1 hm, Outcome.mapError_eq_ok_iff.1 hg,
    Outcome.mapError_eq_ok_iff.1 hw⟩, rfl⟩

/-- Weights that are put into a model behind others make what they make of the model before, if they
do so of its graph. -/
lemma mergeWeights_of_update {other : WeightStore}
    (decoded : ModelMessage.decode model = .ok message) (asked : message.requireGraph = .ok g)
    (fits : (ModelMessage.encode { message with graph := some (g.update store) }).length <
      Size.limit)
    (later : (g.update store).update other = g.update other) :
    mergeWeights (ModelMessage.encode { message with graph := some (g.update store) }) other =
      mergeWeights model other := by
  have places : ((g.update store).normal.initializers.map (·.name)) =
      g.initializers.map (·.name) := by
    show (g.initializers.map (·.update store)).map (·.name) = _
    simp [TensorMessage.name_update, Function.comp_def]
  -- the message with both weights is the normal form of the message with the later ones
  have both : ({ ModelMessage.normal { message with graph := some (g.update store) } with
      graph := some ((g.update store).normal.update other) } : ModelMessage) =
        ModelMessage.normal { message with graph := some (g.update other) } := by
    rw [← later]
    rfl
  rw [mergeWeights_eq_of_decode decoded asked, mergeWeights_eq_of_decode
    (ModelMessage.decode_encode fits) rfl, places, both, ModelMessage.encode_normal]

namespace Holds

lemma readWeights_eq (h : Holds model message g weights) : readWeights model = .ok weights := by
  rw [readWeights, h.decoded, Outcome.ok_bind, h.graph, Outcome.ok_bind, h.weights]

/-- The model that new weights make. -/
lemma mergeWeights_eq (h : Holds model message g weights) (store : WeightStore) :
    mergeWeights model store = .ok
      { model := ModelMessage.encode { message with graph := some (g.update store) }
        unplaced := store.names.filter fun name =>
          !(g.initializers.map (·.name)).contains name } :=
  mergeWeights_eq_of_decode h.decoded h.graph store

/-- **A model with new weights is read as the message with these weights**, up to negative zeros. -/
lemma merge (h : Holds model message g weights) (names : store.names = weights.names)
    (storable : ∀ name t, store.find? name = some t → t.Storable)
    (made : mergeWeights model store = .ok merged) (fits : merged.model.length < Size.limit) :
    Holds merged.model (ModelMessage.normal { message with graph := some (g.update store) })
      (g.update store).normal store := by
  rw [h.mergeWeights_eq] at made
  cases made
  exact ⟨ModelMessage.decode_encode fits, rfl, GraphMessage.weights_update h.weights names storable⟩

/-- How a graph is loaded from a model that can be read. -/
lemma loadGraph_eq_ok_iff (h : Holds model message g weights) :
    loadGraph model shapes = .ok graph ↔ ∃ inputs,
      streamedInputs weights shapes g.inputs = .ok inputs ∧
        checkShapes weights inputs shapes = .ok () ∧ graph = ⟨model, inputs, weights⟩ := by
  have unfolded : loadGraph model shapes =
      (streamedInputs weights shapes g.inputs >>= fun inputs =>
        (checkShapes weights inputs shapes).mapError .refused >>= fun _ =>
          .ok ⟨model, inputs, weights⟩) := by
    rw [loadGraph, h.decoded]
    simp only [Except.mapError, Outcome.ok_bind, h.graph, h.weights]
    rfl
  rw [unfolded, Outcome.bind_eq_ok_iff]
  constructor
  · rintro ⟨inputs, streamed, rest⟩
    obtain ⟨_, checked, made⟩ := Outcome.bind_eq_ok_iff.1 rest
    exact ⟨inputs, streamed, Outcome.mapError_eq_ok_iff.1 checked, (Except.ok.inj made).symm⟩
  · rintro ⟨inputs, streamed, checked, rfl⟩
    exact ⟨inputs, streamed,
      Outcome.bind_eq_ok_iff.2 ⟨(), Outcome.mapError_eq_ok_iff.2 checked, rfl⟩⟩

end Holds

/-- Which inputs are streamed depends on the names of the weights only. -/
lemma streamedInputs_congr (names : store.names = weights.names) (values : List ValueMessage) :
    streamedInputs store shapes values = streamedInputs weights shapes values := by
  have alike : ∀ name, store.contains name = weights.contains name := by
    intro name
    rw [Bool.eq_iff_iff, NameMap.contains_iff_mem_names, NameMap.contains_iff_mem_names, names]
  simp only [streamedInputs, alike]

/-- Supplied descriptions are accepted by the names of the inputs only. -/
lemma checkShapes_congr (checked : checkShapes weights inputs shapes = .ok ()) :
    checkShapes store inputs shapes = .ok () := by
  unfold checkShapes at checked ⊢
  split at checked
  · rfl
  · cases checked

section Merge

variable (loaded : loadGraph model shapes = .ok graph) (names : store.names = graph.weights.names)
  (storable : ∀ name t, store.find? name = some t → t.Storable)
  (made : mergeWeights graph.model store = .ok merged) (fits : merged.model.length < Size.limit)
include loaded names storable made fits

/-- **Weights that are put into a model are read back.** -/
lemma readWeights_of_merge : readWeights merged.model = .ok store := by
  obtain ⟨message, g, holds, rfl⟩ := exists_holds_of_loadGraph loaded
  exact (holds.merge names storable made fits).readWeights_eq

/-- **A model with other weights loads as the same graph**, except for the weights. -/
lemma loadGraph_of_merge :
    loadGraph merged.model shapes = .ok ⟨merged.model, graph.inputs, store⟩ := by
  obtain ⟨message, g, holds, rfl⟩ := exists_holds_of_loadGraph loaded
  obtain ⟨inputs, streamed, checked, same⟩ := holds.loadGraph_eq_ok_iff.1 loaded
  have same_inputs : graph.inputs = inputs := by rw [same]
  refine (holds.merge names storable made fits).loadGraph_eq_ok_iff.2 ⟨inputs, ?_, ?_, ?_⟩
  · exact (streamedInputs_congr names _).trans streamed
  · exact checkShapes_congr checked
  · rw [same_inputs]

omit names storable in
/-- **Weights that are put in later take the place of those before.** -/
lemma mergeWeights_of_merge {other : WeightStore} (others : other.names = graph.weights.names) :
    mergeWeights merged.model other = mergeWeights graph.model other := by
  obtain ⟨message, g, holds, rfl⟩ := exists_holds_of_loadGraph loaded
  have replaced : ∀ m ∈ g.initializers, ∃ t, other.find? m.name = some t := by
    intro m hm
    refine NameMap.find?_of_mem_names ?_
    rw [others, GraphMessage.mem_names_weights holds.weights]
    exact List.mem_map_of_mem hm
  rw [holds.mergeWeights_eq] at made
  cases made
  exact mergeWeights_of_update holds.decoded holds.graph fits (GraphMessage.update_update replaced)

end Merge

end Exchange

/-! ### Programs -/

section Compile

/-- **No factor of a scaling node is a negative zero.** -/
def Exchange.GraphMessage.PlainFactors (g : GraphMessage) : Prop :=
  ∀ n ∈ g.nodes, n.operation = "Scale" → ∀ a ∈ n.attributes, a.name = "scale" →
    a.number ≠ .negZero

instance (g : GraphMessage) : Decidable g.PlainFactors :=
  inferInstanceAs (Decidable (∀ n ∈ g.nodes, n.operation = "Scale" →
    ∀ a ∈ n.attributes, a.name = "scale" → a.number ≠ .negZero))

/-- The factor of a node is read back, unless it is a negative zero. -/
lemma Exchange.NodeMessage.factor_normal {m : NodeMessage}
    (plain : ∀ a ∈ m.attributes, a.name = "scale" → a.number ≠ .negZero) :
    m.normal.factor = m.factor := by
  have found : m.normal.attributes.find? (fun a => a.name == "scale") =
      (m.attributes.find? fun a => a.name == "scale").map AttributeMessage.normal := by
    rw [NodeMessage.normal, List.find?_map]
    rfl
  rw [factor, found, factor]
  cases ha : m.attributes.find? fun a => a.name == "scale" with
  | none => rfl
  | some a =>
    have named : a.name = "scale" := by simpa using List.find?_some ha
    have kept : a.number.dropNegZero = a.number :=
      if_neg (plain a (List.mem_of_find?_eq_some ha) named)
    simp only [Option.map_some, AttributeMessage.normal, kept]

/-- A node is typed as it was, unless its factor is a negative zero. -/
lemma Node.ofMessage_normal (infos : NameMap TensorInfo) {m : NodeMessage}
    (plain : m.operation = "Scale" → ∀ a ∈ m.attributes, a.name = "scale" → a.number ≠ .negZero) :
    ofMessage infos m.normal = ofMessage infos m := by
  by_cases scaling : m.operation = "Scale"
  · have factor := NodeMessage.factor_normal (plain scaling)
    have operation : m.normal.operation = "Scale" := scaling
    simp only [ofMessage, scaling, operation, factor]
    rfl
  · have operation : m.normal.operation = m.operation := rfl
    unfold ofMessage
    rw [operation]
    split
    · rfl
    · rfl
    · rfl
    · rfl
    · rename_i same
      exact absurd same scaling
    · rfl

/-- Nodes are typed as they were, unless a factor is a negative zero. -/
lemma Program.typeNodes_normal {nodes : List NodeMessage} (infos : NameMap TensorInfo)
    (plain : ∀ n ∈ nodes, n.operation = "Scale" → ∀ a ∈ n.attributes, a.name = "scale" →
      a.number ≠ .negZero) :
    typeNodes infos (nodes.map NodeMessage.normal) = typeNodes infos nodes := by
  induction nodes generalizing infos with
  | nil => rfl
  | cons n rest ih =>
    obtain ⟨first, others⟩ := List.forall_mem_cons.1 plain
    rw [List.map_cons]
    simp only [typeNodes, Node.ofMessage_normal infos first, ih _ others]

variable {model : Bytes} {shapes : NameMap TensorInfo} {graph : Graph} {store : WeightStore}
  {merged : Merged}

/-- **A model with other weights compiles to the same program**, if these have the descriptions of
those before and no factor is a negative zero. -/
lemma Program.compile_of_merge (loaded : loadGraph model shapes = .ok graph)
    (plain : ∀ message g, ModelMessage.decode model = .ok message → message.graph = some g →
      g.PlainFactors)
    (same : (store.mapValues fun _ t => t.info) = graph.weights.mapValues fun _ t => t.info)
    (storable : ∀ name t, store.find? name = some t → t.Storable)
    (made : mergeWeights graph.model store = .ok merged) (fits : merged.model.length < Size.limit)
    (kind : Kind) : compile ⟨merged.model, graph.inputs, store⟩ kind = compile graph kind := by
  obtain ⟨message, g, holds, rfl⟩ := exists_holds_of_loadGraph loaded
  have names : store.names = graph.weights.names := NameMap.names_eq_of_mapValues same
  have later := holds.merge names storable made fits
  have found := ModelMessage.requireGraph_eq_ok_iff.1 holds.graph
  have nodes : (g.update store).normal.nodes = g.nodes.map NodeMessage.normal := rfl
  have typed := fun infos => typeNodes_normal infos (plain message g holds.decoded found)
  have known : sources ⟨merged.model, graph.inputs, store⟩ = sources graph := by
    rw [sources, same, sources]
  unfold compile
  rw [known, holds.decoded, later.decoded]
  simp only [Except.mapError, Outcome.ok_bind, holds.graph, later.graph, nodes, typed, same]

end Compile

end Microbatch
