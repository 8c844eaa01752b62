import Microbatch.Proofs.Merging

set_option relaxedAutoImplicit false
set_option autoImplicit false

/-!
# What a merge changes

Weights can be put into every model that has a graph, whatever its initializers hold. Each
initializer that the store names takes the stored tensor, in its place, and nothing else in the
model changes, up to the sign of zeros among the settings of nodes. The store may name anything:
what it names and the model does not have is reported, and what the model has and the store does not
name stays.

## Main definitions

* `Microbatch.Exchange.TensorMessage.Takes` — an initializer that takes its value from a store.
* `Microbatch.Exchange.GraphMessage.Takes`, `Microbatch.Exchange.ModelMessage.Takes` — a graph and a
  model whose initializers do.

## Main results

* `Microbatch.Exchange.ModelMessage.Takes.of_update` — a model that is written with new weights is
  read as one that takes them.
* `Microbatch.Exchange.takes_of_mergeWeights` — what a merge changes, reports and leaves.
-/

namespace Microbatch.Exchange

/-! ### Messages that take weights -/

/-- **An initializer that takes its value from a store**, if the store has one for it. -/
inductive TensorMessage.Takes (store : WeightStore) : TensorMessage → TensorMessage → Prop where
  /-- The store has a tensor of its name. -/
  | stored {m : TensorMessage} {t : Tensor} (found : store.find? m.name = some t) :
    Takes store m (.ofTensor m.name t)
  /-- The store does not name it. -/
  | kept {m : TensorMessage} (missing : m.name ∉ store.names) : Takes store m m

/-- **A graph whose initializers take their values from a store.** They stand where they stood, and
the rest of the graph is the same but for zeros among the settings of its nodes. -/
structure GraphMessage.Takes (store : WeightStore) (before after : GraphMessage) : Prop where
  /-- Every initializer takes its value. -/
  initializers : List.Forall₂ (TensorMessage.Takes store) before.initializers after.initializers
  /-- Nodes change no more than the sign of zeros. -/
  nodes : after.nodes = before.nodes.map NodeMessage.normal
  /-- The name stays. -/
  name : after.name = before.name
  /-- The inputs stay. -/
  inputs : after.inputs = before.inputs
  /-- The outputs stay. -/
  outputs : after.outputs = before.outputs

/-- **A model whose initializers take their values from a store.** -/
structure ModelMessage.Takes (store : WeightStore) (before after : ModelMessage) : Prop where
  /-- The initializers of its graph take their values. -/
  graph : ∃ g g', before.graph = some g ∧ after.graph = some g' ∧ g.Takes store g'
  /-- The version of the format stays. -/
  formatVersion : after.formatVersion = before.formatVersion
  /-- What wrote the model stays. -/
  producer : after.producer = before.producer
  /-- The operator sets stay. -/
  operatorSets : after.operatorSets = before.operatorSets

variable {store : WeightStore} {message : ModelMessage} {g : GraphMessage}

lemma TensorMessage.takes_update (m : TensorMessage) : m.Takes store (m.update store) := by
  unfold update
  split
  · rename_i t found
    exact .stored found
  · rename_i missing
    exact .kept (NameMap.find?_eq_none_iff.1 missing)

lemma GraphMessage.takes_update (g : GraphMessage) : g.Takes store (g.update store).normal where
  initializers := by
    show List.Forall₂ _ _ (g.initializers.map (·.update store))
    rw [List.forall₂_map_right_iff, List.forall₂_same]
    exact fun m _ => m.takes_update
  nodes := rfl
  name := rfl
  inputs := rfl
  outputs := rfl

/-- A model that is written with new weights is read as one that takes them. -/
lemma ModelMessage.Takes.of_update (found : message.graph = some g) :
    message.Takes store (ModelMessage.normal { message with graph := some (g.update store) }) where
  graph := ⟨g, _, found, rfl, g.takes_update⟩
  formatVersion := rfl
  producer := rfl
  operatorSets := rfl

/-! ### The same weights once more -/

/-- An initializer that has taken its value takes it once more. -/
lemma TensorMessage.update_self (m : TensorMessage) :
    (m.update store).update store = m.update store := by
  cases found : store.find? m.name with
  | some t => exact update_update found
  | none =>
    have kept : m.update store = m := by rw [update, found]
    rw [kept, kept]

lemma GraphMessage.update_self (g : GraphMessage) :
    (g.update store).update store = g.update store := by
  simp only [update, List.map_map, Function.comp_def, TensorMessage.update_self]

/-! ### What a merge changes -/

/-- **What a merge changes, reports and leaves.** Weights can be put into every model with a graph,
whatever the store has. Reported are, in increasing order, the names of the store that no
initializer has. The model that results is read as the one before, whose initializers have taken
their values. If the weights of the model before can be read and what is stored can be held by
initializers, the weights of the result can be read: they have the same names, and under each name
the stored tensor if there is one and the tensor before if not. Putting the same weights in again
makes the same model, byte for byte.

Lengths on the wire are 64-bit numbers; no byte string of the program is too long for them.

**Proof sketch.** The bytes that result are those of a message with updated initializers, which is
read back up to zeros of negative sign. Neither reading the initializers nor updating them again
looks at these zeros, and they are written like positive ones. -/
theorem takes_of_mergeWeights {model : Bytes} (decoded : ModelMessage.decode model = .ok message)
    (found : message.graph = some g) (store : WeightStore) :
    ∃ merged, mergeWeights model store = .ok merged ∧
      merged.unplaced.Pairwise (· < ·) ∧
      (∀ name, name ∈ merged.unplaced ↔
        name ∈ store.names ∧ ∀ m ∈ g.initializers, m.name ≠ name) ∧
      (merged.model.length < Size.limit →
        (∃ message', ModelMessage.decode merged.model = .ok message' ∧
          message.Takes store message') ∧
        (∀ weights, readWeights model = .ok weights →
          (∀ name t, store.find? name = some t → t.Storable) →
          ∃ weights', readWeights merged.model = .ok weights' ∧ weights'.names = weights.names ∧
            ∀ name ∈ weights.names,
              weights'.find? name = (store.find? name).or (weights.find? name)) ∧
        mergeWeights merged.model store = .ok merged) := by
  have asked := ModelMessage.requireGraph_eq_ok_iff.2 found
  refine ⟨_, mergeWeights_eq_of_decode decoded asked store, store.pairwise_names.filter _,
    fun name => ?_, fun fits => ?_⟩
  · rw [List.mem_filter, Bool.not_eq_true', List.contains_eq_mem, decide_eq_false_iff_not,
      List.mem_map, not_exists]
    simp only [not_and]
  have again := ModelMessage.decode_encode fits
  have found_again : (ModelMessage.normal
      { message with graph := some (g.update store) }).requireGraph =
        .ok (g.update store).normal := rfl
  refine ⟨⟨_, again, .of_update found⟩, fun weights read storable => ?_, ?_⟩
  · rw [readWeights, decoded, Outcome.ok_bind, asked, Outcome.ok_bind] at read
    refine ⟨weights.replaceFrom store, ?_, NameMap.names_mapValues _ _, fun name known => ?_⟩
    · rw [readWeights, again, Outcome.ok_bind, found_again, Outcome.ok_bind]
      exact GraphMessage.weights_update_eq read storable
    · obtain ⟨t, ht⟩ := NameMap.find?_of_mem_names known
      rw [WeightStore.replaceFrom, NameMap.find?_mapValues, ht]
      cases store.find? name <;> rfl
  · exact (mergeWeights_of_update decoded asked fits g.update_self).trans
      (mergeWeights_eq_of_decode decoded asked store)

/-- A model with a negative zero in a node and three initializers: `w`, which holds a number, `v`
and another `w`, which hold a byte. -/
def repeatedSample : Bytes :=
  [0x3a, 42,
    0x0a, 7, 0x2a, 5, 0x15, 0x00, 0x00, 0x00, 0x80,
    0x2a, 11, 0x10, 1, 0x22, 4, 0x00, 0x00, 0x80, 0x3f, 0x42, 1, 0x77,
    0x2a, 8, 0x10, 2, 0x42, 1, 0x76, 0x4a, 1, 7,
    0x2a, 8, 0x10, 2, 0x42, 1, 0x77, 0x4a, 1, 9]

/-- Weights for `w`, of another shape, and for `u`, which `repeatedSample` does not have. -/
def repeatedStore : WeightStore :=
  .ofList [("w", ⟨⟨.uint8, ⟨[2]⟩⟩, [1, 2]⟩), ("u", ⟨⟨.uint8, ⟨[]⟩⟩, [0]⟩)]

/-- **A merge** into a model that has two initializers of one name. -/
theorem takes_of_mergeWeights_sample : ∃ message g merged weights weights',
    ModelMessage.decode repeatedSample = .ok message ∧ message.graph = some g ∧
    mergeWeights repeatedSample repeatedStore = .ok merged ∧ merged.unplaced = ["u"] ∧
    (∃ message', ModelMessage.decode merged.model = .ok message' ∧
      message.Takes repeatedStore message') ∧
    readWeights repeatedSample = .ok weights ∧ readWeights merged.model = .ok weights' ∧
    weights.names = ["v", "w"] ∧ weights'.names = weights.names ∧
    weights'.find? "v" = weights.find? "v" ∧ weights'.find? "w" = repeatedStore.find? "w" ∧
    mergeWeights merged.model repeatedStore = .ok merged := by
  obtain ⟨message, decoded, tested⟩ := Outcome.exists_of_any_toOption
    (show (ModelMessage.decode repeatedSample).toOption.any (·.graph.isSome) = true by
      decide +kernel)
  obtain ⟨g, found⟩ := Option.isSome_iff_exists.1 tested
  obtain ⟨merged, made, tested⟩ := Outcome.exists_of_any_toOption
    (show (mergeWeights repeatedSample repeatedStore).toOption.any (fun merged =>
      decide (merged.unplaced = ["u"]) && decide (merged.model.length < Size.limit)) = true by
      decide +kernel)
  simp only [Bool.and_eq_true, decide_eq_true_eq] at tested
  obtain ⟨unplaced, fits⟩ := tested
  obtain ⟨weights, read, tested⟩ := Outcome.exists_of_any_toOption
    (show (readWeights repeatedSample).toOption.any (fun weights =>
      decide (weights.names = ["v", "w"])) = true by decide +kernel)
  have names := of_decide_eq_true tested
  have stored : ∀ e ∈ repeatedStore.entries, (∀ d ∈ e.2.info.shape.dims, d < 2 ^ 63) ∧
      e.2.payload.length = e.2.info.byteCount := by decide +kernel
  obtain ⟨_, same, -, -, rest⟩ := takes_of_mergeWeights decoded found repeatedStore
  cases made.symm.trans same
  obtain ⟨takes, readable, again⟩ := rest fits
  have storable : ∀ name t, repeatedStore.find? name = some t → t.Storable := by
    intro name t found
    obtain ⟨dims, length⟩ := stored _ (NameMap.find?_eq_some_iff.1 found)
    exact ⟨dims, length⟩
  obtain ⟨weights', read', names', values⟩ := readable weights read storable
  exact ⟨message, g, merged, weights, weights', decoded, found, made, unplaced, takes, read, read',
    names, names', values "v" (names ▸ by decide), values "w" (names ▸ by decide), again⟩

end Microbatch.Exchange
