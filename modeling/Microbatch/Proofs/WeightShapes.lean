import Microbatch.Proofs.Payloads

set_option relaxedAutoImplicit false
set_option autoImplicit false

/-!
# The shapes of a session's weights

The weights of a session are those of the graph that it was built from: the same names, the same
element types and shapes, and as many bytes as these ask for. They stay so through every request, in
which other values come from another model, from steps of descent or from the device. What a device
holds are lists of as many numbers as the shapes have elements.

A size that does not fit in 64 bits is clipped to the largest one. It is the size of no weight in a
model file whose own length fits, because an initializer is shorter than the file it stands in.

## Main definitions

* `Microbatch.Session.ShapedLike` — a session has the weights of a graph, up to their values.

## Main results

* `Microbatch.Exchange.Wire.content_lt_of_mem_fields` — contents of fields are shorter than the
  message.
* `Microbatch.Exchange.ModelMessage.raw_lt_of_decode` — bytes of initializers are shorter than the
  file.
* `Microbatch.Session.shapedLike_after` — requests keep the shapes of weights.
-/

namespace Microbatch

/-! ### Sizes in a model file -/

namespace Exchange

namespace Wire

/-- The contents of a value are shorter than the bytes that the value is read from. -/
lemma content_lt_of_readValue {wireType : Nat} {bs rest content : Bytes} {v : Value}
    (h : readValue wireType bs = some (v, rest)) (held : v.content? = some content) :
    content.length < bs.length := by
  unfold readValue at h
  split at h
  · split at h
    · cases h
    · cases h
      cases held
  · split at h
    · cases h
      cases held
    · cases h
  · split at h
    · cases h
    · rename_i length behind read
      split at h
      · cases h
        cases held
        have shorter := readVarint_shortens read
        rw [List.length_take]
        omega
      · cases h
  · split at h
    · cases h
      cases held
    · cases h
  · cases h

/-- The contents of a field are shorter than the bytes that the field is read from. -/
lemma content_lt_of_readField {depth : Nat} {bs rest content : Bytes} {f : Field}
    (h : readField depth bs = some (f, rest)) (held : f.value.content? = some content) :
    content.length < bs.length := by
  unfold readField at h
  split at h
  · cases h
  rename_i key
  split at h
  · split at h
    · cases h
    · cases h
      cases held
  · split at h
    · cases h
    · rename_i read
      cases h
      exact (content_lt_of_readValue read held).trans (readKey_shortens key)

/-- **The contents of a field are shorter than the message.** -/
lemma content_lt_of_mem_fields {depth : Nat} {bs content : Bytes} {fs : List Field}
    (h : fields depth bs = some fs) {f : Field} (hf : f ∈ fs)
    (held : f.value.content? = some content) : content.length < bs.length := by
  fun_induction fields depth bs generalizing fs with
  | case1 =>
    cases h
    cases hf
  | case2 => cases h
  | case3 bs _ first rest read ih =>
    obtain ⟨others, behind, rfl⟩ := Option.map_eq_some_iff.1 h
    rcases List.mem_cons.1 hf with rfl | inside
    · exact content_lt_of_readField read held
    · exact (ih behind inside).trans (readField_shortens read)

end Wire

/-- **A fact that every field keeps** holds of the message that is read, if it holds at the start.
The contents of every field are shorter than the message. -/
lemma absorb_induction {M : Type} {P : M → Prop} {depth : Nat} {step : M → Wire.Field → Option M}
    {start result : M} {bs : Bytes} (h : absorb depth step start bs = some result) (first : P start)
    (kept : ∀ m f m', (∀ content, f.value.content? = some content → content.length < bs.length) →
      P m → step m f = some m' → P m') : P result := by
  unfold absorb at h
  split at h
  · cases h
  rename_i fs read
  have shorter : ∀ f ∈ fs, ∀ content, f.value.content? = some content →
      content.length < bs.length :=
    fun f hf content held => Wire.content_lt_of_mem_fields read hf held
  clear read
  induction fs generalizing start with
  | nil =>
    cases h
    exact first
  | cons f fs ih =>
    obtain ⟨here, others⟩ := List.forall_mem_cons.1 shorter
    obtain ⟨next, stepped, h⟩ := Option.bind_eq_some_iff.1 h
    exact ih (kept start f next here first stepped) h others

/-- A message that stands in a field is read from the field's contents. -/
lemma exists_content_of_message? {M : Type} {depth : Nat} {step : M → Wire.Field → Option M}
    {start m : M} {v : Wire.Value} (h : v.message? depth step start = some m) :
    ∃ content, v.content? = some content ∧ absorb depth step start content = some m :=
  Option.bind_eq_some_iff.1 h

/-- The bytes of an initializer are no longer than its message. -/
lemma TensorMessage.raw_le_of_absorb {bs : Bytes} {m : TensorMessage}
    (h : absorb 2 TensorMessage.step {} bs = some m) : m.raw.length ≤ bs.length := by
  refine absorb_induction (P := fun m => m.raw.length ≤ bs.length) h (Nat.zero_le _) ?_
  intro m f m' shorter before stepped
  unfold TensorMessage.step at stepped
  split at stepped
  -- only the field of the bytes sets them
  case h_5 =>
    obtain ⟨content, held, rfl⟩ := Option.map_eq_some_iff.1 stepped
    exact Nat.le_of_lt (shorter content held)
  case h_6 =>
    cases stepped
    exact before
  all_goals
    obtain ⟨value, -, rfl⟩ := Option.map_eq_some_iff.1 stepped
    exact before

/-- The bytes of initializers stay below a bound that the graph they are read from is below. -/
lemma GraphMessage.raw_lt_of_absorb {bs : Bytes} {start g : GraphMessage} {n : Nat}
    (h : absorb 1 GraphMessage.step start bs = some g) (inside : bs.length < n)
    (before : ∀ m ∈ start.initializers, m.raw.length < n) :
    ∀ m ∈ g.initializers, m.raw.length < n := by
  refine absorb_induction (P := fun g => ∀ m ∈ g.initializers, m.raw.length < n) h before ?_
  intro g f g' shorter before stepped
  unfold GraphMessage.step at stepped
  split at stepped
  -- only the field of an initializer adds one
  case h_3 =>
    obtain ⟨t, read, rfl⟩ := Option.map_eq_some_iff.1 stepped
    obtain ⟨content, held, read⟩ := exists_content_of_message? read
    refine List.forall_mem_append.2 ⟨before, List.forall_mem_singleton.2 ?_⟩
    exact (TensorMessage.raw_le_of_absorb read).trans_lt ((shorter content held).trans inside)
  case h_6 =>
    cases stepped
    exact before
  all_goals
    obtain ⟨value, -, rfl⟩ := Option.map_eq_some_iff.1 stepped
    exact before

/-- **The bytes of an initializer are shorter than the file.** -/
lemma ModelMessage.raw_lt_of_decode {bs : Bytes} {message : ModelMessage} {g : GraphMessage}
    (decoded : decode bs = .ok message) (found : message.requireGraph = .ok g) :
    ∀ m ∈ g.initializers, m.raw.length < bs.length := by
  have read : absorb 0 ModelMessage.step {} bs = some message := by
    unfold decode decode? at decoded
    split at decoded
    · rename_i read
      cases decoded
      exact read
    · cases decoded
  have known := requireGraph_eq_ok_iff.1 found
  refine absorb_induction (P := fun message : ModelMessage => ∀ g, message.graph = some g →
    ∀ m ∈ g.initializers, m.raw.length < bs.length) read (fun g none_yet => nomatch none_yet)
    ?_ g known
  intro message f message' shorter before stepped
  unfold ModelMessage.step at stepped
  split at stepped
  -- the field of the graph goes on with the graph that was read before, if there is one
  case h_3 =>
    obtain ⟨g', read, rfl⟩ := Option.map_eq_some_iff.1 stepped
    obtain ⟨content, held, read⟩ := exists_content_of_message? read
    rintro g ⟨⟩
    refine GraphMessage.raw_lt_of_absorb read (shorter content held) ?_
    cases started : message.graph with
    | none => exact List.forall_mem_nil _
    | some start => exact before start started
  case h_5 =>
    cases stepped
    exact before
  all_goals
    obtain ⟨value, -, rfl⟩ := Option.map_eq_some_iff.1 stepped
    exact before

/-! ### Weights in a model file -/

/-- **An initializer whose bytes are fewer than the largest size** is read as a well-formed tensor.
A size that is clipped is that of no bytes here, and numbers take a multiple of four. -/
lemma TensorMessage.wellFormed_of_toTensor {m : TensorMessage} {t : Tensor}
    (read : m.toTensor = .ok t) (small : m.raw.length < Size.largest) : t.WellFormed := by
  have stores := toTensor_eq_ok_iff_stores.1 read
  unfold Tensor.WellFormed
  cases fits : t.info.byteCount? with
  | some n => rw [stores.length, TensorInfo.byteCount_of_eq_some fits]
  | none =>
    have clipped : t.payload.length = Size.largest := by
      rw [stores.length, TensorInfo.byteCount, fits, Option.getD_none]
    by_cases bytes : m.raw = []
    · by_cases numbers : m.floats = []
      · rw [stores.nothing bytes numbers] at clipped
        cases clipped
      · rw [(stores.numbers bytes numbers).2, Single.length_bytesOfList] at clipped
        simp only [Size.largest, Size.limit] at clipped
        omega
    · rw [stores.bytes bytes] at clipped
      omega

/-- **The weights of a loaded graph are well formed**, if the length of its model fits. -/
lemma wellFormed_of_loadGraph {model : Bytes} {shapes : NameMap TensorInfo} {graph : Graph}
    (loaded : loadGraph model shapes = .ok graph) (fits : model.length < Size.limit) {name : String}
    {t : Tensor} (found : graph.weights.find? name = some t) : t.WellFormed := by
  obtain ⟨message, g, holds, -⟩ := exists_holds_of_loadGraph loaded
  obtain ⟨entries, read, made⟩ := GraphMessage.weights_eq_ok_iff.1 holds.weights
  rw [← made] at found
  obtain ⟨m, hm, -, read⟩ :=
    Outcome.exists_of_forall₂_right read (NameMap.mem_of_find?_ofList found)
  have shorter := ModelMessage.raw_lt_of_decode holds.decoded holds.graph m hm
  exact TensorMessage.wellFormed_of_toTensor read
    (Nat.lt_of_lt_of_le shorter (Nat.le_pred_of_lt fits))

end Exchange

namespace Session

/-! ### In a session -/

/-- **A session has the weights of a graph, up to their values**, on the host and, if it holds
weights, on the device. -/
structure ShapedLike (graph : Graph) (s : Session HostDevice) : Prop where
  /-- The host has weights of the same names. -/
  names : s.weights.names = graph.weights.names
  /-- They are described as in the graph, and have the described sizes. -/
  host : ∀ name t, s.weights.find? name = some t → ∃ original,
    graph.weights.find? name = some original ∧ t.info = original.info ∧
      t.payload.length = original.info.byteCount
  /-- The device holds weights of the same names. -/
  deviceNames : ∀ weights, s.device.weights = some weights → weights.names = graph.weights.names
  /-- They are numbers, one for every element of the shape in the graph. -/
  device : ∀ weights, s.device.weights = some weights → ∀ name p, weights.find? name = some p →
    ∃ original, graph.weights.find? name = some original ∧ original.info = ⟨.float32, p.shape⟩ ∧
      p.values.length = original.info.shape.dims.prod

variable {model : Bytes} {shapes : NameMap TensorInfo} {graph : Graph} {flow : DataFlow}
  {target : Target} {kind : Kind} {options : Options} {s₀ : Session HostDevice}

/-- The host's weights are described like those of the graph that the session was built from. -/
lemma described_host_after
    (built : build HostDevice.backend graph flow target kind options = .ok s₀)
    (requests : List Request) : ((s₀.after requests).weights.mapValues fun _ t => t.info) =
      graph.weights.mapValues fun _ t => t.info :=
  (consistent_after (consistent_build built) requests).expected.trans
    (expected_after built requests)

/-- A parameter of the device has a number for every element of its shape. -/
lemma length_values_after (loaded : Exchange.loadGraph model shapes = .ok graph)
    (built : build HostDevice.backend graph flow target kind options = .ok s₀)
    (requests : List Request) {weights : NameMap Parameter}
    (held : (s₀.after requests).device.weights = some weights) {name : String} {p : Parameter}
    (found : weights.find? name = some p) : p.values.length = p.shape.dims.prod := by
  have measured := (measured_after loaded built requests).device weights held
  have size := HostDevice.wellFormed_of_measured measured
    (HostDevice.find?_tensors.2 ⟨p, found, rfl⟩)
  have bytes : 4 * p.values.length = p.shape.dims.prod * 4 :=
    (Single.length_bytesOfList p.values).symm.trans (TensorInfo.byteCount?_eq_some size)
  omega

/-- **Requests keep the shapes of weights.** After any requests, met or refused, the host has the
weights that the graph was loaded with, up to their values: the same names, and for each the same
element type and shape and a payload of just that size. What the device holds, if it holds anything,
is one list of numbers for each of these names, as long as the weight has elements. If the length of
the model fits in 64 bits, no size is clipped.

**Proof sketch.** Requests keep the descriptions and the sizes of weights, which are those of the
graph when the session is built. A weight of the device has a size that is a multiple of four, so
its size was not clipped; a weight of the model is shorter than the model. -/
theorem shapedLike_after (loaded : Exchange.loadGraph model shapes = .ok graph)
    (built : build HostDevice.backend graph flow target kind options = .ok s₀)
    (requests : List Request) : (s₀.after requests).ShapedLike graph ∧
      (model.length < Size.limit → ∀ name t, (s₀.after requests).weights.find? name = some t →
        t.payload.length = t.info.shape.dims.prod * t.info.elementType.byteSize) := by
  have described := described_host_after built requests
  have host : ∀ name t, (s₀.after requests).weights.find? name = some t → ∃ original,
      graph.weights.find? name = some original ∧ t.info = original.info ∧
        t.payload.length = original.info.byteCount := by
    intro name t found
    obtain ⟨original, ho, same⟩ := NameMap.exists_find?_of_mapValues described found
    exact ⟨original, ho, same.symm,
      same ▸ (measured_after loaded built requests).host name t found⟩
  refine ⟨⟨NameMap.names_eq_of_mapValues described, host, fun weights held => ?_,
    fun weights held name p found => ?_⟩, fun fits name t found => ?_⟩
  · exact NameMap.names_eq_of_mapValues (described_after built requests held)
  · obtain ⟨original, ho, same⟩ :=
      NameMap.exists_find?_of_mapValues (described_after built requests held) found
    refine ⟨original, ho, same, ?_⟩
    rw [same]
    exact length_values_after loaded built requests held found
  · obtain ⟨original, ho, same, size⟩ := host name t found
    have whole := Exchange.wellFormed_of_loadGraph loaded fits ho
    rw [TensorInfo.byteCount_of_eq_some whole] at size
    rw [size, same]
    exact TensorInfo.byteCount?_eq_some whole

/-- A step, weights from a model, and a second preparation. -/
def sampleReload : List Request :=
  [.prepare, .pushWeights, .pushOptimizer, .runStep (sampleInputs .one), .pullWeights,
    .resetWeights sampleModel, .release, .prepare, .pushWeights]

/-- The small session in training, whose device holds weights again after all this. -/
theorem shapedLike_after_sample : ∃ graph s₀ weights, sample sampleTraining {} = some s₀ ∧
    (s₀.after sampleReload).device.weights = some weights ∧
    (s₀.after sampleReload).ShapedLike graph ∧ sampleModel.length < Size.limit ∧
    ∀ name t, (s₀.after sampleReload).weights.find? name = some t →
      t.payload.length = t.info.shape.dims.prod * t.info.elementType.byteSize := by
  obtain ⟨s₀, found, held⟩ := exists_of_sample sampleTraining {}
    (fun s => (s.after sampleReload).device.weights.isSome) (by decide +kernel)
  obtain ⟨graph, loaded, built⟩ := sample_eq_some found
  obtain ⟨weights, hw⟩ := Option.isSome_iff_exists.1 held
  have fits : sampleModel.length < Size.limit := by decide +kernel
  have shaped := shapedLike_after loaded built sampleReload
  exact ⟨graph, s₀, weights, found, hw, shaped.1, fits, shaped.2 fits⟩

end Session

end Microbatch
