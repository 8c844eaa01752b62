import Microbatch.Proofs.HostSession
import Microbatch.Proofs.Kernels
import Microbatch.Proofs.Merging

set_option relaxedAutoImplicit false
set_option autoImplicit false

/-!
# The payloads of weights

The weights of a loaded graph have payloads of the described sizes, and they keep them: on the
host, where a replacement is checked, and on the device, where descent goes number by number. So
whatever a device holds can be put into the model again, and a session takes it for its own
weights.

No size is assumed to fit in 64 bits. A weight whose size does not fit would have a payload of the
largest size, which is no multiple of four, so a device never holds one.

## Main definitions

* `Microbatch.WeightStore.Measured` — weights with payloads of the described sizes.
* `Microbatch.Session.Measured` — such weights on the host and on the device.

## Main results

* `Microbatch.HostDevice.tensors_injective` — the device has no other weights with the same tensors.
* `Microbatch.Session.measured_after` — requests keep payloads of the described sizes.
* `Microbatch.Session.storable_tensors` — what a device holds can be stored.
* `Microbatch.WeightStore.resetFrom_eq_of_same` — well-formed weights of the same descriptions
  replace all weights.
-/

namespace Microbatch

/-- **Weights with payloads of the described sizes**, clipped to the largest size. -/
def WeightStore.Measured (store : WeightStore) : Prop :=
  ∀ name t, store.find? name = some t → t.payload.length = t.info.byteCount

/-- A replacement that is accepted has the described size. -/
lemma WeightStore.Measured.resetFrom {store source weights : WeightStore} {count : Nat}
    (measured : store.Measured) (taken : store.resetFrom source = .ok (count, weights)) :
    weights.Measured := by
  intro name t found
  obtain ⟨rfl, fits⟩ := resetFrom_eq_ok taken
  rw [replaceFrom, NameMap.find?_mapValues, Option.map_eq_some_iff] at found
  obtain ⟨current, hc, replaced⟩ := found
  cases hs : source.find? name with
  | none =>
    rw [hs, Option.getD_none] at replaced
    exact replaced ▸ measured name current hc
  | some other =>
    rw [hs, Option.getD_some] at replaced
    obtain ⟨same, size⟩ := fits name current other hc hs
    rw [← replaced, same, TensorInfo.byteCount_of_eq_some size]

/-- **Well-formed weights of the same descriptions replace all weights.** -/
lemma WeightStore.resetFrom_eq_of_same {store source : WeightStore}
    (same : (source.mapValues fun _ t => t.info) = store.mapValues fun _ t => t.info)
    (wellFormed : ∀ name t, source.find? name = some t → t.WellFormed) :
    store.resetFrom source = .ok (store.size, source) := by
  have names : source.names = store.names := NameMap.names_eq_of_mapValues same
  have checked : checkReplacements store source = .ok () := by
    refine checkReplacements_eq_ok_iff.2 fun name current t hc ht => ?_
    obtain ⟨_, found, info⟩ := NameMap.exists_find?_of_mapValues same ht
    obtain rfl := Option.some.inj (hc.symm.trans found)
    rw [info]
    exact Tensor.fits_self_iff.2 (wellFormed name t ht)
  have shared : sharedCount store source = store.size := by
    have all : store.names.filter source.contains = store.names := by
      rw [List.filter_eq_self, ← names]
      exact fun name => NameMap.contains_iff_mem_names.2
    rw [sharedCount, all, NameMap.names, List.length_map]
    rfl
  have replaced := Exchange.replaceFrom_eq_of_names names
  have related : ¬ (store.size = 0 ∧ store.isEmpty = false) := by
    rintro ⟨none_left, some_left⟩
    rw [NameMap.isEmpty, List.isEmpty_eq_false_iff] at some_left
    exact some_left (List.length_eq_zero_iff.1 none_left)
  rw [WeightStore.resetFrom, checked]
  simp only [shared, replaced, if_neg related]

/-! ### On the device -/

namespace HostDevice

/-- What a device hands back under a name. -/
lemma find?_tensors {weights : NameMap Parameter} {name : String} {t : Tensor} :
    (tensors weights).find? name = some t ↔
      ∃ p, weights.find? name = some p ∧ t = .ofSingles p.shape p.values := by
  rw [tensors, NameMap.find?_mapValues, Option.map_eq_some_iff]
  exact exists_congr fun p => and_congr_right fun _ => eq_comm

/-- **A device has no other weights with the same tensors.** -/
lemma tensors_injective {weights weights' : NameMap Parameter}
    (same : tensors weights = tensors weights') : weights = weights' := by
  refine NameMap.ext_find? fun name => ?_
  have here := congrArg (·.find? name) same
  simp only [tensors, NameMap.find?_mapValues] at here
  cases hp : weights.find? name with
  | none =>
    rw [hp] at here
    exact (Option.map_eq_none_iff.1 here.symm).symm
  | some p =>
    rw [hp] at here
    obtain ⟨p', hp', handed⟩ := Option.map_eq_some_iff.1 here.symm
    rw [hp']
    have shapes : p'.shape = p.shape := congrArg (·.info.shape) handed
    have bytes : Single.bytesOfList p'.values = Single.bytesOfList p.values :=
      congrArg Tensor.payload handed
    have values := congrArg Single.listOfBytes bytes
    rw [Single.listOfBytes_bytesOfList, Single.listOfBytes_bytesOfList] at values
    cases p
    cases p'
    simp only at shapes values
    rw [shapes, values]

/-- **A device takes back what it hands out.** -/
lemma parameters_tensors (weights : NameMap Parameter) :
    parameters (described weights) (tensors weights) = .ok weights := by
  have each : ∀ e ∈ weights.entries,
      parameter (tensors weights) e.1 ⟨.float32, e.2.shape⟩ = .ok e.2 := by
    intro e he
    have found : (tensors weights).find? e.1 = some (.ofSingles e.2.shape e.2.values) :=
      find?_tensors.2 ⟨e.2, NameMap.find?_of_mem_entries he, rfl⟩
    have described : (Tensor.ofSingles e.2.shape e.2.values).info = ⟨.float32, e.2.shape⟩ := rfl
    simp only [parameter, found, described, if_pos, Tensor.toSingles_ofSingles]
    rfl
  have taken : ((described weights).entries.mapM fun e =>
      return (e.1, ← parameter (tensors weights) e.1 e.2)) = .ok weights.entries := by
    refine Outcome.mapM_eq_ok_iff.2 ?_
    rw [described, NameMap.entries_mapValues, List.forall₂_map_left_iff, List.forall₂_same]
    intro e he
    rw [each e he]
    rfl
  rw [parameters, taken, Outcome.ok_bind,
    NameMap.ext_entries (NameMap.entries_ofList weights.sorted)]
  rfl

/-- One step of descent keeps sizes. -/
lemma Descends.measured {program : Program} {weights weights' : NameMap Parameter}
    (h : Descends program weights weights') (measured : (tensors weights).Measured) :
    (tensors weights').Measured := by
  obtain ⟨optimizer, gradients, rfl⟩ := h
  intro name t found
  obtain ⟨p', hp', rfl⟩ := find?_tensors.1 found
  rw [descend, NameMap.find?_mapValues, Option.map_eq_some_iff] at hp'
  obtain ⟨p, hp, moved⟩ := hp'
  have before := measured name _ (find?_tensors.2 ⟨p, hp, rfl⟩)
  rw [Tensor.ofSingles, Single.length_bytesOfList] at before ⊢
  split at moved
  · split at moved
    · subst p'
      exact (congrArg (4 * ·) (Kernel.length_descend _ _ _ _)).trans before
    · exact moved ▸ before
  · exact moved ▸ before

/-- Several steps of descent keep sizes. -/
lemma measured_of_descends {program : Program} {weights weights' : NameMap Parameter}
    (h : Relation.ReflTransGen (Descends program) weights weights')
    (measured : (tensors weights).Measured) : (tensors weights').Measured := by
  induction h with
  | refl => exact measured
  | tail _ last ih => exact last.measured ih

/-- **What a device holds is well formed**, if it has the described sizes: the largest size is no
multiple of four. -/
lemma wellFormed_of_measured {weights : NameMap Parameter} (measured : (tensors weights).Measured)
    {name : String} {t : Tensor} (found : (tensors weights).find? name = some t) :
    t.WellFormed := by
  have size := measured name t found
  obtain ⟨p, -, rfl⟩ := find?_tensors.1 found
  unfold Tensor.WellFormed
  cases fits : (Tensor.ofSingles p.shape p.values).info.byteCount? with
  | some n => rw [size, TensorInfo.byteCount_of_eq_some fits]
  | none =>
    rw [TensorInfo.byteCount, fits, Option.getD_none, Tensor.ofSingles,
      Single.length_bytesOfList] at size
    simp only [Size.largest, Size.limit] at size
    omega

end HostDevice

namespace Session

/-! ### In a session -/

/-- **The weights of a session have payloads of the described sizes**, on the host and on the
device. -/
structure Measured (s : Session HostDevice) : Prop where
  /-- On the host. -/
  host : s.weights.Measured
  /-- On the device. -/
  device : ∀ weights, s.device.weights = some weights → (HostDevice.tensors weights).Measured

variable {s : Session HostDevice}

/-- Micro-batches keep sizes. -/
lemma Measured.ran (measured : s.Measured) (h : s.Consistent) {inputs : StepInputs}
    {streams : List Stream} (begins : s.Begins inputs streams) {d : HostDevice}
    (ran : HostDevice.Ran s.device d) :
    ∀ weights, d.weights = some weights → (HostDevice.tensors weights).Measured := by
  intro weights hw
  obtain ⟨usable, synced, -⟩ := requireReady_eq_ok_iff.1 begins.1
  obtain ⟨before, hb, -⟩ := h.weights usable synced
  obtain ⟨after, ha, moves⟩ := ran.moved before hb
  obtain rfl : after = weights := Option.some.inj (ha.symm.trans hw)
  exact HostDevice.measured_of_descends moves (measured.device before hb)

/-- **Every request keeps payloads of the described sizes.** -/
lemma Transition.measured {request : Request} {result : Except Fault Reply}
    {s' : Session HostDevice} (t : Transition s request result s') (h : s.Consistent)
    (measured : s.Measured) : s'.Measured := by
  have released : ∀ weights, s.device.release.weights = some weights →
      (HostDevice.tensors weights).Measured := by
    intro weights hw
    obtain ⟨-, -, -, before⟩ := release_device s.device
    exact measured.device weights (before weights hw)
  cases t with
  | refuse request fault supplied unbegun => exact measured
  | prepare => exact ⟨measured.host, measured.device⟩
  | pushWeights usable weights described same =>
    refine ⟨measured.host, fun weights' hw => ?_⟩
    cases hw
    exact same ▸ measured.host
  | pullWeights usable synced weights held => exact ⟨measured.device weights held, measured.device⟩
  | pushOptimizer usable optimizer trains => exact ⟨measured.host, measured.device⟩
  | updateOptimizer next trains => exact ⟨measured.host, measured.device⟩
  | resetWeights model count source weights taken =>
    exact ⟨measured.host.resetFrom taken, measured.device⟩
  | step inputs streams begins d buffers ran => exact ⟨measured.host, measured.ran h begins ran⟩
  | fail inputs streams begins d buffers ran fault supplied =>
    exact ⟨measured.host, measured.ran h begins ran⟩
  | exportModel usable synced weights held model =>
    exact ⟨measured.device weights held, measured.device⟩
  | releaseNone loose => exact measured
  | releaseFaulted faulted => exact ⟨measured.host, released⟩
  | release saved weights origin =>
    refine ⟨?_, released⟩
    rcases origin with rfl | ⟨held, hw, rfl⟩
    · exact measured.host
    · exact measured.device held hw

variable {model : Bytes} {shapes : NameMap TensorInfo} {graph : Graph} {flow : DataFlow}
  {target : Target} {kind : Kind} {options : Options} {s₀ : Session HostDevice}

/-- **After any requests the payloads have the described sizes.** -/
lemma measured_after (loaded : Exchange.loadGraph model shapes = .ok graph)
    (built : build HostDevice.backend graph flow target kind options = .ok s₀)
    (requests : List Request) : (s₀.after requests).Measured := by
  have start : s₀.Consistent ∧ s₀.Measured := by
    refine ⟨consistent_build built, ?_⟩
    obtain ⟨device, registry, buffers, compiled, -, -, rfl⟩ := build_eq_ok built
    obtain ⟨program, -, rfl⟩ := HostDevice.compile_eq_ok compiled
    exact ⟨(Exchange.loadGraph_eq_ok loaded).2, fun weights impossible => nomatch impossible⟩
  refine (after_induction (P := fun s => s.Consistent ∧ s.Measured) start ?_ requests).2
  intro s request kept
  have t := transition_perform kept.1 request
  exact ⟨t.consistent kept.1, t.measured kept.1 kept.2⟩

/-- A program expects the weights of the graph that its session was built from. -/
lemma expected_after (built : build HostDevice.backend graph flow target kind options = .ok s₀)
    (requests : List Request) : (s₀.after requests).device.program.weights =
      graph.weights.mapValues fun _ t => t.info := by
  have start := consistent_build built
  rw [(program_after start requests).1, ← start.expected]
  obtain ⟨device, registry, buffers, -, -, -, rfl⟩ := build_eq_ok built
  rfl

/-- The weights of a session are described like those of the graph that it was built from. -/
lemma described_after (built : build HostDevice.backend graph flow target kind options = .ok s₀)
    (requests : List Request) {weights : NameMap Parameter}
    (held : (s₀.after requests).device.weights = some weights) :
    HostDevice.described weights = graph.weights.mapValues fun _ t => t.info := by
  rw [(consistent_after (consistent_build built) requests).held weights held,
    expected_after built requests]

/-- **What a device holds can be stored** in the model that its session was built from. -/
lemma storable_tensors (loaded : Exchange.loadGraph model shapes = .ok graph)
    (built : build HostDevice.backend graph flow target kind options = .ok s₀)
    (requests : List Request) {weights : NameMap Parameter}
    (held : (s₀.after requests).device.weights = some weights) {name : String} {t : Tensor}
    (found : (HostDevice.tensors weights).find? name = some t) : t.Storable := by
  have size := (measured_after loaded built requests).device weights held name t found
  obtain ⟨initial, hi, same⟩ := NameMap.exists_find?_of_mapValues
    ((HostDevice.mapValues_info_tensors weights).trans (described_after built requests held)) found
  obtain ⟨message, g, holds, -⟩ := Exchange.exists_holds_of_loadGraph loaded
  exact ⟨same ▸ (Exchange.GraphMessage.storable_of_weights holds.weights hi).dims, size⟩

end Session

end Microbatch
