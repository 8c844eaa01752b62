import Microbatch.Proofs.Compilation
import Microbatch.Proofs.Feeds

set_option relaxedAutoImplicit false
set_option autoImplicit false

/-!
# Micro-batches on the host

A device with a typed program, with weights of the described sizes and with an optimizer if it
trains, runs every micro-batch that is fed as described. It returns what is wanted as it is
offered, and it can run the next micro-batch afterwards.

## Main definitions

* `Microbatch.HostDevice.Supplies` — tensors for all inputs.
* `Microbatch.HostDevice.Loaded` — a device with weights of the declared sizes.
* `Microbatch.HostDevice.Runnable` — a device that can run micro-batches.
* `Microbatch.HostDevice.RunsInRange` — a device finds all that a micro-batch goes through.
* `Microbatch.HostDevice.AsOffered` — tensors with the descriptions that a program offers.

## Main results

* `Microbatch.HostDevice.Runnable.execute` — one micro-batch.
* `Microbatch.HostDevice.Runnable.executeAll` — several micro-batches.
-/

namespace Microbatch

/-! ### Numbers of tensors -/

/-- A tensor of numbers that fits its description has as many numbers as its shape has elements.
-/
lemma Tensor.toSingles_of_fits {info : TensorInfo} {t : Tensor} (fits : t.Fits info)
    (float : info.elementType = .float32) :
    ∃ xs, t.toSingles = .ok xs ∧ xs.length = info.shape.dims.prod := by
  obtain ⟨same, size⟩ := fits
  have length : t.payload.length = info.shape.dims.prod * 4 := by
    rw [TensorInfo.byteCount?_eq_some size, float]
    rfl
  have whole : t.payload.length % 4 = 0 := by omega
  refine ⟨Single.listOfBytes t.payload, ?_, ?_⟩
  · rw [Tensor.toSingles, same, if_pos float, Tensor.singlesOfBytes, if_pos whole]
  · rw [Single.listOfBytes, List.length_map, Bytes.length_words32, length]
    omega

namespace HostDevice

/-! ### Sizes of weights -/

/-- **Every weight has as many elements as its shape.** -/
def Sized (weights : NameMap Parameter) : Prop :=
  ∀ name p, weights.find? name = some p → p.values.length = p.shape.dims.prod

instance (weights : NameMap Parameter) : Decidable (Sized weights) :=
  decidable_of_iff (∀ e ∈ weights.entries, e.2.values.length = e.2.shape.dims.prod)
    ⟨fun h _ _ found => h _ (NameMap.find?_eq_some_iff.1 found),
      fun h _ he => h _ _ (NameMap.find?_of_mem_entries he)⟩

/-- Descent keeps the sizes of weights. -/
lemma Descends.sized {program : Program} {weights weights' : NameMap Parameter}
    (h : Descends program weights weights') (sized : Sized weights) : Sized weights' := by
  obtain ⟨optimizer, gradients, rfl⟩ := h
  intro name p' found
  rw [descend, NameMap.find?_mapValues, Option.map_eq_some_iff] at found
  obtain ⟨p, hp, moved⟩ := found
  have before := sized name p hp
  rw [← moved]
  split
  · split
    · exact (Kernel.length_descend _ _ _ _).trans before
    · exact before
  · exact before

/-- Several steps of descent keep the sizes of weights. -/
lemma sized_of_descends {program : Program} {weights weights' : NameMap Parameter}
    (h : Relation.ReflTransGen (Descends program) weights weights') (sized : Sized weights) :
    Sized weights' := by
  induction h with
  | refl => exact sized
  | tail _ last ih => exact last.sized ih

/-! ### The values at the start -/

/-- What is fed as described has the described numbers. -/
lemma mapM_toSingles {entries : List (String × TensorInfo)} {feed : List (String × Tensor)}
    (fits : List.Forall₂ (fun e t => t.1 = e.1 ∧ t.2.Fits e.2) entries feed)
    (float : ∀ e ∈ entries, e.2.elementType = .float32) :
    ∃ fed : List (String × List Single),
      (feed.mapM fun e => return (e.1, ← e.2.toSingles.mapError DeviceFault.tensor)) = .ok fed ∧
      (fed.map fun e => (e.1, e.2.length)) = entries.map fun e => (e.1, e.2.shape.dims.prod) := by
  induction fits with
  | nil => exact ⟨[], rfl, rfl⟩
  | @cons e t entries feed first _ ih =>
    obtain ⟨same, fits⟩ := first
    obtain ⟨float_first, float_rest⟩ := List.forall_mem_cons.1 float
    obtain ⟨xs, read, length⟩ := Tensor.toSingles_of_fits fits float_first
    obtain ⟨fed, read_rest, lengths⟩ := ih float_rest
    refine ⟨(t.1, xs) :: fed, ?_, ?_⟩
    · rw [List.mapM_cons, read, read_rest]
      rfl
    · rw [List.map_cons, List.map_cons, lengths, same, length]

/-- **Tensors for all inputs**, of single-precision numbers and of the described shapes. They may
come in any order, and of two tensors for one input the later counts. -/
structure Supplies (inputs : NameMap TensorInfo) (feed : List (String × Tensor)) : Prop where
  /-- Every tensor is one for an input, of its shape. -/
  described : ∀ e ∈ feed, ∃ info, inputs.find? e.1 = some info ∧ e.2.Fits ⟨.float32, info.shape⟩
  /-- No input is left out. -/
  complete : ∀ name ∈ inputs.names, name ∈ feed.map (·.1)

instance (inputs : NameMap TensorInfo) (feed : List (String × Tensor)) :
    Decidable (Supplies inputs feed) :=
  decidable_of_iff ((∀ e ∈ feed, (inputs.find? e.1).any fun info =>
      decide (e.2.Fits ⟨.float32, info.shape⟩)) ∧
      ∀ name ∈ inputs.names, name ∈ feed.map (·.1)) <| by
    simp only [Option.any_eq_true, decide_eq_true_eq]
    exact ⟨fun h => ⟨h.1, h.2⟩, fun h => ⟨h.described, h.complete⟩⟩

/-- What is fed as described supplies all inputs. -/
lemma supplies_of_feedFits {inputs : NameMap TensorInfo} {feed : List (String × Tensor)}
    (fits : FeedFits inputs feed)
    (float : ∀ name info, inputs.find? name = some info → info.elementType = .float32) :
    Supplies inputs feed := by
  constructor
  · intro t ht
    obtain ⟨e, he, same, described⟩ := Outcome.exists_of_forall₂_right fits ht
    have known := NameMap.find?_of_mem_entries he
    refine ⟨e.2, same ▸ known, ?_⟩
    rwa [← float e.1 e.2 known]
  · intro name known
    obtain ⟨e, he, rfl⟩ := List.mem_map.1 known
    obtain ⟨t, ht, same, -⟩ := Outcome.exists_of_forall₂_right fits.flip he
    exact List.mem_map.2 ⟨t, ht, same⟩

/-- **A program starts from values of the described sizes**, if all inputs are supplied. -/
lemma startValues_typed {inputs : NameMap TensorInfo} {feed : List (String × Tensor)}
    {weights : NameMap Parameter} (supplied : Supplies inputs feed) (sized : Sized weights) :
    ∃ start, startValues feed weights = .ok start ∧
      start.Typed (inputs.insertAll (described weights).entries) := by
  have fits : List.Forall₂ (fun e t => t.1 = e.1 ∧ t.2.Fits e.2)
      (feed.map fun e => (e.1, e.2.info)) feed := by
    rw [List.forall₂_map_left_iff, List.forall₂_same]
    intro e he
    obtain ⟨info, -, same, size⟩ := supplied.described e he
    exact ⟨rfl, rfl, same ▸ size⟩
  have float : ∀ e ∈ feed.map fun e => (e.1, e.2.info), e.2.elementType = .float32 := by
    intro e he
    obtain ⟨t, ht, rfl⟩ := List.mem_map.1 he
    obtain ⟨info, -, same, -⟩ := supplied.described t ht
    simp [same]
  obtain ⟨fed, read, lengths⟩ := mapM_toSingles fits float
  refine ⟨_, by rw [startValues, read]; rfl, ?_⟩
  have same_inputs : ((NameMap.ofList fed).mapValues fun _ xs => xs.length) =
      inputs.mapValues fun _ info => info.shape.dims.prod := by
    have listed : ((NameMap.ofList fed).mapValues fun _ xs => xs.length) =
        NameMap.ofList (fed.map fun e => (e.1, e.2.length)) :=
      NameMap.mapValues_insertAll _ .empty fed
    rw [listed, lengths, List.map_map]
    refine NameMap.ofList_eq_of_values (fun e he => ?_) fun name known => ?_
    · obtain ⟨t, ht, rfl⟩ := List.mem_map.1 he
      obtain ⟨info, known, same, -⟩ := supplied.described t ht
      rw [Function.comp_apply, NameMap.find?_mapValues, known, same]
      rfl
    · rw [NameMap.names_mapValues] at known
      rw [List.map_map]
      exact supplied.complete name known
  have same_weights : (weights.entries.map fun e => (e.1, e.2.values.length)) =
      weights.entries.map fun e => (e.1, e.2.shape.dims.prod) :=
    List.map_congr_left fun e he => by rw [sized e.1 e.2 (NameMap.find?_of_mem_entries he)]
  rw [Values.Typed, NameMap.mapValues_insertAll, NameMap.mapValues_insertAll, same_inputs,
    described, NameMap.entries_mapValues, List.map_map, List.map_map]
  exact congrArg _ same_weights

/-- **The value that a program starts from**: that of the weight of a name, or else the numbers that
are fed last under the name. -/
lemma find?_of_startValues {feed : List (String × Tensor)} {weights : NameMap Parameter}
    {start : Values Single} (started : startValues feed weights = .ok start) (name : String) :
    start.find? name = ((weights.find? name).map (·.values)).or
      (((NameMap.ofList feed).find? name).bind fun t => t.toSingles.toOption) := by
  obtain ⟨fed, read, made⟩ := Outcome.bind_eq_ok_iff.1 started
  cases made
  have each : List.Forall₂ (fun e f => f.1 = e.1 ∧ e.2.toSingles.toOption = some f.2) feed fed := by
    refine (Outcome.mapM_eq_ok_iff.1 read).imp fun e f made => ?_
    obtain ⟨xs, converted, same⟩ := Outcome.bind_eq_ok_iff.1 made
    cases same
    exact ⟨rfl, Outcome.toOption_eq_some_iff.2 (Outcome.mapError_eq_ok_iff.1 converted)⟩
  have found : fed.reverse.lookup name =
      (feed.reverse.lookup name).bind fun t => t.toSingles.toOption :=
    NameMap.lookup_of_forall₂ (List.rel_reverse each) name
  have listed : (weights.entries.map fun e => (e.1, e.2.values)) =
      (weights.mapValues fun _ p => p.values).entries := rfl
  rw [listed, NameMap.find?_insertAll_entries, NameMap.find?_mapValues, NameMap.find?_ofList, found,
    NameMap.find?_ofList]

/-! ### Running -/

/-- **An attached device with a program and its weights**, each of the declared size. -/
structure Loaded (program : Program) (weights : NameMap Parameter) (d : HostDevice) : Prop where
  /-- The device is attached. -/
  attached : d.attached = true
  /-- It has the program. -/
  program_eq : d.program = program
  /-- It has the weights. -/
  weights_eq : d.weights = some weights
  /-- The weights are those of the program. -/
  declared : described weights = program.weights
  /-- Each weight has its size. -/
  sized : Sized weights

/-- **A device that can run micro-batches.** -/
structure Runnable (d : HostDevice) : Prop where
  /-- The device is attached. -/
  attached : d.attached = true
  /-- The program has right descriptions. -/
  typed : d.program.WellTyped
  /-- The payload sizes of all tensors fit. -/
  fits : ∀ name info, d.program.infos.find? name = some info → info.byteCount?.isSome
  /-- The weights are there, as the program expects them. -/
  weights : ∃ weights, d.weights = some weights ∧ described weights = d.program.weights ∧
    Sized weights
  /-- A device that trains has an optimizer. -/
  optimizer : d.training = true → d.optimizer.isSome

/-- **A device finds all that a micro-batch goes through**, on the way forward and, if it
trains, on the way back. -/
def RunsInRange (feed : List (String × Tensor)) (d : HostDevice) : Prop :=
  ∃ weights start values, d.weights = some weights ∧ startValues feed weights = .ok start ∧
    d.program.ForwardInRange start values ∧
    (d.training = true →
      (∀ name ∈ d.program.trainable, ∃ p, weights.find? name = some p) ∧
      ∃ gradients, d.program.BackwardInRange values gradients)

/-- **Tensors with the descriptions that a program offers**, in the order in which they are
wanted. -/
def AsOffered (program : Program) (wanted : List String) (tensors : List Tensor) : Prop :=
  List.Forall₂ (fun name t => ∃ info, program.signature.outputs.find? name = some info ∧
    t.Fits info) wanted tensors

/-- A device that has run can run again. -/
lemma Runnable.of_ran {d d' : HostDevice} (h : d.Runnable) (ran : Ran d d') : d'.Runnable := by
  obtain ⟨weights, hw, expected, sized⟩ := h.weights
  obtain ⟨weights', hw', moves⟩ := ran.moved weights hw
  have described' := (ran.described_eq hw hw').trans expected
  rw [← ran.program_eq] at described'
  refine ⟨ran.attached_eq.trans h.attached, ran.program_eq ▸ h.typed, ran.program_eq ▸ h.fits,
    ⟨weights', hw', described', sized_of_descends moves sized⟩, fun training => ?_⟩
  rw [ran.optimizer_eq]
  exact h.optimizer (ran.training_eq.symm.trans training)

/-- What is offered under all wanted names can be handed out. -/
lemma mapM_fetch {program : Program} {values : Values Single} {gradients : Gradients Single}
    {wanted : List String}
    (each : ∀ name ∈ wanted, ∃ info t, program.signature.outputs.find? name = some info ∧
      fetch program values gradients name = .ok t ∧ t.Fits info) :
    ∃ tensors, wanted.mapM (fetch program values gradients) = .ok tensors ∧
      AsOffered program wanted tensors := by
  induction wanted with
  | nil => exact ⟨[], rfl, .nil⟩
  | cons name rest ih =>
    obtain ⟨⟨info, t, offered, fetched, fits⟩, others⟩ := List.forall_mem_cons.1 each
    obtain ⟨tensors, fetched_rest, as_offered⟩ := ih others
    refine ⟨t :: tensors, ?_, .cons ⟨info, offered, fits⟩ as_offered⟩
    rw [List.mapM_cons, fetched, fetched_rest]
    rfl

/-- **A device that can run runs every micro-batch** that is fed as described, and returns what
is wanted as it is offered.

**Proof sketch.** The program starts from values of the described sizes. So it runs forward and,
if the device trains, back, and what it offers can be handed out. -/
lemma Runnable.execute {d : HostDevice} (h : d.Runnable) {feed : List (String × Tensor)}
    (fed : FeedFits d.program.signature.inputs feed) {wanted : List String}
    (offered : ∀ name ∈ wanted, ∃ info, d.program.signature.outputs.find? name = some info) :
    d.RunsInRange feed ∧ ∃ tensors, (HostDevice.execute feed wanted d).1 = .ok tensors ∧
      AsOffered d.program wanted tensors := by
  obtain ⟨weights, hw, expected, sized⟩ := h.weights
  have float : ∀ name info, d.program.signature.inputs.find? name = some info →
      info.elementType = .float32 := fun name info known =>
    h.typed.float name info (h.typed.inputs name info known)
  obtain ⟨start, started, typed_start⟩ :=
    startValues_typed (supplies_of_feedFits fed float) sized
  rw [expected] at typed_start
  obtain ⟨values, forward, typed_values⟩ := h.typed.forward typed_start
  obtain ⟨gradients, backward, typed_gradients⟩ := h.typed.backward typed_values
  have handed_out : ∀ {g : Gradients Single}, g.Typed d.program.infos → ∃ tensors,
      wanted.mapM (fetch d.program values g) = .ok tensors ∧
        AsOffered d.program wanted tensors := by
    intro g typed_g
    refine mapM_fetch fun name hn => ?_
    obtain ⟨info, hi⟩ := offered name hn
    obtain ⟨t, fetched, fits⟩ := h.typed.fetch h.fits typed_values typed_g hi
    exact ⟨info, t, hi, fetched, fits⟩
  have trained : ∀ name ∈ d.program.trainable, ∃ p, weights.find? name = some p := by
    intro name hn
    obtain ⟨info, hi⟩ := h.typed.trainable name hn
    rw [← expected, described, NameMap.find?_mapValues, Option.map_eq_some_iff] at hi
    obtain ⟨p, hp, -⟩ := hi
    exact ⟨p, hp⟩
  refine ⟨⟨weights, start, values, hw, started, forward,
    fun _ => ⟨trained, gradients, backward⟩⟩, ?_⟩
  have ran : (startValues feed weights >>= d.program.forward) = .ok values := by
    rw [started]
    exact forward.ran
  unfold HostDevice.execute
  simp only [h.attached, Bool.true_eq_false, if_false, hw, ran]
  cases training : d.training with
  | true =>
    obtain ⟨optimizer, ho⟩ := Option.isSome_iff_exists.1 (h.optimizer training)
    simp only [if_true, ho, backward.ran]
    exact handed_out typed_gradients
  | false =>
    refine handed_out fun name xs impossible => ?_
    cases impossible

/-- **A device that can run runs all micro-batches**, and can run again afterwards. -/
lemma Runnable.executeAll {d : HostDevice} (h : d.Runnable) {feeds : List (List (String × Tensor))}
    (fed : ∀ feed ∈ feeds, FeedFits d.program.signature.inputs feed) {wanted : List String}
    (offered : ∀ name ∈ wanted, ∃ info, d.program.signature.outputs.find? name = some info) :
    ∃ values d', Session.executeAll wanted d feeds = (.ok values, d') ∧ d'.Runnable ∧
      d'.program = d.program ∧ ∀ v ∈ values, AsOffered d.program wanted v := by
  induction feeds generalizing d with
  | nil => exact ⟨[], d, rfl, h, rfl, by simp⟩
  | cons feed rest ih =>
    obtain ⟨fed_first, fed_rest⟩ := List.forall_mem_cons.1 fed
    obtain ⟨-, tensors, returned, as_offered⟩ := h.execute fed_first offered
    have ran := ran_execute feed wanted d
    have first : Device.execute feed wanted d =
        (.ok tensors, (HostDevice.execute feed wanted d).2) := Prod.ext returned rfl
    rw [← ran.program_eq] at fed_rest offered
    obtain ⟨values, d', returned_rest, again, same, as_offered_rest⟩ :=
      ih (h.of_ran ran) fed_rest offered
    rw [ran.program_eq] at same as_offered_rest
    refine ⟨tensors :: values, d', ?_, again, same,
      List.forall_mem_cons.2 ⟨as_offered, as_offered_rest⟩⟩
    rw [Session.executeAll, first]
    simp only [returned_rest, Except.map]

end HostDevice

end Microbatch
