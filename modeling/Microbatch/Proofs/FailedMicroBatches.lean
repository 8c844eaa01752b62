import Microbatch.Proofs.Admission
import Microbatch.Proofs.Fetching

set_option relaxedAutoImplicit false
set_option autoImplicit false

/-!
# Micro-batches that fail

A micro-batch converts what it is fed, runs forward and, in training, back; then it moves the
trained weights and hands out what is wanted. Whatever fails before the weights move leaves the
device as it was. Moving the weights cannot fail: a device with weights has all that its program
trains. But handing out comes last, so that a device that is asked for a tensor that it cannot hand
out fails with its weights moved. Such a tensor is one that the program does not offer, or an input
that is not fed; a caller that asks for nothing else finds the device as it was after any failure.

## Main definitions

* `Microbatch.HostDevice.Operation`, `Microbatch.HostDevice.after` — what a device is asked for, and
  the device afterwards.
* `Microbatch.HostDevice.RunsFor` — a device that runs a compiled graph.
* `Microbatch.Program.Obtainable` — a tensor that a micro-batch can hand out.
* `Microbatch.HostDevice.descendEach` — descent, one trained weight after the other.
* `Microbatch.HostDevice.FailsWith` — how a micro-batch fails.

## Main results

* `Microbatch.HostDevice.exists_fetch_iff_obtainable` — exactly the obtainable tensors are handed
  out.
* `Microbatch.HostDevice.descendEach_eq` — moving the weights one after the other does not fail.
* `Microbatch.HostDevice.failsWith_of_execute` — what a failed micro-batch leaves.
* `Microbatch.HostDevice.exists_moved_by_failure` — a failed micro-batch that moves a weight.
-/

namespace Microbatch

namespace HostDevice

/-! ### The states of a device -/

/-- **What a device is asked for.** -/
inductive Operation where
  /-- Attach the hardware. -/
  | acquire
  /-- Detach the hardware. -/
  | release
  /-- Take weights. -/
  | writeWeights (store : WeightStore)
  /-- Hand the weights back. -/
  | readWeights
  /-- Take an optimizer. -/
  | writeOptimizer (optimizer : Optimizer)
  /-- Run a micro-batch. -/
  | execute (feed : List (String × Tensor)) (wanted : List String)

/-- A device after one operation, done or refused. -/
def afterOne (d : HostDevice) : Operation → HostDevice
  | .acquire => d.acquire.2
  | .release => d.release
  | .writeWeights store => (d.writeWeights store).2
  | .readWeights => d.readWeights.2
  | .writeOptimizer optimizer => (d.writeOptimizer optimizer).2
  | .execute feed wanted => (d.execute feed wanted).2

/-- **A device after some operations**, in order. -/
def after (d : HostDevice) (operations : List Operation) : HostDevice := operations.foldl afterOne d

/-- **A device that runs a compiled graph.** -/
structure RunsFor (graph : Graph) (kind : Kind) (d : HostDevice) : Prop where
  /-- Its program is that of the graph. -/
  compiled : Program.compile graph kind = .ok d.program
  /-- It trains if the kind of session does. -/
  training : d.training = kind.isTraining
  /-- The weights that it holds, if any, are described as in the program. -/
  weights : ∀ weights, d.weights = some weights → described weights = d.program.weights

variable {graph : Graph} {kind : Kind} {target : Target} {d d' : HostDevice}

/-- A device that was just compiled runs its graph. -/
lemma runsFor_of_compile (compiled : backend.compile graph kind target = .ok d) :
    d.RunsFor graph kind := by
  obtain ⟨program, made, rfl⟩ := compile_eq_ok compiled
  exact ⟨made, rfl, fun _ none_held => nomatch none_held⟩

/-- A device without weights still runs its graph, as does one with the same weights. -/
lemma RunsFor.of_same (runs : d.RunsFor graph kind) (program : d'.program = d.program)
    (training : d'.training = d.training) (weights : d'.weights = none ∨ d'.weights = d.weights) :
    d'.RunsFor graph kind := by
  refine ⟨program ▸ runs.compiled, training.trans runs.training, fun held h => ?_⟩
  rcases weights with gone | same
  · rw [gone] at h
    cases h
  · rw [program]
    exact runs.weights held (same ▸ h)

/-- **One operation leaves a device that runs its graph.** -/
lemma RunsFor.afterOne (runs : d.RunsFor graph kind) (operation : Operation) :
    (d.afterOne operation).RunsFor graph kind := by
  cases operation with
  | acquire =>
    show d.acquire.2.RunsFor graph kind
    unfold acquire
    split
    · exact runs.of_same rfl rfl (.inr rfl)
    · split
      · exact runs.of_same rfl rfl (.inr rfl)
      · exact runs
    · exact runs
  | release =>
    show d.release.RunsFor graph kind
    unfold release
    split
    · exact runs.of_same rfl rfl (.inl rfl)
    · exact runs
  | writeWeights store =>
    show (d.writeWeights store).2.RunsFor graph kind
    unfold writeWeights
    split
    · split
      · rename_i taken
        refine ⟨runs.compiled, runs.training, ?_⟩
        rintro weights ⟨⟩
        exact described_parameters taken
      · exact runs
    · exact runs
  | readWeights =>
    show d.readWeights.2.RunsFor graph kind
    unfold readWeights
    split <;> exact runs
  | writeOptimizer optimizer =>
    show (d.writeOptimizer optimizer).2.RunsFor graph kind
    unfold writeOptimizer
    split
    · exact runs.of_same rfl rfl (.inr rfl)
    · exact runs
  | execute feed wanted =>
    have ran := ran_execute feed wanted d
    refine ⟨ran.program_eq.symm ▸ runs.compiled, ran.training_eq.trans runs.training,
      fun weights' held' => ?_⟩
    cases held : d.weights with
    | none =>
      -- without weights the micro-batch does nothing
      have same : (d.execute feed wanted).2 = d := by
        unfold HostDevice.execute
        rw [held]
        split <;> rfl
      rw [show (d.afterOne (.execute feed wanted)).weights = d.weights from congrArg _ same,
        held] at held'
      cases held'
    | some weights =>
      exact (ran.described_eq held held').trans
        ((runs.weights weights held).trans (congrArg _ ran.program_eq.symm))

/-- **Operations leave a device that runs its graph.** -/
lemma RunsFor.after (runs : d.RunsFor graph kind) (operations : List Operation) :
    (d.after operations).RunsFor graph kind := by
  induction operations generalizing d with
  | nil => exact runs
  | cons operation rest ih => exact ih (runs.afterOne operation)

end HostDevice

/-! ### What can be handed out -/

section Names

variable {infos infos' : NameMap TensorInfo}

/-- Behind typed nodes, what is known was known before or is the result of a node. -/
lemma NodesTyped.exists_of_mem_names {nodes : List Node} (t : NodesTyped infos nodes infos')
    {name : String} (known : name ∈ infos'.names) :
    name ∈ infos.names ∨ ∃ node ∈ nodes, node.output = name := by
  induction t with
  | nil infos => exact .inl known
  | cons _ _ _ ih =>
    rcases ih known with before | ⟨node, member, rfl⟩
    · rcases NameMap.mem_names_insert.1 before with before | rfl
      · exact .inl before
      · exact .inr ⟨_, List.mem_cons_self .., rfl⟩
    · exact .inr ⟨node, List.mem_cons_of_mem _ member, rfl⟩

/-- Behind typed losses, what is known was known before or is the value of a loss. -/
lemma LossesTyped.exists_of_mem_names {losses : List Loss} (t : LossesTyped infos losses infos')
    {name : String} (known : name ∈ infos'.names) :
    name ∈ infos.names ∨ ∃ loss ∈ losses, loss.output = name := by
  induction t with
  | nil infos => exact .inl known
  | cons _ _ _ ih =>
    rcases ih known with before | ⟨loss, member, rfl⟩
    · rcases NameMap.mem_names_insert.1 before with before | rfl
      · exact .inl before
      · exact .inr ⟨_, List.mem_cons_self .., rfl⟩
    · exact .inr ⟨loss, List.mem_cons_of_mem _ member, rfl⟩

end Names

/-- **A tensor that a micro-batch can hand out**, given the names of what it is fed. -/
structure Program.Obtainable (program : Program) (fed : List String) (name : String) : Prop where
  /-- The program offers it. -/
  offered : name ∈ program.signature.outputs.names
  /-- An input is fed, unless a weight or the gradient of a trained weight has its name. -/
  supplied : name ∈ program.signature.inputs.names →
    name ∈ program.weights.names ∨ program.NamesGradient name ∨ name ∈ fed

/-- A weight that a compiled program trains is described. -/
lemma Program.described_of_mem_trainable {graph : Graph} {kind : Kind} {program : Program}
    (compiled : compile graph kind = .ok program) {weight : String}
    (trained : weight ∈ program.trainable) : ∃ info, program.infos.find? weight = some info := by
  obtain ⟨info, known⟩ := weight_of_mem_trainable compiled trained
  exact ⟨info, extends_weights_of_compile compiled _ _ known⟩

/-- A compiled program offers the gradients of trained weights, and else what it describes. -/
lemma Program.mem_names_outputs_of_compile {graph : Graph} {kind : Kind} {program : Program}
    (compiled : compile graph kind = .ok program) (name : String) :
    name ∈ program.signature.outputs.names ↔
      (HostDevice.trainedGradient? program name).getD name ∈ program.infos.names := by
  obtain ⟨_, _, _, -, -, -, -, -, -, -, -, signature⟩ := compile_eq_ok compiled
  rw [← NameMap.contains_iff_mem_names, ← NameMap.contains_iff_mem_names, NameMap.contains,
    NameMap.contains, signature,
    find?_outputs (fun _ trained => described_of_mem_trainable compiled trained) name]

namespace HostDevice

variable {graph : Graph} {kind : Kind} {target : Target} {program : Program} {d d' : HostDevice}
  {feed : List (String × Tensor)} {weights : NameMap Parameter} {wanted : List String}
  {cause : DeviceFault}

/-- A program starts with values for what is fed and for the weights. -/
lemma mem_names_startValues {start : Values Single} (started : startValues feed weights = .ok start)
    {name : String} :
    name ∈ start.names ↔ name ∈ weights.names ∨ name ∈ feed.map (·.1) := by
  obtain ⟨fed, read, made⟩ := Outcome.bind_eq_ok_iff.1 started
  cases made
  have same_names : fed.map (·.1) = feed.map (·.1) :=
    NameMap.map_fst_of_forall₂ (Outcome.mapM_eq_ok_iff.1 read) fun e f converted => by
      obtain ⟨xs, -, made⟩ := Outcome.bind_eq_ok_iff.1 converted
      rw [← Except.ok.inj made]
  have listed : (weights.entries.map fun e => (e.1, e.2.values)) =
      (weights.mapValues fun _ p => p.values).entries := rfl
  rw [listed, ← NameMap.contains_iff_mem_names, NameMap.contains, NameMap.find?_insertAll_entries,
    Option.isSome_or, Bool.or_eq_true, ← NameMap.contains, ← NameMap.contains,
    NameMap.contains_iff_mem_names, NameMap.contains_iff_mem_names, NameMap.names_mapValues,
    NameMap.mem_names_ofList, same_names]

/-- What a compiled program describes has a value at the end if it is no source, or if it had one at
the start. -/
lemma mem_names_forward (compiled : Program.compile graph kind = .ok program)
    {start values : Values Single} (ran : program.forward start = .ok values) {name : String}
    (described : name ∈ program.infos.names) :
    name ∈ values.names ↔ (graph.IsSource name → name ∈ start.names) := by
  obtain ⟨infos, nodes, losses⟩ := Program.typed_of_compile compiled
  obtain ⟨kept, of_nodes, of_losses⟩ := Program.forward_eq_ok nodes losses ran
  have at_source : ∀ info, (Program.sources graph).find? name = some info →
      (name ∈ values.names ↔ name ∈ start.names) := by
    intro info source
    rw [← NameMap.contains_iff_mem_names, ← NameMap.contains_iff_mem_names, NameMap.contains,
      NameMap.contains, kept name info source]
  constructor
  · intro valued source
    obtain ⟨info, found⟩ := NameMap.find?_of_mem_names (Program.mem_names_sources.2 source)
    exact (at_source info found).1 valued
  · intro begun
    rcases losses.exists_of_mem_names described with known | ⟨loss, member, rfl⟩
    · rcases nodes.exists_of_mem_names known with source | ⟨node, member, rfl⟩
      · obtain ⟨info, found⟩ := NameMap.find?_of_mem_names source
        exact (at_source info found).2 (begun (Program.mem_names_sources.1 source))
      · obtain ⟨xs, -, found⟩ := of_nodes node member
        exact NameMap.mem_names_of_find? found
    · obtain ⟨xs, -, found⟩ := of_losses loss member
      exact NameMap.mem_names_of_find? found

section Fetch

variable {values : Values Single} {gradients : Gradients Single} {key name weight : String}

lemma exists_fetchInfo_iff :
    (∃ info, fetchInfo program key name = .ok info) ↔ key ∈ program.infos.names := by
  rw [← NameMap.contains_iff_mem_names, NameMap.contains]
  unfold fetchInfo
  cases program.infos.find? key <;> simp

/-- A description that is missing is reported under the wanted name. -/
lemma eq_of_fetchInfo_eq_error (failed : fetchInfo program key name = .error cause) :
    cause = .noInfo name := by
  unfold fetchInfo at failed
  split at failed
  · cases failed
  · exact (Except.error.inj failed).symm

/-- A fetch fails, if it does, because the tensor has no value or no description. -/
lemma eq_of_fetch_eq_error (failed : fetch program values gradients name = .error cause) :
    cause = .notComputed name ∨ cause = .noInfo name := by
  unfold fetch at failed
  split at failed
  · rcases Outcome.bind_eq_error_iff.1 failed with unknown | ⟨_, -, impossible⟩
    · exact .inr (eq_of_fetchInfo_eq_error unknown)
    · cases impossible
  · split at failed
    · exact .inl (Except.error.inj failed).symm
    · rcases Outcome.bind_eq_error_iff.1 failed with unknown | ⟨_, -, impossible⟩
      · exact .inr (eq_of_fetchInfo_eq_error unknown)
      · cases impossible

/-- The gradient of a trained weight is handed out if the weight is described. -/
lemma exists_fetch_of_some (taken : trainedGradient? program name = some weight)
    (known : weight ∈ program.infos.names) :
    ∃ t, fetch program values gradients name = .ok t := by
  obtain ⟨info, looked_up⟩ : ∃ info, fetchInfo program weight name = .ok info :=
    exists_fetchInfo_iff.2 known
  rw [fetch, taken]
  exact ⟨_, Outcome.bind_eq_ok_iff.2 ⟨info, looked_up, rfl⟩⟩

/-- Any other tensor is handed out exactly if it has a value and a description. -/
lemma exists_fetch_iff_of_none (taken : trainedGradient? program name = none) :
    (∃ t, fetch program values gradients name = .ok t) ↔
      name ∈ values.names ∧ name ∈ program.infos.names := by
  have described : (∃ info, fetchInfo program name name = .ok info) ↔ _ := exists_fetchInfo_iff
  rw [fetch, taken, ← described, ← NameMap.contains_iff_mem_names, NameMap.contains]
  dsimp only
  cases values.find? name with
  | none => simp
  | some xs =>
    simp only [Option.isSome_some, true_and, Outcome.bind_eq_ok_iff]
    constructor
    · rintro ⟨_, info, looked_up, -⟩
      exact ⟨info, looked_up⟩
    · rintro ⟨info, looked_up⟩
      exact ⟨_, info, looked_up, rfl⟩

end Fetch

/-- **Exactly the obtainable tensors are handed out**, once a program has run forward.

**Proof sketch.** The gradients of trained weights are always there. Every other tensor that is
described is the result of a node or a loss, and has a value, or a source, and has one if it had one
at the start: from the weights or from what was fed. -/
lemma exists_fetch_iff_obtainable (compiled : Program.compile graph kind = .ok program)
    (declared : described weights = program.weights) {start values : Values Single}
    (started : startValues feed weights = .ok start) (ran : program.forward start = .ok values)
    (gradients : Gradients Single) (name : String) :
    (∃ t, fetch program values gradients name = .ok t) ↔
      program.Obtainable (feed.map (·.1)) name := by
  obtain ⟨_, _, _, -, -, -, -, -, -, same_weights, -, signature⟩ := Program.compile_eq_ok compiled
  have held_names : program.weights.names = weights.names := by
    rw [← declared, HostDevice.described, NameMap.names_mapValues]
  have graph_names : program.weights.names = graph.weights.names := by
    rw [same_weights, NameMap.names_mapValues]
  have offers := Program.mem_names_outputs_of_compile compiled name
  cases taken : trainedGradient? program name with
  | some weight =>
    obtain ⟨same, trained⟩ := trainedGradient?_eq_some taken
    obtain ⟨info, described⟩ := Program.described_of_mem_trainable compiled trained
    have known := NameMap.mem_names_of_find? described
    rw [taken, Option.getD_some] at offers
    exact iff_of_true (exists_fetch_of_some taken known)
      ⟨offers.2 known, fun _ => .inr (.inl ⟨weight, trained, same⟩)⟩
  | none =>
    rw [taken, Option.getD_none] at offers
    rw [exists_fetch_iff_of_none taken]
    constructor
    · rintro ⟨valued, known⟩
      refine ⟨offers.2 known, fun input => ?_⟩
      rw [signature] at input
      have begun := (mem_names_forward compiled ran known).1 valued (.inl input)
      rcases (mem_names_startValues started).1 begun with held | fed
      · exact .inl (held_names ▸ held)
      · exact .inr (.inr fed)
    · rintro ⟨offered, supplied⟩
      have known := offers.1 offered
      refine ⟨(mem_names_forward compiled ran known).2 fun source => ?_, known⟩
      refine (mem_names_startValues started).2 ?_
      rcases source with input | weight
      · rw [signature] at supplied
        rcases supplied input with held | gradient | fed
        · exact .inl (held_names ▸ held)
        · exact absurd gradient (trainedGradient?_eq_none_iff.1 taken)
        · exact .inr fed
      · exact .inl (held_names ▸ graph_names ▸ weight)

/-! ### Moving the weights -/

/-- **Descent, one trained weight after the other.** It fails at a weight that has a gradient and is
not held. -/
def descendEach (optimizer : Optimizer) (gradients : Gradients Single) :
    List String → NameMap Parameter → Option (NameMap Parameter)
  | [], weights => some weights
  | name :: rest, weights =>
    match gradients.find? name with
    | none => descendEach optimizer gradients rest weights
    | some gradient => do
      let p ← weights.find? name
      descendEach optimizer gradients rest (weights.insert name { p with
        values := Kernel.descend optimizer.learningRate optimizer.weightDecay p.values gradient })

/-- **Moving trained weights that are all held does not fail**, and moves them all together.

**Proof sketch.** Induction on the names. Each weight is moved once, so that it does not matter
which weights were moved before it. -/
lemma descendEach_eq {optimizer : Optimizer} {gradients : Gradients Single}
    {trainable : List String} (distinct : trainable.Nodup)
    (held : ∀ name ∈ trainable, name ∈ weights.names) :
    descendEach optimizer gradients trainable weights =
      some (descend trainable optimizer gradients weights) := by
  induction trainable generalizing weights with
  | nil =>
    rw [descendEach, Option.some.injEq]
    refine NameMap.ext_find? fun name => ?_
    rw [descend, NameMap.find?_mapValues]
    simp
  | cons name rest ih =>
    obtain ⟨apart, distinct_rest⟩ := List.nodup_cons.1 distinct
    obtain ⟨held_first, held_rest⟩ := List.forall_mem_cons.1 held
    cases reached : gradients.find? name with
    | none =>
      rw [descendEach, reached]
      simp only [ih distinct_rest held_rest, Option.some.injEq]
      refine NameMap.mapValues_congr fun other p _ => ?_
      by_cases here : other = name
      · subst here
        simp [reached, apart]
      · simp [here]
    | some gradient =>
      obtain ⟨p, found⟩ := NameMap.find?_of_mem_names held_first
      have held_behind : ∀ value, ∀ other ∈ rest, other ∈ (weights.insert name value).names :=
        fun value other member => NameMap.mem_names_insert.2 (.inl (held_rest other member))
      rw [descendEach, reached]
      simp only [found, Option.bind_eq_bind, Option.bind_some, ih distinct_rest (held_behind _),
        Option.some.injEq]
      refine NameMap.ext_find? fun other => ?_
      rw [descend, descend, NameMap.find?_mapValues, NameMap.find?_mapValues, NameMap.find?_insert]
      by_cases here : other = name
      · subst here
        simp [found, reached, apart]
      · simp [here]

/-- A program trains every weight once. -/
lemma nodup_trainable (compiled : Program.compile graph kind = .ok program) :
    program.trainable.Nodup := by
  obtain ⟨_, _, _, -, -, -, -, -, -, -, trainable, -⟩ := Program.compile_eq_ok compiled
  rw [trainable, Program.trainableWeights]
  split
  · exact program.weights.nodup_names.filter _
  · exact .nil

/-- **No trained weight is missing** on a device that has weights. -/
lemma RunsFor.descendEach_eq (runs : d.RunsFor graph kind) (held : d.weights = some weights)
    (optimizer : Optimizer) (gradients : Gradients Single) :
    descendEach optimizer gradients d.program.trainable weights =
      some (descend d.program.trainable optimizer gradients weights) := by
  refine HostDevice.descendEach_eq (nodup_trainable runs.compiled) fun name trained => ?_
  obtain ⟨info, known⟩ := Program.weight_of_mem_trainable runs.compiled trained
  have declared := runs.weights weights held
  rw [← NameMap.names_mapValues (fun _ p => (⟨.float32, p.shape⟩ : TensorInfo)) weights,
    show (weights.mapValues _) = d.program.weights from declared]
  exact NameMap.mem_names_of_find? known

/-! ### Failures -/

/-- **How a micro-batch fails.** -/
inductive FailsWith (d : HostDevice) (feed : List (String × Tensor)) (wanted : List String)
    (cause : DeviceFault) (d' : HostDevice) : Prop where
  /-- It does not get as far as to move the weights: the device stays as it was, and the micro-batch
  fails in the same way whatever is wanted. -/
  | untouched (kept : d' = d) (whatever : ∀ others, d.execute feed others = (.error cause, d)) :
    FailsWith d feed wanted cause d'
  /-- It runs, and leaves what it leaves if nothing is wanted; but something that is wanted cannot
  be handed out, and the first such tensor is reported. -/
  | unobtainable {front back : List String} {name : String} (split : wanted = front ++ name :: back)
    (obtained : ∀ earlier ∈ front, d.program.Obtainable (feed.map (·.1)) earlier)
    (missing : ¬ d.program.Obtainable (feed.map (·.1)) name)
    (reported : cause = .notComputed name ∨ cause = .noInfo name)
    (ran : d.execute feed [] = (.ok [], d')) : FailsWith d feed wanted cause d'

/-- **The stages of a micro-batch.** It fails before the weights move, whatever is wanted, or it
runs forward and hands out what is wanted. -/
lemma execute_stages (feed : List (String × Tensor)) (d : HostDevice) :
    (∃ cause, ∀ wanted, d.execute feed wanted = (.error cause, d)) ∨
      ∃ weights start values gradients d', d.weights = some weights ∧
        startValues feed weights = .ok start ∧ d.program.forward start = .ok values ∧
        ∀ wanted, d.execute feed wanted = (wanted.mapM (fetch d.program values gradients), d') := by
  unfold execute
  split
  · exact .inl ⟨_, fun _ => rfl⟩
  split
  · exact .inl ⟨_, fun _ => rfl⟩
  rename_i weights held
  split
  · exact .inl ⟨_, fun _ => rfl⟩
  rename_i values forward
  obtain ⟨start, started, ran⟩ := Outcome.bind_eq_ok_iff.1 forward
  split
  · split
    · exact .inl ⟨_, fun _ => rfl⟩
    split
    · exact .inl ⟨_, fun _ => rfl⟩
    · exact .inr ⟨weights, start, values, _, _, held, started, ran, fun _ => rfl⟩
  · exact .inr ⟨weights, start, values, _, _, held, started, ran, fun _ => rfl⟩

/-- A micro-batch that fails on a device that runs a compiled graph fails in one of the two ways. -/
lemma RunsFor.failsWith (runs : d.RunsFor graph kind)
    (failed : d.execute feed wanted = (.error cause, d')) : FailsWith d feed wanted cause d' := by
  rcases execute_stages feed d with
    ⟨cause', whatever⟩ | ⟨weights, start, values, gradients, last, held, started, ran, executed⟩
  · rw [whatever] at failed
    cases failed
    exact .untouched rfl whatever
  · rw [executed, Prod.mk.injEq] at failed
    obtain ⟨refused, rfl⟩ := failed
    obtain ⟨front, name, back, rfl, found, missing⟩ := Outcome.exists_split_of_mapM_eq_error refused
    have obtainable_iff := exists_fetch_iff_obtainable runs.compiled (runs.weights weights held)
      started ran gradients
    refine .unobtainable rfl
      (fun earlier member => (obtainable_iff earlier).1 (found earlier member))
      (fun obtainable => ?_) (eq_of_fetch_eq_error missing) (executed [])
    obtain ⟨t, fetched⟩ := (obtainable_iff name).2 obtainable
    rw [fetched] at missing
    cases missing

/-- **What a failed micro-batch leaves.** Take a device that was compiled from any graph, for
inference or training, in any state that operations can bring it to, and let a micro-batch fail on
it. All but the weights stay as they were, the optimizer among them, and without training the
weights do as well. The weights of a training device are also as they were if everything wanted is
obtainable: offered by the program and, if it is an input, fed. Otherwise the micro-batch may have
run, and then the weights are those that it leaves if nothing is wanted; the fault names the first
wanted tensor that is not obtainable. Moving the weights is no place to fail: one trained weight
after the other is there.

**Proof sketch.** Handing out is the only stage behind the step of descent, and it hands out exactly
what is obtainable. A device that has weights took them all together, for its whole program, and
descent keeps their names. -/
theorem failsWith_of_execute {d₀ : HostDevice}
    (compiled : backend.compile graph kind target = .ok d₀) (operations : List Operation)
    (failed : (d₀.after operations).execute feed wanted = (.error cause, d')) :
    FailsWith (d₀.after operations) feed wanted cause d' ∧
    d' = { d₀.after operations with weights := d'.weights } ∧
    (kind.isTraining = false → d' = d₀.after operations) ∧
    ((∀ name ∈ wanted, (d₀.after operations).program.Obtainable (feed.map (·.1)) name) →
      d' = d₀.after operations) ∧
    ∀ weights, (d₀.after operations).weights = some weights → ∀ optimizer gradients,
      descendEach optimizer gradients (d₀.after operations).program.trainable weights =
        some (descend (d₀.after operations).program.trainable optimizer gradients weights) := by
  have runs := (runsFor_of_compile compiled).after operations
  generalize d₀.after operations = d at failed runs ⊢
  have ran : Ran d d' := by
    have here := ran_execute feed wanted d
    rwa [failed] at here
  have fails := runs.failsWith failed
  refine ⟨fails, ran.same, fun inference => ?_, fun obtainable => ?_, fun weights held => ?_⟩
  · have kept := ran.kept (runs.training.trans inference)
    rw [ran.same, kept]
  · cases fails with
    | untouched kept => exact kept
    | unobtainable split _ missing =>
      refine absurd (obtainable _ ?_) missing
      rw [split]
      exact List.mem_append_right _ (List.mem_cons_self ..)
  · exact runs.descendEach_eq held

/-! ### A failure that moves a weight -/

/-- What makes a device ready to train on the product of an input and a weight. -/
def namedOperations : List Operation :=
  [.acquire, .writeWeights (Program.namedGraph "x").weights,
    .writeOptimizer ⟨.constant, Single.one, Single.zero⟩]

/-- **A micro-batch that fails** after it has handed out one tensor. -/
theorem failsWith_of_execute_sample : ∃ d₀ d',
    backend.compile (Program.namedGraph "x") Program.namedKind .cpu = .ok d₀ ∧
    (d₀.after namedOperations).execute (Program.namedFeed "x") ["product", "missing"] =
      (.error (.notComputed "missing"), d') ∧
    FailsWith (d₀.after namedOperations) (Program.namedFeed "x") ["product", "missing"]
      (.notComputed "missing") d' ∧
    d' = { d₀.after namedOperations with weights := d'.weights } := by
  obtain ⟨d₀, compiled, tested⟩ := Outcome.exists_of_any_toOption
    (show (backend.compile (Program.namedGraph "x") Program.namedKind .cpu).toOption.any
      (fun d₀ => decide (((d₀.after namedOperations).execute (Program.namedFeed "x")
        ["product", "missing"]).1 = .error (.notComputed "missing"))) = true by decide +kernel)
  have failed := Prod.ext (y := (_, _)) (of_decide_eq_true tested) rfl
  obtain ⟨fails, same, -⟩ := failsWith_of_execute compiled namedOperations failed
  exact ⟨d₀, _, compiled, failed, fails, same⟩

/-- **A failed micro-batch that moves a weight.** The device is ready to train on the product of an
input and a weight, and is asked for a tensor that its program does not have. The micro-batch fails,
and the weight has moved from one to minus one. -/
theorem exists_moved_by_failure : ∃ d₀ d',
    backend.compile (Program.namedGraph "x") Program.namedKind .cpu = .ok d₀ ∧
    (d₀.after namedOperations).execute (Program.namedFeed "x") ["missing"] =
      (.error (.notComputed "missing"), d') ∧
    (d₀.after namedOperations).weights = some (.ofList [("w", ⟨⟨[1, 1]⟩, [Single.one]⟩)]) ∧
    d'.weights = some (.ofList [("w", ⟨⟨[1, 1]⟩, [⟨0xbf800000⟩]⟩)]) ∧
    d'.weights ≠ (d₀.after namedOperations).weights := by
  obtain ⟨d₀, compiled, tested⟩ := Outcome.exists_of_any_toOption
    (show (backend.compile (Program.namedGraph "x") Program.namedKind .cpu).toOption.any
      (fun d₀ =>
        let d := d₀.after namedOperations
        let ran := d.execute (Program.namedFeed "x") ["missing"]
        decide (ran.1 = .error (.notComputed "missing")) &&
        decide (d.weights = some (.ofList [("w", ⟨⟨[1, 1]⟩, [Single.one]⟩)])) &&
        decide (ran.2.weights = some (.ofList [("w", ⟨⟨[1, 1]⟩, [⟨0xbf800000⟩]⟩)])) &&
        decide (ran.2.weights ≠ d.weights)) = true by decide +kernel)
  simp only [Bool.and_eq_true, decide_eq_true_eq] at tested
  obtain ⟨⟨⟨failed, before⟩, behind⟩, moved⟩ := tested
  exact ⟨d₀, _, compiled, Prod.ext failed rfl, before, behind, moved⟩

end HostDevice

end Microbatch
