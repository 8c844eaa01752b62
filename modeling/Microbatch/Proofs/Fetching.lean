import Microbatch.Proofs.TrainedWeights

set_option relaxedAutoImplicit false
set_option autoImplicit false

/-!
# What a training device hands out

A training device hands out tensors and the gradients of trained weights. Both have names, and the
names are told apart by their first letters only. Under the name of a trained weight's gradient the
gradient is offered and handed out, whether a tensor has that name or not; under every other name
the tensor of the name is. So a tensor is shadowed exactly if it has the name of such a gradient.
Nothing keeps an input from having one: the results of nodes and losses are checked against the
names that are known, and the names of gradients are not.

## Main definitions

* `Microbatch.Program.NamesGradient` — the names of trained weights' gradients.
* `Microbatch.Program.ComputedFrom` — the values of one micro-batch.
* `Microbatch.Program.HandsOut` — what is handed out under a name.

## Main results

* `Microbatch.HostDevice.fetch_eq_ok_iff` — one wanted tensor.
* `Microbatch.Program.handsOut_of_compile` — all that is offered, and all that is wanted.
* `Microbatch.Program.exists_shadowed_input` — an input that is shadowed.
-/

namespace Microbatch

namespace Program

/-- **The name of the gradient of a trained weight.** -/
def NamesGradient (program : Program) (name : String) : Prop :=
  ∃ weight ∈ program.trainable, name = gradientName weight

/-- **The values of one micro-batch**: those of the weights and of what is fed, and what nodes and
losses make of them. -/
structure ComputedFrom (graph : Graph) (program : Program) (weights : NameMap Parameter)
    (feed : List (String × Tensor)) (values : Values Single) : Prop where
  /-- An input or a weight has the values of the weight, or else the numbers that are fed last. -/
  sources : ∀ name info, (Program.sources graph).find? name = some info →
    values.find? name = ((weights.find? name).map (·.values)).or
      (((NameMap.ofList feed).find? name).bind fun t => t.toSingles.toOption)
  /-- The result of a node has the values of its expression. -/
  nodes : ∀ node ∈ program.nodes, ∃ xs, node.expression.evaluate values = .ok xs ∧
    values.find? node.output = some xs
  /-- The result of a loss has its value. -/
  losses : ∀ loss ∈ program.losses, ∃ xs, values.find? loss.input = some xs ∧
    values.find? loss.output = some [loss.value xs]
  /-- These tensors have values, of the described sizes, and no others. -/
  typed : values.Typed program.infos

/-- **What is handed out under a name**, given values and gradients. -/
inductive HandsOut (program : Program) (values : Values Single) (gradients : Gradients Single) :
    String → Tensor → Prop where
  /-- Under the name of a trained weight's gradient, the gradient. -/
  | gradient {weight : String} {info : TensorInfo} {gradient : List Single}
      (trained : weight ∈ program.trainable) (described : program.infos.find? weight = some info)
      (found : gradients.find? weight = some gradient) :
      HandsOut program values gradients (gradientName weight) (.ofSingles info.shape gradient)
  /-- Under every other name, the tensor of the name. -/
  | tensor {name : String} {info : TensorInfo} {xs : List Single}
      (other : ¬ program.NamesGradient name) (described : program.infos.find? name = some info)
      (found : values.find? name = some xs) :
      HandsOut program values gradients name (.ofSingles info.shape xs)

end Program

namespace HostDevice

variable {program : Program} {values : Values Single} {gradients : Gradients Single}

/-- A name is taken as that of no gradient exactly if it is that of no trained weight's gradient. -/
lemma trainedGradient?_eq_none_iff {name : String} :
    trainedGradient? program name = none ↔ ¬ program.NamesGradient name := by
  constructor
  · rintro untaken ⟨weight, trained, rfl⟩
    rw [trainedGradient?_gradientName trained] at untaken
    cases untaken
  · intro other
    cases taken : trainedGradient? program name with
    | none => rfl
    | some weight =>
      obtain ⟨same, trained⟩ := trainedGradient?_eq_some taken
      exact absurd ⟨weight, trained, same⟩ other

/-- **One wanted tensor**: what is fetched is what is handed out, if every trained weight has a
gradient. -/
lemma fetch_eq_ok_iff (complete : program.GradientsComplete values gradients)
    (declared : Extends program.weights program.infos) {name : String} {t : Tensor} :
    fetch program values gradients name = .ok t ↔ program.HandsOut values gradients name t := by
  constructor
  · intro fetched
    unfold fetch at fetched
    split at fetched
    · rename_i weight taken
      obtain ⟨rfl, trained⟩ := trainedGradient?_eq_some taken
      obtain ⟨info, gradient, known, found, -⟩ := complete.trained weight trained
      have described := declared _ _ known
      simp only [fetchInfo, described, found, Outcome.ok_bind, Option.getD_some] at fetched
      cases fetched
      exact .gradient trained described found
    · rename_i untaken
      split at fetched
      · cases fetched
      · rename_i xs found
        obtain ⟨info, looked_up, fetched⟩ := Outcome.bind_eq_ok_iff.1 fetched
        cases fetched
        refine .tensor (trainedGradient?_eq_none_iff.1 untaken) ?_ found
        unfold fetchInfo at looked_up
        split at looked_up
        · rename_i described
          rwa [← Except.ok.inj looked_up]
        · cases looked_up
  · rintro (⟨trained, described, found⟩ | ⟨other, described, found⟩)
    · simp only [fetch, trainedGradient?_gradientName trained, fetchInfo, described, found]
      rfl
    · simp only [fetch, trainedGradient?_eq_none_iff.2 other, fetchInfo, described, found]
      rfl

end HostDevice

namespace Program

variable {graph : Graph} {kind : Kind} {program : Program}

/-- The values with which a loaded device ends a micro-batch are those of the micro-batch. -/
lemma computedFrom_of_forward (compiled : compile graph kind = .ok program)
    {weights : NameMap Parameter} {feed : List (String × Tensor)} {start values : Values Single}
    (started : HostDevice.startValues feed weights = .ok start)
    (ran : program.forward start = .ok values) (typed : values.Typed program.infos) :
    program.ComputedFrom graph weights feed values := by
  obtain ⟨infos, nodes, losses⟩ := typed_of_compile compiled
  obtain ⟨kept, of_nodes, of_losses⟩ := forward_eq_ok nodes losses ran
  refine ⟨fun name info source => ?_, of_nodes, of_losses, typed⟩
  rw [kept name info source, HostDevice.find?_of_startValues started]

/-- Something is handed out under every name that is offered. -/
lemma GradientsComplete.exists_handsOut {values : Values Single} {gradients : Gradients Single}
    (complete : program.GradientsComplete values gradients)
    (declared : Extends program.weights program.infos) (typed : values.Typed program.infos)
    {name : String} {info : TensorInfo}
    (offered : program.infos.find? ((HostDevice.trainedGradient? program name).getD name) =
      some info) : ∃ t, program.HandsOut values gradients name t := by
  cases taken : HostDevice.trainedGradient? program name with
  | some weight =>
    obtain ⟨rfl, trained⟩ := HostDevice.trainedGradient?_eq_some taken
    obtain ⟨info, gradient, known, found, -⟩ := complete.trained weight trained
    exact ⟨_, .gradient trained (declared _ _ known) found⟩
  | none =>
    rw [taken] at offered
    obtain ⟨xs, found, -⟩ := typed.find? offered
    exact ⟨_, .tensor (HostDevice.trainedGradient?_eq_none_iff.1 taken) offered found⟩

/-- **What is offered and what is handed out.** Take any graph that compiles, whatever the names of
its tensors are.

Under every name that is not that of a trained weight's gradient, the tensor of the name is offered
as it is described; under the name of such a gradient, the gradient is, and it is described like the
weight. A training device with its weights, an optimizer and all inputs computes values and
gradients. From these it returns, for any wanted names, exactly what is to be handed out under each
of them: the gradient of the weight under the name of a trained weight's gradient, and the value of
the tensor under every other name. It does return if all wanted names are offered.

**Proof sketch.** Compilation puts the gradients over the tensors, in the same way as fetching looks
for a gradient first. Every trained weight has a gradient, so that nothing is made up. -/
theorem handsOut_of_compile (compiled : compile graph kind = .ok program) :
    (∀ name, ¬ program.NamesGradient name →
      program.signature.outputs.find? name = program.infos.find? name) ∧
    (∀ weight ∈ program.trainable, ∃ info, program.weights.find? weight = some info ∧
      program.infos.find? weight = some info ∧
      program.signature.outputs.find? (gradientName weight) = some info) ∧
    ∀ (d : HostDevice) weights optimizer feed, HostDevice.Loaded program weights d →
      d.training = true → d.optimizer = some optimizer →
      HostDevice.Supplies program.signature.inputs feed → ∃ values gradients,
        program.ComputedFrom graph weights feed values ∧
        program.backward values = .ok gradients ∧
        (∀ wanted tensors, (d.execute feed wanted).1 = .ok tensors ↔
          List.Forall₂ (program.HandsOut values gradients) wanted tensors) ∧
        ∀ wanted, (∀ name ∈ wanted, ∃ info, program.signature.outputs.find? name = some info) →
          ∃ tensors, (d.execute feed wanted).1 = .ok tensors := by
  obtain ⟨_, _, _, -, -, -, -, -, -, -, -, signature⟩ := compile_eq_ok compiled
  have declared := extends_weights_of_compile compiled
  have described :
      ∀ weight ∈ program.trainable, ∃ info, program.infos.find? weight = some info := by
    intro weight trained
    obtain ⟨info, known⟩ := weight_of_mem_trainable compiled trained
    exact ⟨info, declared _ _ known⟩
  have offers : ∀ name, program.signature.outputs.find? name =
      program.infos.find? ((HostDevice.trainedGradient? program name).getD name) := by
    intro name
    rw [signature]
    exact find?_outputs described name
  refine ⟨fun name other => ?_, fun weight trained => ?_,
    fun d weights optimizer feed loaded trains held fed => ?_⟩
  · rw [offers, HostDevice.trainedGradient?_eq_none_iff.2 other]
    rfl
  · obtain ⟨info, known⟩ := weight_of_mem_trainable compiled trained
    refine ⟨info, known, declared _ _ known, ?_⟩
    rw [offers, HostDevice.trainedGradient?_gradientName trained]
    exact declared _ _ known
  · obtain ⟨start, values, gradients, started, ran, ran_back, typed⟩ :=
      loaded.exists_sweeps compiled fed
    obtain ⟨infos, nodes, losses⟩ := typed_of_compile compiled
    obtain ⟨gradients', ran_back', typed_gradients⟩ := exists_backward nodes losses typed
    obtain rfl : gradients' = gradients := Except.ok.inj (ran_back'.symm.trans ran_back)
    have complete := gradientsComplete_of_typed compiled ran_back typed_gradients
    have executed := loaded.execute_of_training trains held started ran ran_back
    refine ⟨values, gradients', computedFrom_of_forward compiled started ran typed, ran_back,
      fun wanted tensors => ?_, fun wanted offered => ?_⟩
    · simp only [executed, Outcome.mapM_eq_ok_iff, HostDevice.fetch_eq_ok_iff complete declared]
    · rw [executed]
      apply Outcome.exists_mapM_eq_ok
      intro name member
      obtain ⟨info, found⟩ := offered name member
      rw [offers] at found
      obtain ⟨t, handed_out⟩ := complete.exists_handsOut declared typed found
      exact ⟨t, (HostDevice.fetch_eq_ok_iff complete declared).2 handed_out⟩

/-! ### An input with the name of a gradient -/

/-- A product of an input and a weight. -/
def namedGraph (input : String) : Graph where
  model := Exchange.ModelMessage.encode { graph := some { nodes :=
    [{ inputs := [input, "w"], outputs := ["product"], operation := "MatMul" }] } }
  inputs := .ofList [(input, .float32 [2, 1])]
  weights := .ofList [("w", .ofSingles ⟨[1, 1]⟩ [Single.one])]

/-- Training on the product. -/
def namedKind : Kind :=
  .training [⟨"product", "loss", Single.one, .sum⟩] ⟨.constant, Single.one, Single.zero⟩

/-- What is fed. -/
def namedFeed (input : String) : List (String × Tensor) :=
  [(input, .ofSingles ⟨[2, 1]⟩ [Single.one, Single.one])]

/-- A device that trains a program of the graph. -/
def namedDevice (program : Program) : HostDevice where
  target := .cpu
  program := program
  training := true
  attached := true
  weights := some forkWeights
  optimizer := some ⟨.constant, Single.one, Single.zero⟩

/-- **Tensors and gradients apart**: with an ordinary name for the input, both are handed out. -/
theorem handsOut_of_compile_sample : ∃ program values gradients tensors,
    compile (namedGraph "x") namedKind = .ok program ∧
    program.ComputedFrom (namedGraph "x") forkWeights (namedFeed "x") values ∧
    program.backward values = .ok gradients ∧
    ((namedDevice program).execute (namedFeed "x") ["x", "w", "product", "loss", "d__w"]).1 =
      .ok tensors ∧
    List.Forall₂ (program.HandsOut values gradients) ["x", "w", "product", "loss", "d__w"] tensors ∧
    program.NamesGradient "d__w" ∧ ¬ program.NamesGradient "x" := by
  obtain ⟨program, compiled, tested⟩ := Outcome.exists_of_any_toOption
    (show (compile (namedGraph "x") namedKind).toOption.any (fun program : Program =>
      decide (HostDevice.described forkWeights = program.weights) &&
      decide (HostDevice.Supplies program.signature.inputs (namedFeed "x")) &&
      decide (program.trainable = ["w"]) &&
      decide (∀ name ∈ ["x", "w", "product", "loss", "d__w"],
        (program.signature.outputs.find? name).isSome)) = true by decide +kernel)
  simp only [Bool.and_eq_true, decide_eq_true_eq] at tested
  obtain ⟨⟨⟨declared, supplied⟩, trainable⟩, offered⟩ := tested
  have loaded : HostDevice.Loaded program forkWeights (namedDevice program) :=
    ⟨rfl, rfl, rfl, declared, by decide +kernel⟩
  obtain ⟨-, -, runs⟩ := handsOut_of_compile compiled
  obtain ⟨values, gradients, computed, ran_back, returned, returns⟩ :=
    runs _ _ _ _ loaded rfl rfl supplied
  obtain ⟨tensors, executed⟩ := returns _ fun name member =>
    Option.isSome_iff_exists.1 (offered name member)
  refine ⟨program, values, gradients, tensors, compiled, computed, ran_back, executed,
    (returned _ _).1 executed, ⟨"w", by simp [trainable], rfl⟩, ?_⟩
  rintro ⟨weight, trained, same⟩
  rw [trainable, List.mem_singleton] at trained
  rw [trained] at same
  exact absurd same (by decide)

/-- **An input with the name of a gradient is shadowed.** The graph compiles, although its input has
the name of the gradient of its weight. What is offered under the name is the gradient, of another
shape than the input, and the gradient is what a device returns instead of what it was fed. -/
theorem exists_shadowed_input : ∃ program values,
    compile (namedGraph "d__w") namedKind = .ok program ∧ namedKind.isTraining = true ∧
    (namedGraph "d__w").inputs.find? "d__w" = some (.float32 [2, 1]) ∧
    program.infos.find? "d__w" = some (.float32 [2, 1]) ∧
    program.signature.outputs.find? "d__w" = some (.float32 [1, 1]) ∧
    HostDevice.Loaded program forkWeights (namedDevice program) ∧
    HostDevice.Supplies program.signature.inputs (namedFeed "d__w") ∧
    (HostDevice.startValues (namedFeed "d__w") forkWeights >>= program.forward) = .ok values ∧
    values.find? "d__w" = some [Single.one, Single.one] ∧
    ((namedDevice program).execute (namedFeed "d__w") ["d__w"]).1 =
      .ok [.ofSingles ⟨[1, 1]⟩ [⟨0x40000000⟩]] := by
  obtain ⟨program, compiled, tested⟩ := Outcome.exists_of_any_toOption
    (show (compile (namedGraph "d__w") namedKind).toOption.any (fun program : Program =>
      decide (program.infos.find? "d__w" = some (.float32 [2, 1])) &&
      decide (program.signature.outputs.find? "d__w" = some (.float32 [1, 1])) &&
      decide (HostDevice.described forkWeights = program.weights) &&
      decide (HostDevice.Supplies program.signature.inputs (namedFeed "d__w")) &&
      ((HostDevice.startValues (namedFeed "d__w") forkWeights >>= program.forward).toOption.any
        fun values => decide (values.find? "d__w" = some [Single.one, Single.one])) &&
      decide (((namedDevice program).execute (namedFeed "d__w") ["d__w"]).1.toOption =
        some [.ofSingles ⟨[1, 1]⟩ [⟨0x40000000⟩]])) = true by decide +kernel)
  simp only [Bool.and_eq_true, decide_eq_true_eq] at tested
  obtain ⟨⟨⟨⟨⟨described, offered⟩, declared⟩, supplied⟩, computed⟩, returned⟩ := tested
  obtain ⟨values, ran, fed⟩ := Outcome.exists_of_any_toOption computed
  exact ⟨program, values, compiled, rfl, rfl, described, offered,
    ⟨rfl, rfl, rfl, declared, by decide +kernel⟩, supplied, ran, of_decide_eq_true fed,
    Outcome.toOption_eq_some_iff.1 returned⟩

end Program

end Microbatch
