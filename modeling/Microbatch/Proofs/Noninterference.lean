import Microbatch.Proofs.Dependence
import Microbatch.Proofs.Execution
import Microbatch.Proofs.Observers

set_option relaxedAutoImplicit false
set_option autoImplicit false

/-!
# What does not lead to a loss does not interfere

Two devices that train the same program may hold different weights and be fed different tensors. As
long as these agree where some loss depends on them, both devices see the same losses and the same
gradients and make the same steps, for as long as they train. And training never touches a weight
that no loss depends on.

The reason is the same on the way forward and on the way back: the tensors that some loss depends on
are closed under what the nodes read. So two sweeps that begin with the same values there have the
same values there all along, and gradients stay among them.

## Main definitions

* `Microbatch.AgreeOn` — maps with the same values for some names.
* `Microbatch.HostDevice.Alike`, `Microbatch.HostDevice.FedAlike` — devices and feeds that agree
  where some loss depends on them.
* `Microbatch.HostDevice.executed` — a device after some micro-batches.

## Main results

* `Microbatch.Program.agreeOn_forward`, `Microbatch.Program.backward_congr` — one sweep forward, one
  sweep back.
* `Microbatch.HostDevice.Alike.execute` — one micro-batch.
* `Microbatch.HostDevice.weight?_executed` — weights that no loss depends on stay.
* `Microbatch.HostDevice.noninterference` — all micro-batches.
-/

namespace Microbatch

/-! ### Agreement -/

section Agreement

variable {α : Type} {S : String → Prop} {m m' : NameMap α}

/-- **Maps with the same values for some names.** -/
def AgreeOn (S : String → Prop) (m m' : NameMap α) : Prop :=
  ∀ name, S name → m'.find? name = m.find? name

/-- The same new value is agreed on as well. -/
lemma AgreeOn.insert (agree : AgreeOn S m m') (name : String) (value : α) :
    AgreeOn (fun other => S other ∨ other = name) (m.insert name value) (m'.insert name value) := by
  intro other member
  rw [NameMap.find?_insert, NameMap.find?_insert]
  by_cases here : other = name
  · rw [if_pos here, if_pos here]
  · rw [if_neg here, if_neg here]
    exact agree other (member.resolve_right here)

/-- New values under another name do not matter. -/
lemma AgreeOn.insert_apart (agree : AgreeOn S m m') {name : String} (apart : ¬ S name)
    (value value' : α) : AgreeOn S (m.insert name value) (m'.insert name value') := by
  intro other member
  have ne : other ≠ name := by
    rintro rfl
    exact apart member
  rw [NameMap.find?_insert_of_ne _ ne, NameMap.find?_insert_of_ne _ ne]
  exact agree other member

lemma AgreeOn.mapValues {β : Type} (agree : AgreeOn S m m') (f : String → α → β) :
    AgreeOn S (m.mapValues f) (m'.mapValues f) := by
  intro name member
  rw [NameMap.find?_mapValues, NameMap.find?_mapValues, agree name member]

lemma AgreeOn.mono {T : String → Prop} (agree : AgreeOn S m m') (below : ∀ name, T name → S name) :
    AgreeOn T m m' :=
  fun name member => agree name (below name member)

end Agreement

/-! ### One sweep forward and one sweep back -/

section Sweeps

variable {F : Type} [Scalar F] {S : String → Prop} {values values' : Values F}

omit [Scalar F] in
lemma AgreeOn.read (agree : AgreeOn S values values') {name : String} (member : S name) :
    values'.read name = values.read name := by
  rw [Values.read, Values.read, agree name member]

namespace Program

/-- **Nodes keep agreement**, if it is closed under what they read. -/
lemma agreeOn_runNodes {nodes : List Node}
    (closed : ∀ node ∈ nodes, S node.output → ∀ name ∈ node.expression.inputs, S name)
    (agree : AgreeOn S values values') {next next' : Values F}
    (ran : nodes.foldlM runNode values = .ok next)
    (ran' : nodes.foldlM runNode values' = .ok next') : AgreeOn S next next' := by
  induction nodes generalizing values values' with
  | nil =>
    cases ran
    cases ran'
    exact agree
  | cons node rest ih =>
    obtain ⟨closed_first, closed_rest⟩ := List.forall_mem_cons.1 closed
    rw [List.foldlM_cons] at ran ran'
    obtain ⟨between, first, ran⟩ := Outcome.bind_eq_ok_iff.1 ran
    obtain ⟨between', first', ran'⟩ := Outcome.bind_eq_ok_iff.1 ran'
    obtain ⟨xs, computed, inserted⟩ := Outcome.bind_eq_ok_iff.1 first
    obtain ⟨xs', computed', inserted'⟩ := Outcome.bind_eq_ok_iff.1 first'
    cases inserted
    cases inserted'
    refine ih closed_rest ?_ ran ran'
    by_cases member : S node.output
    · have same_reads : node.expression.evaluate values' = node.expression.evaluate values :=
        Expression.evaluate_congr fun name read => agree name (closed_first member name read)
      obtain rfl : xs' = xs := by
        rw [same_reads, computed] at computed'
        exact (Except.ok.inj computed').symm
      exact (agree.insert node.output xs').mono fun name => .inl
    · exact agree.insert_apart member xs xs'

/-- **Losses that read what is agreed on are agreed on.** -/
lemma agreeOn_runLosses {losses : List Loss} (reads : ∀ loss ∈ losses, S loss.input)
    (agree : AgreeOn S values values') {next next' : Values F}
    (ran : losses.foldlM runLoss values = .ok next)
    (ran' : losses.foldlM runLoss values' = .ok next') :
    AgreeOn (fun name => S name ∨ name ∈ losses.map (·.output)) next next' := by
  induction losses generalizing S values values' with
  | nil =>
    cases ran
    cases ran'
    exact agree.mono fun name member => member.resolve_right (by simp)
  | cons loss rest ih =>
    obtain ⟨reads_first, reads_rest⟩ := List.forall_mem_cons.1 reads
    rw [List.foldlM_cons] at ran ran'
    obtain ⟨between, first, ran⟩ := Outcome.bind_eq_ok_iff.1 ran
    obtain ⟨between', first', ran'⟩ := Outcome.bind_eq_ok_iff.1 ran'
    rw [runLoss, agree.read reads_first] at first'
    obtain ⟨xs, read, inserted⟩ := Outcome.bind_eq_ok_iff.1 first
    rw [read] at first'
    cases inserted
    cases first'
    have later := ih (fun other member => .inl (reads_rest other member))
      (agree.insert loss.output [loss.value xs]) ran ran'
    apply later.mono
    intro name member
    rw [List.map_cons, List.mem_cons] at member
    rwa [or_assoc]

variable {program : Program}

/-- **Sweeps forward that begin with the same values where some loss depends on them** end with the
same values there, and with the same losses. -/
lemma agreeOn_forward {start start' : Values F} (agree : AgreeOn program.ReachesLoss start start')
    (ran : program.forward start = .ok values) (ran' : program.forward start' = .ok values') :
    AgreeOn (fun name => program.ReachesLoss name ∨ name ∈ program.losses.map (·.output))
      values values' := by
  obtain ⟨between, ran_nodes, ran_losses⟩ := Outcome.bind_eq_ok_iff.1 ran
  obtain ⟨between', ran_nodes', ran_losses'⟩ := Outcome.bind_eq_ok_iff.1 ran'
  have behind_nodes := agreeOn_runNodes
    (fun node member reaches name read => reaches.of_output member read) agree ran_nodes ran_nodes'
  exact agreeOn_runLosses (fun loss member => reachesLoss_input member) behind_nodes ran_losses
    ran_losses'

end Program

/-- What an expression hands back depends on what it reads only. -/
lemma Expression.handBack_congr {e : Expression}
    (h : ∀ name ∈ e.inputs, values'.find? name = values.find? name) (gradient : List F)
    (gradients : Gradients F) :
    e.handBack values' gradient gradients = e.handBack values gradient gradients := by
  have read : ∀ name ∈ e.inputs, values'.read name = values.read name := by
    intro name member
    rw [Values.read, Values.read, h name member]
  cases e <;> simp_all [Expression.handBack, Expression.inputs]

namespace Program

variable {program : Program}

/-- Losses that read the same seed the same. -/
lemma seeds_congr {losses : List Loss} (reads : ∀ loss ∈ losses, S loss.input)
    (agree : AgreeOn S values values') (gradients : Gradients F) :
    losses.foldlM (fun g loss => loss.seed values' g) gradients =
      losses.foldlM (fun g loss => loss.seed values g) gradients := by
  induction losses generalizing gradients with
  | nil => rfl
  | cons loss rest ih =>
    obtain ⟨reads_first, reads_rest⟩ := List.forall_mem_cons.1 reads
    have first : loss.seed values' gradients = loss.seed values gradients := by
      rw [Loss.seed, Loss.seed, agree.read reads_first]
    rw [List.foldlM_cons, List.foldlM_cons, first]
    congr 1
    funext next
    exact ih reads_rest next

/-- **Nodes hand the same back**, and to what is agreed on only, if gradients have reached only what
is agreed on. -/
lemma handBack_congr {nodes : List Node}
    (closed : ∀ node ∈ nodes, S node.output → ∀ name ∈ node.expression.inputs, S name)
    (agree : AgreeOn S values values') {seeds : Gradients F}
    (inside : ∀ name, seeds.contains name = true → S name) :
    nodes.foldrM (fun node g => node.handBack values' g) seeds =
        nodes.foldrM (fun node g => node.handBack values g) seeds ∧
      ∀ gradients, nodes.foldrM (fun node g => node.handBack values g) seeds = .ok gradients →
        ∀ name, gradients.contains name = true → S name := by
  induction nodes with
  | nil =>
    refine ⟨rfl, ?_⟩
    intro gradients ran
    cases ran
    exact inside
  | cons node rest ih =>
    obtain ⟨closed_first, closed_rest⟩ := List.forall_mem_cons.1 closed
    obtain ⟨same_rest, inside_rest⟩ := ih closed_rest
    rw [List.foldrM_cons, List.foldrM_cons, same_rest]
    cases ran_rest : rest.foldrM (fun node g => node.handBack values g) seeds with
    | error cause =>
      refine ⟨rfl, ?_⟩
      intro gradients impossible
      cases impossible
    | ok between =>
      have inside_between := inside_rest between ran_rest
      rw [Outcome.ok_bind, Outcome.ok_bind]
      unfold Node.handBack
      cases found : between.find? node.output with
      | none =>
        refine ⟨rfl, ?_⟩
        intro gradients ran
        cases ran
        exact inside_between
      | some gradient =>
        have reached : S node.output :=
          inside_between _ (by rw [NameMap.contains, found]; rfl)
        have inputs := closed_first reached
        refine ⟨Expression.handBack_congr (fun name read => agree name (inputs name read)) _ _, ?_⟩
        intro gradients handed name member
        rcases (Expression.contains_handBack handed).1 member with read | before
        · exact inputs name read
        · exact inside_between name before

/-- **Sweeps back through values that agree where some loss depends on them are the same.** -/
lemma backward_congr (agree : AgreeOn program.ReachesLoss values values') :
    program.backward values' = program.backward values := by
  have reads : ∀ loss ∈ program.losses, program.ReachesLoss loss.input :=
    fun loss member => reachesLoss_input member
  rw [backward, backward, seeds_congr reads agree]
  cases seeded : program.losses.foldlM (fun g loss => loss.seed values g) .empty with
  | error cause => rfl
  | ok seeds =>
    rw [Outcome.ok_bind, Outcome.ok_bind]
    refine (handBack_congr ?_ agree ?_).1
    · intro node member reaches name read
      exact reaches.of_output member read
    · intro name member
      rcases (contains_seeds seeded).1 member with read | impossible
      · obtain ⟨loss, here, rfl⟩ := List.mem_map.1 read
        exact reads loss here
      · cases impossible

end Program

end Sweeps

/-! ### Two devices -/

namespace HostDevice

/-- **Two devices that train one program with one optimizer**, each with weights of the declared
sizes, and with the same weights where some loss depends on them. -/
structure Alike (program : Program) (d d' : HostDevice) : Prop where
  /-- Both have the program and its weights. -/
  loaded : ∃ weights weights', Loaded program weights d ∧ Loaded program weights' d' ∧
    AgreeOn program.ReachesLoss weights weights'
  /-- Both train. -/
  training : d.training = true ∧ d'.training = true
  /-- Both have the optimizer. -/
  optimizer : ∃ optimizer, d.optimizer = some optimizer ∧ d'.optimizer = some optimizer

/-- **Two feeds for all inputs**, with the same tensors where some loss depends on them. -/
structure FedAlike (program : Program) (feed feed' : List (String × Tensor)) : Prop where
  /-- The one supplies all inputs. -/
  supplies_left : Supplies program.signature.inputs feed
  /-- The other supplies all inputs. -/
  supplies_right : Supplies program.signature.inputs feed'
  /-- Both agree. -/
  agree : AgreeOn program.ReachesLoss (.ofList feed) (.ofList feed')

/-- **What training is watched by**: the losses, and the gradients of the trained weights. -/
def IsResult (program : Program) (name : String) : Prop :=
  name ∈ program.losses.map (·.output) ∨ ∃ weight ∈ program.trainable, name = gradientName weight

variable {graph : Graph} {kind : Kind} {program : Program} {d d' : HostDevice}
  {feed feed' : List (String × Tensor)}

/-- Both devices start with the same values where some loss depends on them. -/
lemma agreeOn_startValues (fed : FedAlike program feed feed') {weights weights' : NameMap Parameter}
    (agree : AgreeOn program.ReachesLoss weights weights') {start start' : Values Single}
    (started : startValues feed weights = .ok start)
    (started' : startValues feed' weights' = .ok start') :
    AgreeOn program.ReachesLoss start start' := by
  intro name reaches
  rw [find?_of_startValues started, find?_of_startValues started', agree name reaches,
    fed.agree name reaches]

/-- A loaded device that is fed all inputs runs forward and back. -/
lemma Loaded.exists_sweeps (compiled : Program.compile graph kind = .ok program)
    {weights : NameMap Parameter} (loaded : Loaded program weights d)
    (supplied : Supplies program.signature.inputs feed) : ∃ start values gradients,
      startValues feed weights = .ok start ∧ program.forward start = .ok values ∧
      program.backward values = .ok gradients ∧ values.Typed program.infos := by
  obtain ⟨start, started, typed⟩ := startValues_typed supplied loaded.sized
  rw [loaded.declared, ← Program.sources_eq_of_compile compiled] at typed
  obtain ⟨infos, nodes, losses⟩ := Program.typed_of_compile compiled
  obtain ⟨values, gradients, ran, ran_back, typed_values, -⟩ :=
    Program.exists_sweeps nodes losses typed
  exact ⟨start, values, gradients, started, ran, ran_back, typed_values⟩

/-- What a training device does that has run forward and back. -/
lemma Loaded.execute_of_training {weights : NameMap Parameter} (loaded : Loaded program weights d)
    (training : d.training = true) {optimizer : Optimizer} (held : d.optimizer = some optimizer)
    {start values : Values Single} {gradients : Gradients Single}
    (started : startValues feed weights = .ok start) (ran : program.forward start = .ok values)
    (ran_back : program.backward values = .ok gradients) (wanted : List String) :
    execute feed wanted d = (wanted.mapM (fetch program values gradients),
      { d with weights := some (descend program.trainable optimizer gradients weights) }) := by
  have forward : (startValues feed weights >>= program.forward) = .ok values := by
    rw [started]
    exact ran
  unfold execute
  simp only [loaded.attached, loaded.program_eq, loaded.weights_eq, training, held, forward,
    ran_back]
  rfl

/-- A step of descent leaves a loaded device. -/
lemma Loaded.descend {weights : NameMap Parameter} (loaded : Loaded program weights d)
    (optimizer : Optimizer) (gradients : Gradients Single) :
    Loaded program (HostDevice.descend program.trainable optimizer gradients weights)
      { d with
        weights := some (HostDevice.descend program.trainable optimizer gradients weights) } := by
  have step : Descends program weights
      (HostDevice.descend program.trainable optimizer gradients weights) :=
    ⟨optimizer, gradients, rfl⟩
  exact ⟨loaded.attached, loaded.program_eq, rfl, step.described_eq.trans loaded.declared,
    step.sized loaded.sized⟩

/-- Every result can be handed out. -/
lemma exists_fetch_of_isResult (compiled : Program.compile graph kind = .ok program)
    {values : Values Single} (typed : values.Typed program.infos) (gradients : Gradients Single)
    {name : String} (result : IsResult program name) :
    ∃ t, fetch program values gradients name = .ok t := by
  obtain ⟨infos, nodes, losses⟩ := Program.typed_of_compile compiled
  unfold fetch
  cases trained : trainedGradient? program name with
  | some weight =>
    obtain ⟨-, member⟩ := trainedGradient?_eq_some trained
    obtain ⟨info, weight_known⟩ := Program.weight_of_mem_trainable compiled member
    have known := Program.extends_weights_of_compile compiled _ _ weight_known
    simp only [fetchInfo, known]
    exact ⟨_, rfl⟩
  | none =>
    obtain ⟨info, known⟩ : ∃ info, program.infos.find? name = some info := by
      rcases result with output | ⟨weight, member, rfl⟩
      · obtain ⟨loss, member, rfl⟩ := List.mem_map.1 output
        exact ⟨_, losses.find?_output member⟩
      · rw [trainedGradient?_gradientName member] at trained
        cases trained
    obtain ⟨data, found, -⟩ := typed.find? known
    simp only [found, fetchInfo, known]
    exact ⟨_, rfl⟩

/-- Results are the same under values that agree on the losses. -/
lemma fetch_congr {values values' : Values Single}
    (agree : AgreeOn (fun name => name ∈ program.losses.map (·.output)) values values')
    (gradients : Gradients Single) {name : String} (result : IsResult program name) :
    fetch program values' gradients name = fetch program values gradients name := by
  unfold fetch
  cases trained : trainedGradient? program name with
  | some weight => rfl
  | none =>
    rcases result with output | ⟨weight, member, rfl⟩
    · rw [agree name output]
    · rw [trainedGradient?_gradientName member] at trained
      cases trained

/-- **One micro-batch on both devices.** -/
lemma Alike.execute (compiled : Program.compile graph kind = .ok program)
    (alike : Alike program d d') (fed : FedAlike program feed feed') :
    ∃ find find' : String → Except DeviceFault Tensor,
      (∀ wanted, (HostDevice.execute feed wanted d).1 = wanted.mapM find) ∧
      (∀ wanted, (HostDevice.execute feed' wanted d').1 = wanted.mapM find') ∧
      (∀ name, IsResult program name → find' name = find name ∧ ∃ t, find name = .ok t) ∧
      ∀ wanted wanted', Alike program (HostDevice.execute feed wanted d).2
        (HostDevice.execute feed' wanted' d').2 := by
  obtain ⟨weights, weights', loaded, loaded', agree⟩ := alike.loaded
  obtain ⟨training, training'⟩ := alike.training
  obtain ⟨optimizer, held, held'⟩ := alike.optimizer
  obtain ⟨start, values, gradients, started, ran, ran_back, typed⟩ :=
    loaded.exists_sweeps compiled fed.supplies_left
  obtain ⟨start', values', gradients', started', ran', ran_back', -⟩ :=
    loaded'.exists_sweeps compiled fed.supplies_right
  have same_values := Program.agreeOn_forward (agreeOn_startValues fed agree started started')
    ran ran'
  obtain rfl : gradients' = gradients := by
    rw [Program.backward_congr (same_values.mono fun name => .inl), ran_back] at ran_back'
    exact (Except.ok.inj ran_back').symm
  have executed := loaded.execute_of_training training held started ran ran_back
  have executed' := loaded'.execute_of_training training' held' started' ran' ran_back'
  refine ⟨fetch program values gradients', fetch program values' gradients', ?_, ?_, ?_, ?_⟩
  · intro wanted
    rw [executed]
  · intro wanted
    rw [executed']
  · intro name result
    exact ⟨fetch_congr (same_values.mono fun name => .inr) gradients' result,
      exists_fetch_of_isResult compiled typed gradients' result⟩
  · intro wanted wanted'
    rw [executed, executed']
    exact ⟨⟨_, _, loaded.descend optimizer gradients', loaded'.descend optimizer gradients',
      agree.mapValues _⟩, alike.training, alike.optimizer⟩

/-! ### Many micro-batches -/

/-- **A micro-batch**: what is fed, and what is wanted. -/
structure Batch where
  /-- The named tensors that are fed. -/
  feed : List (String × Tensor)
  /-- The names of the wanted tensors. -/
  wanted : List String

/-- **A device after some micro-batches**, whether these fail or not. -/
def executed (d : HostDevice) (batches : List Batch) : HostDevice :=
  batches.foldl (fun d b => (d.execute b.feed b.wanted).2) d

/-- One weight on a device. -/
def weight? (d : HostDevice) (name : String) : Option Parameter :=
  d.weights.bind fun weights => weights.find? name

/-- **Devices that agree still agree after micro-batches** that agree. -/
lemma Alike.executed (compiled : Program.compile graph kind = .ok program)
    (alike : Alike program d d') {batches batches' : List Batch}
    (fed : List.Forall₂ (fun b b' => FedAlike program b.feed b'.feed) batches batches') :
    Alike program (d.executed batches) (d'.executed batches') := by
  induction fed generalizing d d' with
  | nil => exact alike
  | @cons b b' _ _ first _ ih =>
    obtain ⟨_, _, -, -, -, again⟩ := alike.execute compiled first
    exact ih (again b.wanted b'.wanted)

/-- Devices that agree have every trained weight, with the same values. -/
lemma Alike.weight?_eq (compiled : Program.compile graph kind = .ok program)
    (alike : Alike program d d') {name : String} (trained : name ∈ program.trainable) :
    ∃ p, d.weight? name = some p ∧ d'.weight? name = some p := by
  obtain ⟨weights, weights', loaded, loaded', agree⟩ := alike.loaded
  obtain ⟨info, declared⟩ := Program.weight_of_mem_trainable compiled trained
  rw [← loaded.declared, described, NameMap.find?_mapValues, Option.map_eq_some_iff] at declared
  obtain ⟨p, found, -⟩ := declared
  have found' := agree name (Program.reachesLoss_of_mem_trainable compiled trained)
  refine ⟨p, ?_, ?_⟩
  · rw [weight?, loaded.weights_eq]
    exact found
  · rw [weight?, loaded'.weights_eq]
    exact found'.trans found

/-- A micro-batch leaves the weights that are not trained. -/
lemma weight?_execute (d : HostDevice) (feed : List (String × Tensor)) (wanted : List String)
    {name : String} (untrained : name ∉ d.program.trainable) :
    (d.execute feed wanted).2.weight? name = d.weight? name := by
  unfold HostDevice.execute
  split
  · rfl
  split
  · rfl
  rename_i weights held
  split
  · rfl
  split
  · split
    · rfl
    split
    · rfl
    · rw [weight?, weight?, held, Option.bind_some, Option.bind_some, HostDevice.descend,
        NameMap.find?_mapValues]
      cases weights.find? name <;> simp [untrained]
  · rfl

/-- **Micro-batches leave the weights that are not trained**, whatever is fed and however they end.
-/
lemma weight?_executed {d : HostDevice} (batches : List Batch) {name : String}
    (untrained : name ∉ d.program.trainable) :
    (d.executed batches).weight? name = d.weight? name := by
  induction batches generalizing d with
  | nil => rfl
  | cons b rest ih =>
    have same_program := (ran_execute b.feed b.wanted d).program_eq
    have later := ih (d := (d.execute b.feed b.wanted).2) (by rwa [same_program])
    exact later.trans (weight?_execute d b.feed b.wanted untrained)

/-- **What does not lead to a loss does not interfere.** Take a compiled program and two devices
that train it with one optimizer, whose weights are of the declared sizes and the same where some
loss depends on them. Let both run micro-batches whose feeds are of the declared sizes and the same
where some loss depends on them. Then the devices still agree afterwards, in particular on all
trained weights; and in the next such micro-batch both return the same losses and the same gradients
of trained weights, whatever else is wanted of either.

A weight that no loss depends on stays as it is on every device with the program, whatever the
device holds and is fed; in an inference program all weights do.

**Proof sketch.** What losses depend on is closed under what nodes read. So both sweeps forward have
the same values there, both sweeps back are the same, and so are the steps of all weights there. -/
theorem noninterference (compiled : Program.compile graph kind = .ok program) :
    (∀ d d', Alike program d d' → ∀ batches batches',
      List.Forall₂ (fun b b' => FedAlike program b.feed b'.feed) batches batches' →
        Alike program (d.executed batches) (d'.executed batches') ∧
        (∀ name ∈ program.trainable, ∃ p, (d.executed batches).weight? name = some p ∧
          (d'.executed batches').weight? name = some p) ∧
        ∀ feed feed', FedAlike program feed feed' →
          (∀ wanted, (∀ name ∈ wanted, IsResult program name) → ∃ tensors,
            ((d.executed batches).execute feed wanted).1 = .ok tensors ∧
            ((d'.executed batches').execute feed' wanted).1 = .ok tensors) ∧
          ∀ wanted wanted' tensors tensors',
            ((d.executed batches).execute feed wanted).1 = .ok tensors →
            ((d'.executed batches').execute feed' wanted').1 = .ok tensors' →
            ∀ (i j : Nat) name, wanted[i]? = some name → wanted'[j]? = some name →
              IsResult program name → tensors'[j]? = tensors[i]?) ∧
    ∀ d : HostDevice, d.program = program → ∀ name,
      (kind.isTraining = true → ¬ program.ReachesLoss name) → ∀ batches,
        (d.executed batches).weight? name = d.weight? name := by
  constructor
  · intro d d' alike batches batches' fed
    have later := alike.executed compiled fed
    refine ⟨later, fun name trained => later.weight?_eq compiled trained, ?_⟩
    intro feed feed' fed_next
    obtain ⟨find, find', executed, executed', results, -⟩ := later.execute compiled fed_next
    constructor
    · intro wanted all
      obtain ⟨tensors, found⟩ :=
        Outcome.exists_mapM_eq_ok fun name member => (results name (all name member)).2
      refine ⟨tensors, (executed wanted).trans found, (executed' wanted).trans ?_⟩
      rw [← found]
      exact Outcome.mapM_congr fun name member => (results name (all name member)).1
    · intro wanted wanted' tensors tensors' returned returned' i j name hi hj result
      rw [executed] at returned
      rw [executed'] at returned'
      obtain ⟨t, at_place, found⟩ :=
        exists_getElem?_of_forall₂ (Outcome.mapM_eq_ok_iff.1 returned) hi
      obtain ⟨t', at_place', found'⟩ :=
        exists_getElem?_of_forall₂ (Outcome.mapM_eq_ok_iff.1 returned') hj
      rw [(results name result).1, found] at found'
      rw [at_place, at_place', Except.ok.inj found']
  · intro d has_program name unread batches
    apply weight?_executed
    rw [has_program]
    intro trained
    cases training : kind.isTraining with
    | true => exact unread training (Program.reachesLoss_of_mem_trainable compiled trained)
    | false =>
      rw [Program.trainable_of_inference compiled training] at trained
      cases trained

/-! ### A weight without a loss -/

/-- A product that the loss reads, and another product that it does not read. -/
def sideGraph : Graph where
  model := Exchange.ModelMessage.encode { graph := some { nodes :=
    [{ inputs := ["x", "w"], outputs := ["main"], operation := "MatMul" },
      { inputs := ["u", "v"], outputs := ["side"], operation := "MatMul" }] } }
  inputs := .ofList [("u", .float32 [2, 1]), ("x", .float32 [2, 1])]
  weights := .ofList [("v", .ofSingles ⟨[1, 1]⟩ [Single.one]),
    ("w", .ofSingles ⟨[1, 1]⟩ [Single.one])]

/-- Training on the first product. -/
def sideKind : Kind :=
  .training [⟨"main", "loss", Single.one, .sum⟩] ⟨.constant, Single.one, Single.zero⟩

/-- The weights, with some number on the side. -/
def sideWeights (v : Single) : NameMap Parameter :=
  .ofList [("v", ⟨⟨[1, 1]⟩, [v]⟩), ("w", ⟨⟨[1, 1]⟩, [Single.one]⟩)]

/-- The inputs, with some number on the side. -/
def sideFeed (u : Single) : List (String × Tensor) :=
  [("u", .ofSingles ⟨[2, 1]⟩ [u, u]), ("x", .ofSingles ⟨[2, 1]⟩ [Single.one, Single.zero])]

/-- A device that trains the program, with some number on the side. -/
def sideDevice (program : Program) (v : Single) : HostDevice where
  target := .cpu
  program := program
  training := true
  attached := true
  weights := some (sideWeights v)
  optimizer := some ⟨.constant, Single.one, Single.zero⟩

/-- **Numbers on the side do not matter**: with one or zero there, the loss and the gradient of the
main weight are the same in the second micro-batch, and the weight on the side stays. -/
theorem noninterference_sample : ∃ program tensors,
    Program.compile sideGraph sideKind = .ok program ∧
    (((sideDevice program Single.one).executed [⟨sideFeed Single.one, []⟩]).execute
      (sideFeed Single.one) ["loss", gradientName "w"]).1 = .ok tensors ∧
    (((sideDevice program Single.zero).executed [⟨sideFeed Single.zero, []⟩]).execute
      (sideFeed Single.zero) ["loss", gradientName "w"]).1 = .ok tensors ∧
    ((sideDevice program Single.zero).executed [⟨sideFeed Single.zero, []⟩]).weight? "v" =
      some ⟨⟨[1, 1]⟩, [Single.zero]⟩ := by
  obtain ⟨program, compiled, tested⟩ := Outcome.exists_of_any_toOption
    (show (Program.compile sideGraph sideKind).toOption.any (fun program : Program =>
      decide (described (sideWeights Single.one) = program.weights) &&
      decide (described (sideWeights Single.zero) = program.weights) &&
      decide (Supplies program.signature.inputs (sideFeed Single.one)) &&
      decide (Supplies program.signature.inputs (sideFeed Single.zero)) &&
      decide (∀ name ∈ Program.live program.nodes program.losses,
        (sideWeights Single.zero).find? name = (sideWeights Single.one).find? name ∧
        (NameMap.ofList (sideFeed Single.zero)).find? name =
          (NameMap.ofList (sideFeed Single.one)).find? name) &&
      decide ("v" ∉ Program.live program.nodes program.losses) &&
      decide (program.losses.map (·.output) = ["loss"]) &&
      decide ("w" ∈ program.trainable)) = true by decide +kernel)
  simp only [Bool.and_eq_true, decide_eq_true_eq] at tested
  obtain ⟨⟨⟨⟨⟨⟨⟨declared, declared'⟩, supplied⟩, supplied'⟩, same⟩, unread⟩, losses⟩, trained⟩ :=
    tested
  simp only [Program.mem_live_iff_reachesLoss compiled] at same unread
  have alike : Alike program (sideDevice program Single.one) (sideDevice program Single.zero) :=
    { loaded := ⟨_, _, ⟨rfl, rfl, rfl, declared, by decide +kernel⟩,
        ⟨rfl, rfl, rfl, declared', by decide +kernel⟩, fun name reaches => (same name reaches).1⟩
      training := ⟨rfl, rfl⟩
      optimizer := ⟨_, rfl, rfl⟩ }
  have fed : FedAlike program (sideFeed Single.one) (sideFeed Single.zero) :=
    ⟨supplied, supplied', fun name reaches => (same name reaches).2⟩
  obtain ⟨apart, stays⟩ := noninterference compiled
  obtain ⟨-, -, next⟩ := apart _ _ alike [⟨sideFeed Single.one, []⟩] [⟨sideFeed Single.zero, []⟩]
    (.cons fed .nil)
  obtain ⟨tensors, returned, returned'⟩ := (next _ _ fed).1 ["loss", gradientName "w"] (by
    intro name member
    rcases List.mem_pair.1 member with rfl | rfl
    · exact .inl (by simp [losses])
    · exact .inr ⟨"w", trained, rfl⟩)
  refine ⟨program, tensors, compiled, returned, returned', ?_⟩
  rw [stays (sideDevice program Single.zero) rfl "v" (fun _ => unread)]
  have held : (sideWeights Single.zero).find? "v" = some ⟨⟨[1, 1]⟩, [Single.zero]⟩ := by
    decide +kernel
  exact held

end HostDevice

end Microbatch
