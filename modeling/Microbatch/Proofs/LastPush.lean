import Mathlib.Data.List.Induction
import Microbatch.Proofs.HostSession

set_option relaxedAutoImplicit false
set_option autoImplicit false

/-!
# What a step runs on

Before a step runs, weights and optimizer have been handed over, and nothing has outdated them
since. What a session was asked for is the history in which that hand-over is found: a request
that was met, behind which every request that would outdate it was refused.

## Main definitions

* `Microbatch.Session.Request.outdatesWeights`, `Microbatch.Session.Request.outdatesOptimizer` —
  the requests that outdate what was handed over.
* `Microbatch.Session.LastPush` — a hand-over in a history that nothing has outdated.
* `Microbatch.Session.PushedWeights`, `Microbatch.Session.PushedOptimizer` — weights and an
  optimizer that come from such a hand-over.

## Main results

* `Microbatch.Session.exists_lastPush` — what holds only after a hand-over has one in its history.
* `Microbatch.Session.exists_pushedWeights`, `Microbatch.Session.exists_pushedOptimizer` —
  current weights and a current optimizer were handed over.
* `Microbatch.Session.device_in_sync` — the marks of a session, what a step runs on, and what
  never fails.
-/

namespace Microbatch.Session

/-! ### Hand-overs in a history -/

/-- **The requests that outdate the weights of the device**: it is attached anew, the host's
weights are replaced, or weights are handed over again. -/
def Request.outdatesWeights : Request → Bool
  | .prepare => true
  | .pushWeights => true
  | .resetWeights _ => true
  | _ => false

/-- **The requests that outdate the optimizer of the device.** -/
def Request.outdatesOptimizer : Request → Bool
  | .prepare => true
  | .pushOptimizer => true
  | .updateOptimizer _ => true
  | _ => false

section History

variable {D : Type} [Device D]

/-- **A hand-over in a history that nothing has outdated**: the request for it was met, and
since then all requests that would outdate it were refused. -/
structure LastPush (s₀ : Session D) (push : Request) (outdates : Request → Bool)
    (requests before since : List Request) : Prop where
  /-- It is part of the history. -/
  split : requests = before ++ push :: since
  /-- It was met. -/
  met : ((s₀.after before).perform push).1 = .ok .done
  /-- What would outdate it was refused. -/
  refused : ∀ between request rest, since = between ++ request :: rest → outdates request = true →
    ∃ fault, ((s₀.after (before ++ push :: between)).perform request).1 = .error fault

/-- One more request that does not outdate a hand-over leaves it the last one. -/
lemma LastPush.concat {s₀ : Session D} {push : Request} {outdates : Request → Bool}
    {requests before since : List Request} (h : LastPush s₀ push outdates requests before since)
    {request : Request} (kept : outdates request = true →
      ∃ fault, ((s₀.after requests).perform request).1 = .error fault) :
    LastPush s₀ push outdates (requests ++ [request]) before (since ++ [request]) := by
  refine ⟨?_, h.met, fun between other rest split outdated => ?_⟩
  · rw [h.split, List.append_assoc, List.cons_append]
  · rcases List.eq_nil_or_concat rest with rfl | ⟨rest', last, rfl⟩
    · obtain ⟨rfl, same⟩ := List.append_inj' split rfl
      cases same
      rw [← h.split]
      exact kept outdated
    · rw [List.concat_eq_append, ← List.cons_append, ← List.append_assoc] at split
      obtain ⟨split', -⟩ := List.append_inj' split rfl
      exact h.refused between other rest' split' outdated

/-- **What holds only after a hand-over has one in its history**, and what requests other than
that make of a session leads from there.

**Proof sketch.** Induction on the history from its end. The last request is the hand-over, or
what holds afterwards held before, and the hand-over is found there. -/
lemma exists_lastPush (push : Request) (outdates : Request → Bool)
    (R : Session D → Session D → Prop) {s₀ : Session D} {P : Session D → Prop} (start : ¬ P s₀)
    (refl : ∀ s, R s s) (trans : ∀ {s s' s''}, R s s' → R s' s'' → R s s'')
    (step : ∀ requests request, P ((s₀.after requests).perform request).2 →
      (request = push ∧ ((s₀.after requests).perform request).1 = .ok .done) ∨
      (P (s₀.after requests) ∧
        (outdates request = true →
          ∃ fault, ((s₀.after requests).perform request).1 = .error fault) ∧
        R (s₀.after requests) ((s₀.after requests).perform request).2))
    {requests : List Request} (holds : P (s₀.after requests)) : ∃ before since,
      LastPush s₀ push outdates requests before since ∧
        R (s₀.after (before ++ [push])) (s₀.after requests) := by
  induction requests using List.reverseRecOn with
  | nil => exact absurd holds start
  | append_singleton requests request ih =>
    rw [after_concat] at holds
    rcases step requests request holds with ⟨rfl, met⟩ | ⟨held, kept, moved⟩
    · refine ⟨requests, [], ⟨rfl, met, fun between request rest split _ => ?_⟩, refl _⟩
      exact absurd split.symm (by simp)
    · obtain ⟨before, since, last, reached⟩ := ih held
      refine ⟨before, since ++ [request], last.concat kept, ?_⟩
      rw [after_concat s₀ requests]
      exact trans reached moved

end History

variable {s s' : Session HostDevice} {request : Request} {result : Except Fault Reply}

/-! ### Weights -/

/-- A session whose device has current weights. -/
def HasWeights (s : Session HostDevice) : Prop := s.Usable ∧ s.weightSync = .synced

/-- What requests make of the weights on a device if none of them outdates these: steps of
descent. -/
structure MovesWeights (s s' : Session HostDevice) : Prop where
  /-- The program stays. -/
  program : s'.device.program = s.device.program
  /-- The weights descend. -/
  moved : ∀ weights, s.device.weights = some weights → ∃ weights',
    s'.device.weights = some weights' ∧
      Relation.ReflTransGen (HostDevice.Descends s.device.program) weights weights'

lemma MovesWeights.of_eq (program : s'.device.program = s.device.program)
    (weights : s'.device.weights = s.device.weights) : MovesWeights s s' :=
  ⟨program, fun held hw => ⟨held, weights.trans hw, .refl⟩⟩

lemma MovesWeights.trans {s s' s'' : Session HostDevice} (h : MovesWeights s s')
    (h' : MovesWeights s' s'') : MovesWeights s s'' := by
  refine ⟨h'.program.trans h.program, fun weights hw => ?_⟩
  obtain ⟨between, hb, first⟩ := h.moved weights hw
  obtain ⟨last, hl, second⟩ := h'.moved between hb
  rw [h.program] at second
  exact ⟨last, hl, first.trans second⟩

/-- A session that is faulted or stopped cannot use its device. -/
lemma not_usable (h : s.state = .faulted ∨ s.state = .stopped) : ¬ s.Usable := by
  rintro (usable | usable) <;> rcases h with other | other <;> rw [usable] at other <;> cases other

/-- **Weights are current after a request** if they were handed over by it, or were current
before and the request has not outdated them. -/
lemma Transition.hasWeights (t : Transition s request result s') (current : s'.HasWeights) :
    (request = .pushWeights ∧ result = .ok .done) ∨
      (s.HasWeights ∧ (request.outdatesWeights = true → ∃ fault, result = .error fault) ∧
        MovesWeights s s') := by
  cases t with
  | refuse request fault supplied unbegun =>
    exact .inr ⟨current, fun _ => ⟨fault, rfl⟩, .of_eq rfl rfl⟩
  | prepare => cases current.2
  | pushWeights usable weights described same => exact .inl ⟨rfl, rfl⟩
  | pullWeights usable synced weights held =>
    exact .inr ⟨⟨usable, synced⟩, fun impossible => (nomatch impossible), .of_eq rfl rfl⟩
  | pushOptimizer usable optimizer trains =>
    exact .inr ⟨⟨usable, current.2⟩, fun impossible => (nomatch impossible), .of_eq rfl rfl⟩
  | updateOptimizer next trains =>
    exact .inr ⟨current, fun impossible => (nomatch impossible), .of_eq rfl rfl⟩
  | resetWeights model count source weights taken => cases current.2
  | step inputs streams begins d buffers ran =>
    obtain ⟨usable, synced, -⟩ := requireReady_eq_ok_iff.1 begins.1
    exact .inr ⟨⟨usable, synced⟩, fun impossible => (nomatch impossible), ran.program_eq, ran.moved⟩
  | fail inputs streams begins d buffers ran fault supplied =>
    exact absurd current.1 (not_usable (.inl rfl))
  | exportModel usable synced weights held model =>
    exact .inr ⟨⟨usable, synced⟩, fun impossible => (nomatch impossible), .of_eq rfl rfl⟩
  | releaseNone loose =>
    exact .inr ⟨current, fun impossible => (nomatch impossible), .of_eq rfl rfl⟩
  | releaseFaulted faulted => exact absurd current.1 (not_usable (.inl rfl))
  | release saved weights origin => exact absurd current.1 (not_usable (.inr rfl))

/-- **Weights that were handed over**: they descend from those that the host had when it handed
them over, and nothing has outdated them since. -/
def PushedWeights (s₀ : Session HostDevice) (requests : List Request)
    (weights : NameMap Parameter) :
    Prop :=
  ∃ before since pushed,
    LastPush s₀ .pushWeights Request.outdatesWeights requests before since ∧
    HostDevice.tensors pushed = (s₀.after before).weights ∧
    Relation.ReflTransGen (HostDevice.Descends s₀.device.program) pushed weights

/-- What the device holds after weights were handed over is what the host has. -/
lemma tensors_of_pushWeights (h : s.Consistent) (met : (s.perform .pushWeights).1 = .ok .done) :
    ∃ pushed, (s.perform .pushWeights).2.device.weights = some pushed ∧
      HostDevice.tensors pushed = s.weights := by
  rcases pushWeights_cases h with ⟨fault, hr, -⟩ | ⟨-, weights, -, same, hr⟩
  · simp only [perform, hr] at met
    cases met
  · simp only [perform, hr]
    exact ⟨weights, rfl, same⟩

/-- **Current weights were handed over.** -/
lemma exists_pushedWeights {s₀ : Session HostDevice} (h : s₀.Consistent) (start : ¬ s₀.HasWeights)
    {requests : List Request} (current : (s₀.after requests).HasWeights) : ∃ weights,
      (s₀.after requests).device.weights = some weights ∧ PushedWeights s₀ requests weights := by
  obtain ⟨before, since, last, moves⟩ := exists_lastPush .pushWeights
    Request.outdatesWeights MovesWeights start (fun s => .of_eq rfl rfl) MovesWeights.trans
    (fun requests request held =>
      (transition_perform (consistent_after h requests) request).hasWeights held) current
  obtain ⟨pushed, hp, same⟩ := tensors_of_pushWeights (consistent_after h before) last.met
  rw [after_concat] at moves
  obtain ⟨weights, hw, descends⟩ := moves.moved pushed hp
  rw [← after_concat, (program_after h _).1] at descends
  exact ⟨weights, hw, before, since, pushed, last, same, descends⟩

/-! ### Optimizers -/

/-- A session whose device has the current optimizer. -/
def HasOptimizer (s : Session HostDevice) : Prop := s.Usable ∧ s.optimizerSync = .synced

/-- **The optimizer is current after a request** if it was handed over by it, or was current
before and the request has not outdated it. -/
lemma Transition.hasOptimizer (t : Transition s request result s') (current : s'.HasOptimizer) :
    (request = .pushOptimizer ∧ result = .ok .done) ∨
      (s.HasOptimizer ∧ (request.outdatesOptimizer = true → ∃ fault, result = .error fault) ∧
        s'.optimizer = s.optimizer) := by
  cases t with
  | refuse request fault supplied unbegun => exact .inr ⟨current, fun _ => ⟨fault, rfl⟩, rfl⟩
  | prepare => cases current.2
  | pushWeights usable weights described same =>
    exact .inr ⟨⟨usable, current.2⟩, fun impossible => (nomatch impossible), rfl⟩
  | pullWeights usable synced weights held =>
    exact .inr ⟨⟨usable, current.2⟩, fun impossible => (nomatch impossible), rfl⟩
  | pushOptimizer usable optimizer trains => exact .inl ⟨rfl, rfl⟩
  | updateOptimizer next trains => cases current.2
  | resetWeights model count source weights taken =>
    exact .inr ⟨current, fun impossible => (nomatch impossible), rfl⟩
  | step inputs streams begins d buffers ran =>
    have usable := (requireReady_eq_ok_iff.1 begins.1).1
    exact .inr ⟨⟨usable, current.2⟩, fun impossible => (nomatch impossible), rfl⟩
  | fail inputs streams begins d buffers ran fault supplied =>
    exact absurd current.1 (not_usable (.inl rfl))
  | exportModel usable synced weights held model =>
    exact .inr ⟨⟨usable, current.2⟩, fun impossible => (nomatch impossible), rfl⟩
  | releaseNone loose => exact .inr ⟨current, fun impossible => (nomatch impossible), rfl⟩
  | releaseFaulted faulted => exact absurd current.1 (not_usable (.inl rfl))
  | release saved weights origin => exact absurd current.1 (not_usable (.inr rfl))

/-- **An optimizer that was handed over**: the host had it when it handed it over, and nothing
has outdated it since. -/
def PushedOptimizer (s₀ : Session HostDevice) (requests : List Request) (optimizer : Optimizer) :
    Prop :=
  ∃ before since, LastPush s₀ .pushOptimizer Request.outdatesOptimizer requests before since ∧
    (s₀.after before).optimizer = some optimizer

/-- Handing the optimizer over leaves it with the host. -/
lemma optimizer_of_pushOptimizer (h : s.Consistent) :
    (s.perform .pushOptimizer).2.optimizer = s.optimizer := by
  rcases pushOptimizer_cases h with ⟨fault, hr, -⟩ | ⟨-, optimizer, -, hr⟩ <;>
    simp only [perform, hr]

/-- **The current optimizer was handed over.** -/
lemma exists_pushedOptimizer {s₀ : Session HostDevice} (h : s₀.Consistent)
    (start : ¬ s₀.HasOptimizer) {requests : List Request}
    (current : (s₀.after requests).HasOptimizer) : ∃ optimizer,
      (s₀.after requests).device.optimizer = some optimizer ∧
        PushedOptimizer s₀ requests optimizer := by
  obtain ⟨optimizer, ho, hd⟩ := (consistent_after h requests).optimizer current.1 current.2
  obtain ⟨before, since, last, kept⟩ := exists_lastPush .pushOptimizer
    Request.outdatesOptimizer (fun s s' => s'.optimizer = s.optimizer) start
    (fun s => rfl) (fun first second => second.trans first)
    (fun requests request held =>
      (transition_perform (consistent_after h requests) request).hasOptimizer held) current
  refine ⟨optimizer, hd, before, since, last, ?_⟩
  rw [after_concat, optimizer_of_pushOptimizer (consistent_after h before)] at kept
  rw [← kept, ho]

/-! ### In sync -/

/-- **What the micro-batches of a step run on**: at every one of them the device has weights
that were handed over, and, if it trains, an optimizer that was. -/
lemma runs_on_pushed {s₀ : Session HostDevice} (h : s₀.Consistent) (unpushed : ¬ s₀.HasWeights)
    (untaught : ¬ s₀.HasOptimizer) {requests : List Request} {inputs : StepInputs}
    {streams : List Stream} (begins : (s₀.after requests).Begins inputs streams)
    {d : HostDevice} (ran : HostDevice.Ran (s₀.after requests).device d) :
    (∃ weights, d.weights = some weights ∧ PushedWeights s₀ requests weights) ∧
      (d.training = true → ∃ optimizer, d.optimizer = some optimizer ∧
        PushedOptimizer s₀ requests optimizer) := by
  obtain ⟨usable, synced, fresh⟩ := requireReady_eq_ok_iff.1 begins.1
  constructor
  · obtain ⟨weights, hw, before, since, pushed, last, same, descends⟩ :=
      exists_pushedWeights h unpushed ⟨usable, synced⟩
    obtain ⟨weights', hw', further⟩ := ran.moved weights hw
    rw [(program_after h requests).1] at further
    exact ⟨weights', hw', before, since, pushed, last, same, descends.trans further⟩
  · intro training
    have trains := (consistent_after h requests).training
    rw [← ran.training_eq, training] at trains
    obtain ⟨optimizer, ho, pushed⟩ := exists_pushedOptimizer h untaught ⟨usable, fresh trains.symm⟩
    exact ⟨optimizer, ran.optimizer_eq.trans ho, pushed⟩

/-- **Session and device are in sync**, whatever has been asked of the session and whether it
was met.

The device is attached when the session is marked so, which it is while it can be used and is
not before the first preparation and after a stop. While the device can be used, weights that
are marked as current are there, one for every weight of the graph, and are those of the host
unless the session trains; an optimizer that is marked as current is that of the host. Every
micro-batch runs on weights that were handed over, and in training on an optimizer that was,
with nothing to outdate them since. No request ever finds the device unattached, without weights
or without an optimizer.

**Proof sketch.** What the marks say is the invariant of all transitions. A mark that is set was
set by a hand-over, and every transition that would outdate it takes it back. -/
theorem device_in_sync {graph : Graph} {flow : DataFlow} {target : Target} {kind : Kind}
    {options : Options} {s₀ : Session HostDevice}
    (built : build HostDevice.backend graph flow target kind options = .ok s₀)
    (requests : List Request) :
    ((s₀.after requests).device.attached = (s₀.after requests).acquired ∧
      ((s₀.after requests).state = .prepared ∨ (s₀.after requests).state = .running →
        (s₀.after requests).acquired = true) ∧
      ((s₀.after requests).state = .unbuilt ∨ (s₀.after requests).state = .stopped →
        (s₀.after requests).acquired = false)) ∧
    ((s₀.after requests).state = .prepared ∨ (s₀.after requests).state = .running →
      ((s₀.after requests).weightSync = .synced → ∃ weights,
        (s₀.after requests).device.weights = some weights ∧ weights.names = graph.weights.names ∧
        (kind.isTraining = false → HostDevice.tensors weights = (s₀.after requests).weights)) ∧
      ((s₀.after requests).optimizerSync = .synced → ∃ optimizer,
        (s₀.after requests).optimizer = some optimizer ∧
        (s₀.after requests).device.optimizer = some optimizer)) ∧
    (∀ inputs streams, (s₀.after requests).Begins inputs streams →
      ∀ before rest values d,
        Stream.feeds streams (s₀.after requests).flow.microBatches = before ++ rest →
        executeAll (s₀.after requests).registry.names (s₀.after requests).device before =
          (.ok values, d) →
        (∃ weights, d.weights = some weights ∧ PushedWeights s₀ requests weights) ∧
        (kind.isTraining = true → ∃ optimizer, d.optimizer = some optimizer ∧
          PushedOptimizer s₀ requests optimizer)) ∧
    (∀ request fault, ((s₀.after requests).perform request).1 = .error fault →
      fault.isLack = false) := by
  have start := consistent_build built
  have now := consistent_after start requests
  obtain ⟨device, registry, buffers, compiled, -, -, made⟩ := build_eq_ok built
  obtain ⟨program, hp, hd⟩ := HostDevice.compile_eq_ok compiled
  obtain ⟨-, -, -, -, -, -, -, -, -, expected, -⟩ := Program.compile_eq_ok hp
  obtain ⟨same_program, same_training⟩ := program_after start requests
  have training : (s₀.after requests).device.training = kind.isTraining := by
    rw [same_training, made, hd]
  have unpushed : ¬ s₀.HasWeights := by
    rintro ⟨-, synced⟩
    rw [made] at synced
    cases synced
  have untaught : ¬ s₀.HasOptimizer := by
    rintro ⟨-, synced⟩
    rw [made] at synced
    cases synced
  refine ⟨⟨now.attached, now.usable, now.idle⟩,
    fun usable => ⟨fun synced => ?_, now.optimizer usable⟩, ?_, fun request fault failed => ?_⟩
  · obtain ⟨weights, hw, same⟩ := now.weights usable synced
    refine ⟨weights, hw, ?_, fun inference => same ?_⟩
    · have described := now.held weights hw
      rw [same_program, made, hd] at described
      exact NameMap.names_eq_of_mapValues (described.trans expected)
    · rw [inference] at training
      have none_left := now.training
      rw [training] at none_left
      exact Option.isNone_iff_eq_none.1 (by rw [← Option.not_isSome, ← none_left]; rfl)
  · intro inputs streams begins before rest values d _ executed
    have ran := HostDevice.ran_executeAll (s₀.after requests).registry.names
      (s₀.after requests).device before
    rw [executed] at ran
    rw [← training, ← ran.training_eq]
    exact runs_on_pushed start unpushed untaught begins ran
  · have t := transition_perform now request
    rw [failed] at t
    exact t.isLack_eq

/-- A training session at the beginning of its second step. -/
theorem device_in_sync_sample : ∃ s₀ streams, sample sampleTraining {} = some s₀ ∧
    (s₀.after [.prepare, .pushWeights, .pushOptimizer, .runStep (sampleInputs .zero)]).Begins
      (sampleInputs .zero) streams ∧
    ∃ weights optimizer,
      PushedWeights s₀
        [.prepare, .pushWeights, .pushOptimizer, .runStep (sampleInputs .zero)] weights ∧
      PushedOptimizer s₀
        [.prepare, .pushWeights, .pushOptimizer, .runStep (sampleInputs .zero)] optimizer := by
  obtain ⟨s₀, found, tested⟩ := exists_of_sample sampleTraining {}
    (fun s =>
      let s := s.after [.prepare, .pushWeights, .pushOptimizer, .runStep (sampleInputs .zero)]
      s.requireReady.toOption.isSome &&
        ((sampleInputs .zero).streams (Device.signature s.device).inputs
          s.flow.microBatches).toOption.isSome)
    (by decide +kernel)
  obtain ⟨graph, -, built⟩ := sample_eq_some found
  simp only [Bool.and_eq_true] at tested
  obtain ⟨ready, checked⟩ := tested
  obtain ⟨_, hr⟩ := Option.isSome_iff_exists.1 ready
  obtain ⟨streams, hs⟩ := Option.isSome_iff_exists.1 checked
  have begins := And.intro (Outcome.toOption_eq_some_iff.1 hr) (Outcome.toOption_eq_some_iff.1 hs)
  obtain ⟨-, -, runs, -⟩ := device_in_sync built
    [.prepare, .pushWeights, .pushOptimizer, .runStep (sampleInputs .zero)]
  obtain ⟨⟨weights, -, pushed⟩, trained⟩ :=
    runs (sampleInputs .zero) streams begins [] _ [] _ rfl rfl
  obtain ⟨optimizer, -, taught⟩ := trained rfl
  exact ⟨s₀, streams, found, begins, weights, optimizer, pushed, taught⟩

end Microbatch.Session
