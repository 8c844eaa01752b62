import Microbatch.Files.Tree
import Microbatch.Proofs.Requests

set_option relaxedAutoImplicit false
set_option autoImplicit false

/-!
# Faulted sessions

A step that fails part-way leaves buffers that are half filled and a device that may have moved
its weights. Nothing of it ever gets out. A faulted session refuses every call before it looks at
anything, does nothing but detach its device when it is released, and stays faulted. So nobody
can tell what its buffers and its device hold.

Calls are made in any monad that has files. That such a call is pure says that it reads and writes
none.

## Main definitions

* `Microbatch.Session.Call`, `Microbatch.Session.Answer` — requests, looks at the anchors and
  what is done with files, and what is answered.
* `Microbatch.Session.call`, `Microbatch.Session.converse` — one call, and several in order.
* `Microbatch.Session.withdraw` — the session with its device detached, if it was attached.
* `Microbatch.Session.AlikeOutside` — two sessions that differ in buffers and device only.

## Main results

* `Microbatch.Session.call_of_faulted` — what a faulted session makes of a call.
* `Microbatch.Session.converse_of_faulted` — what it makes of any calls, and that this tells
  nothing of buffers and device.
-/

namespace Microbatch.Session

variable {D : Type}

/-! ### Calls and answers -/

/-- **What a session can be called for**, where there are files. -/
inductive Call where
  /-- A request. -/
  | request (request : Request)
  /-- A look at all anchor buffers. -/
  | anchors
  /-- A look at the buffer of one anchor. -/
  | anchor (name : String)
  /-- One step with copies of the anchor buffers. -/
  | runStepSnapshot (inputs : StepInputs)
  /-- A model of the device's weights in a file. -/
  | writeModel (path : String)
  /-- The device is detached, and what is to be saved then is saved. -/
  | close

/-- **What a call is answered with.** -/
inductive Answer where
  /-- A request is met. -/
  | reply (reply : Reply)
  /-- These are the anchor buffers. -/
  | buffers (buffers : List Buffer)
  /-- This is the buffer of the anchor, if there is one. -/
  | buffer (buffer : Option Buffer)
  /-- These are copies of the anchor buffers. -/
  | snapshot (values : List (String × Tensor))
  /-- The file is written. -/
  | written
  /-- The device is detached. -/
  | closed

/-- The calls that detach the device. All others can fail. -/
def Call.detaches : Call → Bool
  | .request .release => true
  | .close => true
  | _ => false

section Calls

variable [Device D] {m : Type → Type} [Monad m] [FileStore m]

/-- **Makes one call.** -/
def call (s : Session D) : Call → m (Except Fault Answer × Session D)
  | .request r => return ((s.perform r).1.map .reply, (s.perform r).2)
  | .anchors => return (s.anchors.map .buffers, s)
  | .anchor name => return ((s.anchor name).map .buffer, s)
  | .runStepSnapshot inputs =>
    return ((s.runStepSnapshot inputs).1.map .snapshot, (s.runStepSnapshot inputs).2)
  | .writeModel path => do
    let (result, s) ← s.writeModel path
    return (result.map fun _ => .written, s)
  | .close => do
    let s ← s.close
    return (.ok .closed, s)

/-- **Makes calls** in order. -/
def converse (s : Session D) : List Call → m (List (Except Fault Answer) × Session D)
  | [] => return ([], s)
  | c :: rest => do
    let (answer, s) ← s.call c
    let (answers, s) ← s.converse rest
    return (answer :: answers, s)

end Calls

/-! ### What a faulted session makes of calls -/

/-- What a faulted session answers: only its device can be released. -/
def Call.answerOfFaulted : Call → Except Fault Answer
  | .request .release => .ok (.reply (.released none))
  | .close => .ok .closed
  | _ => .error .sessionFaulted

/-- A call that does not detach the device is refused, because the session is faulted. -/
lemma Call.answerOfFaulted_eq_error {c : Call} (h : c.detaches = false) :
    c.answerOfFaulted = .error .sessionFaulted := by
  cases c with
  | request r =>
    cases r with
    | release => cases h
    | _ => rfl
  | close => cases h
  | _ => rfl

section Faulted

variable {s : Session D}

lemma requireLive_of_faulted (faulted : s.state = .faulted) :
    s.requireLive = .error .sessionFaulted := by
  rw [requireLive, if_pos faulted]

lemma requireDevice_of_faulted (faulted : s.state = .faulted) :
    s.requireDevice = .error .sessionFaulted := by
  rw [requireDevice, faulted]

lemma anchors_of_faulted (faulted : s.state = .faulted) :
    s.anchors = .error .sessionFaulted := by
  rw [anchors, requireLive_of_faulted faulted]
  rfl

end Faulted

variable [Device D]

/-- **The session with its device detached**, if it was attached. -/
def withdraw (s : Session D) : Session D := if s.acquired then s.detach else s

/-- The session after some calls if all they do is to detach the device. -/
def withdrawFor (s : Session D) (calls : List Call) : Session D :=
  if calls.any Call.detaches then s.withdraw else s

/-- Detaching touches the device and the mark that it is attached, and nothing else. -/
lemma withdraw_eq (s : Session D) :
    s.withdraw = { s with device := s.withdraw.device, acquired := false } := by
  unfold withdraw
  cases attached : s.acquired with
  | true => rfl
  | false =>
    show s = { s with device := s.device, acquired := false }
    rw [← attached]

/-- Detaching a second time does nothing. -/
@[simp] lemma withdraw_withdraw (s : Session D) : s.withdraw.withdraw = s.withdraw := by
  have loose : s.withdraw.acquired = false := by rw [withdraw_eq]
  rw [withdraw, loose]
  rfl

variable {s : Session D}

/-- **A faulted session refuses every request** but its release, and nothing changes. -/
lemma perform_of_faulted (faulted : s.state = .faulted) {request : Request}
    (other : request ≠ .release) : s.perform request = (.error .sessionFaulted, s) := by
  have live := requireLive_of_faulted faulted
  have device := requireDevice_of_faulted faulted
  have pulled : s.pullWeights = (.error .sessionFaulted, s) := by simp only [pullWeights, device]
  cases request with
  | prepare => simp only [perform, prepare, requireDetached, faulted, Except.map]
  | pushWeights => simp only [perform, pushWeights, device, Except.map]
  | pullWeights => simp only [perform, pulled, Except.map]
  | pushOptimizer => simp only [perform, pushOptimizer, device, Except.map]
  | updateOptimizer next => simp only [perform, updateOptimizer, live, Except.map]
  | resetWeights model => simp only [perform, resetWeights, live, Except.map]
  | runStep inputs => simp only [perform, runStep, requireReady, device, Except.map]
  | exportModel => simp only [perform, exportModel, pulled, Except.map]
  | release => exact absurd rfl other

/-- A faulted session that is released saves nothing. -/
lemma release_of_faulted (faulted : s.state = .faulted) : s.release = (none, s.withdraw) := by
  unfold release withdraw
  cases s.acquired <;> simp [faulted]

section Calls

variable {m : Type → Type} [Monad m] [LawfulMonad m] [FileStore m]

/-- **What a faulted session makes of a call**: it detaches its device where it is told to, and
refuses everything else. No file is touched. -/
lemma call_of_faulted (faulted : s.state = .faulted) (c : Call) :
    (s.call c : m _) = pure (c.answerOfFaulted, s.withdrawFor [c]) := by
  cases c with
  | request r =>
    by_cases release : r = .release
    · subst release
      simp only [call, perform, release_of_faulted faulted]
      rfl
    · simp only [call, perform_of_faulted faulted release]
      cases r with
      | release => exact absurd rfl release
      | _ => rfl
  | anchors =>
    simp only [call, anchors_of_faulted faulted]
    rfl
  | anchor name =>
    simp only [call, anchor, anchors_of_faulted faulted]
    rfl
  | runStepSnapshot inputs =>
    have refused : s.runStep inputs = (.error .sessionFaulted, s) := by
      simp only [runStep, requireReady, requireDevice_of_faulted faulted]
    simp only [call, runStepSnapshot, refused]
    rfl
  | writeModel path =>
    have refused : s.exportModel = (.error .sessionFaulted, s) := by
      simp only [exportModel, pullWeights, requireDevice_of_faulted faulted]
    simp only [call, writeModel, refused, pure_bind]
    rfl
  | close =>
    simp only [call, close, release_of_faulted faulted, pure_bind]
    rfl

/-- A session from which the device is detached, or not, stays faulted. -/
lemma state_withdrawFor (s : Session D) (calls : List Call) :
    (s.withdrawFor calls).state = s.state := by
  unfold withdrawFor
  split
  · rw [withdraw_eq]
  · rfl

/-- Calls after a call detach the device once. -/
lemma withdrawFor_withdrawFor (s : Session D) (first : Call) (rest : List Call) :
    (s.withdrawFor [first]).withdrawFor rest = s.withdrawFor (first :: rest) := by
  by_cases now : first.detaches = true <;> by_cases later : rest.any Call.detaches = true <;>
    simp [withdrawFor, now, later]

/-- **What a faulted session makes of calls.**

**Proof sketch.** Induction on the calls; the session is still faulted after each. -/
lemma converse_eq_of_faulted (faulted : s.state = .faulted) (calls : List Call) :
    (s.converse calls : m _) = pure (calls.map Call.answerOfFaulted, s.withdrawFor calls) := by
  induction calls generalizing s with
  | nil => rfl
  | cons first rest ih =>
    have still : (s.withdrawFor [first]).state = .faulted := by rw [state_withdrawFor, faulted]
    simp only [converse, call_of_faulted faulted first, pure_bind, ih still,
      withdrawFor_withdrawFor, List.map_cons]

end Calls

/-! ### What cannot be told -/

/-- **Two sessions that differ in buffers and device only.** -/
def AlikeOutside (s t : Session D) : Prop :=
  t = { s with device := t.device, buffers := t.buffers }

/-- Calls to faulted sessions leave no other difference between them. -/
lemma AlikeOutside.withdrawFor {t : Session D} (alike : AlikeOutside s t) (calls : List Call) :
    AlikeOutside (s.withdrawFor calls) (t.withdrawFor calls) := by
  unfold AlikeOutside at alike ⊢
  rw [alike]
  generalize t.device = device, t.buffers = buffers
  unfold Session.withdrawFor withdraw
  split
  · split <;> rfl
  · rfl

/-- **A step that failed part-way is never seen.** Whatever a faulted session is called for, and
however often:

* a call is refused because the session is faulted, and changes nothing, unless it detaches the
  device;
* the calls that detach the device only do that, the first time, and have nothing to save;
* after all calls the session is still faulted;
* no file is read or written, as the calls have no effect on the files;
* a session that differs in its buffers and its device answers in the same way, and still differs
  in nothing else afterwards.

**Proof sketch.** Every operation asks first whether the session is faulted. So its answer and
what it changes can be told from the call and the session's marks, and calls follow one another
by induction. -/
theorem converse_of_faulted {m : Type → Type} [Monad m] [LawfulMonad m] [FileStore m]
    (faulted : s.state = .faulted) :
    (∀ c : Call, c.detaches = false → (s.call c : m _) = pure (.error .sessionFaulted, s)) ∧
    (s.call (.request .release) : m _) = pure (.ok (.reply (.released none)), s.withdraw) ∧
    (s.call .close : m _) = pure (.ok .closed, s.withdraw) ∧
    s.withdraw = { s with device := s.withdraw.device, acquired := false } ∧
    s.withdraw.withdraw = s.withdraw ∧
    ∀ calls : List Call,
      (s.converse calls : m _) = pure (calls.map Call.answerOfFaulted, s.withdrawFor calls) ∧
      (s.withdrawFor calls).state = .faulted ∧
      ∀ t : Session D, AlikeOutside s t →
        (t.converse calls : m _) = pure (calls.map Call.answerOfFaulted, t.withdrawFor calls) ∧
        AlikeOutside (s.withdrawFor calls) (t.withdrawFor calls) := by
  refine ⟨fun c keeps => ?_, call_of_faulted faulted _, call_of_faulted faulted _, withdraw_eq s,
    withdraw_withdraw s, fun calls => ⟨converse_eq_of_faulted faulted calls, ?_, fun t alike => ?_⟩⟩
  · have unchanged : s.withdrawFor [c] = s := by simp [withdrawFor, keeps]
    rw [call_of_faulted faulted c, Call.answerOfFaulted_eq_error keeps, unchanged]
  · rw [state_withdrawFor, faulted]
  · have faulted_too : t.state = .faulted := by rw [alike, faulted]
    exact ⟨converse_eq_of_faulted faulted_too calls, alike.withdrawFor calls⟩

/-- A session with numbers that are checked, after a step on inputs that are no numbers. Its files
are a tree. -/
theorem converse_of_faulted_sample : ∃ s₀ s, sample .inference ⟨none, true, false⟩ = some s₀ ∧
    s = s₀.after [.prepare, .pushWeights, .runStep (sampleInputs ⟨0x7fc00000⟩)] ∧
    s.state = .faulted ∧
    ((s.converse [.anchors, .writeModel "model.onnx", .close, .request .prepare] :
        StateM FileTree _).run .empty).1.1 =
      [.error .sessionFaulted, .error .sessionFaulted, .ok .closed, .error .sessionFaulted] := by
  obtain ⟨s₀, found, tested⟩ := exists_of_sample .inference ⟨none, true, false⟩
    (fun s => decide ((s.after [.prepare, .pushWeights,
      .runStep (sampleInputs ⟨0x7fc00000⟩)]).state = .faulted)) (by decide +kernel)
  have faulted := of_decide_eq_true tested
  refine ⟨s₀, _, found, rfl, faulted, ?_⟩
  rw [((converse_of_faulted (m := StateM FileTree) faulted).2.2.2.2.2 _).1]
  rfl

end Microbatch.Session
