import Microbatch.Proofs.Faulted
import Microbatch.Session.Worker

set_option relaxedAutoImplicit false
set_option autoImplicit false

/-!
# Workers and the handles that feed them

A worker is fed by handles, which can be cloned and dropped. A job that enters the queue carries the
address that its answer goes to. Which handle submits next, and how many jobs are queued when the
worker serves the oldest, is left open: what is said here holds of every order of events.

The queue is first in, first out. So the answers are those that the session would give if it were
stepped through the jobs alone, in the order of their arrival.

## Main definitions

* `Microbatch.Session.reply`, `Microbatch.Session.replies` — what a session makes of one job, and of
  several in order.
* `Microbatch.Session.Becomes` — the three things that can become of a job.
* `Microbatch.Pool`, `Microbatch.Pool.Event`, `Microbatch.Pool.run?` — a worker with its handles,
  and what happens to it.
* `Microbatch.Pool.Serves` — which jobs are answered and which are waiting.

## Main results

* `Microbatch.Session.becomes_reply` — a job is refused, fails or is completed.
* `Microbatch.Pool.Serves.take_finish` — the two events by which a worker serves a job.
* `Microbatch.Pool.serves_of_step?`, `Microbatch.Pool.serves_of_run?` — what one event keeps, and
  what all events keep.
* `Microbatch.Pool.serves_in_order` — a worker answers every job once, in order of arrival.
-/

namespace Microbatch

/-! ### A session that is stepped through jobs -/

namespace Session

variable {D : Type} [Device D]

/-- **The session after the steps of some jobs**, in order. -/
def afterSteps (s : Session D) (jobs : List StepInputs) : Session D := s.after (jobs.map .runStep)

/-- **The result of a job's own step**: the number of the step and copies of the anchor buffers
right after it, or the fault. -/
def reply (s : Session D) (job : StepInputs) : Except WorkerFault StepResponse :=
  ((s.runStep job).1.mapError .step).map fun _ =>
    ⟨(s.runStep job).2.steps, snapshot (s.runStep job).2.buffers⟩

/-- **The results of jobs** whose steps are run in order. -/
def replies (s : Session D) : List StepInputs → List (Except WorkerFault StepResponse)
  | [] => []
  | job :: rest => s.reply job :: replies (s.runStep job).2 rest

/-- The number of a completed step; a job that was not completed has none. -/
def numberOf : Except WorkerFault StepResponse → Option Nat
  | .ok response => some response.step
  | .error _ => none

/-- **What can become of a job.** -/
inductive Becomes (s : Session D) (job : StepInputs) :
    Except WorkerFault StepResponse → Session D → Prop where
  /-- It is refused, and the session stays as it is. -/
  | refused {fault : Fault} (refused : ∀ streams, ¬ s.Begins job streams) :
      Becomes s job (.error (.step fault)) s
  /-- It fails part-way and faults the session. -/
  | failed {fault : Fault} {s' : Session D} {streams : List Stream} (begins : s.Begins job streams)
      (faulted : s'.state = .faulted) (steps : s'.steps = s.steps) :
      Becomes s job (.error (.step fault)) s'
  /-- It is completed and gets the next number. -/
  | completed {s' : Session D} {streams : List Stream} (begins : s.Begins job streams)
      (running : s'.state = .running) (steps : s'.steps = s.steps + 1) :
      Becomes s job (.ok ⟨s'.steps, snapshot s'.buffers⟩) s'

/-- A session that completed a step is running, and it counted the step. -/
lemma completed_of_runStep {s s' : Session D} {job : StepInputs}
    (run : s.runStep job = (.ok (), s')) : s'.state = .running ∧ s'.steps = s.steps + 1 := by
  rcases runStep_cases s job with
    ⟨fault, refused, -⟩ | ⟨streams, -, ⟨fault, s', failed, -⟩ | ⟨s'', completed, micro⟩⟩
  · cases run.symm.trans refused
  · cases run.symm.trans failed
  · cases run.symm.trans completed
    obtain ⟨-, -, -, -, -, same⟩ := runMicroBatches_eq_ok micro
    constructor <;> dsimp only <;> rw [same] <;> rfl

/-- **A job is refused, fails or is completed.** -/
lemma becomes_reply (s : Session D) (job : StepInputs) :
    s.Becomes job (s.reply job) (s.runStep job).2 := by
  unfold reply
  rcases runStep_cases s job with
    ⟨fault, run, refused⟩ | ⟨streams, begins, ⟨fault, s', run, micro⟩ | ⟨s', run, -⟩⟩
  · rw [run]
    exact .refused refused
  · obtain ⟨same, -⟩ := runMicroBatches_eq_error micro
    rw [run]
    refine .failed begins ?_ ?_ <;> rw [same]
    rfl
  · obtain ⟨running, steps⟩ := completed_of_runStep run
    rw [run]
    exact .completed begins running steps

/-- The answer of a worker's session is the result of the job's own step: what was completed can be
looked at. -/
lemma answer_eq (job : StepInputs) (s : Session D) :
    Worker.answer job s = (s.reply job, (s.runStep job).2) := by
  unfold Worker.answer runStepSnapshot reply
  rcases run : s.runStep job with ⟨_ | ⟨⟩, s'⟩
  · rfl
  · have shown : s'.anchors = .ok s'.buffers := by
      unfold anchors requireLive
      rw [(completed_of_runStep run).1]
      rfl
    simp only [shown]
    rfl

/-! ### Several jobs -/

lemma afterSteps_cons (s : Session D) (job : StepInputs) (rest : List StepInputs) :
    s.afterSteps (job :: rest) = (s.runStep job).2.afterSteps rest := rfl

lemma afterSteps_append (s : Session D) (front back : List StepInputs) :
    s.afterSteps (front ++ back) = (s.afterSteps front).afterSteps back := by
  unfold afterSteps
  rw [List.map_append, after_append]

/-- The answers of a worker's session to jobs in order. -/
lemma answerAll_eq (s : Session D) (jobs : List StepInputs) :
    Worker.answerAll s jobs = (s.replies jobs, s.afterSteps jobs) := by
  induction jobs generalizing s with
  | nil => rfl
  | cons job rest ih =>
    simp only [Worker.answerAll, answer_eq, ih]
    rfl

/-- **Completed jobs are numbered without gap or repeat**, from the steps that were completed
before.

**Proof sketch.** Induction on the jobs: only a job that is completed has a number, and only that
counts as a step. -/
lemma steps_replies (s : Session D) (jobs : List StepInputs) : ∃ count,
    (s.afterSteps jobs).steps = s.steps + count ∧
    (s.replies jobs).filterMap numberOf = List.range' (s.steps + 1) count := by
  induction jobs generalizing s with
  | nil => exact ⟨0, rfl, rfl⟩
  | cons job rest ih =>
    obtain ⟨count, total, numbers⟩ := ih (s.runStep job).2
    have becomes := becomes_reply s job
    rw [afterSteps_cons, replies]
    generalize s.reply job = result, (s.runStep job).2 = s' at becomes total numbers ⊢
    cases becomes with
    | refused => exact ⟨count, total, numbers⟩
    | failed begins faulted steps =>
      rw [steps] at total numbers
      exact ⟨count, total, numbers⟩
    | completed begins running steps =>
      refine ⟨count + 1, by rw [total, steps]; omega, ?_⟩
      rw [List.filterMap_cons, numbers, List.range'_succ, steps]
      rfl

/-- A faulted session refuses every job and stays faulted. -/
lemma runStep_of_faulted {s : Session D} (faulted : s.state = .faulted) (job : StepInputs) :
    s.runStep job = (.error .sessionFaulted, s) := by
  unfold runStep requireReady
  rw [requireDevice_of_faulted faulted]

/-- **A faulted session refuses all jobs**, because it is faulted. -/
lemma replies_of_faulted {s : Session D} (faulted : s.state = .faulted) (jobs : List StepInputs) :
    s.replies jobs = List.replicate jobs.length (.error (.step .sessionFaulted)) := by
  induction jobs with
  | nil => rfl
  | cons job rest ih =>
    rw [replies, reply, runStep_of_faulted faulted, ih]
    rfl

/-- A faulted session stays as it is, whatever jobs it is given. -/
lemma afterSteps_of_faulted {s : Session D} (faulted : s.state = .faulted)
    (jobs : List StepInputs) : s.afterSteps jobs = s := by
  induction jobs with
  | nil => rfl
  | cons job rest ih => rw [afterSteps_cons, runStep_of_faulted faulted, ih]

/-- **A refused job leaves no trace** in the session. -/
lemma runStep_of_refused {s : Session D} {job : StepInputs}
    (refused : ∀ streams, ¬ s.Begins job streams) :
    (∃ fault, s.reply job = .error (.step fault)) ∧ (s.runStep job).2 = s := by
  have becomes := becomes_reply s job
  generalize s.reply job = result, (s.runStep job).2 = s' at becomes ⊢
  cases becomes with
  | refused => exact ⟨⟨_, rfl⟩, rfl⟩
  | failed begins => exact absurd begins (refused _)
  | completed begins => exact absurd begins (refused _)

end Session

/-! ### Pools -/

/-- **A job on its way**: its inputs, and where its answer goes. -/
structure Job where
  /-- Where the answer goes. -/
  address : Nat
  /-- The inputs of the step. -/
  inputs : StepInputs

/-- **A worker with the handles that feed it.** -/
structure Pool (D : Type) where
  /-- The worker. -/
  worker : Worker D
  /-- The handles that are not dropped. -/
  handles : List Nat
  /-- Where the answers to the queued jobs go, the oldest first. -/
  addresses : List Nat := []
  /-- The job that the worker has taken from the queue and not answered. -/
  current : Option Job := none
  /-- The answers that were given, the oldest first. -/
  answers : List (Nat × Except WorkerFault StepResponse) := []

namespace Pool

/-- **What happens to a pool.** -/
inductive Event where
  /-- A handle submits a job, for which there is room. -/
  | submit (handle : Nat) (job : Job)
  /-- The worker takes the oldest job from the queue. -/
  | take
  /-- The worker runs the step of the job that it took, and answers. -/
  | finish
  /-- A handle is cloned. -/
  | clone (handle copy : Nat)
  /-- A handle is dropped. -/
  | drop (handle : Nat)

/-- The job that enters the queue, if one does. -/
def Event.job? : Event → Option Job
  | .submit _ job => some job
  | .take => none
  | .finish => none
  | .clone _ _ => none
  | .drop _ => none

/-- **The jobs that enter the queue**, in the order of their arrival. -/
def accepted (events : List Event) : List Job := events.filterMap Event.job?

variable {D : Type}

/-- A pool before anything happens. -/
def start (s : Session D) (capacity : Nat) (handles : List Nat) : Pool D :=
  { worker := { session := s, capacity := capacity }, handles := handles }

/-- **The worker is done**: no handle is left, and no job. It hands its session back. -/
def Done (p : Pool D) : Prop := p.handles = [] ∧ p.current = none ∧ p.worker.queue = []

variable [Device D]

/-- **One event**, if it can happen. -/
def step? (p : Pool D) : Event → Option (Pool D)
  | .submit handle job =>
    if handle ∈ p.handles then
      (p.worker.submit? job.inputs).map fun w =>
        { p with worker := w, addresses := p.addresses ++ [job.address] }
    else none
  | .take =>
    match p.current, p.worker.queue, p.addresses with
    | none, inputs :: queue, address :: addresses =>
      some { p with worker := { p.worker with queue := queue }, addresses := addresses,
                    current := some ⟨address, inputs⟩ }
    | _, _, _ => none
  | .finish =>
    p.current.map fun job =>
      { p with worker := { p.worker with session := (Worker.answer job.inputs p.worker.session).2 },
               current := none,
               answers := p.answers ++
                 [(job.address, (Worker.answer job.inputs p.worker.session).1)] }
  | .clone handle copy =>
    if handle ∈ p.handles then some { p with handles := copy :: p.handles } else none
  | .drop handle =>
    if handle ∈ p.handles then some { p with handles := p.handles.erase handle } else none

/-- **Events in order**, if they can happen. -/
def run? (p : Pool D) (events : List Event) : Option (Pool D) := events.foldlM step? p

/-- **The answers to jobs** whose steps are run in order, with the addresses that they go to. -/
def answersTo (s : Session D) : List Job → List (Nat × Except WorkerFault StepResponse)
  | [] => []
  | job :: rest => (job.address, s.reply job.inputs) :: answersTo (s.runStep job.inputs).2 rest

/-- **Which jobs are answered, and which are queued**: the answers go to the addresses of the served
jobs and are the results of their own steps. -/
structure Serves (s : Session D) (capacity : Nat) (served queued : List Job) (p : Pool D) :
    Prop where
  /-- The room of the queue. -/
  size : p.worker.capacity = capacity
  /-- It is kept to. -/
  room : queued.length ≤ capacity
  /-- The inputs of the queued jobs. -/
  queue : p.worker.queue = queued.map (·.inputs)
  /-- Their answers are to go to their addresses. -/
  addresses : p.addresses = queued.map (·.address)
  /-- The answers are those to the served jobs. -/
  answers : p.answers = answersTo s served
  /-- The session has been stepped through the served jobs. -/
  session : p.worker.session = s.afterSteps (served.map (·.inputs))

/-- The answers to some jobs and then others. -/
lemma answersTo_append (s : Session D) (front back : List Job) : answersTo s (front ++ back) =
    answersTo s front ++ answersTo (s.afterSteps (front.map (·.inputs))) back := by
  induction front generalizing s with
  | nil => rfl
  | cons job rest ih =>
    rw [List.cons_append, answersTo, answersTo, ih]
    rfl

/-- There is one answer to each job. -/
lemma map_fst_answersTo (s : Session D) (jobs : List Job) :
    (answersTo s jobs).map (·.1) = jobs.map (·.address) := by
  induction jobs generalizing s with
  | nil => rfl
  | cons job rest ih => rw [answersTo, List.map_cons, List.map_cons, ih]

/-- The answers are the results of the jobs. -/
lemma map_snd_answersTo (s : Session D) (jobs : List Job) :
    (answersTo s jobs).map (·.2) = s.replies (jobs.map (·.inputs)) := by
  induction jobs generalizing s with
  | nil => rfl
  | cons job rest ih =>
    rw [answersTo, List.map_cons, ih]
    rfl

lemma length_answersTo (s : Session D) (jobs : List Job) :
    (answersTo s jobs).length = jobs.length := by
  rw [← List.length_map (f := Prod.fst), map_fst_answersTo, List.length_map]

/-! ### One event -/

variable {s : Session D} {capacity : Nat} {served queued : List Job} {p : Pool D}

lemma serves_start (s : Session D) (capacity : Nat) (handles : List Nat) :
    Serves s capacity [] [] (start s capacity handles) :=
  ⟨rfl, Nat.zero_le _, rfl, rfl, rfl, rfl⟩

/-- A job that enters the queue waits behind all others. -/
lemma Serves.submit (serves : Serves s capacity served queued p) {job : Job} {w : Worker D}
    (enters : p.worker.submit? job.inputs = some w) :
    Serves s capacity served (queued ++ [job])
      { p with worker := w, addresses := p.addresses ++ [job.address] } := by
  unfold Worker.submit? at enters
  split at enters
  · rename_i fits
    cases enters
    rw [serves.queue, List.length_map, serves.size] at fits
    exact ⟨serves.size, by simpa using Nat.succ_le_of_lt fits, by simp [serves.queue],
      by simp [serves.addresses], serves.answers, serves.session⟩
  · cases enters

/-- The worker takes the oldest job, if it is not at work. -/
lemma Serves.take {job : Job} (serves : Serves s capacity served (job :: queued) p)
    (idle : p.current = none) : ∃ p', p.step? .take = some p' ∧ p'.current = some job ∧
      p'.handles = p.handles ∧ Serves s capacity served queued p' := by
  have addresses : p.addresses = job.address :: queued.map (·.address) := serves.addresses
  have queue : p.worker.queue = job.inputs :: queued.map (·.inputs) := serves.queue
  simp only [step?, idle, addresses, queue]
  exact ⟨_, rfl, rfl, rfl, serves.size, Nat.le_of_succ_le serves.room, rfl, rfl, serves.answers,
    serves.session⟩

/-- **The job that was taken is answered** with the result of its own step. -/
lemma Serves.finish {job : Job} (serves : Serves s capacity served queued p)
    (busy : p.current = some job) : ∃ p', p.step? .finish = some p' ∧ p'.current = none ∧
      p'.handles = p.handles ∧ Serves s capacity (served ++ [job]) queued p' := by
  simp only [step?, busy, Option.map_some, Session.answer_eq]
  refine ⟨_, rfl, rfl, rfl, serves.size, serves.room, serves.queue, serves.addresses, ?_, ?_⟩
  · rw [serves.answers, answersTo_append, serves.session]
    rfl
  · rw [List.map_append, Session.afterSteps_append, ← serves.session]
    rfl

/-- Handles do not matter to the jobs. -/
lemma Serves.of_handles (serves : Serves s capacity served queued p) (handles : List Nat) :
    Serves s capacity served queued { p with handles := handles } :=
  ⟨serves.size, serves.room, serves.queue, serves.addresses, serves.answers, serves.session⟩

/-- **What one event keeps**: jobs are served in the order of their arrival. -/
lemma serves_of_step? (serves : Serves s capacity served queued p) {event : Event} {p' : Pool D}
    (step : p.step? event = some p') : ∃ more queued',
      p.current.toList ++ queued ++ accepted [event] = more ++ p'.current.toList ++ queued' ∧
        Serves s capacity (served ++ more) queued' p' := by
  cases event with
  | submit handle job =>
    simp only [step?, Option.ite_none_right_eq_some, Option.map_eq_some_iff] at step
    obtain ⟨-, w, enters, rfl⟩ := step
    exact ⟨[], queued ++ [job], by simp [accepted, Event.job?], by simpa using serves.submit enters⟩
  | take =>
    cases busy : p.current with
    | some job => simp [step?, busy] at step
    | none =>
      cases queued with
      | nil =>
        have empty : p.worker.queue = [] := serves.queue
        simp [step?, busy, empty] at step
      | cons job queued =>
        obtain ⟨p'', happens, taken, -, next⟩ := serves.take busy
        cases happens.symm.trans step
        exact ⟨[], queued, by simp [accepted, Event.job?, taken], by simpa using next⟩
  | finish =>
    cases busy : p.current with
    | none => simp [step?, busy] at step
    | some job =>
      obtain ⟨p'', happens, idle, -, next⟩ := serves.finish busy
      cases happens.symm.trans step
      exact ⟨[job], queued, by simp [accepted, Event.job?, idle], next⟩
  | clone handle copy =>
    simp only [step?, Option.ite_none_right_eq_some, Option.some.injEq] at step
    obtain ⟨-, rfl⟩ := step
    exact ⟨[], queued, by simp [accepted, Event.job?], by simpa using serves.of_handles _⟩
  | drop handle =>
    simp only [step?, Option.ite_none_right_eq_some, Option.some.injEq] at step
    obtain ⟨-, rfl⟩ := step
    exact ⟨[], queued, by simp [accepted, Event.job?], by simpa using serves.of_handles _⟩

/-! ### Several events -/

/-- Some events and then others. -/
lemma run?_append (p : Pool D) (before rest : List Event) :
    p.run? (before ++ rest) = (p.run? before).bind fun p' => p'.run? rest :=
  List.foldlM_append

/-- An event and then others. -/
lemma run?_cons_of_step? {event : Event} {rest : List Event} {next p' : Pool D}
    (step : p.step? event = some next) (run : next.run? rest = some p') :
    p.run? (event :: rest) = some p' :=
  Option.bind_eq_some_iff.2 ⟨next, step, run⟩

/-- **A job that is served is taken and finished**: the worker is the same after the two events, and
the answer is given. Between the two, handles may submit further jobs. -/
lemma Serves.take_finish (serves : Serves s capacity served queued p) (idle : p.current = none)
    {result : Except WorkerFault StepResponse} {w : Worker D}
    (serve : p.worker.serve? = some (result, w)) : ∃ p' address,
      p.run? [.take, .finish] = some p' ∧ p'.worker = w ∧
        p'.answers = p.answers ++ [(address, result)] := by
  cases queued with
  | nil =>
    have empty : p.worker.queue = [] := serves.queue
    simp [Worker.serve?, empty] at serve
  | cons job queued =>
    have addresses : p.addresses = job.address :: queued.map (·.address) := serves.addresses
    have queue : p.worker.queue = job.inputs :: queued.map (·.inputs) := serves.queue
    simp only [Worker.serve?, queue, Option.some.injEq, Prod.mk.injEq] at serve
    obtain ⟨rfl, rfl⟩ := serve
    simp only [run?, List.foldlM_cons, List.foldlM_nil, step?, idle, addresses, queue]
    exact ⟨_, job.address, rfl, rfl, rfl⟩

/-- **What events keep.**

**Proof sketch.** Induction on the events. -/
lemma serves_of_run? {events : List Event} {p' : Pool D}
    (serves : Serves s capacity served queued p) (run : p.run? events = some p') :
    ∃ more queued',
      p.current.toList ++ queued ++ accepted events = more ++ p'.current.toList ++ queued' ∧
        Serves s capacity (served ++ more) queued' p' := by
  induction events generalizing p served queued with
  | nil =>
    cases run
    exact ⟨[], queued, by simp [accepted], by simpa using serves⟩
  | cons event rest ih =>
    obtain ⟨next, step, run⟩ := Option.bind_eq_some_iff.1 run
    obtain ⟨first, between, arrived, serves⟩ := serves_of_step? serves step
    obtain ⟨later, queued', arrived', serves⟩ := ih serves run
    refine ⟨first ++ later, queued', ?_, by simpa using serves⟩
    have split : accepted (event :: rest) = accepted [event] ++ accepted rest :=
      List.filterMap_append (l := [event])
    calc
      _ = first ++ (next.current.toList ++ between ++ accepted rest) := by
        rw [split, ← List.append_assoc, arrived, List.append_assoc, List.append_assoc,
          List.append_assoc]
      _ = _ := by
        rw [arrived', List.append_assoc, List.append_assoc, List.append_assoc]

/-- **After any events from the start**, the jobs that entered the queue are the served ones, then
the one that the worker has taken, and then the queued ones. -/
lemma serves_of_start {handles : List Nat} {events : List Event}
    (run : (start s capacity handles).run? events = some p) : ∃ served queued,
      accepted events = served ++ p.current.toList ++ queued ∧ Serves s capacity served queued p :=
  serves_of_run? (serves_start s capacity handles) run

/-! ### Until the worker is done -/

/-- An idle worker can take and finish all queued jobs, one after the other. -/
lemma Serves.exists_drained_of_idle (serves : Serves s capacity served queued p)
    (idle : p.current = none) : ∃ more p', accepted more = [] ∧ p.run? more = some p' ∧
      p'.current = none ∧ Serves s capacity (served ++ queued) [] p' := by
  induction queued generalizing served p with
  | nil => exact ⟨[], p, rfl, rfl, idle, by simpa using serves⟩
  | cons job queued ih =>
    obtain ⟨busy, takes, taken, -, serves⟩ := serves.take idle
    obtain ⟨next, finishes, idle, -, serves⟩ := serves.finish taken
    obtain ⟨more, p', silent, run, idle, serves⟩ := ih serves idle
    refine ⟨.take :: .finish :: more, p', silent, ?_, idle, by simpa using serves⟩
    exact run?_cons_of_step? takes (run?_cons_of_step? finishes run)

/-- **All jobs can be served** by the worker alone. -/
lemma Serves.exists_drained (serves : Serves s capacity served queued p) : ∃ more p',
    accepted more = [] ∧ p.run? more = some p' ∧ p'.current = none ∧
      Serves s capacity (served ++ p.current.toList ++ queued) [] p' := by
  cases busy : p.current with
  | none => simpa using serves.exists_drained_of_idle busy
  | some job =>
    obtain ⟨next, finishes, idle, -, serves⟩ := serves.finish busy
    obtain ⟨more, p', silent, run, idle, serves⟩ := serves.exists_drained_of_idle idle
    exact ⟨.finish :: more, p', silent, run?_cons_of_step? finishes run, idle, serves⟩

/-- All handles can be dropped. -/
lemma run?_drop (p : Pool D) :
    p.run? (p.handles.map .drop) = some { p with handles := [] } := by
  obtain ⟨worker, handles, addresses, current, answers⟩ := p
  induction handles with
  | nil => rfl
  | cons handle rest ih => exact run?_cons_of_step? (by simp [step?]) ih

/-- **A worker can always get done** without further jobs. -/
lemma Serves.exists_done (serves : Serves s capacity served queued p) : ∃ more p',
    accepted more = [] ∧ p.run? more = some p' ∧ p'.Done := by
  obtain ⟨more, drained, silent, run, idle, serves⟩ := serves.exists_drained
  refine ⟨more ++ drained.handles.map .drop, { drained with handles := [] }, ?_, ?_, rfl, idle,
    serves.queue⟩
  · unfold accepted at silent ⊢
    rw [List.filterMap_append, silent]
    simp [Event.job?]
  · rw [run?_append, run]
    exact run?_drop drained

/-- **A worker is done exactly if nothing can happen to it any more.** -/
lemma Serves.done_iff (serves : Serves s capacity served queued p) :
    p.Done ↔ ∀ event, p.step? event = none := by
  constructor
  · rintro ⟨handles, idle, queue⟩ event
    cases event <;> simp [step?, handles, idle, queue]
  · intro stuck
    have idle : p.current = none := by
      cases busy : p.current with
      | none => rfl
      | some job =>
        obtain ⟨p', finishes, -⟩ := serves.finish busy
        cases finishes.symm.trans (stuck .finish)
    refine ⟨?_, idle, ?_⟩
    · cases handles : p.handles with
      | nil => rfl
      | cons handle rest => simpa [step?, handles] using stuck (.drop handle)
    · cases queued with
      | nil => exact serves.queue
      | cons job queued =>
        obtain ⟨p', takes, -⟩ := serves.take idle
        cases takes.symm.trans (stuck .take)

/-- A job enters a queue that has room. -/
lemma Serves.exists_submit (serves : Serves s capacity served queued p) {handle : Nat}
    (live : handle ∈ p.handles) (fits : queued.length < capacity) (job : Job) :
    ∃ p', p.run? [.submit handle job] = some p' := by
  have room : p.worker.queue.length < p.worker.capacity := by
    rwa [serves.queue, List.length_map, serves.size]
  simp [run?, step?, live, Worker.submit?, room]

/-- An idle worker makes room by taking a job. -/
lemma Serves.exists_take_submit {oldest : Job}
    (serves : Serves s capacity served (oldest :: queued) p) (idle : p.current = none)
    {handle : Nat} (live : handle ∈ p.handles) (job : Job) :
    ∃ p', p.run? [.take, .submit handle job] = some p' := by
  obtain ⟨next, takes, -, handles, serves'⟩ := serves.take idle
  obtain ⟨p', run⟩ := serves'.exists_submit (handles ▸ live) serves.room job
  exact ⟨p', run?_cons_of_step? takes run⟩

/-- **No job waits for room forever**: if there is any room at all, the worker makes some. -/
lemma Serves.exists_submit_soon (serves : Serves s capacity served queued p) {handle : Nat}
    (live : handle ∈ p.handles) (positive : 0 < capacity) (job : Job) :
    ∃ more p', (∀ event ∈ more, event = .take ∨ event = .finish) ∧
      p.run? (more ++ [.submit handle job]) = some p' := by
  by_cases fits : queued.length < capacity
  · obtain ⟨p', run⟩ := serves.exists_submit live fits job
    exact ⟨[], p', by simp, run⟩
  cases queued with
  | nil => exact absurd positive fits
  | cons oldest queued =>
    cases busy : p.current with
    | none =>
      obtain ⟨p', run⟩ := serves.exists_take_submit busy live job
      exact ⟨[.take], p', by simp, run⟩
    | some current =>
      obtain ⟨next, finishes, idle, handles, serves'⟩ := serves.finish busy
      obtain ⟨p', run⟩ := serves'.exists_take_submit idle (handles ▸ live) job
      exact ⟨[.finish, .take], p', by simp, run?_cons_of_step? finishes run⟩

/-! ### What the answers are -/

/-- The answer to a served job is the result of its own step. -/
lemma Serves.getElem?_answers {front back : List Job} {job : Job}
    (serves : Serves s capacity (front ++ job :: back) queued p) :
    p.answers[front.length]? =
      some (job.address, (s.afterSteps (front.map (·.inputs))).reply job.inputs) := by
  rw [serves.answers, answersTo_append,
    List.getElem?_append_right (Nat.le_of_eq (length_answersTo s front)), length_answersTo,
    Nat.sub_self]
  rfl

/-- The answers after a job that faults the session are that it is faulted. -/
lemma Serves.of_faulted {front back : List Job}
    (serves : Serves s capacity (front ++ back) queued p)
    (faulted : (s.afterSteps (front.map (·.inputs))).state = .faulted) :
    p.worker.session = s.afterSteps (front.map (·.inputs)) ∧
      ∀ a ∈ p.answers.drop front.length, a.2 = .error (.step .sessionFaulted) := by
  constructor
  · rw [serves.session, List.map_append, Session.afterSteps_append,
      Session.afterSteps_of_faulted faulted]
  · intro a member
    rw [serves.answers, answersTo_append, List.drop_left' (length_answersTo _ _)] at member
    have result := List.mem_map_of_mem (f := Prod.snd) member
    rw [map_snd_answersTo, Session.replies_of_faulted faulted] at result
    exact List.eq_of_mem_replicate result

/-- **All jobs are answered once the worker is done**, as if they had been served one by one. -/
lemma Serves.of_done (serves : Serves s capacity served queued p) (finished : p.Done) :
    queued = [] ∧ p.answers.map (·.1) = served.map (·.address) ∧
      Worker.runAll (served.map (·.inputs)) { session := s, capacity := capacity } =
        (p.answers.map (·.2), p.worker) := by
  obtain ⟨-, -, empty⟩ := finished
  have none : queued = [] := by simpa [serves.queue] using empty
  refine ⟨none, by rw [serves.answers, map_fst_answersTo], ?_⟩
  have worker : p.worker = { session := p.worker.session, capacity := capacity, queue := [] } := by
    rw [← empty, ← serves.size]
  rw [worker, serves.answers, map_snd_answersTo, serves.session]
  simp only [Worker.runAll, List.nil_append, Session.answerAll_eq]

/-- **A refused job does not show** in the other answers and in the session. -/
lemma Serves.of_refused {front back queued' : List Job} {job : Job}
    (serves : Serves s capacity (front ++ job :: back) queued p)
    (refused : ∀ streams, ¬ (s.afterSteps (front.map (·.inputs))).Begins job.inputs streams)
    {capacity' : Nat} {p' : Pool D} (serves' : Serves s capacity' (front ++ back) queued' p') :
    p'.worker.session = p.worker.session ∧ ∃ before fault after,
      p.answers = before ++ (job.address, .error (.step fault)) :: after ∧
        p'.answers = before ++ after := by
  obtain ⟨⟨fault, result⟩, same⟩ := Session.runStep_of_refused refused
  constructor
  · rw [serves.session, serves'.session, List.map_append, List.map_append, List.map_cons,
      Session.afterSteps_append, Session.afterSteps_append, Session.afterSteps_cons, same]
  · refine ⟨answersTo s front, fault, answersTo (s.afterSteps (front.map (·.inputs))) back, ?_, ?_⟩
    · rw [serves.answers, answersTo_append, answersTo, result, same]
    · rw [serves'.answers, answersTo_append]

/-- **A worker answers every job once, in order of arrival.** Whichever handles there are, and
whatever room there is in the queue, after any events:

* The jobs that entered the queue are the served ones, then the one that the worker has taken, and
  then the queued ones. The answers go to the addresses of the served jobs, and the session is as it
  is after the steps of these jobs alone.
* The answer to a job is the result of its own step on the session that the jobs before it left. The
  job was refused and left no trace; or it failed and faulted the session; or it was completed, and
  the answer has the number of the step and the anchor buffers as they were right after it.
* Completed steps are numbered without gap or repeat, from the steps of the session at the start.
* Once the session is faulted it stays as it is, and all later answers are that it is faulted.
* When the worker is done, all jobs that entered the queue are answered, just as if they had been
  served one by one.
* A job that was refused could have been left out: then all others have the same answers, and the
  session is the same when the worker is done.
* Answers that were given stay as they are, whatever happens later.
* If there is any room at all, the worker alone makes room for one more job. It can always get done,
  and it is done exactly if nothing can happen any more.
* A worker that is idle, takes the oldest job and finishes it is as it is when it serves its queue
  once, and gives the same answer.

**Proof sketch.** The oldest job leaves the queue first, its answer is added to the end, and a job
that is submitted is added to the end of the queue; so every event keeps the order of arrival, and
by induction all events do. The rest is about the session that is stepped through a list of jobs, by
induction on the list. -/
theorem serves_in_order {handles : List Nat} {events : List Event}
    (run : (start s capacity handles).run? events = some p) : ∃ served queued,
      accepted events = served ++ p.current.toList ++ queued ∧
      Serves s capacity served queued p ∧
      (∀ front job back, served = front ++ job :: back →
        p.answers[front.length]? =
          some (job.address, (s.afterSteps (front.map (·.inputs))).reply job.inputs) ∧
        (s.afterSteps (front.map (·.inputs))).Becomes job.inputs
          ((s.afterSteps (front.map (·.inputs))).reply job.inputs)
          (s.afterSteps ((front ++ [job]).map (·.inputs)))) ∧
      (∃ count, p.worker.session.steps = s.steps + count ∧
        (p.answers.map (·.2)).filterMap Session.numberOf = List.range' (s.steps + 1) count) ∧
      (∀ front back, served = front ++ back →
        (s.afterSteps (front.map (·.inputs))).state = .faulted →
        p.worker.session = s.afterSteps (front.map (·.inputs)) ∧
          ∀ a ∈ p.answers.drop front.length, a.2 = .error (.step .sessionFaulted)) ∧
      (p.Done → served = accepted events ∧
        p.answers.map (·.1) = (accepted events).map (·.address) ∧
        Worker.runAll ((accepted events).map (·.inputs)) { session := s, capacity := capacity } =
          (p.answers.map (·.2), p.worker)) ∧
      (∀ front job back, accepted events = front ++ job :: back →
        (∀ streams, ¬ (s.afterSteps (front.map (·.inputs))).Begins job.inputs streams) → p.Done →
        ∀ capacity' handles' events' p', (start s capacity' handles').run? events' = some p' →
          accepted events' = front ++ back → p'.Done →
          p'.worker.session = p.worker.session ∧ ∃ before fault after,
            p.answers = before ++ (job.address, .error (.step fault)) :: after ∧
              p'.answers = before ++ after) ∧
      (∀ more p', p.run? more = some p' → p.answers <+: p'.answers) ∧
      (0 < capacity → ∀ handle ∈ p.handles, ∀ job, ∃ more p',
        (∀ event ∈ more, event = .take ∨ event = .finish) ∧
          p.run? (more ++ [.submit handle job]) = some p') ∧
      (∃ more p', accepted more = [] ∧ p.run? more = some p' ∧ p'.Done) ∧
      (p.Done ↔ ∀ event, p.step? event = none) ∧
      (p.current = none → ∀ result w, p.worker.serve? = some (result, w) → ∃ p' address,
        p.run? [.take, .finish] = some p' ∧ p'.worker = w ∧
          p'.answers = p.answers ++ [(address, result)]) := by
  obtain ⟨served, queued, arrived, serves⟩ := serves_of_start run
  have all : p.Done → served = accepted events := by
    intro finished
    rw [arrived, finished.2.1, (serves.of_done finished).1]
    simp
  refine ⟨served, queued, arrived, serves, ?_, ?_, ?_, ?_, ?_, ?_, ?_, serves.exists_done,
    serves.done_iff, fun idle result w serve => serves.take_finish idle serve⟩
  · rintro front job back rfl
    refine ⟨serves.getElem?_answers, ?_⟩
    rw [List.map_append, Session.afterSteps_append]
    exact Session.becomes_reply _ _
  · rw [serves.answers, map_snd_answersTo, serves.session]
    exact Session.steps_replies s _
  · rintro front back rfl faulted
    exact serves.of_faulted faulted
  · intro finished
    obtain ⟨-, answered⟩ := serves.of_done finished
    rw [← all finished]
    exact ⟨rfl, answered⟩
  · intro front job back split refused finished capacity' handles' events' p' run' arrived'
      finished'
    obtain ⟨served', queued', order, serves'⟩ := serves_of_start run'
    rw [finished'.2.1, (serves'.of_done finished').1, arrived'] at order
    simp only [Option.toList_none, List.append_nil] at order
    rw [all finished, split] at serves
    rw [← order] at serves'
    exact serves.of_refused refused serves'
  · intro more p' run'
    obtain ⟨further, queued', -, serves'⟩ := serves_of_run? serves run'
    rw [serves.answers, serves'.answers, answersTo_append]
    exact List.prefix_append _ _
  · intro positive handle live job
    exact serves.exists_submit_soon live positive job

/-- Five jobs of two handles: two that can be completed, one without inputs between them, one with
inputs that are no numbers, and one after that. There is room for one. -/
def sampleEvents : List Event :=
  [.clone 0 1, .submit 0 ⟨10, Session.sampleInputs .one⟩, .take, .submit 1 ⟨11, .ofList []⟩,
    .finish, .take, .submit 1 ⟨12, Session.sampleInputs .one⟩, .finish, .drop 1, .take,
    .submit 0 ⟨13, Session.sampleInputs ⟨0x7fc00000⟩⟩, .finish, .take,
    .submit 0 ⟨14, Session.sampleInputs .one⟩, .drop 0, .finish, .take, .finish]

/-- **A small session is fed by two handles.** Two jobs are completed, one is refused, one faults
the session, and one comes too late. -/
theorem serves_in_order_sample : ∃ s₀ p,
    Session.sample .inference ⟨none, true, false⟩ = some s₀ ∧
    (start (s₀.after [.prepare, .pushWeights]) 1 [0]).run? sampleEvents = some p ∧ p.Done ∧
    p.answers.map (·.1) = [10, 11, 12, 13, 14] ∧
    p.answers.map (fun a => Session.numberOf a.2) = [some 1, none, some 2, none, none] ∧
    (p.answers.map (·.2)).getLast? = some (.error (.step .sessionFaulted)) := by
  obtain ⟨s₀, found, tested⟩ := Session.exists_of_sample .inference ⟨none, true, false⟩
    (fun s₀ =>
      let results := (Worker.runAll ((accepted sampleEvents).map (·.inputs))
        { session := s₀.after [.prepare, .pushWeights], capacity := 1 }).1
      decide (results.map Session.numberOf = [some 1, none, some 2, none, none] ∧
        results.getLast? = some (.error (.step .sessionFaulted)))) (by decide +kernel)
  obtain ⟨numbers, last⟩ := of_decide_eq_true tested
  obtain ⟨p, run, finished⟩ : ∃ p,
      (start (s₀.after [.prepare, .pushWeights]) 1 [0]).run? sampleEvents = some p ∧ p.Done :=
    ⟨_, rfl, rfl, rfl, rfl⟩
  obtain ⟨_, _, -, -, -, -, -, whenDone, -⟩ := serves_in_order run
  obtain ⟨-, addresses, results⟩ := whenDone finished
  rw [results] at numbers last
  rw [List.map_map] at numbers
  exact ⟨s₀, p, found, run, finished, addresses, numbers, last⟩

end Pool

end Microbatch
