import Microbatch.Session.Step

set_option relaxedAutoImplicit false
set_option autoImplicit false

/-!
# Step workers

A worker owns a session and a queue of limited room. Jobs are served in the order in which they were
queued; the answer to a job holds copies of the anchors of its own step.

## Main definitions

* `Microbatch.Worker` — a session with its queue.
* `Microbatch.Worker.submit?`, `Microbatch.Worker.serve?` — a job enters or leaves the queue.
* `Microbatch.Worker.drain` — serves every queued job.
* `Microbatch.Worker.runAll` — jobs that enter as soon as there is room.
-/

namespace Microbatch

/-- **The answer to a job.** -/
structure StepResponse where
  /-- The number of the step, counted from one. -/
  step : Nat
  /-- The anchors, in the order of registration. -/
  anchors : List (String × Tensor)
  deriving DecidableEq

/-- **Why a job has no answer.** -/
inductive WorkerFault where
  /-- The worker was gone before the job was queued. -/
  | stopped
  /-- The worker went with the job in its queue. -/
  | dropped
  /-- The step failed. -/
  | step (fault : Fault)
  deriving DecidableEq

/-- The wording of a fault. -/
def WorkerFault.message : WorkerFault → String
  | stopped => "step worker has stopped"
  | dropped => "step worker dropped the job"
  | step fault => fault.message

/-- **A worker**: a session with a queue. -/
structure Worker (D : Type) where
  /-- The session. -/
  session : Session D
  /-- How many jobs the queue has room for. -/
  capacity : Nat
  /-- The queued jobs, the oldest first. -/
  queue : List StepInputs := []

namespace Worker

variable {D : Type}

/-- Queues a job, if there is room. -/
def submit? (job : StepInputs) (w : Worker D) : Option (Worker D) :=
  if w.queue.length < w.capacity then some { w with queue := w.queue ++ [job] } else none

/-- Queues jobs in order as long as there is room. -/
def fill (jobs : List StepInputs) (w : Worker D) : Worker D :=
  jobs.foldl (fun w job => (w.submit? job).getD w) w

/-- What becomes of jobs that are submitted to a worker which then goes away without serving any. -/
def abandonedAnswers (jobs : List StepInputs) (w : Worker D) :
    List (Except WorkerFault StepResponse) :=
  let queued := (w.fill jobs).queue.length - w.queue.length
  jobs.mapIdx fun i _ => .error (if i < queued then .dropped else .stopped)

variable [Device D]

/-- The answer of a session to a job. -/
def answer (job : StepInputs) (s : Session D) : Except WorkerFault StepResponse × Session D :=
  match s.runStepSnapshot job with
  | (.error fault, s) => (.error (.step fault), s)
  | (.ok anchors, s) => (.ok ⟨s.steps, anchors⟩, s)

/-- **Serves the oldest queued job**, if there is one. -/
def serve? (w : Worker D) : Option (Except WorkerFault StepResponse × Worker D) :=
  match w.queue with
  | [] => none
  | job :: rest =>
    let (result, session) := answer job w.session
    some (result, { w with session := session, queue := rest })

/-- The answers of a session to jobs in order. -/
def answerAll (s : Session D) :
    List StepInputs → List (Except WorkerFault StepResponse) × Session D
  | [] => ([], s)
  | job :: rest =>
    let (result, s) := answer job s
    let (results, s) := answerAll s rest
    (result :: results, s)

/-- **Serves every queued job.** -/
def drain (w : Worker D) : List (Except WorkerFault StepResponse) × Worker D :=
  let (results, session) := answerAll w.session w.queue
  (results, { w with session := session, queue := [] })

/-- **Serves the queued jobs and then further jobs**, which are queued as room is made. Whatever the
room, jobs are served in order. -/
def runAll (jobs : List StepInputs) (w : Worker D) :
    List (Except WorkerFault StepResponse) × Worker D :=
  let (results, session) := answerAll w.session (w.queue ++ jobs)
  (results, { w with session := session, queue := [] })

end Worker

end Microbatch
