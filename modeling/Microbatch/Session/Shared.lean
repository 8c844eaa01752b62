import Microbatch.Session.Step

set_option relaxedAutoImplicit false
set_option autoImplicit false

/-!
# Shared sessions

Several holders may share a session. Calls never wait: one that is made while another runs is
refused, and after a call has broken off, every later one is.

## Main definitions

* `Microbatch.SharedSession` — a session with a lock.
* `Microbatch.SharedSession.within` — a call with the session to itself.
* `Microbatch.SharedSession.runStep`, `Microbatch.SharedSession.runStepSnapshot` — steps as calls.
* `Microbatch.SharedSession.breakOff` — a call that does not come to its end.
-/

namespace Microbatch

/-- **The lock of a shared session.** -/
inductive Lock where
  /-- No call is running. -/
  | free
  /-- A call is running. -/
  | held
  /-- A call broke off. -/
  | broken
  deriving DecidableEq, Inhabited

/-- **A session that several holders share.** -/
structure SharedSession (D : Type) where
  /-- The session. -/
  session : Session D
  /-- The lock. -/
  lock : Lock := .free

namespace SharedSession

variable {D α : Type}

/-- Whether a call can start. -/
def mayStart (s : SharedSession D) : Except Fault Unit :=
  match s.lock with
  | .free => .ok ()
  | .held => .error .concurrentAccess
  | .broken => .error .sessionFaulted

/-- **A call with the session to itself.** The call also gets the shared session as other holders
see it meanwhile. -/
def within (call : SharedSession D → Session D → Except Fault α × Session D)
    (s : SharedSession D) : Except Fault α × SharedSession D :=
  match s.mayStart with
  | .error fault => (.error fault, s)
  | .ok () =>
    let (result, session) := call { s with lock := .held } s.session
    (result, { s with session := session })

/-- **A call that breaks off.** The result says whether it ran at all. -/
def breakOff (s : SharedSession D) : Bool × SharedSession D :=
  match s.mayStart with
  | .error _ => (false, s)
  | .ok () => (true, { s with lock := .broken })

variable [Device D]

/-- Runs one step. -/
def runStep (inputs : StepInputs) (s : SharedSession D) : Except Fault Unit × SharedSession D :=
  s.within fun _ session => session.runStep inputs

/-- Runs one step and copies the anchors within the same call. -/
def runStepSnapshot (inputs : StepInputs) (s : SharedSession D) :
    Except Fault (List (String × Tensor)) × SharedSession D :=
  s.within fun _ session => session.runStepSnapshot inputs

end SharedSession

end Microbatch
