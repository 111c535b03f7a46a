import OrderDesk.Session.Basic

/-!
# Session/Rounds — callers that take turns

Callers of one session are run in rounds: in each round every one of them goes on, in order, until it
has to wait.  An exchange takes four turns before its outcome is there, an operation takes one.
Outcomes are given in advance; an exchange without one fails.
-/

namespace OrderDesk

open Json (Value)

/-- The outcome of what is in flight. -/
inductive Landing where
  | exchange (r : Except Error Token)
  | attempt (r : Except Error Value)

/-- A caller, with the outcomes of its operation. -/
structure Errand where
  id : Nat
  goal : Goal
  stage : Stage Value
  /-- What the attempts to come end with. -/
  outcomes : List (Except Error Value)
  /-- The tokens of the attempts so far. -/
  used : List String
  /-- What is in flight. -/
  landing : Option Landing
  /-- How many turns it is still in flight. -/
  pause : Nat

/-- A session, with the outcomes of its exchanges. -/
structure Session.Script where
  session : Session
  now : Int64
  /-- What the exchanges to come end with. -/
  exchanges : List (Except Error Token)
  /-- How many exchanges were started. -/
  started : Nat

namespace Errand

open Session (Script)

/-- A caller at its start. -/
def ofGoal (id : Nat) (goal : Goal) (outcomes : List (Except Error Value)) : Errand where
  id := id
  goal := goal
  stage := Session.start goal
  outcomes := outcomes
  used := []
  landing := none
  pause := 0

/-- What an exchange or attempt ends with that no outcome is given for. -/
def exhausted : Error := .authenticationFailure "script exhausted"

/-- What was in flight has come. -/
def land (e : Errand) (w : Script) : Errand × Script :=
  match e.landing, e.stage with
  | some (.exchange r), .exchange p =>
    ({ e with stage := Session.exchangeEnded p r, landing := none }, w)
  | some (.attempt r), .attempt p t =>
    ({ e with stage := Session.attemptEnded p t r, landing := none }, w)
  | _, _ => (e, w)

/-- The steps of the caller on its own. -/
def walk (e : Errand) (w : Script) : Errand × Script :=
  let (session, stage) := w.session.settle w.now e.id e.goal e.stage
  ({ e with stage := stage }, { w with session := session })

/-- What the caller waits for is sent out. -/
def launch (e : Errand) (w : Script) : Errand × Script :=
  match e.landing, e.stage with
  | none, .exchange _ =>
    ({ e with landing := some (.exchange (w.exchanges.headD (.error exhausted))), pause := 3 },
      { w with exchanges := w.exchanges.tail, started := w.started + 1 })
  | none, .attempt _ t =>
    ({ e with
        landing := some (.attempt (e.outcomes.headD (.error exhausted)))
        outcomes := e.outcomes.tail
        used := e.used ++ [t.value] }, w)
  | _, _ => (e, w)

/-- **A turn of a caller.** -/
def turn (e : Errand) (w : Script) : Errand × Script :=
  if e.pause > 0 then ({ e with pause := e.pause - 1 }, w)
  else
    let (e, w) := e.land w
    let (e, w) := e.walk w
    e.launch w

end Errand

/-- What a job answers. -/
inductive Answer where
  /-- Nothing. -/
  | nothing
  /-- The cached token. -/
  | cached (t : Option Token)
  /-- A token, or the failure to get one. -/
  | granted (r : Except Error Token)
  /-- The outcome of an operation, and the tokens of its attempts. -/
  | ended (r : Except Error Value) (used : List String)
  /-- A text for diagnostics. -/
  | debug (text : String)
  /-- The answers of jobs done together. -/
  | together (answers : List Answer)

/-- Something to be done on a session. -/
inductive Job where
  | errand (e : Errand)
  | look
  | invalidate
  | describe
  /-- Jobs done at the same time. -/
  | together (jobs : List Job)
  /-- A job that is done. -/
  | done (a : Answer)

namespace Job

open Session (Script)

/-- The answer of a caller that has ended. -/
def ofErrand (e : Errand) : Job :=
  match e.stage with
  | .granted r => done (.granted r)
  | .ended r => done (.ended r e.used)
  | _ => errand e

/-- The answers of jobs, if all of them are done. -/
def answers? : List Job → Option (List Answer)
  | [] => some []
  | done a :: jobs => (answers? jobs).map (a :: ·)
  | _ :: _ => none

/-- Jobs done together, or their answers. -/
def ofJobs (jobs : List Job) : Job :=
  match answers? jobs with
  | some answers => done (.together answers)
  | none => together jobs

mutual

/-- **A turn of a job.** -/
def turn (w : Script) : Job → Job × Script
  | errand e =>
    let (e, w) := e.turn w
    (ofErrand e, w)
  | look => (done (.cached w.session.token), w)
  | invalidate => (done .nothing, { w with session := w.session.invalidate })
  | describe => (done (.debug w.session.debugText), w)
  | together jobs =>
    let (jobs, w) := round w jobs
    (ofJobs jobs, w)
  | done a => (done a, w)

/-- **A round:** every job takes a turn. -/
def round (w : Script) : List Job → List Job × Script
  | [] => ([], w)
  | job :: jobs =>
    let (job, w) := turn w job
    let (jobs, w) := round w jobs
    (job :: jobs, w)

end

mutual

/-- How many callers a job has. -/
def callers : Job → Nat
  | together jobs => callersOf jobs
  | _ => 1

/-- How many callers jobs have. -/
def callersOf : List Job → Nat
  | [] => 0
  | job :: jobs => callers job + callersOf jobs

end

/-- Turns until the job is done, up to a number. -/
def runFor : Nat → Job → Script → Option Answer × Script
  | _, done a, w => (some a, w)
  | 0, _, w => (none, w)
  | n + 1, job, w =>
    let (job, w) := turn w job
    runFor n job w

/-- **Running a job to its end.**  A caller waits for two exchanges and two attempts at most, and
there is one who does not wait for the lock in every round. -/
def run (job : Job) (w : Script) : Option Answer × Script := runFor (16 * (callers job + 1)) job w

end Job

end OrderDesk
