import StyledTree.Fault

set_option autoImplicit false

namespace StyledTree.Dispatch

/-- The thread that a job is sent from. -/
inductive Sender where
  | uiThread
  | otherThread
deriving DecidableEq, Inhabited

/-- Whether a job may run before the send returns. -/
inductive Urgency where
  | now
  | later
deriving DecidableEq, Inhabited

structure Delivery where
  sender : Sender
  urgency : Urgency
deriving DecidableEq, Inhabited

namespace Delivery

/-- The job runs at once, on the thread it is sent from. -/
def isInline (delivery : Delivery) : Bool :=
  delivery.sender == .uiThread && delivery.urgency == .now

end Delivery

/-- A job: its tag and the jobs it sends while it runs. -/
inductive Job where
  | mk (tag : String) (sends : List (Delivery × Job))
deriving Inhabited

namespace Job

mutual

/-- The number of jobs in a job, itself included. -/
def size : Job → Nat
  | .mk _ sends => sizeOfSends sends + 1

def sizeOfSends : List (Delivery × Job) → Nat
  | [] => 0
  | (_, job) :: rest => size job + sizeOfSends rest

end

end Job

/-- What can be seen of running jobs, in order. -/
inductive Step where
  | started (tag : String)
  | finished (tag : String)
  | refused (fault : Fault)

/-- The waiting jobs, first come first, and whether anyone is left to run them. -/
structure Queue where
  waiting : List Job
  isOpen : Bool
deriving Inhabited

namespace Queue

def fresh : Queue := ⟨[], true⟩

/-- The queue after its dispatcher is gone: what waits is lost. -/
def closed : Queue := ⟨[], false⟩

def accept (queue : Queue) (job : Job) : Except Fault Queue :=
  if queue.isOpen then .ok { queue with waiting := queue.waiting ++ [job] }
  else .error .dispatcherClosed

/-- The number of jobs that waiting jobs amount to. -/
def load : List Job → Nat
  | [] => 0
  | job :: rest => job.size + load rest

theorem load_append (waiting later : List Job) :
    load (waiting ++ later) = load waiting + load later := by
  induction waiting with
  | nil => rw [List.nil_append, load, Nat.zero_add]
  | cons job rest ih => rw [List.cons_append, load, load, ih, Nat.add_assoc]

end Queue

/-- What a running job sees of the outcome of a send. -/
def Step.ofOutcome : Except Fault Unit → List Step
  | .ok () => []
  | .error fault => [.refused fault]

mutual

/-- Runs a job on the owning thread. -/
def Job.run (queue : Queue) : Job → List Step × Queue
  | .mk tag sends =>
    let (steps, after) := runSends queue sends
    (.started tag :: steps ++ [.finished tag], after)

/-- Does the sends of a running job, in order. -/
def runSends (queue : Queue) : List (Delivery × Job) → List Step × Queue
  | [] => ([], queue)
  | delivered :: rest =>
    let (outcome, steps, middle) := send queue delivered
    let (more, after) := runSends middle rest
    (steps ++ Step.ofOutcome outcome ++ more, after)

/-- Sends one job: what the sender is told, what was seen and the queue. -/
def send (queue : Queue) : Delivery × Job → Except Fault Unit × List Step × Queue
  | (delivery, job) =>
    if delivery.isInline then
      let (steps, after) := job.run queue
      (.ok (), steps, after)
    else
      match queue.accept job with
      | .ok queued => (.ok (), [], queued)
      | .error fault => (.error fault, [], queue)

end

mutual

theorem load_run (queue : Queue) : (job : Job) →
    Queue.load (job.run queue).2.waiting + 1 ≤ Queue.load queue.waiting + job.size
  | .mk tag sends => by
    have smaller := load_runSends queue sends
    simp only [Job.run, Job.size]
    omega

theorem load_runSends (queue : Queue) : (sends : List (Delivery × Job)) →
    Queue.load (runSends queue sends).2.waiting ≤
      Queue.load queue.waiting + Job.sizeOfSends sends
  | [] => by simp [runSends, Job.sizeOfSends]
  | (delivery, job) :: rest => by
    have first := load_send queue (delivery, job)
    have others := load_runSends (send queue (delivery, job)).2.2 rest
    simp only [runSends, Job.sizeOfSends] at first ⊢
    exact Nat.le_trans others (by omega)

theorem load_send (queue : Queue) : (delivered : Delivery × Job) →
    Queue.load (send queue delivered).2.2.waiting ≤ Queue.load queue.waiting + delivered.2.size
  | (delivery, job) => by
    have ran := load_run queue job
    simp only [send]
    split
    · simp only
      omega
    · simp only [Queue.accept]
      by_cases isOpen : queue.isOpen = true
      · simp [isOpen, Queue.load, Queue.load_append]
      · simp [isOpen]

end

/-- Runs waiting jobs until none is left: how many ran, what was seen, and the queue. -/
def drain (queue : Queue) : Nat × List Step × Queue :=
  match _ : queue.waiting with
  | [] => (0, [], queue)
  | job :: rest =>
    let ran := job.run { queue with waiting := rest }
    let others := drain ran.2
    (others.1 + 1, ran.1 ++ others.2.1, others.2.2)
termination_by Queue.load queue.waiting
decreasing_by
  have smaller := load_run { queue with waiting := rest } job
  have whole : Queue.load queue.waiting = job.size + Queue.load rest := by
    simp [Queue.load, ‹queue.waiting = job :: rest›]
  simp only at smaller
  omega

end StyledTree.Dispatch
