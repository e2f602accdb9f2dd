import Mathlib.Data.List.Induction
import StyledTree.Dispatch.Queue

set_option autoImplicit false

namespace StyledTree.Dispatch

inductive Stage where
  /-- It is about to look for the next job. -/
  | looking
  /-- It runs a job of the queue; within it jobs that were sent for now, innermost first. -/
  | running (job : Job) (inner : List Job)
  /-- It has found the queue empty. -/
  | leaving

/-- A call that drains the queue, and how many of its jobs are over. -/
structure Call where
  count : Nat
  stage : Stage

def Call.begun (call : Call) : Nat :=
  match call.stage with
  | .running _ _ => call.count + 1
  | _ => call.count

/-- The queue and where the owning thread is: outside of any call it may be in jobs that were sent for
now, innermost first. There is one call at a time, since a call has the dispatcher for itself. -/
structure Machine where
  queue : Queue
  outer : List Job
  call : Option Call

inductive Act where
  /-- A job was sent for the queue. -/
  | sent (delivery : Delivery) (job : Job) (outcome : Except Fault Unit)
  /-- A job that was sent for now on the owning thread starts. -/
  | entered (job : Job)
  | left (job : Job)
  | called
  /-- A call takes the first job from the queue and starts it. -/
  | taken (job : Job)
  | finished (job : Job)
  | emptied
  | returned (count : Nat)
  /-- A job that fails is given up, and with a job of the queue the call that runs it. -/
  | unwound
  | dropped

namespace Machine

def fresh : Machine := ⟨.fresh, [], none⟩

/-- The jobs sent for now that the owning thread is in, while client code runs on it. -/
def jobs? (machine : Machine) : Option (List Job) :=
  match machine.call with
  | none => some machine.outer
  | some ⟨_, .running _ inner⟩ => some inner
  | some _ => none

def setJobs (machine : Machine) (jobs : List Job) : Machine :=
  match machine.call with
  | some ⟨count, .running job _⟩ => { machine with call := some ⟨count, .running job jobs⟩ }
  | _ => { machine with outer := jobs }

def withQueue (machine : Machine) (queue : Queue) : Machine := { machine with queue := queue }

/-- Other threads act at any time, the owning thread while it runs client code. -/
def MayAct (machine : Machine) (sender : Sender) : Prop :=
  sender = .uiThread → machine.jobs?.isSome = true

inductive Acts : Machine → Act → Machine → Prop where
  | accepted {machine : Machine} {delivery : Delivery} {job : Job} {queue : Queue}
    (queues : delivery.isInline = false) (mayAct : machine.MayAct delivery.sender)
    (accepted : machine.queue.accept job = .ok queue) :
    Acts machine (.sent delivery job (.ok ())) (machine.withQueue queue)
  | refused {machine : Machine} {delivery : Delivery} {job : Job} {fault : Fault}
    (queues : delivery.isInline = false) (mayAct : machine.MayAct delivery.sender)
    (refused : machine.queue.accept job = .error fault) :
    Acts machine (.sent delivery job (.error fault)) machine
  | entered {machine : Machine} {jobs : List Job} (job : Job)
    (client : machine.jobs? = some jobs) :
    Acts machine (.entered job) (machine.setJobs (job :: jobs))
  | left {machine : Machine} {job : Job} {jobs : List Job}
    (client : machine.jobs? = some (job :: jobs)) : Acts machine (.left job) (machine.setJobs jobs)
  | abandoned {machine : Machine} {job : Job} {jobs : List Job}
    (client : machine.jobs? = some (job :: jobs)) : Acts machine .unwound (machine.setJobs jobs)
  | called {machine : Machine} (idle : machine.call = none)
    (isOpen : machine.queue.isOpen = true) :
    Acts machine .called { machine with call := some ⟨0, .looking⟩ }
  | taken {machine : Machine} {count : Nat} {job : Job} {rest : List Job}
    (call : machine.call = some ⟨count, .looking⟩) (waiting : machine.queue.waiting = job :: rest) :
    Acts machine (.taken job)
      { machine with
        queue := { machine.queue with waiting := rest }
        call := some ⟨count, .running job []⟩ }
  | finished {machine : Machine} {count : Nat} {job : Job}
    (call : machine.call = some ⟨count, .running job []⟩) :
    Acts machine (.finished job) { machine with call := some ⟨count + 1, .looking⟩ }
  | emptied {machine : Machine} {count : Nat} (call : machine.call = some ⟨count, .looking⟩)
    (waiting : machine.queue.waiting = []) :
    Acts machine .emptied { machine with call := some ⟨count, .leaving⟩ }
  | returned {machine : Machine} {count : Nat} (call : machine.call = some ⟨count, .leaving⟩) :
    Acts machine (.returned count) { machine with call := none }
  | unwound {machine : Machine} {count : Nat} {job : Job}
    (call : machine.call = some ⟨count, .running job []⟩) :
    Acts machine .unwound { machine with call := none }
  | dropped {machine : Machine} (idle : machine.call = none)
    (isOpen : machine.queue.isOpen = true) :
    Acts machine .dropped (machine.withQueue .closed)

inductive Runs (start : Machine) : List Act → Machine → Prop where
  | refl : Runs start [] start
  | step {acts : List Act} {act : Act} {middle after : Machine} (earlier : Runs start acts middle)
    (one : Acts middle act after) : Runs start (acts ++ [act]) after

namespace Runs

variable {start middle after : Machine} {first second acts : List Act} {act : Act}

theorem single (one : Acts start act after) : Runs start [act] after := refl.step one

theorem trans (earlier : Runs start first middle) (later : Runs middle second after) :
    Runs start (first ++ second) after := by
  induction later with
  | refl => rwa [List.append_nil]
  | step _ one ih =>
      rw [← List.append_assoc]
      exact ih.step one

theorem exists_of_concat (run : Runs start (acts ++ [act]) after) :
    ∃ middle, Runs start acts middle ∧ Acts middle act after := by
  generalize whole : acts ++ [act] = all at run
  cases run with
  | refl => cases acts <;> cases whole
  | @step earlierActs _ middle _ earlier one =>
      obtain ⟨rfl, last⟩ := List.append_inj' whole rfl
      cases last
      exact ⟨middle, earlier, one⟩

theorem exists_of_append (run : Runs start (first ++ second) after) :
    ∃ middle, Runs start first middle ∧ Runs middle second after := by
  induction second using List.reverseRecOn generalizing after with
  | nil =>
      rw [List.append_nil] at run
      exact ⟨after, run, refl⟩
  | append_singleton second act ih =>
      rw [← List.append_assoc] at run
      obtain ⟨last, earlier, one⟩ := exists_of_concat run
      obtain ⟨middle, before, later⟩ := ih earlier
      exact ⟨middle, before, later.step one⟩

theorem eq_of_nil (run : Runs start [] after) : after = start := by
  generalize whole : [] = all at run
  cases run with
  | refl => rfl
  | @step earlier _ _ _ _ _ => cases earlier <;> cases whole

theorem exists_of_cons (run : Runs start (act :: acts) after) :
    ∃ middle, Acts start act middle ∧ Runs middle acts after := by
  have split : Runs start (([] ++ [act]) ++ acts) after := run
  obtain ⟨middle, first, later⟩ := exists_of_append split
  obtain ⟨before, none, one⟩ := exists_of_concat first
  rw [eq_of_nil none] at one
  exact ⟨middle, one, later⟩

end Runs

end Machine

end StyledTree.Dispatch
