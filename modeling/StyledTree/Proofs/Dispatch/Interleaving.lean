import Mathlib.Data.List.DropRight
import StyledTree.Proofs.Dispatch.Machine

set_option autoImplicit false

namespace StyledTree.Dispatch

/-! What a run accepted, took and finished. -/

namespace Act

def accepted? : Act → Option Job
  | .sent _ job (.ok _) => some job
  | _ => none

def taken? : Act → Option Job
  | .taken job => some job
  | _ => none

def finished? : Act → Option Job
  | .finished job => some job
  | _ => none

def isCall : Act → Bool
  | .called => true
  | _ => false

def isRemote : Act → Bool
  | .sent delivery _ _ => delivery.sender == .otherThread
  | _ => false

end Act

def accepted (acts : List Act) : List Job := acts.filterMap Act.accepted?

def taken (acts : List Act) : List Job := acts.filterMap Act.taken?

def finished (acts : List Act) : List Job := acts.filterMap Act.finished?

def sinceCall (acts : List Act) : List Act := acts.rtakeWhile (fun act => !act.isCall)

theorem accepted_append (first second : List Act) :
    accepted (first ++ second) = accepted first ++ accepted second := List.filterMap_append

theorem taken_append (first second : List Act) :
    taken (first ++ second) = taken first ++ taken second := List.filterMap_append

theorem finished_append (first second : List Act) :
    finished (first ++ second) = finished first ++ finished second := List.filterMap_append

theorem accepted_concat_of_none {acts : List Act} {act : Act} (accepts : act.accepted? = none) :
    accepted (acts ++ [act]) = accepted acts := by
  rw [accepted_append, accepted, accepted, List.filterMap_cons_none accepts, List.filterMap_nil,
    List.append_nil]

theorem taken_concat_of_none {acts : List Act} {act : Act} (takes : act.taken? = none) :
    taken (acts ++ [act]) = taken acts := by
  rw [taken_append, taken, taken, List.filterMap_cons_none takes, List.filterMap_nil,
    List.append_nil]

theorem sinceCall_concat (acts : List Act) (act : Act) :
    sinceCall (acts ++ [act]) = if act.isCall then [] else sinceCall acts ++ [act] := by
  rw [sinceCall, List.rtakeWhile_concat]
  cases act.isCall <;> rfl

theorem sinceCall_of_last {before during : List Act} (last : Act.called ∉ during) :
    sinceCall (before ++ .called :: during) = during := by
  induction during using List.reverseRecOn with
  | nil => exact sinceCall_concat before .called
  | append_singleton during act ih =>
      rw [List.mem_append, List.mem_singleton, not_or] at last
      rw [← List.cons_append, ← List.append_assoc, sinceCall_concat, ih last.1]
      cases act with
      | called => exact absurd rfl last.2
      | _ => rfl

/-! What the queue holds. -/

/-- The queue holds what was accepted and not taken, as long as someone is there to take it. -/
structure Queue.Accounts (queue : Queue) (acts : List Act) : Prop where
  whileOpen : queue.isOpen = true → Act.dropped ∉ acts ∧
    accepted acts = taken acts ++ queue.waiting
  onceClosed : queue.isOpen = false → Act.dropped ∈ acts ∧
    taken acts <+: accepted acts ∧ queue.waiting = []

namespace Queue

theorem accept_eq_ok_iff {queue queued : Queue} {job : Job} :
    queue.accept job = .ok queued ↔
      queue.isOpen = true ∧ queued = { queue with waiting := queue.waiting ++ [job] } := by
  rw [accept]
  split
  · next isOpen => simp [isOpen, eq_comm]
  · next isClosed => simp [isClosed]

namespace Accounts

variable {queue : Queue} {acts : List Act}

/-- Nothing is accepted or taken. -/
theorem idle (accounts : queue.Accounts acts) {act : Act} (accepts : act.accepted? = none)
    (takes : act.taken? = none) (drops : act ≠ .dropped) : queue.Accounts (acts ++ [act]) := by
  have drop : Act.dropped ∈ acts ++ [act] ↔ Act.dropped ∈ acts := by
    simp [drops.symm]
  constructor
  · rw [accepted_concat_of_none accepts, taken_concat_of_none takes, drop]
    exact accounts.whileOpen
  · rw [accepted_concat_of_none accepts, taken_concat_of_none takes, drop]
    exact accounts.onceClosed

theorem accept (accounts : queue.Accounts acts) {delivery : Delivery} {job : Job} {queued : Queue}
    (isAccepted : queue.accept job = .ok queued) :
    queued.Accounts (acts ++ [.sent delivery job (.ok ())]) := by
  obtain ⟨isOpen, rfl⟩ := accept_eq_ok_iff.mp isAccepted
  obtain ⟨live, holds⟩ := accounts.whileOpen isOpen
  refine ⟨fun _ => ⟨by simpa using live, ?_⟩, fun isClosed => ?_⟩
  · have one : accepted [.sent delivery job (.ok ())] = [job] ∧
        taken [.sent delivery job (.ok ())] = [] := ⟨rfl, rfl⟩
    rw [accepted_append, taken_append, one.1, one.2, List.append_nil, holds, List.append_assoc]
  · rw [isOpen] at isClosed
    cases isClosed

/-- What is taken is the first of what was accepted and not taken yet. -/
theorem take (accounts : queue.Accounts acts) {job : Job} {rest : List Job}
    (waiting : queue.waiting = job :: rest) :
    Accounts { queue with waiting := rest } (acts ++ [.taken job]) := by
  have one : accepted [.taken job] = [] ∧ taken [.taken job] = [job] := ⟨rfl, rfl⟩
  refine ⟨fun isOpen => ?_, fun isClosed => ?_⟩
  · obtain ⟨live, holds⟩ := accounts.whileOpen isOpen
    refine ⟨by simpa using live, ?_⟩
    rw [accepted_append, taken_append, one.1, one.2, List.append_nil, holds, waiting,
      List.append_assoc, List.singleton_append]
  · obtain ⟨-, -, empty⟩ := accounts.onceClosed isClosed
    rw [waiting] at empty
    cases empty

theorem drop (accounts : queue.Accounts acts) (isOpen : queue.isOpen = true) :
    Queue.closed.Accounts (acts ++ [.dropped]) := by
  refine ⟨nofun, fun _ => ⟨by simp, ?_, rfl⟩⟩
  rw [accepted_concat_of_none rfl, taken_concat_of_none rfl, (accounts.whileOpen isOpen).2]
  exact List.prefix_append _ _

end Accounts

end Queue

/-! What a call has done. -/

/-- A call that is going on has begun and finished the jobs that were taken and came to their end since
it started. -/
structure Call.Counts (call : Call) (acts : List Act) : Prop where
  begun : (taken (sinceCall acts)).length = call.begun
  ended : (finished (sinceCall acts)).length = call.count
  /-- When it found nothing all that had been accepted had been taken, and only other threads sent jobs
  after that. -/
  empty : call.stage = .leaving → ∃ earlier others, acts = earlier ++ .emptied :: others ∧
    accepted earlier = taken earlier ∧ ∀ act ∈ others, act.isRemote = true

namespace Call.Counts

variable {acts : List Act}

theorem call (acts : List Act) : Counts ⟨0, .looking⟩ (acts ++ [.called]) := by
  have none : sinceCall (acts ++ [.called]) = [] := sinceCall_concat acts .called
  refine ⟨?_, ?_, nofun⟩
  · rw [none]
    rfl
  · rw [none]
    rfl

/-- One more act in a call that goes on. -/
theorem advance {call later : Call} (counts : call.Counts acts) {act : Act}
    (calls : act.isCall = false) (begun : later.begun = call.begun + (taken [act]).length)
    (ended : later.count = call.count + (finished [act]).length)
    (empty : later.stage = .leaving → ∃ earlier others, acts ++ [act] = earlier ++ .emptied :: others ∧
      accepted earlier = taken earlier ∧ ∀ act ∈ others, act.isRemote = true) :
    later.Counts (acts ++ [act]) := by
  have more : sinceCall (acts ++ [act]) = sinceCall acts ++ [act] := by
    rw [sinceCall_concat, calls]
    rfl
  refine ⟨?_, ?_, empty⟩
  · rw [more, taken_append, List.length_append, counts.begun, begun]
  · rw [more, finished_append, List.length_append, counts.ended, ended]

theorem take {count : Nat} (counts : Counts ⟨count, .looking⟩ acts) (job : Job) :
    Counts ⟨count, .running job []⟩ (acts ++ [.taken job]) :=
  counts.advance rfl rfl rfl nofun

theorem finish {count : Nat} {job : Job} (counts : Counts ⟨count, .running job []⟩ acts) :
    Counts ⟨count + 1, .looking⟩ (acts ++ [.finished job]) :=
  counts.advance rfl rfl rfl nofun

theorem leave {count : Nat} (counts : Counts ⟨count, .looking⟩ acts)
    (empty : accepted acts = taken acts) : Counts ⟨count, .leaving⟩ (acts ++ [.emptied]) :=
  counts.advance rfl rfl rfl
    (fun _ => ⟨acts, [], rfl, empty, fun _ member => absurd member List.not_mem_nil⟩)

/-- Client code acts in a job of the call, or another thread does. -/
theorem idle {call later : Call} (counts : call.Counts acts) {act : Act}
    (calls : act.isCall = false) (takes : act.taken? = none) (finishes : act.finished? = none)
    (count : later.count = call.count) (begun : later.begun = call.begun)
    (leaves : later.stage = .leaving → call.stage = .leaving ∧ act.isRemote = true) :
    later.Counts (acts ++ [act]) := by
  have none : taken [act] = [] ∧ finished [act] = [] := by
    rw [taken, finished, List.filterMap_cons_none takes, List.filterMap_cons_none finishes]
    exact ⟨rfl, rfl⟩
  refine counts.advance calls (by rw [none.1, begun]; rfl) (by rw [none.2, count]; rfl) ?_
  intro isLeaving
  obtain ⟨wasLeaving, isRemote⟩ := leaves isLeaving
  obtain ⟨earlier, others, same, empty, remote⟩ := counts.empty wasLeaving
  refine ⟨earlier, others ++ [act], by rw [same, List.append_assoc, List.cons_append], empty, ?_⟩
  intro met member
  rcases List.mem_append.mp member with before | last
  · exact remote met before
  · rw [List.mem_singleton.mp last]
    exact isRemote

end Call.Counts

/-! One act, and a run. -/

namespace Machine

variable {machine after : Machine} {acts : List Act} {act : Act}

/-- What a run has come to: nobody drains a queue that is closed. -/
structure Accounts (machine : Machine) (acts : List Act) : Prop where
  queue : machine.queue.Accounts acts
  idle : machine.queue.isOpen = false → machine.call = none
  call : ∀ call, machine.call = some call → call.Counts acts

theorem Accounts.isOpen (accounts : machine.Accounts acts) {call : Call}
    (going : machine.call = some call) : machine.queue.isOpen = true := by
  by_contra isClosed
  rw [accounts.idle (by simpa using isClosed)] at going
  cases going

@[simp] theorem queue_setJobs (machine : Machine) (jobs : List Job) :
    (machine.setJobs jobs).queue = machine.queue := by
  rw [setJobs]
  split <;> rfl

theorem call_setJobs_of_idle (idle : machine.call = none) (jobs : List Job) :
    (machine.setJobs jobs).call = none := by
  rw [setJobs, idle]

/-- While client code runs, a call is in one of its jobs. -/
theorem call_of_jobs? {jobs : List Job} (client : machine.jobs? = some jobs) :
    machine.call = none ∨ ∃ count job, machine.call = some ⟨count, .running job jobs⟩ := by
  rw [jobs?] at client
  split at client
  · next idle => exact Or.inl idle
  · next count job inner isRunning =>
    cases client
    exact Or.inr ⟨count, job, isRunning⟩
  · cases client

namespace Accounts

theorem fresh : fresh.Accounts [] where
  queue := ⟨fun _ => ⟨List.not_mem_nil, rfl⟩, nofun⟩
  idle := nofun
  call := nofun

/-- Jobs that were sent for now start and end without the queue or the count of a call. -/
theorem setJobs (accounts : machine.Accounts acts) {jobs : List Job}
    (client : machine.jobs? = some jobs) (later : List Job) (calls : act.isCall = false)
    (accepts : act.accepted? = none) (takes : act.taken? = none) (finishes : act.finished? = none)
    (drops : act ≠ .dropped) : (machine.setJobs later).Accounts (acts ++ [act]) := by
  have queue : (machine.setJobs later).queue.Accounts (acts ++ [act]) := by
    rw [queue_setJobs]
    exact accounts.queue.idle accepts takes drops
  rcases call_of_jobs? client with idle | ⟨count, job, isRunning⟩
  · have still := call_setJobs_of_idle idle later
    exact ⟨queue, fun _ => still, fun call going => absurd (still.symm.trans going) nofun⟩
  · have still : (machine.setJobs later).call = some ⟨count, .running job later⟩ := by
      rw [Machine.setJobs, isRunning]
    refine ⟨queue, fun isClosed => ?_, fun call going => ?_⟩
    · rw [queue_setJobs] at isClosed
      exact absurd ((accounts.isOpen isRunning).symm.trans isClosed) nofun
    · rw [still] at going
      cases going
      exact (accounts.call _ isRunning).idle calls takes finishes rfl rfl nofun

/-- A send for the queue leaves a call where it is; if the call is leaving, another thread sent. -/
theorem send (accounts : machine.Accounts acts) {delivery : Delivery} {job : Job}
    {outcome : Except Fault Unit} (mayAct : machine.MayAct delivery.sender) {call : Call}
    (going : machine.call = some call) : call.Counts (acts ++ [.sent delivery job outcome]) := by
  refine (accounts.call call going).idle rfl rfl rfl rfl rfl (fun isLeaving => ⟨isLeaving, ?_⟩)
  cases sender : delivery.sender with
  | otherThread => simp [Act.isRemote, sender]
  | uiThread =>
      have client := mayAct sender
      obtain ⟨count, stage⟩ := call
      simp only at isLeaving
      subst isLeaving
      simp [jobs?, going] at client

theorem step (accounts : machine.Accounts acts) (one : Acts machine act after) :
    after.Accounts (acts ++ [act]) := by
  cases one with
  | accepted queues mayAct accepted =>
      obtain ⟨isOpen, rfl⟩ := Queue.accept_eq_ok_iff.mp accepted
      refine ⟨accounts.queue.accept accepted, fun isClosed => ?_,
        fun _ going => accounts.send mayAct going⟩
      exact absurd (isOpen.symm.trans isClosed) nofun
  | refused queues mayAct refused =>
      exact ⟨accounts.queue.idle rfl rfl nofun, accounts.idle,
        fun _ going => accounts.send mayAct going⟩
  | entered job client => exact accounts.setJobs client _ rfl rfl rfl rfl nofun
  | left client => exact accounts.setJobs client _ rfl rfl rfl rfl nofun
  | abandoned client => exact accounts.setJobs client _ rfl rfl rfl rfl nofun
  | called idle isOpen =>
      refine ⟨accounts.queue.idle rfl rfl nofun, fun isClosed => ?_, ?_⟩
      · exact absurd (isOpen.symm.trans isClosed) nofun
      · rintro call ⟨rfl⟩
        exact Call.Counts.call acts
  | taken going waiting =>
      refine ⟨accounts.queue.take waiting, fun isClosed => ?_, ?_⟩
      · exact absurd ((accounts.isOpen going).symm.trans isClosed) nofun
      · rintro call ⟨rfl⟩
        exact (accounts.call _ going).take _
  | finished going =>
      refine ⟨accounts.queue.idle rfl rfl nofun, fun isClosed => ?_, ?_⟩
      · exact absurd ((accounts.isOpen going).symm.trans isClosed) nofun
      · rintro call ⟨rfl⟩
        exact (accounts.call _ going).finish
  | emptied going waiting =>
      refine ⟨accounts.queue.idle rfl rfl nofun, fun isClosed => ?_, ?_⟩
      · exact absurd ((accounts.isOpen going).symm.trans isClosed) nofun
      · rintro call ⟨rfl⟩
        have holds := (accounts.queue.whileOpen (accounts.isOpen going)).2
        rw [waiting, List.append_nil] at holds
        exact (accounts.call _ going).leave holds
  | returned going => exact ⟨accounts.queue.idle rfl rfl nofun, fun _ => rfl, nofun⟩
  | unwound going => exact ⟨accounts.queue.idle rfl rfl nofun, fun _ => rfl, nofun⟩
  | dropped idle isOpen =>
      refine ⟨accounts.queue.drop isOpen, fun _ => idle, fun call going => ?_⟩
      exact absurd (idle.symm.trans going) nofun

end Accounts

/-- Every run keeps the accounts. -/
theorem Runs.accounts {earlier : List Act} (run : Runs machine acts after)
    (accounts : machine.Accounts earlier) : after.Accounts (earlier ++ acts) := by
  induction run with
  | refl => rwa [List.append_nil]
  | step _ one ih =>
      rw [← List.append_assoc]
      exact ih.step one

/-! After the dispatcher is gone. -/

structure Closed (machine : Machine) : Prop where
  queue : machine.queue.isOpen = false
  call : machine.call = none

theorem Closed.setJobs (closed : machine.Closed) (jobs : List Job) :
    (machine.setJobs jobs).Closed :=
  ⟨by rw [queue_setJobs, closed.queue], call_setJobs_of_idle closed.call jobs⟩

/-- Nothing opens the queue again, and nothing gets into it or out of it. -/
theorem Closed.step (closed : machine.Closed) (one : Acts machine act after) :
    after.Closed ∧ act.accepted? = none ∧ act.taken? = none := by
  have notOpen : machine.queue.isOpen ≠ true := by simp [closed.queue]
  have notCalled : ∀ {call}, machine.call ≠ some call := by simp [closed.call]
  cases one with
  | accepted _ _ accepted => exact absurd (Queue.accept_eq_ok_iff.mp accepted).1 notOpen
  | refused => exact ⟨closed, rfl, rfl⟩
  | entered _ _ => exact ⟨closed.setJobs _, rfl, rfl⟩
  | left _ => exact ⟨closed.setJobs _, rfl, rfl⟩
  | abandoned _ => exact ⟨closed.setJobs _, rfl, rfl⟩
  | called _ isOpen => exact absurd isOpen notOpen
  | taken going _ => exact absurd going notCalled
  | finished going => exact absurd going notCalled
  | emptied going _ => exact absurd going notCalled
  | returned going => exact absurd going notCalled
  | unwound going => exact absurd going notCalled
  | dropped _ isOpen => exact absurd isOpen notOpen

theorem Closed.run (closed : machine.Closed) (run : Runs machine acts after) :
    after.Closed ∧ accepted acts = [] ∧ taken acts = [] := by
  induction run with
  | refl => exact ⟨closed, rfl, rfl⟩
  | step _ one ih =>
      obtain ⟨middle, noneAccepted, noneTaken⟩ := ih
      obtain ⟨last, accepts, takes⟩ := middle.step one
      refine ⟨last, ?_, ?_⟩
      · rw [accepted_concat_of_none accepts, noneAccepted]
      · rw [taken_concat_of_none takes, noneTaken]

/-- A send for the queue is refused exactly when the dispatcher is gone. -/
theorem Acts.outcome {delivery : Delivery} {job : Job} {outcome : Except Fault Unit}
    (one : Acts machine (.sent delivery job outcome) after) :
    outcome = if machine.queue.isOpen then .ok () else .error .dispatcherClosed := by
  cases one with
  | accepted _ _ accepted => rw [if_pos (Queue.accept_eq_ok_iff.mp accepted).1]
  | refused _ _ refused =>
      rw [Queue.accept] at refused
      split at refused
      · cases refused
      · next isClosed =>
        cases refused
        rw [if_neg isClosed]

end Machine

/-! What every run does with the queue. -/

/-- What a run from the start does with the jobs. -/
structure Serves (acts : List Act) (machine : Machine) : Prop where
  /-- Jobs are taken at most once each, in the order in which they were accepted. -/
  inOrder : taken acts <+: accepted acts
  /-- Nothing is lost as long as the dispatcher is there. -/
  lossless : Act.dropped ∉ acts → accepted acts = taken acts ++ machine.queue.waiting
  /-- A call that returns ran the jobs that were taken since it was called, no others, and found the
  queue empty; after that only other threads sent jobs. -/
  drained : ∀ before during count later,
    acts = before ++ .called :: during ++ .returned count :: later → Act.called ∉ during →
      (taken during).length = count ∧ (finished during).length = count ∧
        ∃ earlier others, before ++ .called :: during = earlier ++ .emptied :: others ∧
          accepted earlier = taken earlier ∧ ∀ act ∈ others, act.isRemote = true
  /-- A job sent for now on the owning thread starts at once, whatever waits. -/
  inline : ∀ before job later, acts = before ++ .entered job :: later →
    ∃ previous jobs, Machine.fresh.Runs before previous ∧ previous.jobs? = some jobs ∧
      (previous.setJobs (job :: jobs)).queue = previous.queue ∧
        (previous.setJobs (job :: jobs)).Runs later machine
  /-- A send for the queue fails after the dispatcher was dropped, and at no other time. -/
  sent : ∀ before delivery job outcome later, acts = before ++ .sent delivery job outcome :: later →
    (Act.dropped ∉ before → outcome = .ok ()) ∧
      (Act.dropped ∈ before → outcome = .error .dispatcherClosed)
  /-- After the dispatcher was dropped nothing more gets into the queue or runs from it. -/
  afterDrop : ∀ before later, acts = before ++ .dropped :: later →
    accepted later = [] ∧ taken later = []

theorem Machine.Runs.serves {acts : List Act} {machine : Machine}
    (run : Machine.fresh.Runs acts machine) : Serves acts machine := by
  have accounted : ∀ {acts machine}, Machine.fresh.Runs acts machine → machine.Accounts acts :=
    fun run => run.accounts Machine.Accounts.fresh
  have accounts := (accounted run).queue
  constructor
  case inOrder =>
    cases isOpen : machine.queue.isOpen with
    | true =>
        rw [(accounts.whileOpen isOpen).2]
        exact List.prefix_append _ _
    | false => exact (accounts.onceClosed isOpen).2.1
  case lossless =>
    intro live
    cases isOpen : machine.queue.isOpen with
    | true => exact (accounts.whileOpen isOpen).2
    | false => exact absurd (accounts.onceClosed isOpen).1 live
  case drained =>
    rintro before during count later rfl last
    obtain ⟨middle, earlier, rest⟩ := run.exists_of_append
    obtain ⟨_, one, -⟩ := rest.exists_of_cons
    cases one with
    | returned going =>
        have counts := (accounted earlier).call _ going
        have since : sinceCall (before ++ .called :: during) = during := sinceCall_of_last last
        exact ⟨since ▸ counts.begun, since ▸ counts.ended, counts.empty rfl⟩
  case inline =>
    rintro before job later rfl
    obtain ⟨previous, earlier, rest⟩ := run.exists_of_append
    obtain ⟨_, one, further⟩ := rest.exists_of_cons
    cases one with
    | entered _ client =>
        exact ⟨previous, _, earlier, client, Machine.queue_setJobs _ _, further⟩
  case sent =>
    rintro before delivery job outcome later rfl
    obtain ⟨previous, earlier, rest⟩ := run.exists_of_append
    obtain ⟨_, one, -⟩ := rest.exists_of_cons
    have outcome := one.outcome
    have previously := (accounted earlier).queue
    cases isOpen : previous.queue.isOpen with
    | true =>
        rw [isOpen] at outcome
        exact ⟨fun _ => outcome, fun gone => absurd gone (previously.whileOpen isOpen).1⟩
    | false =>
        rw [isOpen] at outcome
        exact ⟨fun live => absurd (previously.onceClosed isOpen).1 live, fun _ => outcome⟩
  case afterDrop =>
    rintro before later rfl
    obtain ⟨previous, -, rest⟩ := run.exists_of_append
    obtain ⟨_, one, further⟩ := rest.exists_of_cons
    cases one with
    | dropped idle _ =>
        have closed : (previous.withQueue .closed).Closed := ⟨rfl, idle⟩
        exact (closed.run further).2

end StyledTree.Dispatch
