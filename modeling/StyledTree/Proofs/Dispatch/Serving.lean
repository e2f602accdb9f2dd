import StyledTree.Proofs.Dispatch.Interleaving

set_option autoImplicit false

namespace StyledTree.Dispatch

def Job.tag : Job → String
  | .mk tag _ => tag

def Act.seen : Act → List Step
  | .sent _ _ (.error fault) => [.refused fault]
  | .entered job | .taken job => [.started job.tag]
  | .left job | .finished job => [.finished job.tag]
  | _ => []

def seen (acts : List Act) : List Step := acts.flatMap Act.seen

theorem seen_append (first second : List Act) : seen (first ++ second) = seen first ++ seen second :=
  List.flatMap_append

mutual

/-- What a job does between its start and its end, when nothing comes in between. -/
def Job.body (isOpen : Bool) : Job → List Act
  | .mk _ sends => bodyOfSends isOpen sends

def bodyOfSends (isOpen : Bool) : List (Delivery × Job) → List Act
  | [] => []
  | delivered :: rest => actsOfSend isOpen delivered ++ bodyOfSends isOpen rest

def actsOfSend (isOpen : Bool) : Delivery × Job → List Act
  | (delivery, job) =>
    if delivery.isInline then .entered job :: Job.body isOpen job ++ [.left job]
    else [.sent delivery job (if isOpen then .ok () else .error .dispatcherClosed)]

end

def Job.served (isOpen : Bool) (job : Job) : List Act :=
  .taken job :: job.body isOpen ++ [.finished job]

/-- The jobs that a job puts into the queue, those among them that come from the jobs it runs at once. -/
def Job.queued (isOpen : Bool) (job : Job) : List Job := accepted (job.body isOpen)

namespace Machine

variable {machine : Machine} {jobs : List Job}

/-! The queue and the jobs of a machine are changed apart from each other. -/

@[simp] theorem queue_withQueue (machine : Machine) (queue : Queue) :
    (machine.withQueue queue).queue = queue := rfl

theorem setJobs_withQueue (machine : Machine) (queue : Queue) (jobs : List Job) :
    (machine.withQueue queue).setJobs jobs = (machine.setJobs jobs).withQueue queue := by
  simp only [setJobs, withQueue]
  split <;> rfl

theorem jobs?_setJobs (client : machine.jobs? = some jobs) (later : List Job) :
    (machine.setJobs later).jobs? = some later := by
  rcases call_of_jobs? client with idle | ⟨count, job, isRunning⟩
  · simp [setJobs, jobs?, idle]
  · simp [setJobs, jobs?, isRunning]

/-- What was put on top of the jobs is taken off again. -/
theorem setJobs_setJobs (client : machine.jobs? = some jobs) (between : List Job) :
    (machine.setJobs between).setJobs jobs = machine := by
  rcases call_of_jobs? client with idle | ⟨count, job, isRunning⟩
  · obtain ⟨queue, outer, call⟩ := machine
    cases idle
    cases client
    rfl
  · obtain ⟨queue, outer, call⟩ := machine
    cases isRunning
    rfl

/-- What client code does in a job, up to a queue: what is accepted goes behind what waits, no job of the
queue starts or ends, no call is made and the dispatcher stays. -/
structure Works (machine : Machine) (own : List Act) (queue : Queue) : Prop where
  run : machine.Runs own (machine.withQueue queue)
  waiting : queue.waiting = machine.queue.waiting ++ accepted own
  takes : taken own = []
  finishes : finished own = []
  calls : Act.called ∉ own
  isOpen : queue.isOpen = machine.queue.isOpen

namespace Works

theorem refl (machine : Machine) : machine.Works [] machine.queue :=
  ⟨Runs.refl, (List.append_nil _).symm, rfl, rfl, List.not_mem_nil, rfl⟩

theorem trans {first second : List Act} {middle after : Queue}
    (one : machine.Works first middle) (other : (machine.withQueue middle).Works second after) :
    machine.Works (first ++ second) after where
  run := one.run.trans other.run
  waiting := by
    rw [accepted_append, ← List.append_assoc, ← one.waiting]
    exact other.waiting
  takes := by rw [taken_append, one.takes, other.takes, List.append_nil]
  finishes := by rw [finished_append, one.finishes, other.finishes, List.append_nil]
  calls := by
    rw [List.mem_append, not_or]
    exact ⟨one.calls, other.calls⟩
  isOpen := other.isOpen.trans one.isOpen

/-- A job that is sent for now on the owning thread does its work inside what runs there. -/
theorem inline {job : Job} {own : List Act} {queue : Queue} (client : machine.jobs? = some jobs)
    (body : (machine.setJobs (job :: jobs)).Works own queue) :
    machine.Works (.entered job :: own ++ [.left job]) queue := by
  have inside : ((machine.setJobs (job :: jobs)).withQueue queue).jobs? = some (job :: jobs) :=
    jobs?_setJobs client _
  have back := Acts.left inside
  rw [setJobs_withQueue, setJobs_setJobs client] at back
  refine ⟨((Runs.single (Acts.entered job client)).trans body.run).step back, ?_, ?_, ?_, ?_, ?_⟩
  · rw [accepted_concat_of_none rfl, body.waiting, queue_setJobs]
    rfl
  · rw [taken_concat_of_none rfl]
    exact body.takes
  · rw [finished_append]
    exact (List.append_nil _).trans body.finishes
  · simpa using body.calls
  · rw [body.isOpen, queue_setJobs]

theorem accept {delivery : Delivery} {job : Job} {queue : Queue}
    (queues : delivery.isInline = false) (mayAct : machine.MayAct delivery.sender)
    (accepted : machine.queue.accept job = .ok queue) :
    machine.Works [.sent delivery job (.ok ())] queue := by
  obtain ⟨-, rfl⟩ := Queue.accept_eq_ok_iff.mp accepted
  exact ⟨Runs.single (Acts.accepted queues mayAct accepted), rfl, rfl, rfl, by simp, rfl⟩

theorem refuse {delivery : Delivery} {job : Job} {fault : Fault}
    (queues : delivery.isInline = false) (mayAct : machine.MayAct delivery.sender)
    (refused : machine.queue.accept job = .error fault) :
    machine.Works [.sent delivery job (.error fault)] machine.queue :=
  ⟨Runs.single (Acts.refused queues mayAct refused), (List.append_nil _).symm, rfl, rfl, by simp,
    rfl⟩

end Works

/-- A send that only queues runs nothing, and is refused exactly when the dispatcher is gone. -/
theorem works_of_queued {delivery : Delivery} (queues : delivery.isInline = false)
    (mayAct : machine.MayAct delivery.sender) (job : Job) :
    machine.Works [.sent delivery job (send machine.queue (delivery, job)).1]
        (send machine.queue (delivery, job)).2.2 ∧
      (send machine.queue (delivery, job)).2.1 = [] ∧
      (send machine.queue (delivery, job)).1 =
        if machine.queue.isOpen then .ok () else .error .dispatcherClosed := by
  simp only [send, queues, Bool.false_eq_true, if_false]
  cases isOpen : machine.queue.isOpen with
  | true =>
      have outcome : machine.queue.accept job =
          .ok { machine.queue with waiting := machine.queue.waiting ++ [job] } := by
        rw [Queue.accept, if_pos isOpen]
      rw [outcome]
      exact ⟨Works.accept queues mayAct outcome, rfl, rfl⟩
  | false =>
      have outcome : machine.queue.accept job = .error .dispatcherClosed := by
        rw [Queue.accept, isOpen, if_neg Bool.false_ne_true]
      rw [outcome]
      exact ⟨Works.refuse queues mayAct outcome, rfl, rfl⟩

mutual

/-- What a job does once it was started. -/
theorem works_of_run : (job : Job) → (machine : Machine) → (jobs : List Job) →
    machine.jobs? = some jobs →
      machine.Works (job.body machine.queue.isOpen) (job.run machine.queue).2 ∧
      (job.run machine.queue).1 =
        .started job.tag :: seen (job.body machine.queue.isOpen) ++ [.finished job.tag]
  | .mk tag sends, machine, jobs, client => by
    obtain ⟨works, steps⟩ := works_of_sends sends machine jobs client
    simp only [Job.run, Job.body]
    exact ⟨works, by rw [steps]; rfl⟩

/-- The sends of a running job, in order. -/
theorem works_of_sends : (sends : List (Delivery × Job)) → (machine : Machine) →
    (jobs : List Job) → machine.jobs? = some jobs →
      machine.Works (bodyOfSends machine.queue.isOpen sends) (runSends machine.queue sends).2 ∧
      (runSends machine.queue sends).1 = seen (bodyOfSends machine.queue.isOpen sends)
  | [], machine, _, _ => ⟨Works.refl machine, rfl⟩
  | delivered :: rest, machine, jobs, client => by
    obtain ⟨first, steps⟩ := works_of_send delivered machine jobs client
    obtain ⟨others, more⟩ :=
      works_of_sends rest (machine.withQueue (send machine.queue delivered).2.2) jobs client
    rw [queue_withQueue, first.isOpen] at others more
    simp only [runSends, bodyOfSends]
    exact ⟨first.trans others, by rw [seen_append, steps, more]⟩

theorem works_of_send : (delivered : Delivery × Job) → (machine : Machine) → (jobs : List Job) →
    machine.jobs? = some jobs →
      machine.Works (actsOfSend machine.queue.isOpen delivered)
        (send machine.queue delivered).2.2 ∧
      (send machine.queue delivered).2.1 ++ Step.ofOutcome (send machine.queue delivered).1 =
        seen (actsOfSend machine.queue.isOpen delivered)
  | (delivery, job), machine, jobs, client => by
    rw [actsOfSend]
    cases isInline : delivery.isInline with
    | true =>
        obtain ⟨body, steps⟩ := works_of_run job (machine.setJobs (job :: jobs)) (job :: jobs)
          (jobs?_setJobs client _)
        rw [queue_setJobs] at body steps
        simp only [send, isInline, if_true]
        refine ⟨body.inline client, ?_⟩
        rw [steps]
        simp [seen, Act.seen, Step.ofOutcome]
    | false =>
        obtain ⟨works, steps, outcome⟩ := works_of_queued isInline (fun _ => by rw [client]; rfl) job
        rw [outcome] at works
        rw [steps, outcome]
        refine ⟨works, ?_⟩
        cases machine.queue.isOpen <;> rfl

end

end Machine

/-! Draining the queue. -/

/-- What the jobs of a call do, without what other threads send: the jobs that are taken and come to
their end are these. -/
structure ActsOf (ran : List Job) (acts : List Act) : Prop where
  taken : taken acts = ran
  finished : finished acts = ran
  calls : Act.called ∉ acts

theorem actsOf_served (isOpen : Bool) (job : Job) : ActsOf [job] (job.served isOpen) := by
  obtain ⟨works, -⟩ := Machine.works_of_run job ⟨⟨[], isOpen⟩, [], none⟩ [] rfl
  have parts : job.served isOpen = [.taken job] ++ job.body isOpen ++ [.finished job] := rfl
  rw [parts]
  constructor
  · rw [taken_append, taken_append, works.takes]
    rfl
  · rw [finished_append, finished_append, works.finishes]
    rfl
  · simpa using works.calls

theorem actsOf_flatMap_served (isOpen : Bool) (ran : List Job) :
    ActsOf ran (ran.flatMap (Job.served isOpen)) := by
  induction ran with
  | nil => exact ⟨rfl, rfl, List.not_mem_nil⟩
  | cons job rest ih =>
      have one := actsOf_served isOpen job
      rw [List.flatMap_cons]
      refine ⟨?_, ?_, ?_⟩
      · rw [taken_append, one.taken, ih.taken, List.singleton_append]
      · rw [finished_append, one.finished, ih.finished, List.singleton_append]
      · rw [List.mem_append, not_or]
        exact ⟨one.calls, ih.calls⟩

theorem drain_of_nil {queue : Queue} (waiting : queue.waiting = []) :
    drain queue = (0, [], queue) := by
  rw [drain]
  split
  · rfl
  · next some => rw [waiting] at some; cases some

theorem drain_of_cons {queue : Queue} {job : Job} {rest : List Job}
    (waiting : queue.waiting = job :: rest) :
    drain queue =
      ((drain (job.run { queue with waiting := rest }).2).1 + 1,
        (job.run { queue with waiting := rest }).1 ++
          (drain (job.run { queue with waiting := rest }).2).2.1,
        (drain (job.run { queue with waiting := rest }).2).2.2) := by
  rw [drain]
  split
  · next none => rw [waiting] at none; cases none
  · next first others some =>
    rw [waiting] at some
    cases some
    rfl

/-- What draining a queue comes to, with the jobs that it ran. -/
structure Drains (queue : Queue) (ran : List Job) : Prop where
  /-- First the jobs that waited and then those that the jobs of this list queued, each once. -/
  order : ran = queue.waiting ++ ran.flatMap (Job.queued queue.isOpen)
  count : (drain queue).1 = ran.length
  steps : (drain queue).2.1 = seen (ran.flatMap (Job.served queue.isOpen))
  empty : (drain queue).2.2 = { queue with waiting := [] }

/-- From looking for a job to having found none, a call takes one job after the other and ends each. -/
theorem exists_drains (queue : Queue) : ∃ ran, Drains queue ran ∧
    ∀ outer count, Machine.Runs ⟨queue, outer, some ⟨count, .looking⟩⟩
      (ran.flatMap (Job.served queue.isOpen) ++ [.emptied])
      ⟨(drain queue).2.2, outer, some ⟨count + (drain queue).1, .leaving⟩⟩ := by
  induction queue using drain.induct with
  | case1 queue waiting =>
      rw [drain_of_nil waiting]
      refine ⟨[], ⟨by simp [waiting], ?_, ?_, ?_⟩, fun outer count => ?_⟩
      · rw [drain_of_nil waiting]
        rfl
      · rw [drain_of_nil waiting]
        rfl
      · rw [drain_of_nil waiting, ← waiting]
      · exact Machine.Runs.single (Machine.Acts.emptied rfl waiting)
  | case2 queue job rest waiting ran ih =>
      have works := fun outer count => Machine.works_of_run job
        ⟨{ queue with waiting := rest }, outer, some ⟨count, .running job []⟩⟩ [] rfl
      obtain ⟨work, steps⟩ := works [] 0
      have isOpen : ran.2.isOpen = queue.isOpen := work.isOpen
      have behind : ran.2.waiting = rest ++ job.queued queue.isOpen := work.waiting
      obtain ⟨later, drains, runs⟩ := ih
      rw [isOpen] at runs
      have order := drains.order
      have moreSteps := drains.steps
      rw [isOpen] at order moreSteps
      refine ⟨job :: later, ⟨?_, ?_, ?_, ?_⟩, fun outer count => ?_⟩
      · rw [waiting, List.flatMap_cons, List.cons_append, ← List.append_assoc, ← behind, ← order]
      · rw [drain_of_cons waiting, List.length_cons, ← drains.count]
      · rw [drain_of_cons waiting, List.flatMap_cons, seen_append, ← moreSteps, steps]
        simp [seen, Act.seen, Job.served, ran]
      · rw [drain_of_cons waiting, drains.empty, isOpen]
      · have start : Machine.Acts ⟨queue, outer, some ⟨count, .looking⟩⟩ (.taken job)
            ⟨{ queue with waiting := rest }, outer, some ⟨count, .running job []⟩⟩ :=
          Machine.Acts.taken rfl waiting
        have stop : Machine.Acts ⟨ran.2, outer, some ⟨count, .running job []⟩⟩ (.finished job)
            ⟨ran.2, outer, some ⟨count + 1, .looking⟩⟩ :=
          Machine.Acts.finished rfl
        have one := ((Machine.Runs.single start).trans (works outer count).1.run).step stop
        have all := one.trans (runs outer (count + 1))
        rw [Nat.add_assoc, Nat.add_comm 1] at all
        rw [drain_of_cons waiting, List.flatMap_cons, List.append_assoc]
        exact all

/-! Sends and calls from a machine. -/

/-- What sending a job and draining the queue come to, wherever a run has got to. -/
structure Performs (machine : Machine) : Prop where
  /-- A job sent for now on the owning thread runs to its end before the send returns, also when the
  dispatcher is gone. No waiting job runs, and what the job queues goes behind what waits. -/
  inline : ∀ delivery job, delivery.isInline = true → machine.MayAct delivery.sender →
    (send machine.queue (delivery, job)).1 = .ok () ∧
      machine.Works (.entered job :: job.body machine.queue.isOpen ++ [.left job])
        (send machine.queue (delivery, job)).2.2 ∧
      (send machine.queue (delivery, job)).2.1 =
        .started job.tag :: seen (job.body machine.queue.isOpen) ++ [.finished job.tag]
  /-- Any other send runs nothing, and fails exactly when the dispatcher is gone. -/
  queued : ∀ delivery job, delivery.isInline = false → machine.MayAct delivery.sender →
    machine.Works [.sent delivery job (send machine.queue (delivery, job)).1]
        (send machine.queue (delivery, job)).2.2 ∧
      (send machine.queue (delivery, job)).2.1 = [] ∧
      (send machine.queue (delivery, job)).1 =
        if machine.queue.isOpen then .ok () else .error .dispatcherClosed
  /-- A call takes the jobs of the queue one after the other, those that they queue among them, and
  counts these and no others. -/
  drain : machine.call = none → machine.queue.isOpen = true → ∃ ran, Drains machine.queue ran ∧
    machine.Runs (.called :: (ran.flatMap (Job.served true) ++ [.emptied]) ++ [.returned ran.length])
      (machine.withQueue (drain machine.queue).2.2) ∧
    ActsOf ran (ran.flatMap (Job.served true))

theorem Machine.performs (machine : Machine) : Performs machine := by
  constructor
  case inline =>
    intro delivery job isInline mayAct
    obtain ⟨isOwner, -⟩ : delivery.sender = .uiThread ∧ delivery.urgency = .now := by
      simpa [Delivery.isInline] using isInline
    obtain ⟨jobs, client⟩ := Option.isSome_iff_exists.mp (mayAct isOwner)
    obtain ⟨works, steps⟩ := works_of_send (delivery, job) machine jobs client
    rw [actsOfSend, if_pos isInline] at works steps
    have told : (send machine.queue (delivery, job)).1 = .ok () := by
      simp only [send, isInline, if_true]
    rw [told, Step.ofOutcome, List.append_nil] at steps
    refine ⟨told, works, ?_⟩
    rw [steps]
    simp [seen, Act.seen]
  case queued => exact fun delivery job queues mayAct => works_of_queued queues mayAct job
  case drain =>
    intro idle isOpen
    obtain ⟨queue, outer, call⟩ := machine
    cases idle
    obtain ⟨ran, drains, runs⟩ := exists_drains queue
    have during := runs outer 0
    rw [Nat.zero_add, drains.count, isOpen] at during
    have start : Machine.Acts ⟨queue, outer, none⟩ .called ⟨queue, outer, some ⟨0, .looking⟩⟩ :=
      Machine.Acts.called rfl isOpen
    exact ⟨ran, drains,
      ((Machine.Runs.single start).trans during).step (Machine.Acts.returned rfl),
      actsOf_flatMap_served true ran⟩

/-- Whatever is sent from wherever, and however jobs are nested: the jobs of the queue run at most once
and in order of acceptance, a job sent for now on the owning thread runs at once and apart from the
queue, a call that returns has emptied the queue and counts the jobs of the queue that it ran, and a
queue whose dispatcher is gone takes and gives nothing. Sending and draining act in this way. -/
theorem runs_serve_in_order {acts : List Act} {machine : Machine}
    (run : Machine.fresh.Runs acts machine) : Serves acts machine ∧ Performs machine :=
  ⟨run.serves, machine.performs⟩

def nestingJob : Job :=
  .mk "a" [(⟨.uiThread, .later⟩, .mk "b" []), (⟨.uiThread, .now⟩, .mk "c" [])]

/-- Another thread sends that job, a job while it runs, one while the call returns, and one too late. -/
def nestingActs : List Act :=
  [.sent ⟨.otherThread, .now⟩ nestingJob (.ok ()), .called, .taken nestingJob,
    .sent ⟨.uiThread, .later⟩ (.mk "b" []) (.ok ()), .entered (.mk "c" []),
    .sent ⟨.otherThread, .later⟩ (.mk "d" []) (.ok ()), .left (.mk "c" []), .finished nestingJob,
    .taken (.mk "b" []), .finished (.mk "b" []), .taken (.mk "d" []), .finished (.mk "d" []),
    .emptied, .sent ⟨.otherThread, .now⟩ (.mk "e" []) (.ok ()), .returned 3, .dropped,
    .sent ⟨.otherThread, .now⟩ (.mk "f" []) (.error .dispatcherClosed)]

theorem runs_nestingActs : Machine.fresh.Runs nestingActs ⟨.closed, [], none⟩ := by
  have accepts (machine : Machine) (delivery : Delivery) (job : Job) :=
    @Machine.Acts.accepted machine delivery job
  have start : Machine.fresh.Runs [] Machine.fresh := Machine.Runs.refl
  have called := (start.step (accepts _ ⟨.otherThread, .now⟩ nestingJob rfl nofun rfl)).step
    (.called rfl rfl)
  have inJob := (called.step (.taken rfl rfl)).step
    (accepts _ ⟨.uiThread, .later⟩ (.mk "b" []) rfl (fun _ => rfl) rfl)
  have inside := (inJob.step (.entered (.mk "c" []) rfl)).step
    (accepts _ ⟨.otherThread, .later⟩ (.mk "d" []) rfl nofun rfl)
  have first := (inside.step (.left rfl)).step (.finished rfl)
  have second := (first.step (.taken rfl rfl)).step (.finished rfl)
  have third := (second.step (.taken rfl rfl)).step (.finished rfl)
  have leaving := (third.step (.emptied rfl rfl)).step
    (accepts _ ⟨.otherThread, .now⟩ (.mk "e" []) rfl nofun rfl)
  have gone := (leaving.step (.returned rfl)).step (.dropped rfl rfl)
  exact gone.step (@Machine.Acts.refused _ ⟨.otherThread, .now⟩ (.mk "f" []) _ rfl nofun rfl)

/-- Three jobs of the queue run in the order of acceptance, counted apart from the one that ran at once;
the job that came while the call returned is lost with the dispatcher. -/
theorem nestingActs_served :
    Machine.fresh.Runs nestingActs ⟨.closed, [], none⟩ ∧
      taken nestingActs = [nestingJob, .mk "b" [], .mk "d" []] ∧
      accepted nestingActs = [nestingJob, .mk "b" [], .mk "d" [], .mk "e" []] ∧
      Serves nestingActs ⟨.closed, [], none⟩ ∧ Performs ⟨.closed, [], none⟩ :=
  ⟨runs_nestingActs, rfl, rfl, runs_serve_in_order runs_nestingActs⟩

end StyledTree.Dispatch
