import StyledTree.Dispatch.Queue
import StyledTree.Journal
import StyledTree.Session.Refusal

set_option autoImplicit false

namespace StyledTree.Dispatch

inductive Command where
  | send (delivery : Delivery) (job : Job)
  | runPending
  /-- Gives up the handle and runs until no handle is left. -/
  | run
  /-- Gives up the dispatcher with what waits for it. -/
  | drop
  | isOwner
  | setLogLevel (threshold : Option Level)
  | takeLog
  | unknown (name : String)

structure Desk where
  queue : Queue
  hasDispatcher : Bool
  hasHandle : Bool
  journal : Journal

namespace Desk

def fresh : Desk := ⟨.fresh, true, true, .fresh⟩

def stepAnswer : Step → Answer
  | .started tag => .text ("start " ++ tag)
  | .finished tag => .text ("end " ++ tag)
  | .refused fault => .ofRefusal (.fault fault)

def note (desk : Desk) (event : Event) : Desk :=
  { desk with journal := desk.journal.note event }

/-- One command: the reply and the desk after it. -/
def execute (desk : Desk) : Command → Reply × Desk
  | .send delivery job =>
    if desk.hasHandle then
      let (outcome, steps, queue) := Dispatch.send desk.queue (delivery, job)
      (⟨.ofOutcome outcome, steps.map stepAnswer⟩, { desk with queue := queue })
    else (⟨.ofRefusal .noHandle, []⟩, desk)
  | .runPending =>
    if desk.hasDispatcher then
      let (count, steps, queue) := drain desk.queue
      let desk := { desk with queue := queue }
      (⟨.ofNat count, steps.map stepAnswer⟩,
        if count = 0 then desk else desk.note (.queuedJobsRan count))
    else (⟨.ofRefusal .noDispatcher, []⟩, desk)
  | .run =>
    if desk.hasDispatcher then
      let (count, steps, _) := drain desk.queue
      let desk := { desk with queue := .closed, hasDispatcher := false, hasHandle := false }
      (⟨.ofNat count, steps.map stepAnswer⟩, desk.note (.dispatcherStopped count))
    else (⟨.ofRefusal .noDispatcher, []⟩, desk)
  | .drop => (⟨.nothing, []⟩, { desk with queue := .closed, hasDispatcher := false })
  | .isOwner =>
    let owner := fun present => if present then Answer.flag true else Answer.nothing
    (⟨.list [owner desk.hasDispatcher, owner desk.hasHandle], []⟩, desk)
  | .setLogLevel threshold =>
    (⟨.nothing, []⟩, { desk with journal := desk.journal.setThreshold threshold })
  | .takeLog => (⟨.text desk.journal.text, []⟩, { desk with journal := desk.journal.cleared })
  | .unknown name => (⟨.ofRefusal (.unknownCommand name), []⟩, desk)

/-- The replies to commands, one after the other. -/
def replies (desk : Desk) : List Command → List Reply
  | [] => []
  | command :: rest =>
    let (reply, after) := desk.execute command
    reply :: replies after rest

end Desk

end StyledTree.Dispatch
