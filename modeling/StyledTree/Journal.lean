import StyledTree.Fault
import StyledTree.Journal.Destination
import StyledTree.Widget.Listener

set_option autoImplicit false

namespace StyledTree

/-- The levels of the journal, the gravest first. -/
inductive Level where
  | error
  | warn
  | info
  | debug
  | trace
deriving DecidableEq, Inhabited

namespace Level

def rank : Level → Nat
  | .error => 1
  | .warn => 2
  | .info => 3
  | .debug => 4
  | .trace => 5

def label : Level → String
  | .error => "ERROR"
  | .warn => "WARN"
  | .info => "INFO"
  | .debug => "DEBUG"
  | .trace => "TRACE"

end Level

/-- The part of the library that reports an event. -/
inductive Reporter where
  | selectorReader
  | widgets
  | builders
  | containers
  | mouse
  | styles
  | sheets
  | dispatcher
  | borderPane
  | splitPane
  | scrollPane
  | frame
deriving DecidableEq, Inhabited

namespace Reporter

/-- The path under which the reporter's lines are written. -/
def path : Reporter → String
  | .selectorReader => "wcss::parser"
  | .widgets => "swinky::widget"
  | .builders => "swinky::builders"
  | .containers => "swinky::containers"
  | .mouse => "swinky::mouse"
  | .styles => "swinky::style"
  | .sheets => "swinky::stylesheet"
  | .dispatcher => "swinky::dispatch"
  | .borderPane => "swinky::widget::border_pane"
  | .splitPane => "swinky::widget::split_pane"
  | .scrollPane => "swinky::widget::scroll_pane"
  | .frame => "swinky::widget::frame"

end Reporter

inductive Event where
  | selectorRead (text written : String)
  | childAdded (child parent : String)
  | buildRefused (parent widget : String) (fault : Fault)
  | placementPending (widget parent : String)
  | factorySet (widget : String) (view : View)
  | factoryLoop (widget : String)
  | productRefused (view : View) (widget : String)
  | listenerReplaced (kind : Mouse.Kind) (key : String)
  | targetMissed (widget : String) (target : Target)
  | nestingRefused (child parent : String)
  | nested (child parent : String)
  | styleRegistered (selector : String) (target : Target)
  | chainedToItself (selector : String)
  | chainRefused (child parent : String)
  | unregisteredParent (selector : String)
  | sheetApplied (styles : Nat) (root : String)
  | styleMatched (selector widget : String)
  | revalidated (widget root : String)
  | notUnderRoot (widget : String)
  | regionRefused (widget : String) (fault : Fault)
  | sideRefused (widget : String) (fault : Fault)
  | viewRefused (widget : String) (fault : Fault)
  | contentRefused (frame : String) (fault : Fault)
  | queuedJobsRan (count : Nat)
  | dispatcherStopped (count : Nat)

namespace Event

def level : Event → Level
  | .selectorRead .. | .childAdded .. | .placementPending .. | .listenerReplaced ..
  | .targetMissed .. | .styleMatched .. | .queuedJobsRan _ => .trace
  | .factorySet .. | .nested .. | .styleRegistered .. | .unregisteredParent _
  | .sheetApplied .. | .revalidated .. | .notUnderRoot _ | .dispatcherStopped _ => .debug
  | .buildRefused .. | .factoryLoop _ | .productRefused .. | .nestingRefused .. | .chainedToItself _
  | .chainRefused .. | .regionRefused .. | .sideRefused .. | .viewRefused ..
  | .contentRefused .. => .warn

def reporter : Event → Reporter
  | .selectorRead .. => .selectorReader
  | .childAdded .. => .widgets
  | .buildRefused .. | .placementPending .. => .builders
  | .factorySet .. | .factoryLoop _ | .productRefused .. => .containers
  | .listenerReplaced .. => .mouse
  | .targetMissed .. | .nestingRefused .. | .nested .. => .styles
  | .styleRegistered .. | .chainedToItself _ | .chainRefused .. | .unregisteredParent _
  | .sheetApplied .. | .styleMatched .. | .revalidated .. | .notUnderRoot _ => .sheets
  | .regionRefused .. => .borderPane
  | .sideRefused .. => .splitPane
  | .viewRefused .. => .scrollPane
  | .contentRefused .. => .frame
  | .queuedJobsRan _ | .dispatcherStopped _ => .dispatcher

/-- A refusal to nest one style below another. -/
def cycleText (child parent : String) : String :=
  "refusing to chain `" ++ child ++ "` below `" ++ parent ++ "`: cycle"

def message : Event → String
  | .selectorRead text written => "parsed selector `" ++ text ++ "` as `" ++ written ++ "`"
  | .childAdded child parent => "added " ++ child ++ " to " ++ parent
  | .buildRefused parent widget fault =>
    parent ++ ": cannot add " ++ widget ++ ": " ++ fault.message
  | .placementPending widget parent => widget ++ " is pending in " ++ parent
  | .factorySet widget view => widget ++ ": factory registered for " ++ view.name
  | .factoryLoop widget => widget ++ ": container loop in factory lookup"
  | .productRefused view widget =>
    "factory for " ++ view.name ++ " produced " ++ widget ++ "; using the default"
  | .listenerReplaced kind key => "replacing " ++ kind.debugText ++ " listener `" ++ key ++ "`"
  | .targetMissed widget target => widget ++ " is not a " ++ target.name
  | .nestingRefused child parent => cycleText child parent
  | .nested child parent => "chained `" ++ child ++ "` below `" ++ parent ++ "`"
  | .styleRegistered selector target => "registered `" ++ selector ++ "` for " ++ target.name
  | .chainedToItself selector => "cannot chain `" ++ selector ++ "` below itself"
  | .chainRefused child parent => cycleText child parent
  | .unregisteredParent selector => "`" ++ selector ++ "` was not registered; appending"
  | .sheetApplied styles root => "applying " ++ toString styles ++ " styles to " ++ root
  | .styleMatched selector widget => "`" ++ selector ++ "` -> " ++ widget
  | .revalidated widget root => "revalidating " ++ widget ++ " at " ++ root
  | .notUnderRoot widget => "revalidate: " ++ widget ++ " is not under an applied root"
  | .regionRefused widget fault =>
    "BorderPane: cannot place " ++ widget ++ ": " ++ fault.message
  | .sideRefused widget fault => "SplitPane: cannot place " ++ widget ++ ": " ++ fault.message
  | .viewRefused widget fault => "ScrollPane: cannot show " ++ widget ++ ": " ++ fault.message
  | .contentRefused frame fault =>
    frame ++ ": cannot add content pane: " ++ fault.message
  | .queuedJobsRan count => "ran " ++ toString count ++ " queued UI jobs"
  | .dispatcherStopped count => "UI dispatcher stopped after " ++ toString count ++ " jobs"

/-- An event as one line of the journal. -/
def line (event : Event) : String :=
  "[" ++ event.level.label ++ "] " ++ event.reporter.path ++ ": " ++ event.message ++ "\n"

end Event

/-- The unread lines, the latest first, and the level in force, if any. -/
structure Journal where
  threshold : Option Level
  unread : List String
deriving Inhabited

namespace Journal

/-- A silent journal with nothing to read. -/
def fresh : Journal := ⟨none, []⟩

/-- The level in force admits events of this level. -/
def admits (journal : Journal) (level : Level) : Bool :=
  journal.threshold.any (fun threshold => level.rank ≤ threshold.rank)

def note (journal : Journal) (event : Event) : Journal :=
  if journal.admits event.level then { journal with unread := event.line :: journal.unread }
  else journal

def setThreshold (journal : Journal) (threshold : Option Level) : Journal :=
  { journal with threshold := threshold }

/-- All unread lines in order, as one text. -/
def text (journal : Journal) : String :=
  String.join journal.unread.reverse

/-- The journal after its lines have been read. -/
def cleared (journal : Journal) : Journal := { journal with unread := [] }

/-- The outcome of opening a second destination: the log has one already, unless the path leads to
no file in the first place. -/
def secondDestination (path : String) : Fault :=
  if canWrite path then .loggerAlreadySet else .logUnavailable

end Journal

end StyledTree
