import StyledTree.Selector.Basic

set_option autoImplicit false

namespace StyledTree

/-- What a tree has to tell the matcher about its nodes. -/
structure Host (α : Type) where
  /-- The node has exactly this name. -/
  hasName : α → String → Bool
  /-- The node carries a class list at all. -/
  hasClassList : α → Bool
  /-- The class is in the node's class list. -/
  hasClass : α → String → Bool
  parent? : α → Option α
  /-- A climb from the node goes on past its parent so many times at most; any bound will do. -/
  height : α → Nat

namespace Host

variable {α : Type}

/-- Climbs from `current`, parent by parent, until a node passes the test. -/
def anyUpward (host : Host α) (test : α → Bool) : Nat → Option α → Bool
  | _, none => false
  | 0, some ancestor => test ancestor
  | levels + 1, some ancestor =>
    test ancestor || anyUpward host test levels (host.parent? ancestor)

end Host

namespace Clause

variable {α : Type}

/-- The node meets the clause on its own, whatever its ancestors are. -/
def accepts (clause : Clause) (host : Host α) (node : α) : Bool :=
  clause.id.all (host.hasName node) &&
    (clause.classes.isEmpty ||
      (host.hasClassList node && clause.classes.all (host.hasClass node)))

end Clause

namespace Selector

variable {α : Type}

/-- The ancestors of a node meet the requirements of a context. -/
def contextHolds (host : Host α) : List (Combinator × Clause) → α → Bool
  | [], _ => true
  | (.child, clause) :: rest, node =>
    match host.parent? node with
    | none => false
    | some parent => clause.accepts host parent && contextHolds host rest parent
  | (.descendant, clause) :: rest, node =>
    host.anyUpward (fun ancestor => clause.accepts host ancestor && contextHolds host rest ancestor)
      (host.height node) (host.parent? node)

/-- The node meets the subject and its ancestors meet the context. -/
def selects (selector : Selector) (host : Host α) (node : α) : Bool :=
  selector.subject.accepts host node && contextHolds host selector.context node

/-- The same for a value that may be no node of the host: such a value is never selected. -/
def selectsValue (selector : Selector) (host : Host α) (value : Option α) : Bool :=
  value.any (selector.selects host)

end Selector

end StyledTree
