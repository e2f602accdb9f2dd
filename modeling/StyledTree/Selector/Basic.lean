set_option autoImplicit false

namespace StyledTree

/-- What one node has to be: an exact name, if any, and a list of classes. -/
structure Clause where
  id : Option String
  classes : List String
deriving DecidableEq, Inhabited

/-- How a clause is tied to the clause on its left. -/
inductive Combinator where
  /-- Some strict ancestor meets the clause on the left. -/
  | descendant
  /-- The immediate parent meets the clause on the left. -/
  | child
deriving DecidableEq, Inhabited

/-- A subject clause with its requirements on ancestors, the nearest requirement first. -/
structure Selector where
  subject : Clause
  context : List (Combinator × Clause)
deriving DecidableEq, Inhabited

namespace Clause

/-- The clause that every node meets. -/
def glob : Clause := ⟨none, []⟩

def isGlob (clause : Clause) : Bool :=
  clause.id.isNone && clause.classes.isEmpty

/-- The written form: `*`, or the name after `#` and each class after a dot. -/
def text (clause : Clause) : String :=
  if clause.isGlob then "*"
  else
    (match clause.id with
      | some id => "#" ++ id
      | none => "") ++
    clause.classes.foldl (fun written name => written ++ "." ++ name) ""

end Clause

namespace Combinator

def text : Combinator → String
  | .descendant => " "
  | .child => " > "

end Combinator

namespace Selector

/-- The selector that matches every node. -/
def glob : Selector := ⟨Clause.glob, []⟩

/-- The selector whose subject is `clause`, tied by `combinator` to a selector on its left. -/
def followedBy (left : Selector) (combinator : Combinator) (clause : Clause) : Selector :=
  ⟨clause, (combinator, left.subject) :: left.context⟩

/-- The number of clauses. -/
def depth (selector : Selector) : Nat := selector.context.length + 1

/-- The clauses from the subject leftward, each with the combinator on its left side. -/
def clauses (selector : Selector) : List (Clause × Option Combinator) :=
  (selector.subject :: selector.context.map Prod.snd).zip
    (selector.context.map (fun step => some step.1) ++ [none])

/-- The written form of the clauses left of the subject, each followed by its combinator. -/
def contextText : List (Combinator × Clause) → String
  | [] => ""
  | (combinator, clause) :: rest => contextText rest ++ clause.text ++ combinator.text

/-- The written form of a selector. -/
def text (selector : Selector) : String :=
  contextText selector.context ++ selector.subject.text

end Selector

end StyledTree
