set_option autoImplicit false

namespace StyledTree

structure Choice where
  items : List String
  selected : Option Nat
deriving DecidableEq, Inhabited

namespace Choice

def empty : Choice := ⟨[], none⟩

def addItem (choice : Choice) (item : String) : Choice :=
  { items := choice.items ++ [item]
    selected := choice.selected.or (some 0) }

def removeAll (_ : Choice) : Choice := empty

/-- Chooses an index; one that is out of range clears the choice. -/
def select (choice : Choice) (index : Nat) : Choice :=
  { choice with selected := if index < choice.items.length then some index else none }

def selectedItem? (choice : Choice) : Option String :=
  choice.selected.bind (fun index => choice.items[index]?)

end Choice

end StyledTree
