import StyledTree.Selector.Matching

set_option autoImplicit false

namespace StyledTree

/-- A node of a plain tree; without a list of classes it has no class list at all. -/
structure PlainTree.Entry where
  name : Option String
  classes : Option (List String)
  parent : Option Nat

/-- The entries of a plain tree, parents before their children. -/
structure PlainTree where
  entries : Array PlainTree.Entry

namespace PlainTree

/-- The parent, if it is an earlier entry. -/
def parent? (tree : PlainTree) (index : Nat) : Option Nat :=
  ((tree.entries[index]?).bind Entry.parent).filter (fun parent => parent < index)

def host (tree : PlainTree) : Host Nat where
  hasName index name := ((tree.entries[index]?).bind Entry.name) == some name
  hasClassList index := ((tree.entries[index]?).bind Entry.classes).isSome
  hasClass index name := (((tree.entries[index]?).bind Entry.classes).getD []).contains name
  parent? := tree.parent?
  height index := index

/-- What a selector selects in a tree. -/
structure Survey where
  /-- The selected entries, in ascending order. -/
  hits : List Nat
  /-- Selecting among arbitrary values finds the same entries. -/
  valuesAgree : Bool
  /-- A value that is no entry is selected. -/
  strangerSelected : Bool
deriving DecidableEq

def survey (tree : PlainTree) (selector : Selector) : Survey :=
  let indices := List.range tree.entries.size
  let hits := indices.filter (selector.selects tree.host)
  { hits
    valuesAgree := indices.filter (fun index => selector.selectsValue tree.host (some index)) == hits
    strangerSelected := selector.selectsValue tree.host none }

end PlainTree

end StyledTree
