set_option autoImplicit false

namespace StyledTree

inductive Answer where
  | nothing
  | flag (value : Bool)
  | count (value : Int)
  | text (value : String)
  | list (items : List Answer)
  | record (fields : List (String × Answer))
deriving Inhabited

namespace Answer

/-- Puts a field at its place among sorted fields. -/
def insertField (name : String) (value : Answer) :
    List (String × Answer) → List (String × Answer)
  | [] => [(name, value)]
  | (other, held) :: rest =>
    if name < other then (name, value) :: (other, held) :: rest
    else (other, held) :: insertField name value rest

/-- The record with the given fields. -/
def ofFields (fields : List (String × Answer)) : Answer :=
  .record (fields.foldr (fun field sorted => insertField field.1 field.2 sorted) [])

def ofNat (value : Nat) : Answer := .count value

/-- A text, or nothing. -/
def ofText? : Option String → Answer
  | some value => .text value
  | none => .nothing

def ofTexts (values : List String) : Answer := .list (values.map .text)

def isNothing : Answer → Bool
  | .nothing => true
  | _ => false

mutual

/-- The two answers are the same. -/
def same : Answer → Answer → Bool
  | .nothing, .nothing => true
  | .flag a, .flag b => a == b
  | .count a, .count b => a == b
  | .text a, .text b => a == b
  | .list a, .list b => sameItems a b
  | .record a, .record b => sameFields a b
  | _, _ => false

def sameItems : List Answer → List Answer → Bool
  | [], [] => true
  | a :: as, b :: bs => same a b && sameItems as bs
  | _, _ => false

def sameFields : List (String × Answer) → List (String × Answer) → Bool
  | [], [] => true
  | (name, a) :: as, (other, b) :: bs => name == other && same a b && sameFields as bs
  | _, _ => false

end

end Answer

end StyledTree
