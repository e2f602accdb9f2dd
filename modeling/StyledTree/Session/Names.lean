set_option autoImplicit false

namespace StyledTree

/-- Names with what they stand for; no name occurs twice. -/
structure Names (α : Type) where
  entries : List (String × α)
deriving Inhabited

namespace Names

variable {α : Type}

def empty : Names α := ⟨[]⟩

def find? (names : Names α) (name : String) : Option α :=
  (names.entries.find? (fun entry => entry.1 == name)).map Prod.snd

def unbind (names : Names α) (name : String) : Names α :=
  ⟨names.entries.filter (fun entry => entry.1 != name)⟩

def bind (names : Names α) (name : String) (value : α) : Names α :=
  ⟨(name, value) :: (names.unbind name).entries⟩

/-- The lesser of two names. -/
def least (first second : String) : String := if second < first then second else first

/-- The least name that stands for a thing. -/
def nameOf? [BEq α] (names : Names α) (value : α) : Option String :=
  match (names.entries.filter (fun entry => entry.2 == value)).map Prod.fst with
  | [] => none
  | name :: others => some (others.foldl least name)

end Names

end StyledTree
