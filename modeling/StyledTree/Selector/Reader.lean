import StyledTree.Selector.Basic
import StyledTree.Text.Blank

set_option autoImplicit false

namespace StyledTree

open Text

/-- Why a text is no selector. -/
inductive Selector.Reason where
  | nothingBeforeChild
  | nothingAfterChild
  | missingCombinator
  | unrecognizedClause
deriving DecidableEq

namespace Selector.Reason

def message : Reason → String
  | .nothingBeforeChild => "`>` has no clause before it"
  | .nothingAfterChild => "`>` has no clause after it"
  | .missingCombinator => "expected whitespace or `>` between clauses"
  | .unrecognizedClause => "unrecognized clause"

end Selector.Reason

/-- A refused text, as it was given, and the reason. -/
structure Selector.Malformed where
  text : String
  reason : Selector.Reason
deriving DecidableEq

namespace Selector.Malformed

def message (error : Malformed) : String :=
  "malformed selector `" ++ error.text ++ "`: " ++ error.reason.message

end Selector.Malformed

namespace Clause

/-- The characters that a clause is made of. -/
def isClauseChar (c : Char) : Bool := !isSpace c && c != '>'

/-- The class names among dot-separated segments: empty segments name no class. -/
def classNames (segments : List (List Char)) : List String :=
  (segments.filter (fun segment => !segment.isEmpty)).map String.ofList

/-- The clause that a run of clause characters stands for. -/
def ofRun : List Char → Clause
  | '#' :: rest => ⟨some (String.ofList ((segments '.' rest).headD [])), classNames (segments '.' rest).tail⟩
  | '.' :: rest => ⟨none, classNames (segments '.' rest)⟩
  | _ => glob

/-- The clause at the start of a text, with what follows it. -/
def read? (text : List Char) : Option (Clause × List Char) :=
  match text with
  | [] => none
  | c :: rest =>
    if isClauseChar c then
      some (ofRun (c :: rest.takeWhile isClauseChar), rest.dropWhile isClauseChar)
    else none

theorem length_of_read? {text rest : List Char} {clause : Clause}
    (found : read? text = some (clause, rest)) : rest.length < text.length := by
  cases text with
  | nil => simp [read?] at found
  | cons c tail =>
    simp only [read?] at found
    split at found
    · simp only [Option.some.injEq, Prod.mk.injEq] at found
      rw [← found.2, List.length_cons]
      exact Nat.lt_succ_of_le (List.dropWhile_suffix isClauseChar).length_le
    · simp at found

end Clause

namespace Combinator

/-- The combinator at the start of a text, with what follows it and its blanks. -/
def read? (text : List Char) : Option (Combinator × List Char) :=
  match text.dropWhile isBlank with
  | '>' :: after => some (.child, after.dropWhile isBlank)
  | after => if text.head?.any isBlank then some (.descendant, after) else none

theorem length_of_read? {text rest : List Char} {combinator : Combinator}
    (found : read? text = some (combinator, rest)) : rest.length ≤ text.length := by
  have shorter := (List.dropWhile_suffix isBlank (l := text)).length_le
  simp only [read?] at found
  split at found
  · next after same =>
    simp only [Option.some.injEq, Prod.mk.injEq] at found
    have tail := (List.dropWhile_suffix isBlank (l := after)).length_le
    rw [same, List.length_cons] at shorter
    rw [← found.2]
    omega
  · split at found
    · simp only [Option.some.injEq, Prod.mk.injEq] at found
      rw [← found.2]
      exact shorter
    · simp at found

end Combinator

namespace Selector

/-- Reads the clauses that follow `left`. -/
def readAfter (left : Selector) (text : List Char) : Except Reason Selector :=
  match text with
  | [] => .ok left
  | c :: tail =>
    match _ : Combinator.read? (c :: tail) with
    | none => .error .missingCombinator
    | some (_, []) => .error .nothingAfterChild
    | some (_, '>' :: _) => .error .nothingBeforeChild
    | some (combinator, after) =>
      match _ : Clause.read? after with
      | none => .error .unrecognizedClause
      | some (clause, rest) => readAfter (left.followedBy combinator clause) rest
termination_by text.length
decreasing_by
  have clauseShorter := Clause.length_of_read? ‹Clause.read? after = some (clause, rest)›
  have gapShorter := Combinator.length_of_read? ‹Combinator.read? (c :: tail) = some (combinator, after)›
  omega

/-- Reads a trimmed text: nothing but white space is the glob. -/
def read (text : List Char) : Except Reason Selector :=
  match text with
  | [] => .ok glob
  | '>' :: _ => .error .nothingBeforeChild
  | text =>
    match Clause.read? text with
    | none => .error .unrecognizedClause
    | some (clause, rest) => readAfter ⟨clause, []⟩ rest

/-- A text of white space alone: it stands for the glob although it holds no clause to read. -/
def isClauseless (text : String) : Bool := text.toList.all isSpace

/-- Reads a selector; an error keeps the text as it was given. -/
def parse (text : String) : Except Malformed Selector :=
  (read (trim text.toList)).mapError (Malformed.mk text)

/-- The written form of a selector is read as the same selector. -/
def readsBack (selector : Selector) : Except Malformed Bool := do
  let again ← parse selector.text
  return again == selector

/-- Two texts are read as the same selector; of two malformed texts the first is reported. -/
def sameReading (first second : String) : Except Malformed Bool := do
  let first ← parse first
  let second ← parse second
  return first == second

end Selector

end StyledTree
