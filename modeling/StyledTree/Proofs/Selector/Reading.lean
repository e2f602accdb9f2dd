import Mathlib.Data.List.Forall2
import StyledTree.Selector.Reader
import StyledTree.Proofs.Text.Splitting

set_option autoImplicit false

namespace StyledTree

open Text

structure Clause.IsRun (run : List Char) : Prop where
  nonempty : run ≠ []
  chars : ∀ c ∈ run, isClauseChar c = true

structure Combinator.IsGap (gap : List Char) : Prop where
  nonempty : gap ≠ []
  chars : ∀ c ∈ gap, Clause.isClauseChar c = false

/-- Some blanks, or a `>` with any blanks around it. -/
inductive Combinator.Separates : List Char → Prop where
  | blanks {gap : List Char} (nonempty : gap ≠ []) (blank : ∀ c ∈ gap, isBlank c = true) :
      Combinator.Separates gap
  | child {before after : List Char} (left : ∀ c ∈ before, isBlank c = true)
      (right : ∀ c ∈ after, isBlank c = true) : Combinator.Separates (before ++ '>' :: after)

def Clause.namesIn (text : List Char) : List String :=
  ((text.splitOn '.').filter (fun segment => !segment.isEmpty)).map String.ofList

inductive Clause.Denotes : List Char → Clause → Prop where
  | named (rest : List Char) :
      Clause.Denotes ('#' :: rest) ⟨some (String.ofList (rest.takeWhile (fun c => c != '.'))),
        Clause.namesIn (rest.dropWhile (fun c => c != '.'))⟩
  | unnamed (rest : List Char) :
      Clause.Denotes ('.' :: rest) ⟨none, Clause.namesIn rest⟩
  | unknown {c : Char} (rest : List Char) (notName : c ≠ '#') (notClass : c ≠ '.') :
      Clause.Denotes (c :: rest) Clause.glob

def Combinator.ofGap (gap : List Char) : Combinator :=
  if '>' ∈ gap then .child else .descendant

/-- A text cut into runs; each run but the first comes with the gap on its left. -/
structure Spelling where
  before : List Char
  first : List Char
  others : List (List Char × List Char)
  after : List Char

namespace Spelling

def text (spelling : Spelling) : List Char :=
  spelling.before ++ (spelling.first ++ spelling.others.flatMap (fun piece => piece.1 ++ piece.2)) ++
    spelling.after

/-- No run can be made longer: what stands around it is a gap or an end of the text. -/
structure IsMaximal (spelling : Spelling) : Prop where
  before : ∀ c ∈ spelling.before, Clause.isClauseChar c = false
  first : Clause.IsRun spelling.first
  others : ∀ piece ∈ spelling.others, Combinator.IsGap piece.1 ∧ Clause.IsRun piece.2
  after : ∀ c ∈ spelling.after, Clause.isClauseChar c = false

def runs (spelling : Spelling) : List (List Char × Option Combinator) :=
  (spelling.first, none) ::
    spelling.others.map (fun piece => (piece.2, some (Combinator.ofGap piece.1)))

/-- Run by run, the spelling stands for the clauses of the selector, the subject last. -/
def Denotes (spelling : Spelling) (selector : Selector) : Prop :=
  List.Forall₂ (fun run clause => Clause.Denotes run.1 clause.1 ∧ run.2 = clause.2)
    spelling.runs selector.clauses.reverse

theorem text_eq (spelling : Spelling) :
    spelling.text = spelling.before ++ (spelling.first ++
      (spelling.others.flatMap (fun piece => piece.1 ++ piece.2) ++ spelling.after)) := by
  rw [text, List.append_assoc, List.append_assoc]

end Spelling

namespace Clause

theorem isClauseChar_of_isSpace {c : Char} (space : isSpace c = true) :
    isClauseChar c = false := by
  rw [isClauseChar, space]
  rfl

theorem isClauseChar_of_isBlank {c : Char} (blank : isBlank c = true) :
    isClauseChar c = false :=
  isClauseChar_of_isSpace (isSpace_of_isBlank blank)

theorem classNames_eq_namesIn (text : List Char) :
    classNames (segments '.' text) = namesIn text := by
  rw [classNames, namesIn, segments_eq_splitOn]

/-- What stands before the first dot names no class. -/
theorem classNames_tail_eq_namesIn (text : List Char) :
    classNames (segments '.' text).tail = namesIn (text.dropWhile (fun c => c != '.')) := by
  have empty : (text.dropWhile (fun c => c != '.')).takeWhile (fun c => c != '.') = [] := by
    rw [List.takeWhile_eq_nil_iff]
    intro inside
    exact List.dropWhile_get_zero_not (fun c => c != '.') text inside
  have cut := splitOn_eq_takeWhile_cons '.' (text.dropWhile (fun c => c != '.'))
  rw [empty] at cut
  rw [← classNames_eq_namesIn, segments_eq_splitOn, segments_eq_splitOn,
    splitOn_eq_takeWhile_cons '.' text, List.tail_cons, cut, List.tail_cons, classNames, classNames]
  rfl

theorem denotes_ofRun {run : List Char} (isRun : IsRun run) : Denotes run (ofRun run) := by
  cases run with
  | nil => exact absurd rfl isRun.nonempty
  | cons c rest =>
      by_cases isName : c = '#'
      · subst isName
        have head : (segments '.' rest).headD [] = rest.takeWhile (fun c => c != '.') := by
          rw [segments_eq_splitOn, splitOn_eq_takeWhile_cons]
          rfl
        rw [ofRun, head, classNames_tail_eq_namesIn]
        exact Denotes.named rest
      · by_cases isClass : c = '.'
        · subst isClass
          rw [ofRun, classNames_eq_namesIn]
          exact Denotes.unnamed rest
        · have same : ofRun (c :: rest) = glob := by
            rw [ofRun] <;> simp_all
          rw [same]
          exact Denotes.unknown rest isName isClass

/-- Reading a clause takes a whole run off the text. -/
theorem read?_eq_some {text rest : List Char} {clause : Clause}
    (found : read? text = some (clause, rest)) :
    ∃ run, text = run ++ rest ∧ IsRun run ∧ clause = ofRun run := by
  cases text with
  | nil => cases found
  | cons c tail =>
      rw [read?] at found
      split at found
      · next inClause =>
        cases found
        refine ⟨c :: tail.takeWhile isClauseChar, ?_, ⟨List.cons_ne_nil _ _, ?_⟩, rfl⟩
        · rw [List.cons_append, List.takeWhile_append_dropWhile]
        · intro other member
          rcases List.mem_cons.mp member with rfl | taken
          · exact inClause
          · exact List.mem_takeWhile_imp taken
      · cases found

end Clause

namespace Combinator

theorem not_child_mem_takeWhile (text : List Char) : '>' ∉ text.takeWhile isBlank := by
  intro member
  have blank := List.mem_takeWhile_imp member
  exact absurd blank (by decide)

theorem Separates.isBlank_or_child {gap : List Char} (separates : Separates gap) :
    ∀ c ∈ gap, isBlank c = true ∨ c = '>' := by
  intro c member
  cases separates with
  | blanks _ blank => exact Or.inl (blank c member)
  | child left right =>
      rcases List.mem_append.mp member with front | back
      · exact Or.inl (left c front)
      · rcases List.mem_cons.mp back with rfl | tail
        · exact Or.inr rfl
        · exact Or.inl (right c tail)

theorem Separates.isGap {gap : List Char} (separates : Separates gap) : IsGap gap := by
  refine ⟨?_, fun c member => ?_⟩
  · cases separates with
    | blanks nonempty _ => exact nonempty
    | child => exact List.append_ne_nil_of_right_ne_nil _ (List.cons_ne_nil _ _)
  · rcases separates.isBlank_or_child c member with blank | rfl
    · exact Clause.isClauseChar_of_isBlank blank
    · rfl

/-- Reading a combinator takes the whole separator off the text. -/
theorem separates_of_read? {text rest : List Char} {combinator : Combinator}
    (found : read? text = some (combinator, rest)) :
    ∃ gap, text = gap ++ rest ∧ Separates gap ∧ combinator = ofGap gap ∧
      (∀ c, rest.head? = some c → isBlank c = false) ∧
        (rest.head? = some '>' → combinator = .child) := by
  have whole := List.takeWhile_append_dropWhile (p := isBlank) (l := text)
  have stops : ∀ other : List Char, ∀ c, (other.dropWhile isBlank).head? = some c →
      isBlank c = false := by
    intro other c starts
    have failed := List.head?_dropWhile_not isBlank other
    rw [starts] at failed
    simpa using failed
  rw [read?.eq_def] at found
  split at found
  · next after stop =>
    cases found
    refine ⟨text.takeWhile isBlank ++ '>' :: after.takeWhile isBlank, ?_, ?_, ?_, stops after,
      fun _ => rfl⟩
    · rw [List.append_assoc, List.cons_append, List.takeWhile_append_dropWhile, ← stop, whole]
    · exact Separates.child (fun c member => List.mem_takeWhile_imp member)
        (fun c member => List.mem_takeWhile_imp member)
    · rw [ofGap, if_pos (List.mem_append_right _ List.mem_cons_self)]
  · next notChild =>
    split at found
    · next starts =>
      cases found
      refine ⟨text.takeWhile isBlank, whole.symm, Separates.blanks ?_ ?_, ?_, stops text, ?_⟩
      · intro none
        cases text with
        | nil => cases starts
        | cons c tail =>
            have blank : isBlank c = true := starts
            rw [List.takeWhile_cons_of_pos blank] at none
            cases none
      · exact fun c member => List.mem_takeWhile_imp member
      · rw [ofGap, if_neg (not_child_mem_takeWhile text)]
      · intro child
        obtain ⟨rest, same⟩ := List.head?_eq_some_iff.mp child
        exact absurd same (notChild rest)
    · cases found

/-- What is taken off is a gap. -/
theorem read?_eq_some {text rest : List Char} {combinator : Combinator}
    (found : read? text = some (combinator, rest)) :
    ∃ gap, text = gap ++ rest ∧ IsGap gap ∧ combinator = ofGap gap := by
  obtain ⟨gap, cut, separates, same, -⟩ := separates_of_read? found
  exact ⟨gap, cut, separates.isGap, same⟩

end Combinator

namespace Selector

def extend (left : Selector) (pieces : List (List Char × List Char)) : Selector :=
  pieces.foldl
    (fun left piece => left.followedBy (Combinator.ofGap piece.1) (Clause.ofRun piece.2)) left

theorem clauses_extend (left : Selector) (pieces : List (List Char × List Char)) :
    (left.extend pieces).clauses.reverse = left.clauses.reverse ++
      pieces.map (fun piece => (Clause.ofRun piece.2, some (Combinator.ofGap piece.1))) := by
  induction pieces generalizing left with
  | nil => exact (List.append_nil _).symm
  | cons piece rest ih =>
      have longer :
          (left.followedBy (Combinator.ofGap piece.1) (Clause.ofRun piece.2)).clauses.reverse =
            left.clauses.reverse ++
              [(Clause.ofRun piece.2, some (Combinator.ofGap piece.1))] := by
        exact List.reverse_cons
      change (extend _ rest).clauses.reverse = _
      rw [ih, longer, List.append_assoc, List.map_cons, List.singleton_append]

/-- One step of the reader: the text is at its end, or a gap and a run come off it. -/
theorem readAfter_eq_ok {left selector : Selector} {text : List Char}
    (success : readAfter left text = .ok selector) :
    (text = [] ∧ selector = left) ∨
      ∃ gap run rest, text = gap ++ run ++ rest ∧ Combinator.IsGap gap ∧ Clause.IsRun run ∧
        readAfter (left.followedBy (Combinator.ofGap gap) (Clause.ofRun run)) rest =
          .ok selector := by
  rw [readAfter.eq_def] at success
  split at success
  · cases success
    exact Or.inl ⟨rfl, rfl⟩
  · split at success
    · cases success
    · cases success
    · cases success
    · next combinator after _ _ gapped =>
      split at success
      · cases success
      · next clause rest ran =>
        obtain ⟨gap, cut, isGap, rfl⟩ := Combinator.read?_eq_some gapped
        obtain ⟨run, tail, isRun, rfl⟩ := Clause.read?_eq_some ran
        refine Or.inr ⟨gap, run, rest, ?_, isGap, isRun, success⟩
        rw [cut, tail, List.append_assoc]

/-- The reader takes gaps and runs off the text to its end. -/
theorem exists_pieces_of_readAfter {left selector : Selector} {text : List Char}
    (success : readAfter left text = .ok selector) :
    ∃ pieces, text = pieces.flatMap (fun piece => piece.1 ++ piece.2) ∧
      (∀ piece ∈ pieces, Combinator.IsGap piece.1 ∧ Clause.IsRun piece.2) ∧
      selector = left.extend pieces := by
  induction size : text.length using Nat.strongRecOn generalizing left text with
  | ind length ih =>
      rcases readAfter_eq_ok success with ⟨rfl, rfl⟩ | ⟨gap, run, rest, rfl, isGap, isRun, more⟩
      · exact ⟨[], rfl, by simp, rfl⟩
      · have shorter : rest.length < length := by
          have gapped := List.length_pos_iff.mpr isGap.nonempty
          rw [List.length_append, List.length_append] at size
          omega
        obtain ⟨pieces, rfl, cut, rfl⟩ := ih rest.length shorter more rfl
        refine ⟨(gap, run) :: pieces, rfl, ?_, rfl⟩
        intro piece member
        rcases List.mem_cons.mp member with rfl | other
        · exact ⟨isGap, isRun⟩
        · exact cut piece other

/-- A trimmed text that is read is empty, or it starts with a run. -/
theorem read_eq_ok {selector : Selector} {text : List Char} (success : read text = .ok selector) :
    (text = [] ∧ selector = glob) ∨
      ∃ run rest, text = run ++ rest ∧ Clause.IsRun run ∧
        readAfter ⟨Clause.ofRun run, []⟩ rest = .ok selector := by
  rw [read.eq_def] at success
  split at success
  · cases success
    exact Or.inl ⟨rfl, rfl⟩
  · cases success
  · split at success
    · cases success
    · next clause rest ran =>
      obtain ⟨run, cut, isRun, rfl⟩ := Clause.read?_eq_some ran
      exact Or.inr ⟨run, rest, cut, isRun, success⟩

theorem read_of_parse {selector : Selector} {text : String} (parsed : parse text = .ok selector) :
    read (trim text.toList) = .ok selector := by
  rw [parse] at parsed
  cases outcome : read (trim text.toList) with
  | error reason =>
      rw [outcome] at parsed
      cases parsed
  | ok found =>
      rw [outcome] at parsed
      cases parsed
      rfl

end Selector

/-- The runs of a spelling stand for the clauses that are read from them. -/
theorem Spelling.denotes_extend {spelling : Spelling} (isMaximal : spelling.IsMaximal) :
    spelling.Denotes (Selector.extend ⟨Clause.ofRun spelling.first, []⟩ spelling.others) := by
  rw [Denotes, Selector.clauses_extend]
  refine List.Forall₂.cons ⟨Clause.denotes_ofRun isMaximal.first, rfl⟩ ?_
  change List.Forall₂ _ _ (List.map _ _)
  rw [List.forall₂_map_left_iff, List.forall₂_map_right_iff, List.forall₂_same]
  intro piece member
  exact ⟨Clause.denotes_ofRun (isMaximal.others piece member).2, rfl⟩

namespace Selector

/-- Reading a blank text gives the glob, and reading any other text gives what its runs stand for. -/
theorem parse_reads_runs {text : String} {selector : Selector}
    (parsed : parse text = .ok selector) :
    ((∀ c ∈ text.toList, isSpace c = true) → selector = glob) ∧
      ((∃ c ∈ text.toList, isSpace c = false) →
        ∃ spelling : Spelling, spelling.text = text.toList ∧ spelling.IsMaximal ∧
          spelling.Denotes selector) := by
  have success := read_of_parse parsed
  obtain ⟨before, after, whole, front, back⟩ := exists_trim_eq text.toList
  rcases read_eq_ok success with ⟨none, rfl⟩ | ⟨run, rest, cut, isRun, more⟩
  · rw [trim_eq_nil_iff] at none
    refine ⟨fun _ => rfl, ?_⟩
    rintro ⟨c, member, visible⟩
    rw [none c member] at visible
    cases visible
  · constructor
    · intro spaces
      rw [← trim_eq_nil_iff, cut, List.append_eq_nil_iff] at spaces
      exact absurd spaces.1 isRun.nonempty
    · intro _
      obtain ⟨pieces, rfl, others, rfl⟩ := exists_pieces_of_readAfter more
      have isMaximal : Spelling.IsMaximal ⟨before, run, pieces, after⟩ :=
        ⟨fun c member => Clause.isClauseChar_of_isSpace (front c member), isRun, others,
          fun c member => Clause.isClauseChar_of_isSpace (back c member)⟩
      refine ⟨⟨before, run, pieces, after⟩, ?_, isMaximal, Spelling.denotes_extend isMaximal⟩
      rw [whole, cut]
      rfl

def mixedText : String := "\u3000#pane..wide.wide > .row.  * >#"

def mixedSelector : Selector :=
  ⟨⟨some "", []⟩, [(.child, Clause.glob), (.descendant, ⟨none, ["row"]⟩),
    (.child, ⟨some "pane", ["wide", "wide"]⟩)]⟩

theorem mixedText_reads_runs :
    parse mixedText = .ok mixedSelector ∧
      ∃ spelling : Spelling, spelling.text = mixedText.toList ∧ spelling.IsMaximal ∧
        spelling.Denotes mixedSelector := by
  have parsed : parse mixedText = .ok mixedSelector := by decide +kernel
  have visible : ∃ c ∈ mixedText.toList, isSpace c = false := ⟨'#', by decide +kernel, by decide⟩
  exact ⟨parsed, (parse_reads_runs parsed).2 visible⟩

end Selector

end StyledTree
