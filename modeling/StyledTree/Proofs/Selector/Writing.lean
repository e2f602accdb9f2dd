import StyledTree.Proofs.Selector.Reading

set_option autoImplicit false

namespace StyledTree

open Text

/-- A name that can stand in a run: it is made of clause characters, and no dot is among them. -/
def Clause.IsPlain (name : List Char) : Prop :=
  ∀ c ∈ name, isClauseChar c = true ∧ c ≠ '.'

structure Clause.IsWritable (clause : Clause) : Prop where
  id : ∀ id, clause.id = some id → IsPlain id.toList
  classes : ∀ name ∈ clause.classes, name.toList ≠ [] ∧ IsPlain name.toList

structure Selector.IsWritable (selector : Selector) : Prop where
  subject : selector.subject.IsWritable
  context : ∀ step ∈ selector.context, step.2.IsWritable

namespace Clause

theorem IsPlain.not_dot_mem {name : List Char} (isPlain : IsPlain name) : '.' ∉ name :=
  fun member => (isPlain '.' member).2 rfl

theorem isPlain_of_mem_segments {text name : List Char}
    (chars : ∀ c ∈ text, isClauseChar c = true) (member : name ∈ segments '.' text) :
    IsPlain name := by
  intro c inside
  obtain ⟨inText, notDot⟩ := mem_of_mem_segments member c inside
  exact ⟨chars c inText, notDot⟩

/-- Class names that stand between the dots of a run can be written. -/
theorem isPlain_of_mem_classNames {text : List Char} {segments : List (List Char)}
    (chars : ∀ c ∈ text, isClauseChar c = true)
    (cut : ∀ name ∈ segments, name ∈ Text.segments '.' text) :
    ∀ name ∈ classNames segments, name.toList ≠ [] ∧ IsPlain name.toList := by
  intro name member
  obtain ⟨segment, kept, rfl⟩ := List.mem_map.mp member
  obtain ⟨inSegments, nonempty⟩ := List.mem_filter.mp kept
  rw [String.toList_ofList]
  exact ⟨by simpa using nonempty, isPlain_of_mem_segments chars (cut segment inSegments)⟩

theorem isWritable_ofRun {run : List Char} (chars : ∀ c ∈ run, isClauseChar c = true) :
    (ofRun run).IsWritable := by
  rw [ofRun.eq_def]
  split
  · next rest =>
    rw [List.forall_mem_cons] at chars
    refine ⟨?_, isPlain_of_mem_classNames chars.2 (fun name => List.mem_of_mem_tail)⟩
    rintro id named
    cases named
    rw [String.toList_ofList]
    cases cut : segments '.' rest with
    | nil => exact fun _ inside => nomatch inside
    | cons first others =>
        exact isPlain_of_mem_segments chars.2 (by rw [cut]; exact List.mem_cons_self)
  · next rest =>
    rw [List.forall_mem_cons] at chars
    exact ⟨fun _ named => (nomatch named),
      isPlain_of_mem_classNames chars.2 (fun _ member => member)⟩
  · exact ⟨fun _ named => (nomatch named), fun _ member => (nomatch member)⟩

theorem eq_glob_of_isGlob {clause : Clause} (isGlob : clause.isGlob = true) : clause = glob := by
  obtain ⟨id, classes⟩ := clause
  rw [Clause.isGlob, Bool.and_eq_true, Option.isNone_iff_eq_none, List.isEmpty_iff] at isGlob
  obtain ⟨rfl, rfl⟩ := isGlob
  rfl

/-- Classes are written behind what is there, each after a dot. -/
theorem toList_foldl_dotted (names : List String) (written : String) :
    (names.foldl (fun written name => written ++ "." ++ name) written).toList =
      written.toList ++ (names.map String.toList).flatMap (fun name => '.' :: name) := by
  induction names generalizing written with
  | nil => simp
  | cons name rest ih =>
      rw [List.foldl_cons, ih, List.map_cons, List.flatMap_cons]
      simp

/-- The characters of a clause's text: the name after `#`, and each class after a dot. -/
theorem toList_text {clause : Clause} (notGlob : clause.isGlob = false) :
    clause.text.toList = clause.id.elim [] (fun id => '#' :: id.toList) ++
      (clause.classes.map String.toList).flatMap (fun name => '.' :: name) := by
  rw [text, notGlob]
  cases clause.id with
  | none => simp [toList_foldl_dotted]
  | some id => simp [toList_foldl_dotted]

/-- Between the dots stand the pieces again, if no piece holds a dot. -/
theorem segments_dotted (first : List Char) (names : List (List Char)) (plain : '.' ∉ first)
    (plains : ∀ name ∈ names, '.' ∉ name) :
    segments '.' (first ++ names.flatMap (fun name => '.' :: name)) = first :: names := by
  rw [segments_eq_splitOn]
  induction names generalizing first with
  | nil => rw [List.flatMap_nil, List.append_nil, List.splitOn_eq_singleton plain]
  | cons name rest ih =>
      rw [List.forall_mem_cons] at plains
      rw [List.flatMap_cons, List.cons_append, List.splitOn_append_cons_self_of_not_mem plain,
        ih name plains.1 plains.2]

theorem classNames_map_toList {names : List String} (nonempty : ∀ name ∈ names, name.toList ≠ []) :
    classNames (names.map String.toList) = names := by
  rw [classNames, List.filter_eq_self.mpr, List.map_map]
  · exact (List.map_congr_left (fun name _ => String.ofList_toList)).trans (List.map_id names)
  · intro segment member
    obtain ⟨name, named, rfl⟩ := List.mem_map.mp member
    simpa using nonempty name named

/-- A writable clause is written as a run. -/
theorem IsWritable.isRun_text {clause : Clause} (isWritable : clause.IsWritable) :
    IsRun clause.text.toList := by
  cases notGlob : clause.isGlob with
  | true =>
      obtain rfl := eq_glob_of_isGlob notGlob
      have star : glob.text.toList = ['*'] := rfl
      rw [star]
      exact ⟨List.cons_ne_nil _ _, List.forall_mem_singleton.mpr rfl⟩
  | false =>
      rw [toList_text notGlob]
      obtain ⟨id, classes⟩ := clause
      constructor
      · intro none
        rw [List.append_eq_nil_iff] at none
        cases id <;> cases classes <;> simp_all [isGlob]
      · intro c member
        rcases List.mem_append.mp member with inName | inClasses
        · cases id with
          | none => cases inName
          | some id =>
              rcases List.mem_cons.mp inName with rfl | inside
              · rfl
              · exact (isWritable.id id rfl c inside).1
        · obtain ⟨name, named, inside⟩ := List.mem_flatMap.mp inClasses
          obtain ⟨name, listed, rfl⟩ := List.mem_map.mp named
          rcases List.mem_cons.mp inside with rfl | inside
          · rfl
          · exact ((isWritable.classes name listed).2 c inside).1

/-- The run that a writable clause is written as stands for the clause. -/
theorem IsWritable.ofRun_text {clause : Clause} (isWritable : clause.IsWritable) :
    ofRun clause.text.toList = clause := by
  have nonempty : ∀ name ∈ clause.classes, name.toList ≠ [] :=
    fun name member => (isWritable.classes name member).1
  have noDots : ∀ name ∈ clause.classes.map String.toList, '.' ∉ name := by
    intro segment member
    obtain ⟨name, named, rfl⟩ := List.mem_map.mp member
    exact (isWritable.classes name named).2.not_dot_mem
  cases notGlob : clause.isGlob with
  | true =>
      obtain rfl := eq_glob_of_isGlob notGlob
      rfl
  | false =>
      rw [toList_text notGlob]
      obtain ⟨id, classes⟩ := clause
      cases id with
      | some id =>
          have cut := segments_dotted id.toList (classes.map String.toList)
            (isWritable.id id rfl).not_dot_mem noDots
          change ofRun ('#' :: (id.toList ++ _)) = _
          rw [ofRun, cut, List.headD_cons, List.tail_cons, String.ofList_toList,
            classNames_map_toList nonempty]
      | none =>
          cases classes with
          | nil => cases notGlob
          | cons first others =>
              rw [List.map_cons, List.forall_mem_cons] at noDots
              have cut := segments_dotted first.toList (others.map String.toList) noDots.1 noDots.2
              change ofRun ('.' :: (first.toList ++
                (others.map String.toList).flatMap (fun name => '.' :: name))) = _
              rw [ofRun, cut, ← List.map_cons (f := String.toList), classNames_map_toList nonempty]

/-- A run is read off the text when no clause character follows it. -/
theorem read?_append {run : List Char} (isRun : IsRun run) {rest : List Char}
    (stops : ∀ c, rest.head? = some c → isClauseChar c = false) :
    read? (run ++ rest) = some (ofRun run, rest) := by
  obtain ⟨c, tail, rfl⟩ := List.exists_cons_of_ne_nil isRun.nonempty
  have chars := List.forall_mem_cons.mp isRun.chars
  rw [List.cons_append, read?, if_pos chars.1, List.takeWhile_append_of_pos chars.2,
    List.dropWhile_append_of_pos chars.2]
  cases rest with
  | nil => simp
  | cons other rest =>
      have stop : ¬ isClauseChar other = true := by simp [stops other rfl]
      rw [List.takeWhile_cons_of_neg stop, List.dropWhile_cons_of_neg stop, List.append_nil]

end Clause

namespace Combinator

/-- A written combinator is read off the text when a clause follows it. -/
theorem read?_text_append (combinator : Combinator) {c : Char}
    (inClause : Clause.isClauseChar c = true) (rest : List Char) :
    read? (combinator.text.toList ++ c :: rest) = some (combinator, c :: rest) := by
  have notBlank : ¬ isBlank c = true := by
    intro blank
    rw [Clause.isClauseChar_of_isBlank blank] at inClause
    cases inClause
  have notChild : c ≠ '>' := by
    rintro rfl
    exact absurd inClause (by decide)
  have gap : (' ' :: c :: rest).dropWhile isBlank = c :: rest := by
    rw [List.dropWhile_cons_of_pos (by decide), List.dropWhile_cons_of_neg notBlank]
  cases combinator with
  | child =>
      change read? (' ' :: '>' :: ' ' :: c :: rest) = _
      rw [read?, List.dropWhile_cons_of_pos (by decide), List.dropWhile_cons_of_neg (by decide)]
      change some (child, (' ' :: c :: rest).dropWhile isBlank) = _
      rw [gap]
  | descendant =>
      change read? (' ' :: c :: rest) = _
      rw [read?.eq_def, gap]
      split
      · next other same =>
        cases same
        exact absurd rfl notChild
      · rfl

end Combinator

namespace Selector

theorem isWritable_extend {left : Selector} (isWritable : left.IsWritable)
    {pieces : List (List Char × List Char)}
    (runs : ∀ piece ∈ pieces, Clause.IsRun piece.2) : (left.extend pieces).IsWritable := by
  induction pieces generalizing left with
  | nil => exact isWritable
  | cons piece rest ih =>
      rw [List.forall_mem_cons] at runs
      refine ih ⟨Clause.isWritable_ofRun runs.1.chars, ?_⟩ runs.2
      exact List.forall_mem_cons.mpr ⟨isWritable.subject, isWritable.context⟩

/-- What is read can be written. -/
theorem isWritable_of_parse {text : String} {selector : Selector}
    (parsed : parse text = .ok selector) : selector.IsWritable := by
  rcases read_eq_ok (read_of_parse parsed) with ⟨-, rfl⟩ | ⟨run, rest, -, isRun, more⟩
  · have blank : (Clause.ofRun []).IsWritable := Clause.isWritable_ofRun (by simp)
    exact ⟨blank, by simp [glob]⟩
  · obtain ⟨pieces, -, others, rfl⟩ := exists_pieces_of_readAfter more
    refine isWritable_extend ⟨Clause.isWritable_ofRun isRun.chars, by simp⟩ ?_
    exact fun piece member => (others piece member).2

/-- A combinator and then a clause are one step of the reader. -/
theorem readAfter_of_reads (left : Selector) {text after rest : List Char}
    {combinator : Combinator} {clause : Clause}
    (gapped : Combinator.read? text = some (combinator, after))
    (ran : Clause.read? after = some (clause, rest)) :
    readAfter left text = readAfter (left.followedBy combinator clause) rest := by
  rw [readAfter.eq_def left text]
  split
  · cases gapped
  · split
    · next none =>
      rw [gapped] at none
      cases none
    · next other ends =>
      rw [gapped] at ends
      cases ends
      cases ran
    · next other tail child =>
      rw [gapped] at child
      cases child
      cases ran
    · next other later _ _ cut =>
      rw [gapped] at cut
      cases cut
      split
      · next none =>
        rw [ran] at none
        cases none
      · next found left' same =>
        rw [ran] at same
        cases same
        rfl

/-- The reader takes a written combinator and a written clause off the text in one step. -/
theorem readAfter_written (left : Selector) (combinator : Combinator) {clause : Clause}
    (isWritable : clause.IsWritable) {rest : List Char}
    (stops : ∀ c, rest.head? = some c → Clause.isClauseChar c = false) :
    readAfter left (combinator.text.toList ++ (clause.text.toList ++ rest)) =
      readAfter (left.followedBy combinator clause) rest := by
  have isRun := isWritable.isRun_text
  obtain ⟨c, tail, run⟩ := List.exists_cons_of_ne_nil isRun.nonempty
  have inClause := isRun.chars
  have ran := Clause.read?_append isRun stops
  rw [isWritable.ofRun_text] at ran
  rw [run] at ran inClause ⊢
  have gapped := Combinator.read?_text_append combinator (inClause c List.mem_cons_self)
    (tail ++ rest)
  exact readAfter_of_reads left gapped ran

/-- What is written up to a clause is read as the selector up to there. -/
theorem read_written {subject : Clause} {context : List (Combinator × Clause)}
    (isWritable : Selector.IsWritable ⟨subject, context⟩) {rest : List Char}
    (stops : ∀ c, rest.head? = some c → Clause.isClauseChar c = false) :
    read ((contextText context ++ subject.text).toList ++ rest) =
      readAfter ⟨subject, context⟩ rest := by
  induction context generalizing subject rest with
  | nil =>
      have isRun := isWritable.subject.isRun_text
      have ran := Clause.read?_append isRun stops
      rw [isWritable.subject.ofRun_text] at ran
      rw [contextText, String.empty_append]
      obtain ⟨c, tail, run⟩ := List.exists_cons_of_ne_nil isRun.nonempty
      have inClause := isRun.chars
      rw [run] at ran inClause ⊢
      rw [read.eq_def]
      split
      · next none => cases none
      · next child =>
        cases child
        exact absurd (inClause '>' List.mem_cons_self) (by decide)
      · rw [ran]
  | cons step others ih =>
      obtain ⟨combinator, clause⟩ := step
      obtain ⟨subjectWritable, contextWritable⟩ := isWritable
      rw [List.forall_mem_cons] at contextWritable
      have gapStops : ∀ c, (combinator.text.toList ++ (subject.text.toList ++ rest)).head? = some c →
          Clause.isClauseChar c = false := by
        intro c starts
        cases combinator <;> (cases starts; rfl)
      have read := ih ⟨contextWritable.1, contextWritable.2⟩ gapStops
      rw [readAfter_written _ combinator subjectWritable stops] at read
      rw [contextText]
      simp only [String.toList_append, List.append_assoc] at read ⊢
      exact read

/-- A written selector starts with its leftmost clause. -/
theorem isClauseChar_of_head? {subject : Clause} {context : List (Combinator × Clause)}
    (isWritable : Selector.IsWritable ⟨subject, context⟩) {c : Char}
    (starts : (contextText context ++ subject.text).toList.head? = some c) :
    Clause.isClauseChar c = true := by
  induction context generalizing subject with
  | nil =>
      rw [contextText, String.empty_append] at starts
      exact isWritable.subject.isRun_text.chars c (List.mem_of_head? starts)
  | cons step others ih =>
      obtain ⟨combinator, clause⟩ := step
      have contextWritable := List.forall_mem_cons.mp isWritable.context
      have nonempty : (contextText others ++ clause.text).toList ≠ [] := by
        rw [String.toList_append]
        exact List.append_ne_nil_of_right_ne_nil _ contextWritable.1.isRun_text.nonempty
      rw [contextText, String.append_assoc, String.append_assoc, ← String.append_assoc,
        String.toList_append, List.head?_append_of_ne_nil _ nonempty] at starts
      exact ih ⟨contextWritable.1, contextWritable.2⟩ starts

theorem trim_text {selector : Selector} (isWritable : selector.IsWritable) :
    trim selector.text.toList = selector.text.toList := by
  have visible : ∀ {c : Char}, Clause.isClauseChar c = true → isSpace c = false := by
    intro c inClause
    rw [Clause.isClauseChar, Bool.and_eq_true] at inClause
    simpa using inClause.1
  have isRun := isWritable.subject.isRun_text
  apply trim_eq_self
  · intro c starts
    exact visible (isClauseChar_of_head? isWritable starts)
  · intro c ends
    rw [text, String.toList_append, List.getLast?_append_of_ne_nil _ isRun.nonempty] at ends
    exact visible (isRun.chars c (List.mem_of_getLast? ends))

theorem parse_text_of_isWritable {selector : Selector} (isWritable : selector.IsWritable) :
    parse selector.text = .ok selector := by
  have ends : ∀ c, ([] : List Char).head? = some c → Clause.isClauseChar c = false := by simp
  have done := read_written isWritable ends
  rw [List.append_nil] at done
  rw [parse, trim_text isWritable, text, done, readAfter]
  rfl

/-- A selector that is read from a text is read again from the text that it is written as, so that
the written form tells selectors apart and is kept by reading. -/
theorem parse_text_of_parse {text : String} {selector : Selector}
    (parsed : parse text = .ok selector) :
    parse selector.text = .ok selector ∧
      (∀ otherText other, parse otherText = .ok other → other.text = selector.text →
        other = selector) ∧
      ∀ again, parse selector.text = .ok again → again.text = selector.text := by
  have reads := parse_text_of_isWritable (isWritable_of_parse parsed)
  refine ⟨reads, ?_, ?_⟩
  · intro otherText other otherParsed same
    have otherReads := parse_text_of_isWritable (isWritable_of_parse otherParsed)
    rw [same, reads] at otherReads
    exact (Except.ok.inj otherReads).symm
  · intro again readAgain
    rw [reads] at readAgain
    rw [Except.ok.inj readAgain]

def oddText : String := "# >.a..# ... .\t?#"

def oddSelector : Selector :=
  ⟨Clause.glob, [(.descendant, Clause.glob), (.descendant, Clause.glob),
    (.descendant, ⟨none, ["a", "#"]⟩), (.child, ⟨some "", []⟩)]⟩

theorem oddText_reads_back :
    parse oddText = .ok oddSelector ∧ parse oddSelector.text = .ok oddSelector := by
  have parsed : parse oddText = .ok oddSelector := by decide +kernel
  exact ⟨parsed, (parse_text_of_parse parsed).1⟩

end Selector

end StyledTree
