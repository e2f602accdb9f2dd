import StyledTree.Proofs.Selector.Refusing

set_option autoImplicit false

namespace StyledTree

open Text

/-- Going through the gaps behind the first run from left to right, the first one that does not separate
two clauses has this fault. -/
inductive Spelling.FirstFault : List (List Char × List Char) → List Char → Selector.Reason → Prop where
  | atEnd {after : List Char} {reason : Selector.Reason}
      (faulty : Combinator.Faulty true after reason) : Spelling.FirstFault [] after reason
  | here {gap run after : List Char} {others : List (List Char × List Char)}
      {reason : Selector.Reason} (faulty : Combinator.Faulty false gap reason) :
      Spelling.FirstFault ((gap, run) :: others) after reason
  | later {gap run after : List Char} {others : List (List Char × List Char)}
      {reason : Selector.Reason} (separates : Combinator.Separates gap)
      (first : Spelling.FirstFault others after reason) :
      Spelling.FirstFault ((gap, run) :: others) after reason

def Selector.Alternates (text : List Char) : Prop :=
  ∃ spelling : Spelling, spelling.text = text ∧ spelling.IsMaximal ∧ spelling.before = [] ∧
    spelling.after = [] ∧ ∀ piece ∈ spelling.others, Combinator.Separates piece.1

/-- The text starts with a `>`, or it starts with a clause and its first gap that separates no clauses
has the fault. -/
def Selector.GoesWrong (text : List Char) (reason : Selector.Reason) : Prop :=
  text.head? = some '>' ∧ reason = .nothingBeforeChild ∨
    ∃ spelling : Spelling, spelling.text = text ∧ spelling.IsMaximal ∧ spelling.before = [] ∧
      Spelling.FirstFault spelling.others spelling.after reason

namespace Combinator

variable {gap : List Char} {ends : Bool}

/-! Each gap separates two clauses, or it has a fault. -/

/-- A gap is blanks up to its end, or up to a `>`, or up to white space that is no blank. -/
theorem IsGap.cut (isGap : ∀ c ∈ gap, Clause.isClauseChar c = false) :
    (∀ c ∈ gap, isBlank c = true) ∨
      ∃ before c rest, gap = before ++ c :: rest ∧ (∀ d ∈ before, isBlank d = true) ∧
        (c = '>' ∨ IsForeign c) := by
  have whole := List.takeWhile_append_dropWhile (p := isBlank) (l := gap)
  have blanks : ∀ d ∈ gap.takeWhile isBlank, isBlank d = true :=
    fun d member => List.mem_takeWhile_imp member
  cases stop : gap.dropWhile isBlank with
  | nil =>
      rw [stop, List.append_nil] at whole
      rw [whole] at blanks
      exact Or.inl blanks
  | cons c rest =>
      rw [stop] at whole
      refine Or.inr ⟨gap.takeWhile isBlank, c, rest, whole.symm, blanks, ?_⟩
      have notBlank : isBlank c = false := by
        have failed := List.head?_dropWhile_not isBlank gap
        rw [stop] at failed
        simpa using failed
      have outside := isGap c (by rw [← whole]; simp)
      by_cases child : c = '>'
      · exact Or.inl child
      · exact Or.inr (Clause.isForeign_of_not_isClauseChar outside child notBlank)

/-- At the end of a trimmed text no gap ends in white space. -/
theorem separates_or_faulty (isGap : IsGap gap)
    (visibleEnd : ends = true → ∀ c, gap.getLast? = some c → isSpace c = false) :
    (ends = false ∧ Separates gap) ∨ ∃ reason, Faulty ends gap reason := by
  have visible : ∀ {front back : List Char}, gap = front ++ back → back ≠ [] →
      (∀ c ∈ back, isBlank c = true) → ends = false := by
    intro front back cut nonempty blank
    by_contra atEnd
    have last : gap.getLast? = some (back.getLast nonempty) := by
      rw [cut, List.getLast?_append_of_ne_nil _ nonempty, List.getLast?_eq_some_getLast nonempty]
    have shown := visibleEnd (by simpa using atEnd) _ last
    rw [isSpace_of_isBlank (blank _ (List.getLast_mem nonempty))] at shown
    cases shown
  -- The gap is cut at its first character that is no blank and, behind a `>`, at the next such one.
  rcases IsGap.cut isGap.chars with blanks | ⟨before, c, rest, rfl, left, rfl | foreign⟩
  · have inside : ends = false := visible (List.nil_append gap).symm isGap.nonempty blanks
    exact Or.inl ⟨inside, Separates.blanks isGap.nonempty blanks⟩
  · have restGap : ∀ d ∈ rest, Clause.isClauseChar d = false :=
      fun d member => isGap.chars d (by simp [member])
    rcases IsGap.cut restGap with blanks | ⟨between, d, tail, rfl, right, rfl | foreign⟩
    · by_cases none : rest = []
      · subst none
        cases ends with
        | false => exact Or.inl ⟨rfl, Separates.child left blanks⟩
        | true => exact Or.inr ⟨_, Faulty.trailing left rfl⟩
      · have split : before ++ '>' :: rest = (before ++ ['>']) ++ rest := by simp
        have inside : ends = false := visible split none blanks
        exact Or.inl ⟨inside, Separates.child left blanks⟩
    · exact Or.inr ⟨_, Faulty.doubled left right⟩
    · have faulty : Faulty ends ((before ++ '>' :: between) ++ d :: tail) .unrecognizedClause :=
        Faulty.foreignBehind (Separates.child left right) foreign
      rw [List.append_assoc, List.cons_append] at faulty
      exact Or.inr ⟨_, faulty⟩
  · by_cases none : before = []
    · subst none
      exact Or.inr ⟨_, Faulty.foreign foreign⟩
    · exact Or.inr ⟨_, Faulty.foreignBehind (Separates.blanks none left) foreign⟩

/-! What the reader makes of a gap. -/

theorem dropWhile_isBlank_append {blanks : List Char} (blank : ∀ c ∈ blanks, isBlank c = true)
    {rest : List Char} (stops : ∀ c, rest.head? = some c → isBlank c = false) :
    (blanks ++ rest).dropWhile isBlank = rest := by
  rw [List.dropWhile_append_of_pos blank]
  cases rest with
  | nil => rfl
  | cons c tail => rw [List.dropWhile_cons_of_neg (by simp [stops c rfl])]

theorem read?_child {before after rest : List Char} (left : ∀ c ∈ before, isBlank c = true)
    (right : ∀ c ∈ after, isBlank c = true)
    (stops : ∀ c, rest.head? = some c → isBlank c = false) :
    read? (before ++ '>' :: (after ++ rest)) = some (.child, rest) := by
  have child : ∀ c, ('>' :: (after ++ rest)).head? = some c → isBlank c = false := by
    rintro c ⟨⟩
    rfl
  rw [read?, dropWhile_isBlank_append left child]
  simp only [dropWhile_isBlank_append right stops]

/-- Whatever separates two clauses is read to its end; only behind a `>` can another `>` follow. -/
theorem Separates.read?_append {rest : List Char} (separates : Separates gap)
    (stops : ∀ c, rest.head? = some c → isBlank c = false ∧ c ≠ '>') :
    read? (gap ++ rest) = some (ofGap gap, rest) := by
  cases separates with
  | blanks nonempty blank =>
      obtain ⟨first, others, rfl⟩ := List.exists_cons_of_ne_nil nonempty
      have starts : ((first :: others) ++ rest).head?.any isBlank = true :=
        blank first List.mem_cons_self
      have absent : '>' ∉ first :: others := by
        intro member
        exact absurd (blank '>' member) (by decide)
      rw [ofGap, if_neg absent, read?,
        dropWhile_isBlank_append blank (fun c first => (stops c first).1)]
      split
      · exact absurd rfl (stops '>' rfl).2
      · rw [if_pos starts]
  | child left right =>
      rw [ofGap, if_pos (List.mem_append_right _ List.mem_cons_self), List.append_assoc,
        List.cons_append]
      exact read?_child left right (fun c first => (stops c first).1)

theorem read?_foreign {c : Char} (foreign : IsForeign c) (rest : List Char) :
    read? (c :: rest) = none := by
  have notChild : c ≠ '>' := by
    rintro rfl
    exact absurd foreign.1 (by decide)
  have stop : ¬ isBlank c = true := by simp [foreign.2]
  rw [read?, List.dropWhile_cons_of_neg stop]
  split
  · next same =>
    cases same
    exact absurd rfl notChild
  · rw [if_neg (by simp [foreign.2])]

end Combinator

namespace Selector

/-! What the reader makes of the text behind a run. -/

theorem readAfter_of_read?_none (left : Selector) {c : Char} {rest : List Char}
    (failed : Combinator.read? (c :: rest) = none) :
    readAfter left (c :: rest) = .error .missingCombinator := by
  rw [readAfter.eq_def]
  dsimp only
  split
  · rfl
  all_goals simp_all

def Reason.ofRest : List Char → Reason
  | [] => .nothingAfterChild
  | '>' :: _ => .nothingBeforeChild
  | _ => .unrecognizedClause

theorem readAfter_of_no_clause (left : Selector) {text after : List Char} {combinator : Combinator}
    (gapped : Combinator.read? text = some (combinator, after))
    (failed : Clause.read? after = none) :
    readAfter left text = .error (Reason.ofRest after) := by
  rw [readAfter.eq_def]
  split
  · cases gapped
  · split
    · next none =>
      rw [gapped] at none
      cases none
    · next other ends =>
      rw [gapped] at ends
      cases ends
      rfl
    · next other tail child =>
      rw [gapped] at child
      cases child
      rfl
    · next other later more notChild cut =>
      rw [gapped] at cut
      cases cut
      split
      · rw [Reason.ofRest]
        · exact fun none => more none
        · exact fun tail child => notChild tail child
      · next clause rest ran =>
        rw [failed] at ran
        cases ran

/-- The reader gives the reason of a gap with a fault. -/
theorem readAfter_of_faulty (left : Selector) {ends : Bool} {gap rest : List Char} {reason : Reason}
    (faulty : Combinator.Faulty ends gap reason) (atEnd : ends = true → rest = []) :
    readAfter left (gap ++ rest) = .error reason := by
  cases faulty with
  | @doubled before between tail blanks others =>
      have gapped : Combinator.read? (before ++ '>' :: (between ++ '>' :: (tail ++ rest))) =
          some (.child, '>' :: (tail ++ rest)) := by
        apply Combinator.read?_child blanks others
        rintro c ⟨⟩
        rfl
      simp only [List.append_assoc, List.cons_append]
      exact readAfter_of_no_clause left gapped rfl
  | @trailing before blanks isEnd =>
      obtain rfl := atEnd isEnd
      have gapped : Combinator.read? (before ++ '>' :: ([] ++ [])) = some (.child, []) :=
        Combinator.read?_child blanks (by simp) (by simp)
      rw [List.append_nil]
      exact readAfter_of_no_clause left gapped rfl
  | foreign foreign => exact readAfter_of_read?_none left (Combinator.read?_foreign foreign _)
  | @foreignBehind separator c tail separates foreign =>
      have outside : Clause.isClauseChar c = false := Clause.isClauseChar_of_isSpace foreign.1
      have notChild : c ≠ '>' := by
        rintro rfl
        exact absurd foreign.1 (by decide)
      have gapped : Combinator.read? (separator ++ c :: (tail ++ rest)) =
          some (Combinator.ofGap separator, c :: (tail ++ rest)) := by
        apply separates.read?_append
        rintro d ⟨⟩
        exact ⟨foreign.2, notChild⟩
      have failed : Clause.read? (c :: (tail ++ rest)) = none := by
        rw [Clause.read?, outside]
        rfl
      rw [List.append_assoc, List.cons_append, readAfter_of_no_clause left gapped failed]
      rw [Reason.ofRest]
      · exact List.cons_ne_nil _ _
      · exact fun tail child => notChild (List.cons.inj child).1

/-- The reader goes on behind gaps that separate clauses. -/
theorem readAfter_of_separates (left : Selector) {gap run rest : List Char}
    (separates : Combinator.Separates gap) (isRun : Clause.IsRun run) (stops : StopsRun rest) :
    readAfter left (gap ++ (run ++ rest)) =
      readAfter (left.followedBy (Combinator.ofGap gap) (Clause.ofRun run)) rest := by
  have gapped : Combinator.read? (gap ++ (run ++ rest)) =
      some (Combinator.ofGap gap, run ++ rest) := by
    apply separates.read?_append
    intro c starts
    rw [List.head?_append_of_ne_nil _ isRun.nonempty] at starts
    have inClause := isRun.chars c (List.mem_of_head? starts)
    refine ⟨?_, Clause.ne_child_of_isClauseChar inClause⟩
    by_contra blank
    rw [Bool.not_eq_false] at blank
    rw [Clause.isClauseChar_of_isBlank blank] at inClause
    cases inClause
  exact readAfter_of_reads left gapped (Clause.read?_append isRun stops)

/-! Cutting a text. -/

/-- White space or `>`: what a gap is made of. -/
def outsideClause (c : Char) : Bool :=
  !Clause.isClauseChar c

/-- What stands behind a run is cut into gaps and runs. -/
theorem exists_pieces {text : List Char} (stops : StopsRun text) :
    ∃ (pieces : List (List Char × List Char)) (after : List Char),
      text = pieces.flatMap (fun piece => piece.1 ++ piece.2) ++ after ∧
        (∀ piece ∈ pieces, Combinator.IsGap piece.1 ∧ Clause.IsRun piece.2) ∧
        ∀ c ∈ after, Clause.isClauseChar c = false := by
  -- A gap and the run behind it are cut off together, so the induction is on the length.
  induction size : text.length using Nat.strongRecOn generalizing text with
  | ind length ih =>
      have whole := List.takeWhile_append_dropWhile (p := outsideClause) (l := text)
      have outside : ∀ c ∈ text.takeWhile outsideClause, Clause.isClauseChar c = false := by
        intro c member
        simpa [outsideClause] using List.mem_takeWhile_imp member
      cases behind : text.dropWhile outsideClause with
      | nil =>
          rw [behind, List.append_nil] at whole
          rw [whole] at outside
          exact ⟨[], text, rfl, by simp, outside⟩
      | cons c tail =>
          have inClause : Clause.isClauseChar c = true := by
            have failed := List.head?_dropWhile_not outsideClause text
            rw [behind] at failed
            simpa [outsideClause] using failed
          have nonempty : text.takeWhile outsideClause ≠ [] := by
            intro none
            rw [none, behind, List.nil_append] at whole
            rw [stops c (by rw [← whole]; rfl)] at inClause
            cases inClause
          have leads : (c :: tail).head? = some c := rfl
          obtain ⟨run, rest, taken, isRun, restStops, -⟩ := read?_of_head? leads
            (Clause.isSpace_of_isClauseChar inClause) (Clause.ne_child_of_isClauseChar inClause)
          rw [behind, taken] at whole
          have shorter : rest.length < length := by
            have one := List.length_pos_iff.mpr isRun.nonempty
            rw [← size, ← whole, List.length_append, List.length_append]
            omega
          obtain ⟨pieces, after, more, cut, last⟩ := ih rest.length shorter restStops rfl
          refine ⟨(text.takeWhile outsideClause, run) :: pieces, after, ?_, ?_, last⟩
          · rw [List.flatMap_cons, List.append_assoc, ← more, List.append_assoc, whole]
          · exact List.forall_mem_cons.mpr ⟨⟨⟨nonempty, outside⟩, isRun⟩, cut⟩

/-- What follows a run in a text that is cut into gaps and runs. -/
theorem stopsRun_pieces {pieces : List (List Char × List Char)} {after : List Char}
    (cut : ∀ piece ∈ pieces, Combinator.IsGap piece.1 ∧ Clause.IsRun piece.2)
    (last : ∀ c ∈ after, Clause.isClauseChar c = false) :
    StopsRun (pieces.flatMap (fun piece => piece.1 ++ piece.2) ++ after) := by
  intro c starts
  cases pieces with
  | nil => exact last c (List.mem_of_head? starts)
  | cons piece rest =>
      have isGap := (cut piece List.mem_cons_self).1
      rw [List.flatMap_cons, List.append_assoc, List.append_assoc,
        List.head?_append_of_ne_nil _ isGap.nonempty] at starts
      exact isGap.chars c (List.mem_of_head? starts)

/-! The outcome. -/

section Pieces

variable {pieces : List (List Char × List Char)} {after : List Char}
  (cut : ∀ piece ∈ pieces, Combinator.IsGap piece.1 ∧ Clause.IsRun piece.2)
  (last : ∀ c ∈ after, Clause.isClauseChar c = false)
include cut last

/-- Every gap separates two clauses, or there is a first one with a fault. -/
theorem separates_or_firstFault
    (visibleEnd : ∀ c, after.getLast? = some c → isSpace c = false) :
    (after = [] ∧ ∀ piece ∈ pieces, Combinator.Separates piece.1) ∨
      ∃ reason, Spelling.FirstFault pieces after reason := by
  induction pieces with
  | nil =>
      by_cases none : after = []
      · exact Or.inl ⟨none, by simp⟩
      · rcases Combinator.separates_or_faulty ⟨none, last⟩ (fun _ : true = true => visibleEnd) with
          ⟨inside, -⟩ | ⟨reason, faulty⟩
        · cases inside
        · exact Or.inr ⟨reason, Spelling.FirstFault.atEnd faulty⟩
  | cons piece rest ih =>
      obtain ⟨gap, run⟩ := piece
      rw [List.forall_mem_cons] at cut
      have inside : false = true → ∀ c, gap.getLast? = some c → isSpace c = false := nofun
      rcases Combinator.separates_or_faulty cut.1.1 inside with
        ⟨-, separates⟩ | ⟨reason, faulty⟩
      · rcases ih cut.2 with ⟨none, sound⟩ | ⟨reason, first⟩
        · exact Or.inl ⟨none, List.forall_mem_cons.mpr ⟨separates, sound⟩⟩
        · exact Or.inr ⟨reason, Spelling.FirstFault.later separates first⟩
      · exact Or.inr ⟨reason, Spelling.FirstFault.here faulty⟩

theorem readAfter_of_firstFault (left : Selector) {reason : Reason}
    (first : Spelling.FirstFault pieces after reason) :
    readAfter left (pieces.flatMap (fun piece => piece.1 ++ piece.2) ++ after) =
      .error reason := by
  induction first generalizing left with
  | atEnd faulty =>
      have failed := readAfter_of_faulty left faulty (fun _ => rfl : true = true → [] = [])
      rw [List.append_nil] at failed
      exact failed
  | here faulty =>
      rw [List.flatMap_cons, List.append_assoc, List.append_assoc]
      exact readAfter_of_faulty left faulty nofun
  | later separates first ih =>
      rw [List.forall_mem_cons] at cut
      rw [List.flatMap_cons, List.append_assoc, List.append_assoc,
        readAfter_of_separates left separates cut.1.2 (stopsRun_pieces cut.2 last)]
      exact ih cut.2 last _

end Pieces

theorem readAfter_of_all_separate {pieces : List (List Char × List Char)}
    (runs : ∀ piece ∈ pieces, Clause.IsRun piece.2)
    (separates : ∀ piece ∈ pieces, Combinator.Separates piece.1) (left : Selector) :
    readAfter left (pieces.flatMap (fun piece => piece.1 ++ piece.2)) =
      .ok (left.extend pieces) := by
  induction pieces generalizing left with
  | nil => rw [List.flatMap_nil, readAfter]; rfl
  | cons piece rest ih =>
      rw [List.forall_mem_cons] at runs separates
      have cut : ∀ piece ∈ rest, Combinator.IsGap piece.1 ∧ Clause.IsRun piece.2 :=
        fun piece member => ⟨(separates.2 piece member).isGap, runs.2 piece member⟩
      have stops := stopsRun_pieces cut (by simp : ∀ c ∈ [], Clause.isClauseChar c = false)
      rw [List.append_nil] at stops
      rw [List.flatMap_cons, List.append_assoc, readAfter_of_separates left separates.1 runs.1 stops]
      exact ih runs.2 separates.2 _

/-- A trimmed text that is not empty starts with a `>`, or it is cut into runs and gaps. -/
theorem exists_spelling {text : List Char} (nonempty : text ≠ [])
    (visibleStart : ∀ c, text.head? = some c → isSpace c = false) :
    text.head? = some '>' ∨
      ∃ spelling : Spelling, spelling.text = text ∧ spelling.IsMaximal ∧ spelling.before = [] := by
  obtain ⟨c, tail, rfl⟩ := List.exists_cons_of_ne_nil nonempty
  by_cases child : c = '>'
  · exact Or.inl (congrArg some child)
  · have leads : (c :: tail).head? = some c := rfl
    obtain ⟨run, rest, taken, isRun, stops, -⟩ := read?_of_head? leads (visibleStart c rfl) child
    obtain ⟨pieces, after, rfl, cut, last⟩ := exists_pieces stops
    refine Or.inr ⟨⟨[], run, pieces, after⟩, ?_, ⟨by simp, isRun, cut, last⟩, rfl⟩
    rw [Spelling.text_eq, taken]
    rfl

/-- What is read of a text that starts with a run depends on its gaps alone. -/
theorem read_of_spelling {spelling : Spelling} (isMaximal : spelling.IsMaximal)
    (starts : spelling.before = []) :
    read spelling.text = readAfter ⟨Clause.ofRun spelling.first, []⟩
      (spelling.others.flatMap (fun piece => piece.1 ++ piece.2) ++ spelling.after) := by
  have stops := stopsRun_pieces isMaximal.others isMaximal.after
  have ran := Clause.read?_append isMaximal.first stops
  obtain ⟨c, tail, cut⟩ := List.exists_cons_of_ne_nil isMaximal.first.nonempty
  have notChild : c ≠ '>' :=
    Clause.ne_child_of_isClauseChar (isMaximal.first.chars c (by rw [cut]; exact List.mem_cons_self))
  rw [Spelling.text_eq, starts, List.nil_append]
  rw [cut] at ran ⊢
  rw [read.eq_def]
  split
  · next none => cases none
  · next child =>
    cases child
    exact absurd rfl notChild
  · rw [ran]

theorem exists_read_of_alternates {text : List Char} (alternates : Alternates text) :
    ∃ selector, read text = .ok selector := by
  obtain ⟨spelling, rfl, isMaximal, starts, ends, separates⟩ := alternates
  have runs : ∀ piece ∈ spelling.others, Clause.IsRun piece.2 :=
    fun piece member => (isMaximal.others piece member).2
  have reads := readAfter_of_all_separate runs separates ⟨Clause.ofRun spelling.first, []⟩
  rw [← List.append_nil (List.flatMap _ _), ← ends, ← read_of_spelling isMaximal starts] at reads
  exact ⟨_, reads⟩

theorem read_of_goesWrong {text : List Char} {reason : Reason} (wrong : GoesWrong text reason) :
    read text = .error reason := by
  rcases wrong with ⟨leads, rfl⟩ | ⟨spelling, rfl, isMaximal, starts, first⟩
  · obtain ⟨tail, rfl⟩ := List.head?_eq_some_iff.mp leads
    rfl
  · rw [read_of_spelling isMaximal starts]
    exact readAfter_of_firstFault isMaximal.others isMaximal.after _ first

theorem alternates_or_goesWrong {text : List Char} (nonempty : text ≠ [])
    (visibleStart : ∀ c, text.head? = some c → isSpace c = false)
    (visibleEnd : ∀ c, text.getLast? = some c → isSpace c = false) :
    Alternates text ∨ ∃ reason, GoesWrong text reason := by
  rcases exists_spelling nonempty visibleStart with leads | ⟨spelling, rfl, isMaximal, starts⟩
  · exact Or.inr ⟨_, Or.inl ⟨leads, rfl⟩⟩
  · have afterEnd : ∀ c, spelling.after.getLast? = some c → isSpace c = false := by
      intro c ends
      apply visibleEnd c
      rw [Spelling.text, List.getLast?_append, ends]
      rfl
    rcases separates_or_firstFault isMaximal.others isMaximal.after afterEnd with
      ⟨ends, separates⟩ | ⟨reason, first⟩
    · exact Or.inl ⟨spelling, rfl, isMaximal, starts, ends, separates⟩
    · exact Or.inr ⟨reason, Or.inr ⟨spelling, rfl, isMaximal, starts, first⟩⟩

/-- The gaps of the trimmed text decide: a text is read if it is blank or starts and ends with a clause
and all its gaps separate clauses. Otherwise the text is given back with the reason that its first bad
gap tells. -/
theorem parse_decided_by_gaps (text : String) :
    ((∃ selector, parse text = .ok selector) ↔
      (∀ c ∈ text.toList, isSpace c = true) ∨ Alternates (trim text.toList)) ∧
    ∀ error, parse text = .error error ↔
      error.text = text ∧ GoesWrong (trim text.toList) error.reason := by
  have failed : ∀ reason, GoesWrong (trim text.toList) reason →
      parse text = .error ⟨text, reason⟩ := by
    intro reason wrong
    rw [parse, read_of_goesWrong wrong]
    rfl
  have done : (∀ c ∈ text.toList, isSpace c = true) ∨ Alternates (trim text.toList) →
      ∃ selector, parse text = .ok selector := by
    rintro (blank | alternates)
    · rw [← trim_eq_nil_iff] at blank
      exact ⟨glob, by rw [parse, blank]; rfl⟩
    · obtain ⟨selector, same⟩ := exists_read_of_alternates alternates
      exact ⟨selector, by rw [parse, same]; rfl⟩
  -- One of the two holds of every text, so that each excludes the other outcome.
  have decided : ((∀ c ∈ text.toList, isSpace c = true) ∨ Alternates (trim text.toList)) ∨
      ∃ reason, GoesWrong (trim text.toList) reason := by
    by_cases blank : trim text.toList = []
    · exact Or.inl (Or.inl ((trim_eq_nil_iff text.toList).mp blank))
    · exact (alternates_or_goesWrong blank (fun _ => isSpace_of_head?_trim)
        (fun _ => isSpace_of_getLast?_trim)).imp_left Or.inr
  refine ⟨⟨?_, done⟩, fun error => ⟨?_, ?_⟩⟩
  · rintro ⟨selector, parsed⟩
    refine decided.resolve_right ?_
    rintro ⟨reason, wrong⟩
    rw [failed reason wrong] at parsed
    cases parsed
  · intro refused
    rcases decided with sound | ⟨reason, wrong⟩
    · obtain ⟨selector, parsed⟩ := done sound
      rw [parsed] at refused
      cases refused
    · rw [failed reason wrong] at refused
      cases refused
      exact ⟨rfl, wrong⟩
  · rintro ⟨same, wrong⟩
    rw [failed error.reason wrong, ← same]

/-- A no-break space is white space but no blank. -/
example : parse ".a >\u00a0> .b" = .error ⟨".a >\u00a0> .b", .unrecognizedClause⟩ := by
  decide +kernel

end Selector

end StyledTree
