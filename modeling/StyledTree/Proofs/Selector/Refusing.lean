import Mathlib.Data.List.Chain
import StyledTree.Proofs.Selector.Writing

set_option autoImplicit false

namespace StyledTree

open Text

def Text.visible (text : List Char) : List Char := text.filter (fun c => !isSpace c)

/-- White space that does not separate clauses. -/
def Text.IsForeign (c : Char) : Prop := isSpace c = true ∧ isBlank c = false

/-- What is wrong with a gap; the text may end with it. -/
inductive Combinator.Faulty (ends : Bool) : List Char → Selector.Reason → Prop where
  | doubled {before between rest : List Char} (left : ∀ c ∈ before, isBlank c = true)
      (right : ∀ c ∈ between, isBlank c = true) :
      Combinator.Faulty ends (before ++ '>' :: (between ++ '>' :: rest)) .nothingBeforeChild
  | trailing {before : List Char} (left : ∀ c ∈ before, isBlank c = true) (atEnd : ends = true) :
      Combinator.Faulty ends (before ++ ['>']) .nothingAfterChild
  | foreign {c : Char} {rest : List Char} (foreign : IsForeign c) :
      Combinator.Faulty ends (c :: rest) .missingCombinator
  | foreignBehind {separator : List Char} {c : Char} {rest : List Char}
      (separates : Combinator.Separates separator) (foreign : IsForeign c) :
      Combinator.Faulty ends (separator ++ c :: rest) .unrecognizedClause

namespace Selector

/-- A `>` has no clause before it or no clause after it: it leads, it trails or it is doubled, whatever
white space stands around it. -/
def StrandsChild (text : List Char) : Prop :=
  (visible text).head? = some '>' ∨ (visible text).getLast? = some '>' ∨
    ∃ before after, visible text = before ++ '>' :: '>' :: after

/-- Inside the text, between its first and its last visible character, stands white space that is no
blank. -/
def HasForeignSpace (text : List Char) : Prop := ∃ c ∈ trim text, IsForeign c

end Selector

/-! Visible characters. -/

namespace Text

@[simp] theorem visible_append (first second : List Char) :
    visible (first ++ second) = visible first ++ visible second :=
  List.filter_append ..

theorem visible_of_spaces {text : List Char} (spaces : ∀ c ∈ text, isSpace c = true) :
    visible text = [] := by
  rw [visible, List.filter_eq_nil_iff]
  intro c member
  simp [spaces c member]

theorem visible_of_blanks {text : List Char} (blanks : ∀ c ∈ text, isBlank c = true) :
    visible text = [] :=
  visible_of_spaces (fun c member => isSpace_of_isBlank (blanks c member))

theorem visible_child_cons (rest : List Char) : visible ('>' :: rest) = '>' :: visible rest := rfl

/-- White space at the ends is not visible. -/
theorem visible_trim (text : List Char) : visible (trim text) = visible text := by
  obtain ⟨before, after, whole, front, back⟩ := exists_trim_eq text
  calc visible (trim text)
      = visible before ++ visible (trim text) ++ visible after := by
        rw [visible_of_spaces front, visible_of_spaces back, List.nil_append, List.append_nil]
    _ = visible text := by rw [← visible_append, ← visible_append, ← whole]

end Text

namespace Clause

theorem isSpace_of_isClauseChar {c : Char} (inClause : isClauseChar c = true) :
    isSpace c = false := by
  rw [isClauseChar, Bool.and_eq_true] at inClause
  simpa using inClause.1

theorem ne_child_of_isClauseChar {c : Char} (inClause : isClauseChar c = true) : c ≠ '>' := by
  rintro rfl
  exact absurd inClause (by decide)

/-- A character outside of clauses is a `>` or white space. -/
theorem isForeign_of_not_isClauseChar {c : Char} (outside : isClauseChar c = false)
    (notChild : c ≠ '>') (notBlank : isBlank c = false) : IsForeign c := by
  refine ⟨?_, notBlank⟩
  simpa [isClauseChar, notChild] using outside

theorem IsRun.visible {run : List Char} (isRun : IsRun run) : visible run = run := by
  rw [Text.visible, List.filter_eq_self]
  intro c member
  simp [isSpace_of_isClauseChar (isRun.chars c member)]

theorem IsRun.not_isForeign {run : List Char} (isRun : IsRun run) : ∀ c ∈ run, ¬ IsForeign c := by
  intro c member foreign
  have shown := isSpace_of_isClauseChar (isRun.chars c member)
  rw [foreign.1] at shown
  cases shown

end Clause

namespace Combinator

theorem Separates.not_isForeign {gap : List Char} (separates : Separates gap) :
    ∀ c ∈ gap, ¬ IsForeign c := by
  rintro c member ⟨space, notBlank⟩
  rcases separates.isBlank_or_child c member with blank | rfl
  · rw [blank] at notBlank
    cases notBlank
  · exact absurd space (by decide)

theorem Separates.visible {gap : List Char} (separates : Separates gap) :
    visible gap = [] ∨ visible gap = ['>'] := by
  cases separates with
  | blanks _ blank => exact Or.inl (visible_of_blanks blank)
  | child left right =>
      refine Or.inr ?_
      rw [visible_append, visible_of_blanks left, visible_child_cons, visible_of_blanks right]
      rfl

/-- Where no combinator is read, the text starts with what is neither a blank nor a `>`. -/
theorem read?_eq_none {c : Char} {rest : List Char} (failed : read? (c :: rest) = none) :
    isBlank c = false ∧ c ≠ '>' := by
  rw [read?.eq_def] at failed
  split at failed
  · cases failed
  · next notChild =>
    have notBlank : isBlank c = false := by
      by_contra blank
      rw [Bool.not_eq_false] at blank
      simp [blank] at failed
    refine ⟨notBlank, ?_⟩
    rintro rfl
    rw [List.dropWhile_cons_of_neg (by simp [notBlank])] at notChild
    exact notChild rest rfl

end Combinator

namespace Selector

def StopsRun (text : List Char) : Prop :=
  ∀ c, text.head? = some c → Clause.isClauseChar c = false

theorem stopsRun_of_read? {text rest : List Char} {clause : Clause}
    (ran : Clause.read? text = some (clause, rest)) : StopsRun rest := by
  intro c starts
  cases text with
  | nil => cases ran
  | cons first tail =>
      rw [Clause.read?] at ran
      split at ran
      · cases ran
        have failed := List.head?_dropWhile_not Clause.isClauseChar tail
        rw [starts] at failed
        simpa using failed
      · cases ran

/-- At the end of a text that does not end in white space no clause is separated from another. -/
theorem faulty_of_separates {gap : List Char} (separates : Combinator.Separates gap)
    (visibleEnd : ∀ c, gap.getLast? = some c → isSpace c = false) :
    Combinator.Faulty true gap .nothingAfterChild := by
  have noBlankEnd : ∀ {front back : List Char}, gap = front ++ back →
      (∀ c ∈ back, isBlank c = true) → back = [] := by
    intro front back cut blank
    by_contra nonempty
    have last := List.getLast?_eq_some_getLast nonempty
    have shown := visibleEnd _ (by rw [cut, List.getLast?_append_of_ne_nil _ nonempty, last])
    rw [isSpace_of_isBlank (blank _ (List.getLast_mem nonempty))] at shown
    cases shown
  cases separates with
  | blanks nonempty blank => exact absurd (noBlankEnd (List.nil_append gap).symm blank) nonempty
  | @child before after left right =>
      obtain rfl := noBlankEnd (List.append_cons before '>' after) right
      exact Combinator.Faulty.trailing left rfl

/-- One step of the reader behind a run: the text is at its end, a separator and a run come off it, or
its first gap has a fault. -/
theorem readAfter_step (left : Selector) {text : List Char} (stops : StopsRun text)
    (visibleEnd : ∀ c, text.getLast? = some c → isSpace c = false) :
    (text = [] ∧ readAfter left text = .ok left) ∨
      (∃ gap run rest, text = gap ++ (run ++ rest) ∧ Combinator.Separates gap ∧ Clause.IsRun run ∧
        StopsRun rest ∧ readAfter left text =
          readAfter (left.followedBy (Combinator.ofGap gap) (Clause.ofRun run)) rest) ∨
      ∃ reason, Combinator.Faulty true text reason ∧ readAfter left text = .error reason := by
  rw [readAfter.eq_def left text]
  split
  · exact Or.inl ⟨rfl, rfl⟩
  · next c tail =>
    refine Or.inr ?_
    split
    · next failed =>
      obtain ⟨notBlank, notChild⟩ := Combinator.read?_eq_none failed
      have foreign := Clause.isForeign_of_not_isClauseChar (stops c rfl) notChild notBlank
      exact Or.inr ⟨_, Combinator.Faulty.foreign foreign, rfl⟩
    · next combinator gapped =>
      obtain ⟨gap, cut, separates, -⟩ := Combinator.separates_of_read? gapped
      rw [List.append_nil] at cut
      rw [cut] at visibleEnd ⊢
      exact Or.inr ⟨_, faulty_of_separates separates visibleEnd, rfl⟩
    · next combinator rest gapped =>
      obtain ⟨gap, cut, separates, isGap, -, isChild⟩ := Combinator.separates_of_read? gapped
      rw [isChild rfl] at isGap
      rw [cut]
      cases separates with
      | blanks _ blank =>
          have absent : '>' ∉ gap := by
            intro member
            exact absurd (blank '>' member) (by decide)
          rw [Combinator.ofGap, if_neg absent] at isGap
          cases isGap
      | child left right =>
          rw [List.append_assoc, List.cons_append]
          exact Or.inr ⟨_, Combinator.Faulty.doubled left right, rfl⟩
    · next combinator after more notChild gapped =>
      obtain ⟨gap, cut, separates, rfl, visible, -⟩ := Combinator.separates_of_read? gapped
      split
      · next failed =>
        cases after with
        | nil => exact absurd rfl more
        | cons d rest =>
            have outside : Clause.isClauseChar d = false := by
              by_contra inClause
              rw [Bool.not_eq_false] at inClause
              simp [Clause.read?, inClause] at failed
            have foreign := Clause.isForeign_of_not_isClauseChar outside
              (fun child => notChild rest (by rw [child])) (visible d rfl)
            rw [cut]
            exact Or.inr ⟨_, Combinator.Faulty.foreignBehind separates foreign, rfl⟩
      · next clause rest ran =>
        obtain ⟨run, taken, isRun, rfl⟩ := Clause.read?_eq_some ran
        refine Or.inl ⟨gap, run, rest, ?_, separates, isRun, stopsRun_of_read? ran, rfl⟩
        rw [cut, taken]

def NotDoubled (left right : Char) : Prop := left = '>' → right ≠ '>'

/-- Behind a run, what is visible neither ends in a `>` nor doubles one. -/
structure EndsClauses (text : List Char) : Prop where
  notTrailing : (visible text).getLast? ≠ some '>'
  notDoubled : List.IsChain NotDoubled (visible text)

theorem isChain_notDoubled_iff (text : List Char) :
    List.IsChain NotDoubled text ↔ ¬ ∃ before after, text = before ++ '>' :: '>' :: after := by
  rw [List.isChain_iff_forall_rel_of_append_cons_cons]
  constructor
  · rintro apart ⟨before, after, doubled⟩
    exact apart doubled rfl rfl
  · rintro single left right before after cut rfl rfl
    exact single ⟨before, after, cut⟩

/-- A run can stand in front of what is visible without any change at the end. -/
theorem getLast?_run_append {run : List Char} (isRun : Clause.IsRun run) (rest : List Char) :
    (run ++ rest).getLast? = some '>' ↔ rest.getLast? = some '>' := by
  rw [List.getLast?_append]
  cases ends : rest.getLast? with
  | some c => simp
  | none =>
      rw [Option.none_or]
      constructor
      · intro child
        have inRun := isRun.chars '>' (List.mem_of_getLast? child)
        exact absurd inRun (by decide)
      · intro child
        cases child

theorem isChain_run_append {run : List Char} (isRun : Clause.IsRun run) (rest : List Char) :
    List.IsChain NotDoubled (run ++ rest) ↔ List.IsChain NotDoubled rest := by
  have noChild : ∀ c ∈ run, c ≠ '>' :=
    fun c member => Clause.ne_child_of_isClauseChar (isRun.chars c member)
  have alone : List.IsChain NotDoubled run := by
    rw [isChain_notDoubled_iff]
    rintro ⟨before, after, rfl⟩
    exact noChild '>' (by simp) rfl
  rw [List.isChain_append]
  constructor
  · exact fun chain => chain.2.1
  · intro chain
    refine ⟨alone, chain, ?_⟩
    intro c ends d _ child
    exact absurd child (noChild c (List.mem_of_getLast? ends))

theorem endsClauses_run_append {run : List Char} (isRun : Clause.IsRun run) (rest : List Char) :
    EndsClauses (run ++ rest) ↔ EndsClauses rest := by
  have shown : visible (run ++ rest) = run ++ visible rest := by
    rw [visible_append, isRun.visible]
  have ends := getLast?_run_append isRun (visible rest)
  have chain := isChain_run_append isRun (visible rest)
  rw [← shown] at ends chain
  constructor
  · rintro ⟨notTrailing, notDoubled⟩
    exact ⟨fun trailing => notTrailing (ends.mpr trailing), chain.mp notDoubled⟩
  · rintro ⟨notTrailing, notDoubled⟩
    exact ⟨fun trailing => notTrailing (ends.mp trailing), chain.mpr notDoubled⟩

/-- A separator in front of a run leaves open what the end of the text is like. -/
theorem endsClauses_gap_append {gap run : List Char} (separates : Combinator.Separates gap)
    (isRun : Clause.IsRun run) (rest : List Char) :
    EndsClauses (gap ++ (run ++ rest)) ↔ EndsClauses (run ++ rest) := by
  obtain ⟨first, others, cut⟩ := List.exists_cons_of_ne_nil isRun.nonempty
  have notChild : first ≠ '>' :=
    Clause.ne_child_of_isClauseChar (isRun.chars first (by rw [cut]; exact List.mem_cons_self))
  have shown : visible (run ++ rest) = first :: (others ++ visible rest) := by
    rw [visible_append, isRun.visible, cut, List.cons_append]
  rcases separates.visible with none | child
  · have same : visible (gap ++ (run ++ rest)) = visible (run ++ rest) := by
      rw [visible_append, none, List.nil_append]
    constructor
    · rintro ⟨notTrailing, notDoubled⟩
      exact ⟨same ▸ notTrailing, same ▸ notDoubled⟩
    · rintro ⟨notTrailing, notDoubled⟩
      exact ⟨same ▸ notTrailing, same ▸ notDoubled⟩
  · have longer : visible (gap ++ (run ++ rest)) = '>' :: visible (run ++ rest) := by
      rw [visible_append, child, List.singleton_append]
    have ends : (visible (gap ++ (run ++ rest))).getLast? = (visible (run ++ rest)).getLast? := by
      rw [longer, shown, List.getLast?_cons_cons]
    have chain : List.IsChain NotDoubled (visible (gap ++ (run ++ rest))) ↔
        List.IsChain NotDoubled (visible (run ++ rest)) := by
      rw [longer, shown, List.isChain_cons_cons]
      exact and_iff_right (fun _ => notChild)
    constructor
    · rintro ⟨notTrailing, notDoubled⟩
      exact ⟨ends ▸ notTrailing, chain.mp notDoubled⟩
    · rintro ⟨notTrailing, notDoubled⟩
      exact ⟨ends ▸ notTrailing, chain.mpr notDoubled⟩

theorem exists_isForeign_append {front : List Char} (none : ∀ c ∈ front, ¬ IsForeign c)
    (rest : List Char) : (∃ c ∈ front ++ rest, IsForeign c) ↔ ∃ c ∈ rest, IsForeign c := by
  constructor
  · rintro ⟨c, member, foreign⟩
    rcases List.mem_append.mp member with inFront | inRest
    · exact absurd foreign (none c inFront)
    · exact ⟨c, inRest, foreign⟩
  · rintro ⟨c, member, foreign⟩
    exact ⟨c, List.mem_append_right _ member, foreign⟩

/-- A fault of a gap is foreign white space in it, or a `>` that trails or is doubled. -/
theorem foreign_or_not_endsClauses {ends : Bool} {gap : List Char} {reason : Reason}
    (faulty : Combinator.Faulty ends gap reason) :
    (∃ c ∈ gap, IsForeign c) ∨ ¬ EndsClauses gap := by
  cases faulty with
  | @doubled before between rest left right =>
      refine Or.inr ?_
      rintro ⟨-, notDoubled⟩
      rw [isChain_notDoubled_iff] at notDoubled
      refine notDoubled ⟨[], visible rest, ?_⟩
      rw [visible_append, visible_of_blanks left, visible_child_cons, visible_append,
        visible_of_blanks right, visible_child_cons]
      rfl
  | trailing left =>
      refine Or.inr ?_
      rintro ⟨notTrailing, -⟩
      rw [visible_append, visible_of_blanks left] at notTrailing
      exact notTrailing rfl
  | @foreign c rest foreign => exact Or.inl ⟨c, List.mem_cons_self, foreign⟩
  | @foreignBehind separator c rest separates foreign => exact Or.inl ⟨c, by simp, foreign⟩

/-- Behind a run, the reader fails just on foreign white space and on a `>` out of place. -/
theorem readAfter_fails_iff {left : Selector} {text : List Char} (stops : StopsRun text)
    (visibleEnd : ∀ c, text.getLast? = some c → isSpace c = false) :
    (∃ reason, readAfter left text = .error reason) ↔
      (∃ c ∈ text, IsForeign c) ∨ ¬ EndsClauses text := by
  induction size : text.length using Nat.strongRecOn generalizing left text with
  | ind length ih =>
      rcases readAfter_step left stops visibleEnd with
        ⟨rfl, done⟩ | ⟨gap, run, rest, rfl, separates, isRun, restStops, step⟩ |
          ⟨reason, faulty, failed⟩
      · have ends : EndsClauses [] := ⟨by simp [visible], by simp [visible]⟩
        simp [done, ends]
      · have shorter : rest.length < length := by
          have taken := List.length_pos_iff.mpr isRun.nonempty
          rw [List.length_append, List.length_append] at size
          omega
        have restEnd : ∀ c, rest.getLast? = some c → isSpace c = false := by
          intro c ends
          apply visibleEnd c
          rw [List.getLast?_append, List.getLast?_append, ends]
          rfl
        rw [step, ih rest.length shorter restStops restEnd rfl,
          exists_isForeign_append separates.not_isForeign,
          exists_isForeign_append isRun.not_isForeign, endsClauses_gap_append separates isRun,
          endsClauses_run_append isRun]
      · constructor
        · exact fun _ => foreign_or_not_endsClauses faulty
        · exact fun _ => ⟨reason, failed⟩

/-- A trimmed text that is neither empty nor starts with a `>` starts with a run. -/
theorem read?_of_head? {text : List Char} {c : Char} (starts : text.head? = some c)
    (visible : isSpace c = false) (notChild : c ≠ '>') :
    ∃ run rest, text = run ++ rest ∧ Clause.IsRun run ∧ StopsRun rest ∧
      Clause.read? text = some (Clause.ofRun run, rest) := by
  obtain ⟨tail, rfl⟩ := List.head?_eq_some_iff.mp starts
  have inClause : Clause.isClauseChar c = true := by simp [Clause.isClauseChar, visible, notChild]
  have ran : Clause.read? (c :: tail) = some (Clause.ofRun (c :: tail.takeWhile Clause.isClauseChar),
      tail.dropWhile Clause.isClauseChar) := by
    rw [Clause.read?, if_pos inClause]
  obtain ⟨run, whole, isRun, same⟩ := Clause.read?_eq_some ran
  refine ⟨run, _, whole, isRun, stopsRun_of_read? ran, ?_⟩
  rw [ran, same]

theorem strandsChild_iff (text : List Char) :
    StrandsChild text ↔ (visible text).head? = some '>' ∨ ¬ EndsClauses text := by
  have ends : EndsClauses text ↔ (visible text).getLast? ≠ some '>' ∧
      ¬ ∃ before after, visible text = before ++ '>' :: '>' :: after := by
    rw [← isChain_notDoubled_iff]
    exact ⟨fun ends => ⟨ends.1, ends.2⟩, fun ends => ⟨ends.1, ends.2⟩⟩
  rw [StrandsChild, ends, not_and_or, not_not, not_not]

/-- Reading a trimmed text fails just on foreign white space and on a `>` out of place. -/
theorem read_fails_iff {text : List Char}
    (visibleStart : ∀ c, text.head? = some c → isSpace c = false)
    (visibleEnd : ∀ c, text.getLast? = some c → isSpace c = false) :
    (∃ reason, read text = .error reason) ↔
      StrandsChild text ∨ ∃ c ∈ text, IsForeign c := by
  rw [strandsChild_iff, read.eq_def]
  split
  · have ends : EndsClauses [] := ⟨by simp [visible], by simp [visible]⟩
    simp [ends, visible]
  · next rest =>
    rw [visible_child_cons]
    simp
  · next notEmpty notChild =>
    obtain ⟨c, tail, whole⟩ := List.exists_cons_of_ne_nil notEmpty
    have starts : text.head? = some c := by rw [whole]; rfl
    obtain ⟨run, rest, rfl, isRun, stops, ran⟩ := read?_of_head? starts (visibleStart c starts)
      (fun child => notChild tail (by rw [whole, child]))
    have shown : (visible (run ++ rest)).head? ≠ some '>' := by
      rw [visible_append, isRun.visible, List.head?_append_of_ne_nil _ isRun.nonempty]
      intro child
      exact absurd (isRun.chars '>' (List.mem_of_head? child)) (by decide)
    have restEnd : ∀ c, rest.getLast? = some c → isSpace c = false := by
      intro c ends
      apply visibleEnd c
      rw [List.getLast?_append, ends]
      rfl
    simp only [ran]
    rw [readAfter_fails_iff stops restEnd, exists_isForeign_append isRun.not_isForeign,
      endsClauses_run_append isRun, or_iff_right shown, or_comm]

/-- A text is refused just when a `>` in it has no clause before it or none after it, or when white
space that is no blank stands inside it. -/
theorem parse_fails_iff (text : String) :
    (∃ error, parse text = .error error) ↔
      StrandsChild text.toList ∨ HasForeignSpace text.toList := by
  have same : StrandsChild (trim text.toList) ↔ StrandsChild text.toList := by
    rw [StrandsChild, StrandsChild, visible_trim]
  have outcome : (∃ error, parse text = .error error) ↔
      ∃ reason, read (trim text.toList) = .error reason := by
    rw [parse]
    cases read (trim text.toList) with
    | error reason => exact ⟨fun _ => ⟨reason, rfl⟩, fun _ => ⟨⟨text, reason⟩, rfl⟩⟩
    | ok selector =>
        constructor
        · rintro ⟨_, failed⟩
          cases failed
        · rintro ⟨_, failed⟩
          cases failed
  rw [outcome, read_fails_iff (fun _ => isSpace_of_head?_trim) (fun _ => isSpace_of_getLast?_trim),
    same, HasForeignSpace]

def noBreakText : String := ".a\u00a0.b"

/-- No `>` is out of place in the text, and it is refused all the same. -/
theorem noBreakText_refused :
    parse noBreakText = .error ⟨noBreakText, .missingCombinator⟩ ∧
      ¬ StrandsChild noBreakText.toList := by
  have plain : visible noBreakText.toList = ".a.b".toList := by decide +kernel
  refine ⟨by decide +kernel, ?_⟩
  rw [StrandsChild, plain]
  rintro (leads | trails | ⟨before, after, doubled⟩)
  · exact absurd leads (by decide)
  · exact absurd trails (by decide)
  · have child : '>' ∈ ".a.b".toList := by rw [doubled]; simp
    exact absurd child (by decide)

end Selector

end StyledTree
