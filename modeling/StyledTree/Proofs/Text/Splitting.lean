import Mathlib.Data.List.TakeWhile
import StyledTree.Text.Blank

set_option autoImplicit false

namespace StyledTree.Text

theorem segments_eq_splitOn (separator : Char) (text : List Char) :
    segments separator text = text.splitOn separator := by
  induction text with
  | nil => rfl
  | cons c rest ih =>
      rw [segments, List.splitOn_cons_eq_if_modifyHead, ih]
      by_cases same : c = separator
      · simp [same]
      · rw [if_neg same, if_neg (by simpa using same)]
        obtain ⟨segment, others, cut⟩ :=
          List.exists_cons_of_ne_nil (List.splitOn_ne_nil separator rest)
        rw [cut]
        rfl

/-- The pieces are made of the characters of the text other than the separator. -/
theorem mem_of_mem_segments {separator : Char} {text segment : List Char}
    (member : segment ∈ segments separator text) : ∀ c ∈ segment, c ∈ text ∧ c ≠ separator := by
  induction text generalizing segment with
  | nil =>
      rw [segments, List.mem_singleton] at member
      subst member
      intro c inside
      cases inside
  | cons first rest ih =>
      have later : ∀ {segment : List Char}, segment ∈ segments separator rest →
          ∀ c ∈ segment, c ∈ first :: rest ∧ c ≠ separator := by
        intro segment member c inside
        obtain ⟨inRest, other⟩ := ih member c inside
        exact ⟨List.mem_cons_of_mem first inRest, other⟩
      intro c inside
      rw [segments] at member
      by_cases same : first = separator
      · rw [if_pos same] at member
        rcases List.mem_cons.mp member with rfl | inRest
        · cases inside
        · exact later inRest c inside
      · rw [if_neg same] at member
        cases cut : segments separator rest with
        | nil =>
            rw [cut, List.mem_singleton] at member
            subst member
            obtain rfl := List.mem_singleton.mp inside
            exact ⟨List.mem_cons_self, same⟩
        | cons segment others =>
            rw [cut] at member
            rw [cut] at later
            rcases List.mem_cons.mp member with rfl | inOthers
            · rcases List.mem_cons.mp inside with rfl | inSegment
              · exact ⟨List.mem_cons_self, same⟩
              · exact later List.mem_cons_self c inSegment
            · exact later (List.mem_cons_of_mem segment inOthers) c inside

/-- A text is its first piece, and behind the first separator the other pieces. -/
theorem splitOn_eq_takeWhile_cons (separator : Char) (text : List Char) :
    text.splitOn separator =
      text.takeWhile (fun c => c != separator) ::
        ((text.dropWhile (fun c => c != separator)).splitOn separator).tail := by
  have absent : separator ∉ text.takeWhile (fun c => c != separator) := by
    intro member
    simpa using List.mem_takeWhile_imp member
  have whole := List.takeWhile_append_dropWhile (p := fun c => c != separator) (l := text)
  cases stop : text.dropWhile (fun c => c != separator) with
  | nil =>
      rw [stop, List.append_nil] at whole
      rw [whole] at absent ⊢
      rw [List.splitOn_eq_singleton absent, List.splitOn_nil, List.tail_cons]
  | cons c rest =>
      have atSeparator : c = separator := by
        have failed := List.head?_dropWhile_not (fun c => c != separator) text
        rw [stop] at failed
        simpa using failed
      subst atSeparator
      rw [stop] at whole
      have cut := List.splitOn_append_cons_self_of_not_mem absent rest
      rw [whole] at cut
      rw [cut, List.splitOn_cons_eq_if_modifyHead, if_pos (by simp), List.tail_cons]

/-- Characters outside the class do not change what the runs are. -/
theorem runs_append_of_neg {keep : Char → Bool} {gap : List Char}
    (outside : ∀ c ∈ gap, keep c = false) (rest : List Char) :
    runs keep (gap ++ rest) = runs keep rest := by
  induction gap with
  | nil => rfl
  | cons c tail ih =>
      rw [List.forall_mem_cons] at outside
      rw [List.cons_append, runs, outside.1, ih outside.2]
      rfl

/-- Characters of the class up to one outside it are the first run. -/
theorem runs_append_of_pos {keep : Char → Bool} {run : List Char} (nonempty : run ≠ [])
    (inside : ∀ c ∈ run, keep c = true) {rest : List Char}
    (stops : ∀ c, rest.head? = some c → keep c = false) :
    runs keep (run ++ rest) = run :: runs keep rest := by
  have stopped : rest.head?.any keep = false := by
    rw [Option.any_eq_false]
    intro c first
    simpa using stops c first
  induction run with
  | nil => exact absurd rfl nonempty
  | cons c tail ih =>
      rw [List.forall_mem_cons] at inside
      rw [List.cons_append, runs, if_pos inside.1]
      cases tail with
      | nil =>
          rw [List.nil_append, stopped]
          cases runs keep rest <;> rfl
      | cons next others =>
          have joins : ((next :: others) ++ rest).head?.any keep = true :=
            inside.2 next List.mem_cons_self
          rw [joins, ih (List.cons_ne_nil _ _) inside.2]
          rfl

/-- Trimming cuts white space off both ends. -/
theorem exists_trim_eq (text : List Char) :
    ∃ before after, text = before ++ trim text ++ after ∧
      (∀ c ∈ before, isSpace c = true) ∧ ∀ c ∈ after, isSpace c = true := by
  refine ⟨text.takeWhile isSpace,
    ((text.dropWhile isSpace).reverse.takeWhile isSpace).reverse, ?_, ?_, ?_⟩
  · rw [trim, List.append_assoc, ← List.reverse_append, List.takeWhile_append_dropWhile,
      List.reverse_reverse, List.takeWhile_append_dropWhile]
  · exact fun c member => List.mem_takeWhile_imp member
  · intro c member
    rw [List.mem_reverse] at member
    exact List.mem_takeWhile_imp member

theorem trim_eq_nil_iff (text : List Char) :
    trim text = [] ↔ ∀ c ∈ text, isSpace c = true := by
  rw [trim, List.reverse_eq_nil_iff, List.dropWhile_eq_nil_iff]
  simp only [List.mem_reverse]
  constructor
  · intro spaces c member
    rw [← List.takeWhile_append_dropWhile (p := isSpace) (l := text), List.mem_append] at member
    rcases member with front | back
    · exact List.mem_takeWhile_imp front
    · exact spaces c back
  · intro spaces c member
    exact spaces c ((List.dropWhile_suffix isSpace).subset member)

/-- A text that starts and ends with no white space is trimmed already. -/
theorem trim_eq_self {text : List Char} (starts : ∀ c, text.head? = some c → isSpace c = false)
    (ends : ∀ c, text.getLast? = some c → isSpace c = false) : trim text = text := by
  have dropNone : ∀ cut : List Char, (∀ c, cut.head? = some c → isSpace c = false) →
      cut.dropWhile isSpace = cut := by
    intro cut starts
    cases cut with
    | nil => rfl
    | cons c rest => rw [List.dropWhile_cons_of_neg (by simp [starts c rfl])]
  rw [trim, dropNone text starts, dropNone text.reverse ?_, List.reverse_reverse]
  intro c first
  rw [List.head?_reverse] at first
  exact ends c first

/-- A trimmed text starts with no white space. -/
theorem isSpace_of_head?_trim {text : List Char} {c : Char} (starts : (trim text).head? = some c) :
    isSpace c = false := by
  have inFront : (text.dropWhile isSpace).head? = some c := by
    have front : trim text <+: text.dropWhile isSpace := by
      rw [trim, ← List.reverse_suffix, List.reverse_reverse]
      exact List.dropWhile_suffix isSpace
    obtain ⟨rest, same⟩ := List.head?_eq_some_iff.mp starts
    obtain ⟨tail, whole⟩ := front
    rw [← whole, same]
    rfl
  have failed := List.head?_dropWhile_not isSpace text
  rw [inFront] at failed
  simpa using failed

/-- A trimmed text ends with no white space. -/
theorem isSpace_of_getLast?_trim {text : List Char} {c : Char}
    (ends : (trim text).getLast? = some c) : isSpace c = false := by
  rw [trim, List.getLast?_reverse] at ends
  have failed := List.head?_dropWhile_not isSpace (text.dropWhile isSpace).reverse
  rw [ends] at failed
  simpa using failed

theorem trim_trim (text : List Char) : trim (trim text) = trim text :=
  trim_eq_self (fun _ => isSpace_of_head?_trim) (fun _ => isSpace_of_getLast?_trim)

/-- The words of a text from left to right: white space stands around each of them and in none. -/
inductive CutsInto : List Char → List (List Char) → Prop where
  | spaces {text : List Char} (spaces : ∀ c ∈ text, isSpace c = true) : CutsInto text []
  | word {gap word rest : List Char} {others : List (List Char)}
    (spaces : ∀ c ∈ gap, isSpace c = true) (nonempty : word ≠ [])
    (chars : ∀ c ∈ word, isSpace c = false) (stops : ∀ c, rest.head? = some c → isSpace c = true)
    (further : CutsInto rest others) : CutsInto (gap ++ (word ++ rest)) (word :: others)

theorem words_of_cutsInto {text : List Char} {cut : List (List Char)} (cuts : CutsInto text cut) :
    words text = cut := by
  induction cuts with
  | @spaces text spaces =>
      have outside : ∀ c ∈ text, (!isSpace c) = false := fun c member => by simp [spaces c member]
      rw [words, ← List.append_nil text, runs_append_of_neg outside]
      rfl
  | @word gap word rest others spaces nonempty chars stops _ ih =>
      have outside : ∀ c ∈ gap, (!isSpace c) = false := fun c member => by simp [spaces c member]
      have inside : ∀ c ∈ word, (!isSpace c) = true := fun c member => by simp [chars c member]
      have stopped : ∀ c, rest.head? = some c → (!isSpace c) = false :=
        fun c first => by simp [stops c first]
      rw [words, runs_append_of_neg outside, runs_append_of_pos nonempty inside stopped]
      exact congrArg (word :: ·) ih

theorem exists_cutsInto (text : List Char) : ∃ cut, CutsInto text cut := by
  induction shorter : text.length using Nat.strongRecOn generalizing text with
  | ind length ih =>
      have whole := List.takeWhile_append_dropWhile (p := isSpace) (l := text)
      have gap : ∀ c ∈ text.takeWhile isSpace, isSpace c = true :=
        fun c member => List.mem_takeWhile_imp member
      cases visible : text.dropWhile isSpace with
      | nil =>
          rw [visible, List.append_nil] at whole
          exact ⟨[], CutsInto.spaces (whole ▸ gap)⟩
      | cons first tail =>
          have starts := List.head?_dropWhile_not isSpace text
          rw [visible] at starts
          let isVisible : Char → Bool := fun c => !isSpace c
          have cut := List.takeWhile_append_dropWhile (p := isVisible) (l := tail)
          have stops : ∀ c, (tail.dropWhile isVisible).head? = some c → isSpace c = true := by
            intro c head
            have failed := List.head?_dropWhile_not isVisible tail
            rw [head] at failed
            simpa [isVisible] using failed
          have smaller : (tail.dropWhile isVisible).length < length := by
            have bound := (List.dropWhile_suffix isVisible (l := tail)).length_le
            have total := congrArg List.length whole
            rw [visible, List.length_append, List.length_cons] at total
            omega
          obtain ⟨others, further⟩ := ih _ smaller _ rfl
          refine ⟨(first :: tail.takeWhile isVisible) :: others, ?_⟩
          have here := CutsInto.word gap (List.cons_ne_nil first (tail.takeWhile isVisible)) ?_ stops
            further
          · rwa [List.cons_append, cut, ← visible, whole] at here
          · rw [List.forall_mem_cons]
            refine ⟨starts, fun c member => ?_⟩
            simpa [isVisible] using List.mem_takeWhile_imp member

/-- A text is cut in one way, into its words. -/
theorem cutsInto_iff {text : List Char} {cut : List (List Char)} :
    CutsInto text cut ↔ cut = words text := by
  refine ⟨fun cuts => (words_of_cutsInto cuts).symm, ?_⟩
  rintro rfl
  obtain ⟨cut, cuts⟩ := exists_cutsInto text
  rwa [words_of_cutsInto cuts]

theorem CutsInto.isWord {text : List Char} {cut : List (List Char)} (cuts : CutsInto text cut) :
    ∀ word ∈ cut, word ≠ [] ∧ ∀ c ∈ word, isSpace c = false := by
  induction cuts with
  | spaces _ => exact fun _ member => absurd member List.not_mem_nil
  | word _ nonempty chars _ _ ih =>
      rw [List.forall_mem_cons]
      exact ⟨⟨nonempty, chars⟩, ih⟩

end StyledTree.Text
