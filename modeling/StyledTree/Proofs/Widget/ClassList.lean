import Mathlib.Data.List.Induction
import Mathlib.Data.List.Nodup
import StyledTree.Session.Inspect
import StyledTree.Proofs.Text.Splitting

set_option autoImplicit false

namespace StyledTree.Node

theorem className_className (text : String) : className (className text) = className text := by
  rw [className, className, String.toList_ofList, Text.trim_trim]

theorem className_eq_empty_iff (text : String) :
    className text = "" ↔ ∀ c ∈ text.toList, Text.isSpace c = true := by
  rw [className, String.ofList_eq_empty_iff, Text.trim_eq_nil_iff]

/-- A text without white space is the name of a class as it is. -/
theorem className_ofList {word : List Char} (chars : ∀ c ∈ word, Text.isSpace c = false) :
    className (String.ofList word) = String.ofList word := by
  rw [className, String.toList_ofList, Text.trim_eq_self]
  · exact fun c first => chars c (List.mem_of_head? first)
  · exact fun c last => chars c (List.mem_of_getLast? last)

/-- A class as it is stored has no white space at its ends. -/
theorem isSpace_of_className_eq {name : String} (trimmed : className name = name) {c : Char}
    (atEnd : name.toList.head? = some c ∨ name.toList.getLast? = some c) :
    Text.isSpace c = false := by
  have same : Text.trim name.toList = name.toList := by
    rw [← trimmed, className, String.toList_ofList, Text.trim_trim]
  rw [← same] at atEnd
  exact atEnd.elim Text.isSpace_of_head?_trim Text.isSpace_of_getLast?_trim

theorem hasClass_eq_true_iff (node : Node) (name : String) :
    node.hasClass name = true ↔ node.kind.hasClassList = true ∧ name ∈ node.classes := by
  rw [hasClass, Bool.and_eq_true, List.contains_iff_mem]

def withClasses (node : Node) (classes : List String) : Node := { node with classes := classes }

@[simp] theorem classes_withClasses (node : Node) (classes : List String) :
    (node.withClasses classes).classes = classes := rfl

@[simp] theorem withClasses_self (node : Node) : node.withClasses node.classes = node := rfl

/-- The widget carries classes, and the text names one that it does not have yet. -/
structure TakesIn (node : Node) (text : String) : Prop where
  carries : node.kind.hasClassList = true
  named : className text ≠ ""
  absent : className text ∉ node.classes

theorem addClass_of_takesIn {node : Node} {text : String} (takesIn : node.TakesIn text) :
    node.addClass text = (true, node.withClasses (node.classes ++ [className text])) := by
  obtain ⟨carries, named, absent⟩ := takesIn
  have taken : ((className text).isEmpty || !node.kind.hasClassList ||
      node.hasClass (className text)) = false := by
    simp [hasClass, carries, named, absent]
  simp only [addClass, taken]
  rfl

theorem addClass_of_not_takesIn {node : Node} {text : String} (refused : ¬node.TakesIn text) :
    node.addClass text = (false, node) := by
  have taken : ((className text).isEmpty || !node.kind.hasClassList ||
      node.hasClass (className text)) = true := by
    by_contra none
    simp only [Bool.or_eq_true, String.isEmpty_iff, Bool.not_eq_true', hasClass_eq_true_iff, not_or,
      not_and, Bool.not_eq_false] at none
    exact refused ⟨none.1.2, none.1.1, none.2 none.1.2⟩
  simp only [addClass, taken]
  rfl

theorem removeClass_eq (node : Node) (name : String) :
    node.removeClass name = (node.classes.contains name,
      node.withClasses (node.classes.filter (fun other => other != name))) :=
  rfl

/-- The very text that is toggled is in the list: it is removed as it stands. -/
theorem toggleClass_of_mem {node : Node} {text : String} (there : text ∈ node.classes) :
    node.toggleClass text =
      (false, node.withClasses (node.classes.filter (fun other => other != text))) := by
  have removed : (node.removeClass text).1 = true := List.contains_iff_mem.mpr there
  simp only [toggleClass]
  rw [if_pos removed]
  rfl

/-- It is not: the class that it names is added. -/
theorem toggleClass_of_not_mem {node : Node} {text : String} (absent : text ∉ node.classes) :
    node.toggleClass text = node.addClass text := by
  have kept : (node.removeClass text).1 = false := by
    rw [removeClass_eq, List.contains_eq_mem, decide_eq_false_iff_not]
    exact absent
  simp only [toggleClass]
  rw [if_neg (Bool.eq_false_iff.mp kept)]

/-- One more text at the end of a list adds to it unless the list has it already. -/
theorem eraseDups_concat (names : List String) (name : String) :
    (names ++ [name]).eraseDups =
      if name ∈ names then names.eraseDups else names.eraseDups ++ [name] := by
  rw [List.eraseDups_append, List.removeAll, List.filter_singleton, List.elem_eq_mem]
  by_cases there : name ∈ names
  · simp only [there, decide_true, Bool.not_true, Bool.cond_false, List.eraseDups_nil,
      List.append_nil, ↓reduceIte]
  · simp only [there, decide_false, Bool.not_false, Bool.cond_true, List.eraseDups_cons,
      List.filter_nil, List.eraseDups_nil, ↓reduceIte]

/-- Adding words to an empty list leaves each of them once, where it stands first. -/
theorem addClasses_eq {node : Node} (carries : node.kind.hasClassList = true)
    {words : List (List Char)}
    (isWord : ∀ word ∈ words, word ≠ [] ∧ ∀ c ∈ word, Text.isSpace c = false) :
    words.foldl (fun made word => (made.addClass (String.ofList word)).2) (node.withClasses []) =
      node.withClasses (words.map String.ofList).eraseDups := by
  -- From the right, since the last word is added to what the words before it have left.
  induction words using List.reverseRecOn with
  | nil => rfl
  | append_singleton words last ih =>
      rw [List.forall_mem_append, List.forall_mem_singleton] at isWord
      obtain ⟨before, nonempty, chars⟩ := isWord
      have name := className_ofList chars
      rw [List.foldl_append, ih before, List.foldl_cons, List.foldl_nil, List.map_append,
        List.map_singleton, eraseDups_concat]
      by_cases there : String.ofList last ∈ words.map String.ofList
      · have refused : ¬(node.withClasses (words.map String.ofList).eraseDups).TakesIn
            (String.ofList last) := by
          intro takesIn
          apply takesIn.absent
          rw [name]
          exact List.mem_eraseDups.mpr there
        rw [addClass_of_not_takesIn refused, if_pos there]
      · have takesIn : (node.withClasses (words.map String.ofList).eraseDups).TakesIn
            (String.ofList last) := by
          refine ⟨carries, ?_, ?_⟩
          · rwa [name, Ne, String.ofList_eq_empty_iff]
          · rw [name]
            exact fun member => there (List.mem_eraseDups.mp member)
        rw [addClass_of_takesIn takesIn, name, if_neg there]
        rfl

theorem setClasses_eq {node : Node} (carries : node.kind.hasClassList = true) (text : String) :
    node.setClasses text =
      node.withClasses ((Text.words text.toList).map String.ofList).eraseDups :=
  addClasses_eq carries (Text.cutsInto_iff.mpr rfl).isWord

structure HasSoundClasses (node : Node) : Prop where
  hasClassList : node.classes ≠ [] → node.kind.hasClassList = true
  nonempty : ∀ name ∈ node.classes, name.toList ≠ []
  trimmed : ∀ name ∈ node.classes, className name = name
  nodup : node.classes.Nodup

namespace HasSoundClasses

variable {node : Node}

theorem of_nil (empty : node.classes = []) : node.HasSoundClasses := by
  rw [← node.withClasses_self, empty]
  exact ⟨fun some => absurd rfl some, fun _ member => absurd member List.not_mem_nil,
    fun _ member => absurd member List.not_mem_nil, List.nodup_nil⟩

theorem of_eq {other : Node} (sound : node.HasSoundClasses) (kind : other.kind = node.kind)
    (classes : other.classes = node.classes) : other.HasSoundClasses := by
  obtain ⟨carries, nonempty, trimmed, nodup⟩ := sound
  rw [← classes] at carries nonempty trimmed nodup
  rw [← kind] at carries
  exact ⟨carries, nonempty, trimmed, nodup⟩

theorem addClass (sound : node.HasSoundClasses) (text : String) :
    (node.addClass text).2.HasSoundClasses := by
  by_cases takesIn : node.TakesIn text
  · rw [addClass_of_takesIn takesIn]
    refine ⟨fun _ => takesIn.carries, ?_, ?_, ?_⟩
    · rw [classes_withClasses, List.forall_mem_append, List.forall_mem_singleton]
      exact ⟨sound.nonempty, fun none => takesIn.named (String.toList_eq_nil_iff.mp none)⟩
    · rw [classes_withClasses, List.forall_mem_append, List.forall_mem_singleton]
      exact ⟨sound.trimmed, className_className text⟩
    · rw [classes_withClasses, ← List.concat_eq_append]
      exact sound.nodup.concat takesIn.absent
  · rw [addClass_of_not_takesIn takesIn]
    exact sound

theorem removeClass (sound : node.HasSoundClasses) (name : String) :
    (node.removeClass name).2.HasSoundClasses := by
  have kept : ∀ other ∈ (node.removeClass name).2.classes, other ∈ node.classes :=
    fun _ member => List.mem_of_mem_filter member
  refine ⟨fun some => sound.hasClassList ?_, fun other member => sound.nonempty other (kept _ member),
    fun other member => sound.trimmed other (kept _ member), sound.nodup.filter _⟩
  intro none
  apply some
  simp [removeClass_eq, none]

theorem toggleClass (sound : node.HasSoundClasses) (text : String) :
    (node.toggleClass text).2.HasSoundClasses := by
  simp only [Node.toggleClass]
  split
  · exact sound.removeClass text
  · exact sound.addClass text

theorem edit (sound : node.HasSoundClasses) (edit : Session.ClassEdit) (text : String) :
    (edit.applyTo node text).2.HasSoundClasses := by
  cases edit with
  | add => exact sound.addClass text
  | remove => exact sound.removeClass text
  | toggle => exact sound.toggleClass text

theorem addClasses (sound : node.HasSoundClasses) (words : List (List Char)) :
    (words.foldl (fun made word => (made.addClass (String.ofList word)).2) node).HasSoundClasses := by
  induction words generalizing node with
  | nil => exact sound
  | cons word rest ih =>
      rw [List.foldl_cons]
      exact ih (sound.addClass (String.ofList word))

/-- Whatever the classes were, they are dropped before the words of the text are added. -/
theorem setClasses (node : Node) (text : String) : (node.setClasses text).HasSoundClasses := by
  have cleared : (node.withClasses []).HasSoundClasses := of_nil rfl
  exact cleared.addClasses _

/-- A class is asked for by its name in the list. -/
theorem hasClass_iff (sound : node.HasSoundClasses) (name : String) :
    node.hasClass name = true ↔ name ∈ node.classes := by
  rw [hasClass_eq_true_iff, and_iff_right_iff_imp]
  exact fun member => sound.hasClassList (List.ne_nil_of_mem member)

end HasSoundClasses

end StyledTree.Node
