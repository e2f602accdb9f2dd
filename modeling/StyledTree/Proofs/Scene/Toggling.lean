import StyledTree.Proofs.Scene.Classing

set_option autoImplicit false

namespace StyledTree

namespace Node

/-- A call of toggle does what it says to the class that the text names, and leaves the others. -/
structure Flips (node : Node) (text : String) : Prop where
  flipped : className text ∈ (node.toggleClass text).2.classes ↔ className text ∉ node.classes
  others : (node.toggleClass text).2.classes.filter (fun other => other != className text) =
    node.classes.filter (fun other => other != className text)
  told : (node.toggleClass text).1 = true ↔ className text ∈ (node.toggleClass text).2.classes

def Restores (node : Node) (text : String) : Prop :=
  ∀ name, name ∈ ((node.toggleClass text).2.toggleClass text).2.classes ↔ name ∈ node.classes

variable {node : Node} {text : String}

/-- A class that is not there yet is added, whatever white space stands around its name. -/
theorem toggleClass_of_absent (sound : node.HasSoundClasses)
    (carries : node.kind.hasClassList = true) (named : className text ≠ "")
    (absent : className text ∉ node.classes) :
    node.toggleClass text = (true, node.withClasses (node.classes ++ [className text])) := by
  have missing : text ∉ node.classes := by
    intro there
    apply absent
    rwa [sound.trimmed text there]
  rw [toggleClass_of_not_mem missing]
  exact addClass_of_takesIn ⟨carries, named, absent⟩

/-- With white space at an end of the text, a class that is there is neither found nor added. -/
theorem toggleClass_of_padded (sound : node.HasSoundClasses) (padded : className text ≠ text)
    (there : className text ∈ node.classes) : node.toggleClass text = (false, node) := by
  have missing : text ∉ node.classes := fun listed => padded (sound.trimmed text listed)
  rw [toggleClass_of_not_mem missing]
  exact addClass_of_not_takesIn (fun takesIn => takesIn.absent there)

theorem flips_of_absent (sound : node.HasSoundClasses) (carries : node.kind.hasClassList = true)
    (named : className text ≠ "") (absent : className text ∉ node.classes) : node.Flips text := by
  have toggled := toggleClass_of_absent sound carries named absent
  refine ⟨?_, ?_, ?_⟩
  · simp [toggled, absent]
  · rw [toggled, classes_withClasses, List.filter_append, List.filter_singleton]
    simp
  · simp [toggled]

theorem flips_of_trimmed (sound : node.HasSoundClasses) (carries : node.kind.hasClassList = true)
    (named : className text ≠ "") (trimmed : className text = text) : node.Flips text := by
  by_cases there : className text ∈ node.classes
  · have listed : text ∈ node.classes := trimmed ▸ there
    have toggled := toggleClass_of_mem listed
    refine ⟨?_, ?_, ?_⟩
    · simp [toggled, listed, trimmed]
    · rw [toggled, classes_withClasses, trimmed, List.filter_filter]
      simp only [Bool.and_self]
    · simp [toggled, trimmed]
  · exact flips_of_absent sound carries named there

theorem not_flips_of_padded (sound : node.HasSoundClasses) (padded : className text ≠ text)
    (there : className text ∈ node.classes) : ¬node.Flips text := by
  intro flips
  have flipped := flips.flipped
  rw [toggleClass_of_padded sound padded there] at flipped
  exact flipped.mp there there

/-- What is there afterwards: the class that was flipped, if it was not there, and the others. -/
theorem Flips.mem_iff (flips : node.Flips text) (name : String) :
    name ∈ (node.toggleClass text).2.classes ↔ (name = className text ↔ name ∉ node.classes) := by
  by_cases same : name = className text
  · rw [same, flips.flipped]
    simp
  · have kept := congrArg (name ∈ ·) flips.others
    simp only [List.mem_filter, bne_iff_ne, ne_eq, same, not_false_eq_true, and_true] at kept
    rw [kept]
    simp [same]

theorem Flips.restores (flips : node.Flips text) (again : (node.toggleClass text).2.Flips text) :
    node.Restores text := by
  intro name
  rw [again.mem_iff, flips.mem_iff]
  tauto

theorem kind_toggleClass (node : Node) (text : String) :
    (node.toggleClass text).2.kind = node.kind :=
  (Session.keepsPlace_editClass .toggle text).kind node

end Node

namespace Scene

variable {ε : Type}

/-- Whatever was called before, toggling does what it says exactly if the text has no white space at its
ends or its class is not there; otherwise it changes nothing and tells that the class is not there. So
toggling twice comes back to the same classes unless such white space adds a class that was not there. -/
theorem toggling_flips_iff {client : ε} {scene : Scene ε} (run : ClassRun (Scene.fresh client) scene)
    {widget : WidgetId} {node : Node} (found : scene.forest.get? widget = some node)
    (carries : node.kind.hasClassList = true) {text : String}
    (visible : ∃ c ∈ text.toList, Text.isSpace c = false) :
    (node.Flips text ↔ Node.className text = text ∨ Node.className text ∉ node.classes) ∧
      (Node.className text ≠ text → Node.className text ∈ node.classes →
        node.toggleClass text = (false, node)) ∧
      (node.Restores text ↔ Node.className text = text ∨ Node.className text ∈ node.classes) := by
  have sound := run.hasSoundClasses widget node found
  have named : Node.className text ≠ "" := by
    obtain ⟨c, inside, isVisible⟩ := visible
    rw [Ne, Node.className_eq_empty_iff]
    intro spaces
    rw [spaces c inside] at isVisible
    cases isVisible
  have soundAfter := sound.toggleClass text
  have carriesAfter : (node.toggleClass text).2.kind.hasClassList = true := by
    rwa [Node.kind_toggleClass]
  refine ⟨?_, Node.toggleClass_of_padded sound, ?_⟩
  · refine ⟨fun flips => ?_, fun either => ?_⟩
    · by_contra neither
      rw [not_or, not_not] at neither
      exact Node.not_flips_of_padded sound neither.1 neither.2 flips
    · rcases either with trimmed | absent
      · exact Node.flips_of_trimmed sound carries named trimmed
      · exact Node.flips_of_absent sound carries named absent
  · by_cases trimmed : Node.className text = text
    · have flips := Node.flips_of_trimmed sound carries named trimmed
      have again := Node.flips_of_trimmed soundAfter carriesAfter named trimmed
      exact iff_of_true (flips.restores again) (Or.inl trimmed)
    by_cases there : Node.className text ∈ node.classes
    · have same := Node.toggleClass_of_padded sound trimmed there
      refine iff_of_true (fun name => ?_) (Or.inr there)
      rw [same, same]
    · have added := Node.toggleClass_of_absent sound carries named there
      have stays : Node.className text ∈ (node.toggleClass text).2.classes := by simp [added]
      refine iff_of_false (fun restores => there ?_) (not_or.mpr ⟨trimmed, there⟩)
      rw [← restores, Node.toggleClass_of_padded soundAfter trimmed stays]
      exact stays

/-- Toggling `b` twice takes it out and puts it behind `a`, where it was. -/
theorem tidiedLabel_toggles_twice :
    ∃ node, tidiedLabel.forest.get? ⟨0⟩ = some node ∧ node.kind.hasClassList = true ∧
      (∃ c ∈ "b".toList, Text.isSpace c = false) ∧ node.Flips "b" ∧ node.Restores "b" := by
  have shown : (tidiedLabel.forest.get? ⟨0⟩).map (fun node => node.kind.hasClassList) = some true := by
    decide +kernel
  obtain ⟨node, found, carries⟩ := Option.map_eq_some_iff.mp shown
  have visible : ∃ c ∈ "b".toList, Text.isSpace c = false :=
    ⟨'b', by decide +kernel, by decide⟩
  have trimmed : Node.className "b" = "b" := by decide +kernel
  have toggles := toggling_flips_iff classRun_tidiedLabel found carries visible
  exact ⟨node, found, carries, visible, toggles.1.mpr (Or.inl trimmed),
    toggles.2.2.mpr (Or.inl trimmed)⟩

/-- With blanks around it, the name of a class that is there is not found: the class stays. -/
theorem tidiedLabel_keeps_padded_class :
    ∃ node, tidiedLabel.forest.get? ⟨0⟩ = some node ∧ node.kind.hasClassList = true ∧
      (∃ c ∈ " a ".toList, Text.isSpace c = false) ∧ Node.className " a " = "a" ∧
      "a" ∈ node.classes ∧ node.toggleClass " a " = (false, node) ∧ ¬node.Flips " a " := by
  have shown : (tidiedLabel.forest.get? ⟨0⟩).map
      (fun node => (node.classes, node.kind.hasClassList)) = some (["a", "b"], true) := by
    decide +kernel
  obtain ⟨node, found, same⟩ := Option.map_eq_some_iff.mp shown
  rw [Prod.mk.injEq] at same
  have sound := classRun_tidiedLabel.hasSoundClasses ⟨0⟩ node found
  have name : Node.className " a " = "a" := by decide +kernel
  have padded : Node.className " a " ≠ " a " := by decide +kernel
  have listed : "a" ∈ node.classes := by simp [same.1]
  have there : Node.className " a " ∈ node.classes := by rwa [name]
  have visible : ∃ c ∈ " a ".toList, Text.isSpace c = false :=
    ⟨'a', by decide +kernel, by decide⟩
  exact ⟨node, found, same.2, visible, name, listed,
    Node.toggleClass_of_padded sound padded there, Node.not_flips_of_padded sound padded there⟩

end Scene

end StyledTree
