import StyledTree.Proofs.Scene.Shape
import StyledTree.Proofs.Session.Actions
import StyledTree.Proofs.Widget.ClassList

set_option autoImplicit false

namespace StyledTree

def Forest.HasSoundClasses (forest : Forest) : Prop :=
  ∀ widget node, forest.get? widget = some node → node.HasSoundClasses

theorem Forest.HasSoundClasses.of_keepsClasses {before after : Forest}
    (sound : before.HasSoundClasses) (keeps : before.KeepsClasses after) : after.HasSoundClasses := by
  intro widget node found
  rcases keeps widget node found with none | ⟨was, there, kind, classes⟩
  · exact Node.HasSoundClasses.of_nil none
  · exact (sound widget was there).of_eq kind classes

theorem Forest.HasSoundClasses.update {forest : Forest} (sound : forest.HasSoundClasses)
    (widget : WidgetId) {change : Node → Node}
    (kept : ∀ node : Node, node.HasSoundClasses → (change node).HasSoundClasses) :
    (forest.update widget change).HasSoundClasses := by
  intro other node found
  rw [get?_update] at found
  split at found
  · obtain ⟨was, there, rfl⟩ := Option.map_eq_some_iff.mp found
    exact kept was (sound other was there)
  · exact sound other node found

namespace Scene

variable {ε : Type}

inductive ClassStep : Scene ε → Scene ε → Prop where
  | leave {before after : Scene ε} (step : Step before after)
    (keeps : before.forest.KeepsClasses after.forest) : ClassStep before after
  | edit (scene : Scene ε) (widget : WidgetId) (edit : Session.ClassEdit) (text : String) :
    ClassStep scene (scene.update widget (fun node => (edit.applyTo node text).2))
  | replace (scene : Scene ε) (widget : WidgetId) (text : String) :
    ClassStep scene (scene.update widget (fun node => node.setClasses text))

/-- A run in which class lists are changed by the calls made for them alone. -/
def ClassRun : Scene ε → Scene ε → Prop :=
  Relation.ReflTransGen ClassStep

/-- Making, building, firing and applying are such runs if the client code that they run is. -/
theorem composes_classRun : Composes (ClassRun : Scene ε → Scene ε → Prop) where
  refl _ := Relation.ReflTransGen.refl
  trans first second := Relation.ReflTransGen.trans first second
  step plain := Relation.ReflTransGen.single
    (ClassStep.leave plain.step (plain.forest _ Forest.KeepsClasses.closedUnderEdits))

theorem ClassStep.reaches {before after : Scene ε} (step : ClassStep before after) :
    Reaches before after := by
  cases step with
  | leave step _ => exact Reaches.step step
  | edit widget edit text =>
      exact Reaches.step (Step.change before widget (Session.keepsPlace_editClass edit text))
  | replace widget text =>
      exact Reaches.step (Step.change before widget (Session.keepsPlace_setClasses text))

theorem ClassStep.hasSoundClasses {before after : Scene ε} (step : ClassStep before after)
    (sound : before.forest.HasSoundClasses) : after.forest.HasSoundClasses := by
  cases step with
  | leave _ keeps => exact sound.of_keepsClasses keeps
  | edit widget edit text => exact sound.update widget (fun _ held => held.edit edit text)
  | replace widget text =>
      exact sound.update widget (fun node _ => Node.HasSoundClasses.setClasses node text)

theorem ClassRun.reaches {before after : Scene ε} (run : ClassRun before after) :
    Reaches before after := by
  induction run with
  | refl => exact Reaches.refl before
  | tail _ step ih => exact Reaches.trans ih step.reaches

/-- No run of this sort gives classes to a widget that cannot carry them. -/
theorem ClassRun.hasSoundClasses {client : ε} {scene : Scene ε}
    (run : ClassRun (Scene.fresh client) scene) : scene.forest.HasSoundClasses := by
  induction run with
  | refl =>
      intro widget node found
      simp [Scene.fresh, Forest.get?, Forest.empty] at found
  | tail _ step ih => exact step.hasSoundClasses ih

/-- Whatever is called, a class list has no repetitions and holds no empty name and none with white space
at an end, it is empty where the kind carries no classes, and a class is had if it is listed. A list that
is set has the words of the text, each where it stands first. -/
theorem class_lists_stay_tidy {client : ε} {scene : Scene ε}
    (run : ClassRun (Scene.fresh client) scene) {widget : WidgetId} {node : Node}
    (found : scene.forest.get? widget = some node) :
    node.classes.Nodup ∧
      (∀ name ∈ node.classes, name ≠ "" ∧ ∀ c,
        name.toList.head? = some c ∨ name.toList.getLast? = some c → Text.isSpace c = false) ∧
      (node.kind.hasClassList = false → node.classes = []) ∧
      (∀ name, node.hasClass name = true ↔ name ∈ node.classes) ∧
      ∀ text, node.kind.hasClassList = true →
        ∃ words, (∀ cut, Text.CutsInto text.toList cut ↔ cut = words) ∧
          ((scene.update widget (fun node => node.setClasses text)).forest.get? widget).map
            Node.classes = some (words.map String.ofList).eraseDups := by
  have sound := run.hasSoundClasses widget node found
  refine ⟨sound.nodup, ?_, ?_, sound.hasClass_iff, ?_⟩
  · intro name member
    have nonempty := sound.nonempty name member
    refine ⟨fun none => nonempty (String.toList_eq_nil_iff.mpr none), fun c atEnd => ?_⟩
    exact Node.isSpace_of_className_eq (sound.trimmed name member) atEnd
  · intro bare
    by_contra some
    rw [sound.hasClassList some] at bare
    cases bare
  · intro text carries
    refine ⟨Text.words text.toList, fun cut => Text.cutsInto_iff, ?_⟩
    have set : (scene.update widget (fun node => node.setClasses text)).forest.get? widget =
        some (node.setClasses text) := by
      rw [Scene.update, Forest.get?_update, if_pos rfl, found, Option.map_some]
    rw [set, Option.map_some, Node.setClasses_eq carries, Node.classes_withClasses]

/-- A label with a class added to it and another one toggled, and one removed under a name that no class
has. -/
def tidiedLabel : Scene Unit :=
  let made := ((Scene.fresh ()).spawn .label).2
  let added := made.update ⟨0⟩ (fun node => (Session.ClassEdit.add.applyTo node " a ").2)
  let toggled := added.update ⟨0⟩ (fun node => (Session.ClassEdit.toggle.applyTo node "b").2)
  toggled.update ⟨0⟩ (fun node => (Session.ClassEdit.remove.applyTo node " a ").2)

theorem classRun_tidiedLabel : ClassRun (Scene.fresh ()) tidiedLabel := by
  have made : ClassRun (Scene.fresh ()) ((Scene.fresh ()).spawn .label).2 :=
    composes_classRun.step (PlainStep.spawn _ .label)
  have added := made.tail (ClassStep.edit _ ⟨0⟩ .add " a ")
  have toggled := added.tail (ClassStep.edit _ ⟨0⟩ .toggle "b")
  exact toggled.tail (ClassStep.edit _ ⟨0⟩ .remove " a ")

/-- An em space separates words as well. -/
theorem tidiedLabel_takes_words :
    ∃ node, tidiedLabel.forest.get? ⟨0⟩ = some node ∧ node.classes = ["a", "b"] ∧
      node.classes.Nodup ∧ (node.hasClass "b" = true ↔ "b" ∈ node.classes) ∧
      ((tidiedLabel.update ⟨0⟩ (fun node => node.setClasses " d\u2003c d ")).forest.get? ⟨0⟩).map
        Node.classes = some ["d", "c"] := by
  have shown : (tidiedLabel.forest.get? ⟨0⟩).map
      (fun node => (node.classes, node.kind.hasClassList)) = some (["a", "b"], true) := by
    decide +kernel
  obtain ⟨node, found, same⟩ := Option.map_eq_some_iff.mp shown
  rw [Prod.mk.injEq] at same
  have tidy := class_lists_stay_tidy classRun_tidiedLabel found
  obtain ⟨words, unique, set⟩ := tidy.2.2.2.2 " d\u2003c d " same.2
  have cut : Text.words " d\u2003c d ".toList = words := (unique _).mp (Text.cutsInto_iff.mpr rfl)
  have listed : ((Text.words " d\u2003c d ".toList).map String.ofList).eraseDups = ["d", "c"] := by
    decide +kernel
  rw [← cut, listed] at set
  exact ⟨node, found, same.1, tidy.1, tidy.2.2.2.1 "b", set⟩

end Scene

end StyledTree
