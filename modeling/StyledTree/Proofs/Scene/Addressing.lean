import Mathlib.Data.List.Chain
import StyledTree.Proofs.Scene.Classing
import StyledTree.Proofs.Selector.Trails
import StyledTree.Proofs.Selector.Writing

set_option autoImplicit false

namespace StyledTree

namespace Selector

/-- The subject and the clauses on its left, the nearest first, all tied in the same way. -/
def tied (combinator : Combinator) (subject : Clause) (others : List Clause) : Selector :=
  ⟨subject, others.map (fun clause => (combinator, clause))⟩

theorem isWritable_tied (combinator : Combinator) {subject : Clause} {others : List Clause}
    (writable : ∀ clause ∈ subject :: others, clause.IsWritable) :
    (tied combinator subject others).IsWritable := by
  rw [List.forall_mem_cons] at writable
  refine ⟨writable.1, fun step member => ?_⟩
  obtain ⟨clause, listed, rfl⟩ := List.mem_map.mp member
  exact writable.2 clause listed

/-- It is written with its combinator between the texts of its clauses. -/
theorem text_tied (combinator : Combinator) (subject : Clause) (others : List Clause) :
    (tied combinator subject others).text =
      combinator.text.intercalate ((others.reverse ++ [subject]).map Clause.text) := by
  -- The subject is written last, so that the clause next to it ends the text of all the others.
  induction others generalizing subject with
  | nil =>
      rw [tied, text, List.map_nil, contextText, String.empty_append]
      exact String.intercalate_singleton.symm
  | cons nearest rest ih =>
      have left : (rest.reverse ++ [nearest]).map Clause.text ≠ [] := by simp
      have written := ih nearest
      rw [tied, text] at written ⊢
      have right : [subject].map Clause.text ≠ [] := by simp
      rw [List.reverse_cons, List.map_append, String.intercalate_append_of_ne_nil left right,
        List.map_singleton, String.intercalate_singleton, List.map_cons, contextText, written]

variable {α : Type}

/-- A node is selected if the nodes of a way up from it meet the clauses and are tied as the combinator
says. -/
theorem selects_tied {host : Host α} (isTree : host.IsTree) {combinator : Combinator}
    {clauseOf : α → Clause} {node : α} {upward : List α}
    (ties : (node :: upward).IsChain (combinator.Ties host))
    (meets : ∀ met ∈ node :: upward, (clauseOf met).Meets host met) :
    (tied combinator (clauseOf node) (upward.map clauseOf)).selects host node = true := by
  induction upward generalizing node with
  | nil =>
      have met := meets node List.mem_cons_self
      rw [tied, selects, List.map_nil, List.map_nil, contextHolds, Bool.and_true]
      exact (Clause.accepts_iff _ host node).mpr met
  | cons upper above ih =>
      rw [List.forall_mem_cons] at meets
      rw [List.isChain_cons_cons] at ties
      have selected := ih ties.2 meets.2
      rw [tied, selects, Bool.and_eq_true]
      refine ⟨(Clause.accepts_iff _ host node).mpr meets.1, ?_⟩
      rw [List.map_cons, List.map_cons, contextHolds_cons_iff isTree]
      exact ⟨upper, ties.1, selected⟩

end Selector

namespace Node

def clause (node : Node) : Clause := ⟨node.name, node.classes⟩

/-- What the description tells behind the name of the kind. -/
def told (node : Node) : String :=
  String.ofList (node.describe.toList.drop node.kind.name.toList.length)

/-- The widget in a selector's text: what is told of it, or `*` where nothing is. -/
def address (node : Node) : String :=
  if node.told.isEmpty then "*" else node.told

def names (node : Node) : List String := node.name.toList ++ node.classes

theorem toList_told (node : Node) :
    node.told.toList = node.name.elim [] (fun name => '#' :: name.toList) ++
      (node.classes.map String.toList).flatMap (fun name => '.' :: name) := by
  rw [told, describe, String.toList_ofList, Clause.toList_foldl_dotted, String.toList_append,
    List.append_assoc, List.drop_left]
  cases node.name with
  | none => rfl
  | some name => simp

/-- A widget is addressed by the text of its clause. -/
theorem address_eq_text (node : Node) : node.address = node.clause.text := by
  have told := node.toList_told
  rw [address]
  cases isGlob : node.clause.isGlob with
  | true =>
      have same : node.clause = Clause.glob := Clause.eq_glob_of_isGlob isGlob
      have nameless : node.name = none := congrArg Clause.id same
      have classless : node.classes = [] := congrArg Clause.classes same
      rw [nameless, classless] at told
      rw [if_pos (by simpa using told), same]
      rfl
  | false =>
      have same : node.told = node.clause.text := by
        apply String.toList_inj.mp
        rw [told, Clause.toList_text isGlob]
        rfl
      have nonempty : node.told.isEmpty = false := by
        rw [String.isEmpty_eq_false_iff]
        intro none
        rw [none] at told
        cases named : node.name <;> cases listed : node.classes <;>
          simp_all [clause, Clause.isGlob]
      rw [nonempty, same]
      rfl

/-- Where no name holds a separator the clause can be written. -/
theorem isWritable_clause {node : Node} (sound : node.HasSoundClasses)
    (plain : ∀ name ∈ node.names, Clause.IsPlain name.toList) : node.clause.IsWritable := by
  constructor
  · intro name named
    apply plain
    have here : node.name = some name := named
    simp [names, here]
  · intro name listed
    exact ⟨sound.nonempty name listed, plain name (List.mem_append_right _ listed)⟩

end Node

namespace Forest

def address (forest : Forest) (widget : WidgetId) : String :=
  ((forest.get? widget).map Node.address).getD "*"

def clauseOf (forest : Forest) (widget : WidgetId) : Clause :=
  ((forest.get? widget).map Node.clause).getD Clause.glob

def namesOn (forest : Forest) (widget : WidgetId) : List String :=
  ((forest.get? widget).map Node.names).getD []

def IsPlainlyNamed (forest : Forest) (widget : WidgetId) : Prop :=
  ∀ name ∈ forest.namesOn widget, Clause.IsPlain name.toList

def Finds (forest : Forest) (text : String) (widget : WidgetId) : Prop :=
  ∃ selector, Selector.parse text = .ok selector ∧ selector.selects forest.host widget = true

variable {forest : Forest}

theorem address_eq_text (forest : Forest) (widget : WidgetId) :
    forest.address widget = (forest.clauseOf widget).text := by
  rw [address, clauseOf]
  cases forest.get? widget with
  | none => rfl
  | some node =>
      rw [Option.map_some, Option.map_some, Option.getD_some, Option.getD_some]
      exact node.address_eq_text

theorem isWritable_clauseOf (sound : forest.HasSoundClasses) {widget : WidgetId}
    (plain : forest.IsPlainlyNamed widget) : (forest.clauseOf widget).IsWritable := by
  rw [IsPlainlyNamed, namesOn] at plain
  rw [clauseOf]
  cases found : forest.get? widget with
  | none => exact ⟨fun _ named => (nomatch named), fun _ listed => (nomatch listed)⟩
  | some node =>
      rw [found] at plain
      exact Node.isWritable_clause (sound widget node found) plain

/-- Every widget meets the clause of its own name and classes. -/
theorem meets_clauseOf (sound : forest.HasSoundClasses) (widget : WidgetId) :
    (forest.clauseOf widget).Meets forest.host widget := by
  rw [clauseOf]
  cases found : forest.get? widget with
  | none => exact ⟨fun _ named => (nomatch named), fun some => absurd rfl some⟩
  | some node =>
      constructor
      · intro name named
        have here : node.name = some name := named
        simp [host, found, here]
      · intro some
        have carries : node.kind.hasClassList = true := (sound widget node found).hasClassList some
        refine ⟨by simp [host, found, carries], ?_⟩
        intro name listed
        have member : name ∈ node.classes := listed
        simp [host, found, Node.hasClass, carries, member]

/-- The texts of the widgets on a way up, turned around, find the widget that it starts from. -/
theorem IsForest.finds_of_ties (isForest : forest.IsForest) (sound : forest.HasSoundClasses)
    {combinator : Combinator} {widget : WidgetId} {upward : List WidgetId}
    (ties : (widget :: upward).IsChain (combinator.Ties forest.host))
    (plain : ∀ met ∈ widget :: upward, forest.IsPlainlyNamed met) :
    forest.Finds (combinator.text.intercalate ((upward.reverse ++ [widget]).map forest.address))
      widget := by
  have writable : ∀ clause ∈ forest.clauseOf widget :: upward.map forest.clauseOf,
      clause.IsWritable := by
    intro clause member
    rw [← List.map_cons] at member
    obtain ⟨met, listed, rfl⟩ := List.mem_map.mp member
    exact isWritable_clauseOf sound (plain met listed)
  have parsed := Selector.parse_text_of_isWritable (Selector.isWritable_tied combinator writable)
  have texts : (upward.reverse ++ [widget]).map forest.address =
      ((upward.map forest.clauseOf).reverse ++ [forest.clauseOf widget]).map Clause.text := by
    rw [← List.map_reverse, ← List.map_singleton, ← List.map_append, List.map_map]
    exact List.map_congr_left (fun met _ => forest.address_eq_text met)
  rw [texts, ← Selector.text_tied]
  exact ⟨_, parsed, Selector.selects_tied isForest.isTree_host ties
    (fun met _ => meets_clauseOf sound met)⟩

/-- Turned around, a way down through children is a way up through parents. -/
theorem IsForest.isChain_child (isForest : forest.IsForest) {path : List WidgetId}
    (down : path.IsChain (fun upper lower => lower ∈ forest.children upper)) :
    path.reverse.IsChain (Combinator.child.Ties forest.host) := by
  rw [List.isChain_reverse]
  refine down.imp ?_
  intro upper lower member
  exact (isForest.mem_children_iff upper lower).mp member

/-- On a way down each widget is above all later ones, whichever of them are left out. -/
theorem IsForest.isChain_descendant (isForest : forest.IsForest) {path part : List WidgetId}
    (down : path.IsChain (fun upper lower => lower ∈ forest.children upper))
    (sublist : part.Sublist path) :
    part.reverse.IsChain (Combinator.descendant.Ties forest.host) := by
  have above : path.IsChain (IsAbove forest.parent?) := by
    refine down.imp ?_
    intro upper lower member
    exact IsAbove.of_parent ((isForest.mem_children_iff upper lower).mp member)
  have transitive : Trans (IsAbove forest.parent?) (IsAbove forest.parent?)
      (IsAbove forest.parent?) := ⟨IsAbove.trans⟩
  rw [List.isChain_reverse]
  exact (above.pairwise.sublist sublist).isChain

end Forest

namespace Scene

variable {ε : Type}

/-- Whatever is done to a scene, the addresses of the widgets on a way down find the last of them: all
with ` > ` between them, or with blanks, and with blanks also if some of the upper ones are left out. -/
theorem addresses_find_last {client : ε} {scene : Scene ε}
    (run : ClassRun (Scene.fresh client) scene) {path : List WidgetId} {last : WidgetId}
    (down : (path ++ [last]).IsChain (fun upper lower => lower ∈ scene.forest.children upper))
    (plain : ∀ widget ∈ path ++ [last], scene.forest.IsPlainlyNamed widget) :
    scene.forest.Finds (" > ".intercalate ((path ++ [last]).map scene.forest.address)) last ∧
      scene.forest.Finds (" ".intercalate ((path ++ [last]).map scene.forest.address)) last ∧
      ∀ part, (part ++ [last]).Sublist (path ++ [last]) →
        scene.forest.Finds (" ".intercalate ((part ++ [last]).map scene.forest.address)) last := by
  have isForest := run.reaches.isForest Forest.isForest_empty
  have upward : ∀ part : List WidgetId, (part ++ [last]).reverse = last :: part.reverse :=
    fun part => List.reverse_concat
  have finds : ∀ (combinator : Combinator) (part : List WidgetId),
      (part ++ [last]).reverse.IsChain (combinator.Ties scene.forest.host) →
      (part ++ [last]).Sublist (path ++ [last]) → scene.forest.Finds
        (combinator.text.intercalate ((part ++ [last]).map scene.forest.address)) last := by
    intro combinator part ties sublist
    rw [upward] at ties
    have found := isForest.finds_of_ties run.hasSoundClasses ties ?_
    · rwa [List.reverse_reverse] at found
    · intro met member
      rw [← upward, List.mem_reverse] at member
      exact plain met (sublist.subset member)
  have blanks : ∀ part, (part ++ [last]).Sublist (path ++ [last]) →
      scene.forest.Finds (" ".intercalate ((part ++ [last]).map scene.forest.address)) last :=
    fun part sublist =>
      finds .descendant part (isForest.isChain_descendant down sublist) sublist
  exact ⟨finds .child path (isForest.isChain_child down) (List.Sublist.refl _),
    blanks path (List.Sublist.refl _), blanks⟩

/-- A frame, which refuses the class that it is given, a panel with two classes in it, and a label with
an empty name and a class in that. -/
def addressedLabel : Scene Unit :=
  let made := ((((Scene.fresh ()).spawn .frame).2.spawn .panel).2.spawn .label).2
  let hung := ((made.addWith ⟨0⟩ ⟨1⟩ .center).2.add ⟨1⟩ ⟨2⟩).2
  let named := hung.update ⟨2⟩ (fun node => { node with name := some "" })
  let refused := named.update ⟨0⟩ (fun node => (Session.ClassEdit.add.applyTo node "main").2)
  let classed := refused.update ⟨2⟩ (fun node => (Session.ClassEdit.add.applyTo node "#").2)
  classed.update ⟨1⟩ (fun node => node.setClasses "big red")

theorem classRun_addressedLabel : ClassRun (Scene.fresh ()) addressedLabel := by
  have composes : Composes (ClassRun : Scene Unit → Scene Unit → Prop) := composes_classRun
  have frame := composes.step (PlainStep.spawn (Scene.fresh ()) .frame)
  have panel := composes.trans frame (composes.step (PlainStep.spawn _ .panel))
  have label := composes.trans panel (composes.step (PlainStep.spawn _ .label))
  have inFrame := composes.trans label (composes.step (PlainStep.addWith _ ⟨0⟩ ⟨1⟩ .center))
  have inPanel := composes.trans inFrame (composes.step (PlainStep.add _ ⟨1⟩ ⟨2⟩))
  have renames : Forest.KeepsPlace (fun node => { node with name := some "" }) := {}
  have named := composes.trans inPanel
    (composes.step (PlainStep.change _ ⟨2⟩ renames {}))
  have refused := named.tail (ClassStep.edit _ ⟨0⟩ .add "main")
  have classed := refused.tail (ClassStep.edit _ ⟨2⟩ .add "#")
  exact classed.tail (ClassStep.replace _ ⟨1⟩ "big red")

/-- The texts are `* > .big.red > #.#` and `* #.#`. -/
theorem addressedLabel_is_found :
    [⟨0⟩, ⟨1⟩, ⟨2⟩].map addressedLabel.forest.address = ["*", ".big.red", "#.#"] ∧
      addressedLabel.forest.Finds
        (" > ".intercalate ([⟨0⟩, ⟨1⟩, ⟨2⟩].map addressedLabel.forest.address)) ⟨2⟩ ∧
      addressedLabel.forest.Finds
        (" ".intercalate ([⟨0⟩, ⟨2⟩].map addressedLabel.forest.address)) ⟨2⟩ := by
  have down : ([⟨0⟩, ⟨1⟩] ++ [⟨2⟩] : List WidgetId).IsChain
      (fun upper lower => lower ∈ addressedLabel.forest.children upper) := by decide +kernel
  have checked : ([⟨0⟩, ⟨1⟩] ++ [⟨2⟩] : List WidgetId).all (fun widget =>
      (addressedLabel.forest.namesOn widget).all (fun name =>
        name.toList.all (fun c => Clause.isClauseChar c && c != '.'))) = true := by decide +kernel
  have plain : ∀ widget ∈ ([⟨0⟩, ⟨1⟩] ++ [⟨2⟩] : List WidgetId),
      addressedLabel.forest.IsPlainlyNamed widget := by
    simp only [List.all_eq_true, Bool.and_eq_true, bne_iff_ne] at checked
    exact checked
  have found := addresses_find_last classRun_addressedLabel down plain
  have part : ([⟨0⟩] ++ [⟨2⟩] : List WidgetId).Sublist ([⟨0⟩, ⟨1⟩] ++ [⟨2⟩]) := by decide
  exact ⟨by decide +kernel, found.1, found.2.2 [⟨0⟩] part⟩

end Scene

end StyledTree
