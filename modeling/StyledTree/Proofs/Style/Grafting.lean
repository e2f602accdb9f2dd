import StyledTree.Proofs.Style.Groves

set_option autoImplicit false

namespace StyledTree.Styles.Grove

variable {styles : Styles} {tops order : List StyleId}

/-- The same styles with other links are a grove if they are listed once and chains hold chains. -/
theorem relink (grove : Grove styles tops order) {after : Styles} (keeps : Keeps styles after)
    {others relisted : List StyleId} (lists : Enumerates after.children others relisted)
    (perm : relisted.Perm order)
    (nested : ∀ id ∈ order, ∀ child ∈ after.children id, after.isChain child = true) :
    Grove after others relisted where
  lists := lists
  made id member := keeps.made (grove.made id (perm.subset member))
  nested id member := nested id (perm.subset member)
  wraps id member chain := by
    have known := grove.made id (perm.subset member)
    rw [keeps.isChain known] at chain
    obtain ⟨inner, wrapped, plain⟩ := grove.wraps id (perm.subset member) chain
    exact ⟨inner, (keeps.wrapped? known).trans wrapped, keeps.isPlain plain⟩
  unique := by
    rw [keeps.map_denoted (fun id member => grove.made id (perm.subset member))]
    exact (perm.map styles.denoted).nodup_iff.mpr grove.unique

theorem takeTop (grove : Grove styles tops order) {top : StyleId} (member : top ∈ tops) :
    ∃ taken, Grove styles (tops.erase top ++ [top]) taken ∧ taken.Perm order := by
  have last : tops.Perm (tops.erase top ++ [top]) :=
    (List.perm_cons_erase member).trans (List.perm_append_singleton top _).symm
  obtain ⟨taken, lists, perm⟩ := grove.lists.perm last
  exact ⟨taken, grove.relink (Keeps.refl styles) lists perm grove.nested, perm⟩

/-- Detaching a chain that is not at the top takes it out of its holder. -/
theorem children_detach (grove : Grove styles tops order) {child : StyleId} (member : child ∈ order)
    (notTop : child ∉ tops) :
    ∃ holder ∈ order, child ∈ styles.children holder ∧
      (∀ id ∈ order, (styles.detach tops child).children id = (styles.children id).erase child) ∧
        ∀ id, id ∉ order → (styles.detach tops child).get? id = styles.get? id := by
  have searched := grove.holderAmong?_eq child
  cases found : order.find? (fun id => (styles.children id).contains child) with
  | none =>
      rcases grove.lists.node_or_held member with isTop | ⟨holder, isHolder, held⟩
      · exact absurd isTop notTop
      · have missed := List.find?_eq_none.mp found holder isHolder
        exact absurd (List.contains_iff_mem.mpr held) missed
  | some holder =>
      have isHolder := List.mem_of_find?_eq_some found
      have contained : (styles.children holder).contains child = true :=
        List.find?_some (p := fun id => (styles.children id).contains child) found
      have held := List.contains_iff_mem.mp contained
      have chain := isChain_of_mem_links ((styles.mem_links holder child).mpr (Or.inl held))
      have same : styles.detach tops child = styles.update holder
          (fun style =>
            style.mapSheets (fun held => held.eraseP (fun sheet => sheet.style == child))) := by
        rw [detach, searched, found]
      refine ⟨holder, isHolder, held, ?_, ?_⟩
      · intro id isListed
        rw [same, children_eraseSheet]
        by_cases atHolder : id = holder
        · rw [if_pos ⟨atHolder, chain⟩]
        · rw [if_neg (fun both => atHolder both.1), List.erase_of_not_mem]
          exact fun holds =>
            atHolder (grove.lists.holder_unique grove.nodup isListed isHolder holds held)
      · intro id outside
        rw [same, get?_update, if_neg]
        rintro rfl
        exact outside isHolder

theorem lift (grove : Grove styles tops order) {child : StyleId} (member : child ∈ order)
    (notTop : child ∉ tops) :
    ∃ lifted, Grove (styles.detach tops child) (tops ++ [child]) lifted ∧ lifted.Perm order := by
  obtain ⟨holder, isHolder, held, erased, -⟩ := grove.children_detach member notTop
  obtain ⟨lifted, lists, perm⟩ := grove.lists.lift grove.nodup isHolder held erased
  refine ⟨lifted, grove.relink (Keeps.detach styles tops child) lists perm ?_, perm⟩
  intro id isListed below isBelow
  rw [erased id isListed] at isBelow
  have before := List.mem_of_mem_erase isBelow
  rw [(Keeps.detach styles tops child).isChain
    (grove.made below (grove.lists.mem_of_child isListed before))]
  exact grove.nested id isListed below before

/-- A plain style that no style of the grove stands for gets a place at the top. -/
theorem bring {front back : List StyleId} (grove : Grove styles (front ++ back) order)
    {id : StyleId} (plain : styles.IsPlain id) (absent : id ∉ order.map styles.denoted) :
    ∃ brought, Grove styles (front ++ id :: back) brought ∧ brought.Perm (id :: order) := by
  have leaf := children_of_not_isChain plain.notChain
  obtain ⟨before, after, rfl, one, other⟩ := grove.lists.split
  have lists : Enumerates styles.children (front ++ id :: back) (before ++ id :: after) :=
    one.append ((Enumerates.leaf_iff leaf).mpr ⟨after, rfl, other⟩)
  have perm : (before ++ id :: after).Perm (id :: (before ++ after)) := List.perm_middle
  refine ⟨_, ⟨lists, ?_, ?_, ?_, ?_⟩, perm⟩
  · intro met member
    rcases List.mem_cons.mp (perm.subset member) with rfl | old
    · exact plain.made
    · exact grove.made met old
  · intro met member
    rcases List.mem_cons.mp (perm.subset member) with rfl | old
    · rw [leaf]
      exact fun child isChild => absurd isChild List.not_mem_nil
    · exact grove.nested met old
  · intro met member chain
    rcases List.mem_cons.mp (perm.subset member) with rfl | old
    · rw [plain.notChain] at chain
      cases chain
    · exact grove.wraps met old chain
  · rw [(perm.map styles.denoted).nodup_iff, List.map_cons, List.nodup_cons,
      denoted_of_not_isChain plain.notChain]
    exact ⟨absent, grove.unique⟩

/-- Wrapping a plain style at the top puts the wrapper in its place. -/
theorem wrapTop {front back : List StyleId} {id : StyleId}
    (grove : Grove styles (front ++ id :: back) order) (plain : styles.isChain id = false) :
    ∃ wrapped, Grove (styles.wrap id).2 (front ++ (styles.wrap id).1 :: back) wrapped ∧
      wrapped.map (styles.wrap id).2.denoted = order.map styles.denoted ∧
        ∀ met ∈ order, met ≠ id → met ∈ wrapped := by
  have isTop : id ∈ front ++ id :: back := by simp
  have wrapping := wrapping (grove.made id (grove.mem_of_top isTop))
  have leaf := children_of_not_isChain plain
  have newLeaf := children_of_not_made wrapping.fresh
  obtain ⟨before, rest, rfl, one, other⟩ := grove.lists.split
  obtain ⟨after, rfl, right⟩ := (Enumerates.leaf_iff leaf).mp other
  have lists : Enumerates styles.children (front ++ (styles.wrap id).1 :: back)
      (before ++ (styles.wrap id).1 :: after) :=
    one.append ((Enumerates.leaf_iff newLeaf).mpr ⟨after, rfl, right⟩)
  have cases : ∀ met ∈ before ++ (styles.wrap id).1 :: after,
      met = (styles.wrap id).1 ∨ met ∈ before ++ id :: after := by
    intro met member
    rw [List.mem_append, List.mem_cons] at member ⊢
    tauto
  have same : (before ++ (styles.wrap id).1 :: after).map (styles.wrap id).2.denoted =
      (before ++ id :: after).map styles.denoted := by
    have known : ∀ met ∈ before ++ after, styles.Made met := by
      intro met member
      apply grove.made met
      rw [List.mem_append, List.mem_cons]
      rw [List.mem_append] at member
      tauto
    rw [List.forall_mem_append] at known
    rw [List.map_append, List.map_append, List.map_cons, List.map_cons, wrapping.denoted,
      denoted_of_not_isChain plain, wrapping.keeps.map_denoted known.1,
      wrapping.keeps.map_denoted known.2]
  refine ⟨_, ⟨lists.congr (fun met _ => wrapping.children met), ?_, ?_, ?_, ?_⟩, same, ?_⟩
  · intro met member
    exact (wrapping.made met).mpr ((cases met member).imp_right (grove.made met))
  · intro met member child isChild
    rw [wrapping.children] at isChild
    rcases cases met member with rfl | old
    · rw [newLeaf] at isChild
      cases isChild
    · have known := grove.lists.mem_of_child old isChild
      rw [wrapping.keeps.isChain (grove.made child known)]
      exact grove.nested met old child isChild
  · intro met member chain
    rcases cases met member with rfl | old
    · exact ⟨id, wrapping.wrapped, wrapping.keeps.isPlain
        ⟨grove.made id (grove.mem_of_top isTop), plain⟩⟩
    · rw [wrapping.keeps.isChain (grove.made met old)] at chain
      obtain ⟨inner, wrapped, innerPlain⟩ := grove.wraps met old chain
      exact ⟨inner, (wrapping.keeps.wrapped? (grove.made met old)).trans wrapped,
        wrapping.keeps.isPlain innerPlain⟩
  · rw [same]
    exact grove.unique
  · intro met member differ
    rw [List.mem_append, List.mem_cons] at member ⊢
    tauto

/-- The last style at the top becomes the last child of a chain that is not below it. -/
theorem link {child : StyleId} (grove : Grove styles (tops ++ [child]) order) {parent : StyleId}
    (member : parent ∈ order) (parentChain : styles.isChain parent = true)
    (childChain : styles.isChain child = true) (apart : ¬ styles.Placed [child] parent) :
    ∃ linked, Grove (styles.append parent child) tops linked ∧ linked.Perm order := by
  have keeps : Keeps styles (styles.append parent child) := Keeps.updateSheets styles parent _
  obtain ⟨front, back, rfl, one, other⟩ := grove.split_last
  have inFront : parent ∈ front := by
    rcases List.mem_append.mp member with isFront | isBack
    · exact isFront
    · exact absurd ((other.mem_iff parent).mp isBack) apart
  have atParent : (styles.append parent child).children parent =
      styles.children parent ++ [child] := by
    rw [children_append, if_pos ⟨rfl, parentChain⟩]
  have elsewhere : ∀ id, id ≠ parent →
      (styles.append parent child).children id = styles.children id := by
    intro id differ
    rw [children_append, if_neg (fun both => differ both.1)]
  obtain ⟨linked, lists, perm⟩ := one.lists.link other.lists grove.nodup inFront atParent
    (fun id _ differ => elsewhere id differ)
  refine ⟨linked, grove.relink keeps lists perm ?_, perm⟩
  intro id isListed held isHeld
  have chain : styles.isChain held = true := by
    by_cases same : id = parent
    · subst same
      rw [atParent, List.mem_append, List.mem_singleton] at isHeld
      rcases isHeld with old | rfl
      · exact grove.nested id isListed held old
      · exact childChain
    · rw [elsewhere id same] at isHeld
      exact grove.nested id isListed held isHeld
  rw [keeps.isChain (made_of_isChain chain)]
  exact chain

end StyledTree.Styles.Grove
