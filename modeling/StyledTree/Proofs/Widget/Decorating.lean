import StyledTree.Session.Inspect
import Mathlib.Data.List.Basic

set_option autoImplicit false

namespace StyledTree

namespace Mouse

structure Registration where
  kind : Kind
  key : String
  handler : HandlerId

namespace Registration

def listener (registration : Registration) : Listener :=
  ⟨registration.kind, some registration.key, registration.handler⟩

def replaces (registration : Registration) (listener : Listener) : Bool :=
  listener.isKeyed registration.kind registration.key

end Registration

def registerAll (listeners : List Listener) (registrations : List Registration) : List Listener :=
  registrations.foldl (fun listeners registration => register listeners registration.listener)
    listeners

theorem register_listener (listeners : List Listener) (registration : Registration) :
    register listeners registration.listener =
      listeners.filter (fun listener => !registration.replaces listener) ++
        [registration.listener] :=
  rfl

theorem registerAll_append (listeners : List Listener) (first second : List Registration) :
    registerAll listeners (first ++ second) = registerAll (registerAll listeners first) second :=
  List.foldl_append

/-- What was there before comes first, without what is replaced; the rest does not depend on it. -/
theorem registerAll_eq (listeners : List Listener) (registrations : List Registration) :
    registerAll listeners registrations =
      listeners.filter (fun listener => !registrations.any (fun each => each.replaces listener)) ++
        registerAll [] registrations := by
  induction registrations generalizing listeners with
  | nil => simp [registerAll]
  | cons first rest ih =>
      have later : ∀ held, registerAll held (first :: rest) =
          registerAll (register held first.listener) rest := fun _ => rfl
      rw [later, later, ih, ih (register [] first.listener), register_listener, register_listener]
      simp only [List.filter_append, List.filter_filter, List.append_assoc, List.filter_nil,
        List.nil_append, List.any_cons, Bool.not_or]
      simp only [Bool.and_comm]

/-- Registrations leave listeners under their own keys only, if there were none before. -/
theorem any_replaces_of_mem {registrations : List Registration} {listener : Listener}
    (member : listener ∈ registerAll [] registrations) :
    registrations.any (fun each => each.replaces listener) = true := by
  induction registrations with
  | nil => cases member
  | cons first rest ih =>
      have later : registerAll [] (first :: rest) = registerAll [first.listener] rest := rfl
      rw [later, registerAll_eq, List.mem_append] at member
      rw [List.any_cons, Bool.or_eq_true]
      rcases member with new | old
      · rw [List.mem_singleton.mp (List.mem_of_mem_filter new)]
        simp [Registration.replaces, Registration.listener, Listener.isKeyed]
      · exact Or.inr (ih old)

/-- The same registrations once more change nothing: what they registered moves to the end, where it
is. -/
theorem registerAll_again (listeners : List Listener) (registrations : List Registration) :
    registerAll (registerAll listeners registrations) registrations =
      registerAll listeners registrations := by
  have gone : (registerAll [] registrations).filter
      (fun listener => !registrations.any (fun each => each.replaces listener)) = [] := by
    rw [List.filter_eq_nil_iff]
    intro listener member
    rw [any_replaces_of_mem member]
    decide
  rw [registerAll_eq listeners, registerAll_eq, List.filter_append, List.filter_filter, gone]
  simp only [Bool.and_self, List.append_nil]

end Mouse

/-- Values for properties of a widget, for those that are set at all, and keyed mouse listeners. -/
structure Decoration where
  foreground : Option (Option Color) := none
  background : Option (Option Color) := none
  family : Option String := none
  size : Option Float32 := none
  bold : Option Bool := none
  italic : Option Bool := none
  border : Option (Option Border) := none
  visible : Option Bool := none
  enabled : Option Bool := none
  tooltip : Option (Option String) := none
  text : Option (Option String) := none
  columns : Option UInt16 := none
  listeners : List Mouse.Registration := []

namespace Decoration

def applyToLook (decoration : Decoration) (look : Look) : Look where
  foreground := decoration.foreground.getD look.foreground
  background := decoration.background.getD look.background
  font :=
    ⟨decoration.family.getD look.font.family, decoration.size.getD look.font.size,
      decoration.bold.getD look.font.bold, decoration.italic.getD look.font.italic⟩
  border := decoration.border.getD look.border
  visible := decoration.visible.getD look.visible
  enabled := decoration.enabled.getD look.enabled
  tooltip := decoration.tooltip.getD look.tooltip

def applyTo (decoration : Decoration) (node : Node) : Node :=
  { node with
    look := decoration.applyToLook node.look
    text := decoration.text.getD node.text
    columns := decoration.columns.getD node.columns
    listeners := Mouse.registerAll node.listeners decoration.listeners }

/-- A decoration and then another one, whose values stand. -/
def andThen (first second : Decoration) : Decoration where
  foreground := second.foreground.or first.foreground
  background := second.background.or first.background
  family := second.family.or first.family
  size := second.size.or first.size
  bold := second.bold.or first.bold
  italic := second.italic.or first.italic
  border := second.border.or first.border
  visible := second.visible.or first.visible
  enabled := second.enabled.or first.enabled
  tooltip := second.tooltip.or first.tooltip
  text := second.text.or first.text
  columns := second.columns.or first.columns
  listeners := first.listeners ++ second.listeners

def all (decorations : List Decoration) : Decoration := decorations.foldr andThen {}

variable (first second decoration : Decoration) (node : Node)

theorem applyTo_andThen : (first.andThen second).applyTo node = second.applyTo (first.applyTo node) := by
  simp only [applyTo, applyToLook, andThen, Option.getD_or, Mouse.registerAll_append]

/-- A value that is set twice is set. -/
theorem getD_getD {α : Type} (value : Option α) (before : α) :
    value.getD (value.getD before) = value.getD before := by
  cases value <;> rfl

/-- Wearing a decoration once more makes no difference. -/
theorem applyTo_again : decoration.applyTo (decoration.applyTo node) = decoration.applyTo node := by
  simp only [applyTo, applyToLook, getD_getD, Mouse.registerAll_again]

theorem applyTo_all_cons (rest : List Decoration) :
    (all (first :: rest)).applyTo node = (all rest).applyTo (first.applyTo node) :=
  applyTo_andThen first (all rest) node

theorem applyTo_all_append (one other : List Decoration) :
    (all (one ++ other)).applyTo node = (all other).applyTo ((all one).applyTo node) := by
  induction one generalizing node with
  | nil => rfl
  | cons first rest ih => rw [List.cons_append, applyTo_all_cons, applyTo_all_cons, ih]

/-- What was worn last may be worn again. -/
theorem applyTo_all_again (earlier last : List Decoration) :
    (all (earlier ++ last ++ last)).applyTo node = (all (earlier ++ last)).applyTo node := by
  rw [applyTo_all_append, applyTo_all_append, applyTo_again]

end Decoration

/-- The decoration that a change of a property comes to, if it sets a display or text property to a
constant. -/
def Session.Change.decoration? : Session.Change → Option Decoration
  | .setForeground color => some { foreground := some (some color) }
  | .setBackground color => some { background := some (some color) }
  | .setFont font =>
    some { family := some font.family, size := some font.size, bold := some font.bold,
           italic := some font.italic }
  | .setFontSize size => some { size := some size }
  | .setBorder border => some { border := some (some border) }
  | .clearBorder => some { border := some none }
  | .setVisible value => some { visible := some value }
  | .setEnabled value => some { enabled := some value }
  | .setTooltip text => some { tooltip := some (some text) }
  | .setText text | .setTitle text => some { text := some (some text) }
  | .setColumns count => some { columns := some count }
  | _ => none

theorem Session.Change.applyTo_of_decoration? {change : Session.Change} {decoration : Decoration}
    (decorates : change.decoration? = some decoration) (node : Node) :
    change.applyTo node = decoration.applyTo node := by
  cases change <;> cases decorates <;> rfl

/-- The listener, with what is read of its handler in place of it. -/
def Mouse.Listener.reading (reads : HandlerId → HandlerId) (listener : Mouse.Listener) :
    Mouse.Listener :=
  { listener with handler := reads listener.handler }

theorem Mouse.map_reading_register (reads : HandlerId → HandlerId) (listeners : List Mouse.Listener)
    (listener : Mouse.Listener) :
    (Mouse.register listeners listener).map (Mouse.Listener.reading reads) =
      Mouse.register (listeners.map (Mouse.Listener.reading reads)) (listener.reading reads) := by
  obtain ⟨kind, key, handler⟩ := listener
  cases key with
  | none => exact List.map_append
  | some key =>
      simp only [Mouse.register, Mouse.Listener.reading, Mouse.forget, List.map_append,
        List.filter_map]
      rfl

def Node.reading (reads : HandlerId → HandlerId) (node : Node) : Node :=
  { node with listeners := node.listeners.map (Mouse.Listener.reading reads) }

end StyledTree
