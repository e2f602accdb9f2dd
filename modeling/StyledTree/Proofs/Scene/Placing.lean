import StyledTree.Proofs.Scene.Attaching
import StyledTree.Proofs.Scene.Dropping

set_option autoImplicit false

namespace StyledTree.Scene

variable {ε : Type}

section Commit

variable {scene : Scene ε} {parent child : WidgetId} {room : Forest} {inserted : Except Fault Forest}
  {fault : Fault}

end Commit

section RefusesToSettle

variable {forest : Forest} {widget : WidgetId} {constraint : Constraint} {fault : Fault}

end RefusesToSettle

theorem settle_of_pending {scene : Scene ε} {widget container : WidgetId} (constraint : Constraint)
    (isPending : scene.forest.pending? widget = some container) :
    scene.settle widget constraint = scene.commit container widget
      (.ofInsertion (scene.forest.vacate container constraint (some widget))
        ((scene.forest.vacate container constraint (some widget)).addWith container widget
          constraint)) := by
  rw [settle, Forest.settle, isPending]
  rfl

def labelledAt (kind : Kind) (place : Constraint) : Scene Unit :=
  (((((Scene.fresh ()).spawn kind).2.spawn .label).2).addWith ⟨0⟩ ⟨1⟩ place).2

theorem reaches_labelledAt (kind : Kind) (place : Constraint) :
    Reaches (Scene.fresh ()) (labelledAt kind place) :=
  ((Reaches.step (Step.spawn _ kind)).trans (Reaches.step (Step.spawn _ .label))).trans
    (Reaches.step (Step.addWith _ ⟨0⟩ ⟨1⟩ place))

end StyledTree.Scene
