import StyledTree.Selector.PlainTree
import StyledTree.Dispatch.Desk
import StyledTree.Session.Execute
import StyledTree.Proofs.Ancestry
import StyledTree.Proofs.Forest.Shape
import StyledTree.Proofs.Forest.Preorder
import StyledTree.Proofs.Forest.Edits
import StyledTree.Proofs.Forest.Keeping
import StyledTree.Proofs.Scene.Running
import StyledTree.Proofs.Scene.Shape
import StyledTree.Proofs.Selector.Trails
import StyledTree.Proofs.Selector.Reading
import StyledTree.Proofs.Selector.Writing
import StyledTree.Proofs.Session.Running
import StyledTree.Proofs.Selector.Refusing
import StyledTree.Proofs.Enumerating
import StyledTree.Proofs.Forest.Surroundings
import StyledTree.Proofs.Scene.Holding
import StyledTree.Proofs.Scene.Turns
import StyledTree.Proofs.Style.Links
import StyledTree.Proofs.Scene.Styled
import StyledTree.Proofs.Scene.Nesting
import StyledTree.Proofs.Scene.Ending
import StyledTree.Proofs.Style.Groves
import StyledTree.Proofs.Style.Grafting
import StyledTree.Proofs.Scene.Moving
import StyledTree.Proofs.Scene.Assembling
import StyledTree.Proofs.Scene.Assembled
import StyledTree.Proofs.Style.Reaching
import StyledTree.Proofs.Scene.Losing
import StyledTree.Proofs.Scene.Revalidating
import StyledTree.Proofs.Scene.Freezing
import StyledTree.Proofs.Style.Carrying
import StyledTree.Proofs.Scene.Planning
import StyledTree.Proofs.Scene.Recording
import StyledTree.Proofs.Scene.Scoping
import StyledTree.Proofs.Widget.Decorating
import StyledTree.Proofs.Scene.Replaying
import StyledTree.Proofs.Scene.Attaching
import StyledTree.Proofs.Scene.Remembering
import StyledTree.Proofs.Forest.Moving
import StyledTree.Proofs.Scene.Touring
import StyledTree.Proofs.Dispatch.Interleaving
import StyledTree.Proofs.Dispatch.Serving
import StyledTree.Proofs.Forest.Placing
import StyledTree.Proofs.Scene.Placing
import StyledTree.Proofs.Scene.Forgetting
import StyledTree.Proofs.Forest.Occupants
import StyledTree.Proofs.Scene.Replacing
import StyledTree.Proofs.Scene.Framing
import StyledTree.Proofs.Scene.Searching
import StyledTree.Proofs.Scene.Building
import StyledTree.Proofs.Selector.Diagnosing
import StyledTree.Proofs.Scene.Outlining
import StyledTree.Proofs.Scene.Classing
import StyledTree.Proofs.Scene.Addressing
import StyledTree.Proofs.Scene.Copies
import StyledTree.Proofs.Widget.ClassList
import StyledTree.Proofs.Scene.Toggling
import StyledTree.Proofs.Selector.Relaxing
import StyledTree.Proofs.ListenerHistory
import StyledTree.Proofs.Scene.Listening
import StyledTree.Proofs.ChoiceHistory
import StyledTree.Proofs.Scene.Choosing
import StyledTree.Proofs.Forest.Relinking
import StyledTree.Proofs.Scene.Straying
