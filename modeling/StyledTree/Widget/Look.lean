set_option autoImplicit false

namespace StyledTree

/-- An opaque colour. -/
structure Color where
  red : UInt8
  green : UInt8
  blue : UInt8
deriving DecidableEq, Inhabited

namespace Color

def black : Color := ⟨0, 0, 0⟩
def white : Color := ⟨255, 255, 255⟩
def pureRed : Color := ⟨255, 0, 0⟩
def pureGreen : Color := ⟨0, 255, 0⟩
def pureBlue : Color := ⟨0, 0, 255⟩
def gray : Color := ⟨128, 128, 128⟩

/-- A byte as two hexadecimal digits. -/
def byteText (byte : UInt8) : String :=
  String.ofList [Nat.digitChar (byte.toNat / 16), Nat.digitChar (byte.toNat % 16)]

def text (color : Color) : String :=
  "#" ++ byteText color.red ++ byteText color.green ++ byteText color.blue

end Color

/-- A font; its size is in points. -/
structure Font where
  family : String
  size : Float32
  bold : Bool
  italic : Bool
deriving Inhabited

namespace Font

def defaultSize : Float32 := 12

def plain (family : String) (size : Float32) : Font := ⟨family, size, false, false⟩

/-- The font of a widget whose font was never set. -/
def dialog : Font := plain "Dialog" defaultSize

end Font

inductive Border where
  | line (color : Color) (thickness : UInt16)
  | space (top left bottom right : UInt16)
deriving DecidableEq, Inhabited

namespace Border

/-- The same empty space on all four sides. -/
def around (space : UInt16) : Border := .space space space space space

end Border

/-- The display properties that every widget has. -/
structure Look where
  foreground : Option Color
  background : Option Color
  font : Font
  border : Option Border
  visible : Bool
  enabled : Bool
  tooltip : Option String
deriving Inhabited

namespace Look

/-- A visible, enabled widget in the default font. -/
def fresh : Look := ⟨none, none, .dialog, none, true, true, none⟩

end Look

end StyledTree
