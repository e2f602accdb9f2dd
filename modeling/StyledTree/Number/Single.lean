import StyledTree.Number.Shortest

set_option autoImplicit false

namespace StyledTree.Number

/-- The parts of a single precision number. -/
inductive SingleParts where
  | notANumber
  | infinite (negative : Bool)
  | zero (negative : Bool)
  | finite (negative : Bool) (magnitude : Binary)

/-- Takes the 32 bits of a number apart: sign, eight bits of exponent, 23 bits of fraction. -/
def SingleParts.ofBits (bits : UInt32) : SingleParts :=
  let word := bits.toNat
  let negative := word / Nat.pow 2 31 == 1
  let exponent : Nat := word / Nat.pow 2 23 % Nat.pow 2 8
  let fraction : Nat := word % Nat.pow 2 23
  if exponent = 255 then
    if fraction = 0 then .infinite negative else .notANumber
  else if exponent = 0 then
    if fraction = 0 then .zero negative else .finite negative ⟨fraction, -149, false⟩
  else .finite negative ⟨Nat.pow 2 23 + fraction, (exponent : Int) - 150, fraction == 0 && exponent != 1⟩

def signText (negative : Bool) : String := if negative then "-" else ""

/-- The text of a single precision number. -/
def singleText (value : Float32) : String :=
  match SingleParts.ofBits value.toBits with
  | .notANumber => "NaN"
  | .infinite negative => signText negative ++ "inf"
  | .zero negative => signText negative ++ "0"
  | .finite negative magnitude => signText negative ++ magnitude.shortest.positional

end StyledTree.Number
