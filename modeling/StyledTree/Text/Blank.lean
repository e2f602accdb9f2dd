set_option autoImplicit false

namespace StyledTree.Text

/-- The characters with the Unicode property White_Space. -/
def isSpace (c : Char) : Bool :=
  let code := c.toNat
  (0x09 ≤ code && code ≤ 0x0D) || code == 0x20 || code == 0x85 || code == 0xA0 ||
    code == 0x1680 || (0x2000 ≤ code && code ≤ 0x200A) || code == 0x2028 || code == 0x2029 ||
    code == 0x202F || code == 0x205F || code == 0x3000

/-- Space, tab, line feed and carriage return. -/
def isBlank (c : Char) : Bool :=
  c == ' ' || c == '\t' || c == '\n' || c == '\r'

theorem isSpace_of_isBlank {c : Char} (blank : isBlank c = true) : isSpace c = true := by
  simp only [isBlank, Bool.or_eq_true, beq_iff_eq] at blank
  rcases blank with ((rfl | rfl) | rfl) | rfl <;> decide

/-- The text without the white space at either end. -/
def trim (text : List Char) : List Char :=
  ((text.dropWhile isSpace).reverse.dropWhile isSpace).reverse

/-- Puts a character in front of the first run, or in a run of its own. -/
def consRun (c : Char) (joins : Bool) (runs : List (List Char)) : List (List Char) :=
  match joins, runs with
  | true, run :: rest => (c :: run) :: rest
  | _, _ => [c] :: runs

/-- The maximal runs of characters that satisfy `keep`, in order. -/
def runs (keep : Char → Bool) : List Char → List (List Char)
  | [] => []
  | c :: rest =>
    if keep c then consRun c (rest.head?.any keep) (runs keep rest) else runs keep rest

/-- The words of a text: what lies between its white space. -/
def words (text : List Char) : List (List Char) :=
  runs (fun c => !isSpace c) text

/-- The pieces between the occurrences of `separator`, empty ones included. -/
def segments (separator : Char) : List Char → List (List Char)
  | [] => [[]]
  | c :: rest =>
    if c = separator then [] :: segments separator rest
    else
      match segments separator rest with
      | [] => [[c]]
      | segment :: others => (c :: segment) :: others

end StyledTree.Text
