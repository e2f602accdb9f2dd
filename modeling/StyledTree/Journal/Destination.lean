import StyledTree.Text.Blank

set_option autoImplicit false

/-!
Destinations of the journal. A path leads to a file that can be written if all its names but the
last lead through directories and the last one names no directory. Names are followed one by one,
so that a name that leads nowhere refuses the path even if two dots come after it. Only the
directories and links that an ordinary system has are taken to stand.
-/

namespace StyledTree.Journal

open Text

/-- A directory by the names that lead to it from the root, the innermost first. A name may be
unknown; the root has none. -/
structure Directory where
  names : List (Option String)
deriving DecidableEq

namespace Directory

def root : Directory := ⟨[]⟩

/-- The directory under known names, the innermost first. -/
def under (names : List String) : Directory := ⟨names.map some⟩

/-- The working directory: two unknown names below the root. -/
def working : Directory := ⟨[none, none]⟩

/-- The directories that stand below the root. -/
def standing : List Directory :=
  [under ["boot"], under ["dev"], under ["etc"], under ["home"], under ["media"], under ["mnt"],
    under ["opt"], under ["proc"], under ["root"], under ["run"], under ["srv"], under ["sys"],
    under ["tmp"], under ["usr"], under ["var"],
    under ["pts", "dev"], under ["shm", "dev"], under ["lock", "run"],
    under ["bin", "usr"], under ["games", "usr"], under ["include", "usr"], under ["lib", "usr"],
    under ["lib64", "usr"], under ["local", "usr"], under ["sbin", "usr"], under ["share", "usr"],
    under ["src", "usr"], under ["bin", "local", "usr"], under ["etc", "local", "usr"],
    under ["games", "local", "usr"], under ["include", "local", "usr"],
    under ["lib", "local", "usr"], under ["sbin", "local", "usr"], under ["share", "local", "usr"],
    under ["src", "local", "usr"],
    under ["backups", "var"], under ["cache", "var"], under ["lib", "var"],
    under ["local", "var"], under ["log", "var"], under ["mail", "var"], under ["opt", "var"],
    under ["spool", "var"], under ["tmp", "var"],
    under ["1", "proc"], under ["bus", "proc"], under ["driver", "proc"], under ["fs", "proc"],
    under ["irq", "proc"], under ["self", "proc"], under ["sys", "proc"], under ["tty", "proc"],
    under ["attr", "self", "proc"], under ["fd", "self", "proc"], under ["fdinfo", "self", "proc"],
    under ["net", "self", "proc"], under ["ns", "self", "proc"], under ["task", "self", "proc"],
    under ["fs", "sys", "proc"], under ["kernel", "sys", "proc"], under ["net", "sys", "proc"],
    under ["vm", "sys", "proc"],
    under ["block", "sys"], under ["bus", "sys"], under ["class", "sys"], under ["dev", "sys"],
    under ["devices", "sys"], under ["firmware", "sys"], under ["fs", "sys"],
    under ["kernel", "sys"], under ["module", "sys"], under ["power", "sys"]]

/-- The names that stand for directories elsewhere. -/
def links : List (Directory × Directory) :=
  [(under ["bin"], under ["bin", "usr"]), (under ["lib"], under ["lib", "usr"]),
    (under ["lib64"], under ["lib64", "usr"]), (under ["sbin"], under ["sbin", "usr"]),
    (under ["lock", "var"], under ["lock", "run"]), (under ["run", "var"], under ["run"]),
    (under ["fd", "dev"], under ["fd", "self", "proc"]),
    (under ["net", "proc"], under ["net", "self", "proc"]),
    (under ["thread-self", "proc"], ⟨none :: (under ["task", "self", "proc"]).names⟩),
    (under ["cwd", "self", "proc"], working), (under ["root", "self", "proc"], root)]

/-- The outermost names below which no file can be made. -/
def closed : List String := ["proc", "sys"]

/-- No file can be made in the directory. -/
def isClosed (directory : Directory) : Bool :=
  directory = under ["pts", "dev"] ||
    closed.any (fun name => directory.names.getLast? == some (some name))

/-- The directory that a name stands for inside another one: an empty name and one dot stand for
the directory itself, two dots for the one around it, and the root is around itself. -/
def enter? (directory : Directory) (name : String) : Option Directory :=
  if name = "" ∨ name = "." then some directory
  else if name = ".." then some ⟨directory.names.tail⟩
  else
    let inner : Directory := ⟨some name :: directory.names⟩
    (links.lookup inner).or (if standing.contains inner then some inner else none)

end Directory

/-- The bytes that a path and one name in it may have. -/
def longestPath : Nat := 4095
def longestName : Nat := 255

/-- The names in a path, with an empty one before a leading and after a closing slash. -/
def pathNames (path : String) : List String :=
  (segments '/' path.toList).map String.ofList

/-- The three standard streams, which can be written although they stand in a closed directory. -/
def streams : List String := ["0", "1", "2"]

/-- The terminal of a process that has none cannot be opened. -/
def isTerminal (directory : Directory) (name : String) : Bool :=
  directory = .under ["dev"] && name == "tty"

/-- A file of this name can be opened, or else made, in the directory. -/
def admitsFile (directory : Directory) (name : String) : Bool :=
  if directory.isClosed then directory = .under ["fd", "self", "proc"] && streams.contains name
  else
    name.utf8ByteSize ≤ longestName && (directory.enter? name).isNone &&
      !isTerminal directory name

/-- The path leads to a file that can be written. -/
def canWrite (path : String) : Bool :=
  if path.toList.contains '\x00' || longestPath < path.utf8ByteSize then false
  else
    let start := if path.toList.head? = some '/' then Directory.root else Directory.working
    match (pathNames path).dropLast.foldlM Directory.enter? start, (pathNames path).getLast? with
    | some directory, some name => admitsFile directory name
    | _, _ => false

end StyledTree.Journal
