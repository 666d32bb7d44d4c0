import FrameSchema.Octets
import FrameSchema.Text.Case

/-!
# Files — reading and writing texts, on a disk or in a tree of files held as a value

What a command does with files is written over `Files`, so it runs on a disk and on a `FileTree`
alike.  A tree is a list of entries, each under the steps that lead to it from the root, together
with the folder in which relative paths start.  A path is followed step by step, and each step but
the last has to be a folder.
-/

namespace FrameSchema

/-- Why a file cannot be read or written. -/
inductive FileFault where
  | notFound
  | notFolder
  | isFolder
  | nameTooLong
  | notText
  | other (text : String)
  deriving DecidableEq, Repr

/-- The wording of a fault. -/
def FileFault.message : FileFault → String
  | notFound => "No such file or directory (os error 2)"
  | notFolder => "Not a directory (os error 20)"
  | isFolder => "Is a directory (os error 21)"
  | nameTooLong => "File name too long (os error 36)"
  | notText => "stream did not contain valid UTF-8"
  | other text => text

/-- A place where texts are read and written. -/
class Files (m : Type → Type) where
  readText : (path : String) → m (Except FileFault String)
  writeText : (path text : String) → m (Except FileFault Unit)

/-! ## Trees as values -/

/-- What stands under a path. -/
inductive Entry where
  | file (octets : Octets)
  | folder
  /-- A device that is always empty and forgets what is written to it. -/
  | sink
  deriving DecidableEq, Repr

/-- Files and folders, each under the steps that lead to it from the root. -/
structure FileTree where
  /-- The steps to the folder in which relative paths start. -/
  home : List String
  entries : List (List String × Entry)
  deriving DecidableEq, Repr

namespace FileTree

/-- A tree with entries of its home folder and nothing else. -/
def ofHome (home : List String) (entries : List (String × Entry)) : FileTree where
  home := home
  entries := entries.map fun (name, entry) => (home ++ [name], entry)

/-- What stands behind some steps; the root, the home folder and what lies between are folders. -/
def entry? (tree : FileTree) (steps : List String) : Option Entry :=
  if steps.isPrefixOf tree.home then some .folder else tree.entries.lookup steps

/-- Puts an entry behind some steps, in place of an earlier one. -/
def put (tree : FileTree) (steps : List String) (entry : Entry) : FileTree where
  home := tree.home
  entries := (steps, entry) :: tree.entries.filter (·.1 != steps)

/-- How many octets a name may have. -/
def maxName : Nat := 255

/-- How many octets a path may have. -/
def maxPath : Nat := 4095

/-- Follows steps, from those already taken.  Empty steps and single dots stay where they are, two
dots go back, but not behind the root. -/
def follow (tree : FileTree) : (taken steps : List String) → Except FileFault (List String)
  | taken, [] => .ok taken
  | taken, step :: steps =>
    match tree.entry? taken with
    | none => .error .notFound
    | some (.file _) | some .sink => .error .notFolder
    | some .folder =>
      if step == "" || step == "." then tree.follow taken steps
      else if step == ".." then tree.follow taken.dropLast steps
      else if maxName < step.utf8ByteSize then .error .nameTooLong
      else tree.follow (taken ++ [step]) steps

/-- The steps of a path as written. -/
def pathSteps (path : String) : List String :=
  (Text.splitPieces (· == '/') path.toList).map String.ofList

/-- Where a path starts: a slash in front means the root. -/
def start (tree : FileTree) (path : String) : Except FileFault (List String) :=
  if maxPath < path.utf8ByteSize then .error .nameTooLong
  else match path.toList with
    | [] => .error .notFound
    | '/' :: _ => .ok []
    | _ => .ok tree.home

/-- The text of a file. -/
def readText (tree : FileTree) (path : String) : Except FileFault String := do
  match tree.entry? (← tree.follow (← tree.start path) (pathSteps path)) with
  | none => .error .notFound
  | some .folder => .error .isFolder
  | some .sink => .ok ""
  | some (.file octets) =>
    match octets.toText? with
    | some text => .ok text
    | none => .error .notText

/-- The steps to a file that is to be written, new or not.  A path that ends in a slash can only
name a folder, whatever its last name is; the folder around it has to be there all the same. -/
def target (tree : FileTree) (path : String) : Except FileFault (List String) := do
  let start ← tree.start path
  let named := pathSteps path
  let trimmed := (named.reverse.dropWhile String.isEmpty).reverse
  if trimmed = named then tree.follow start named
  else
    let _ ← tree.follow start (trimmed.dropLast ++ ["."])
    .error .isFolder

/-- The tree after a text was written to a file. -/
def writeText (tree : FileTree) (path text : String) : Except FileFault FileTree := do
  let steps ← tree.target path
  match tree.entry? steps with
  | some .folder => .error .isFolder
  | some .sink => .ok tree
  | some (.file _) | none => .ok (tree.put steps (.file (Octets.ofText text)))

end FileTree

instance : Files (StateM FileTree) where
  readText path := return (← get).readText path
  writeText path text := do
    match (← get).writeText path text with
    | .ok tree => set tree; return .ok ()
    | .error fault => return .error fault

end FrameSchema
