/-
  File:      OpenerPolicy/Files/Tree.lean
  Subject:   A TREE OF DIRECTORIES AND FILES, AND WHAT CAN BE DONE TO IT.

  A location is the list of names from the root on. The root is always a directory; every other
  location holds a directory, a file or nothing. Paths are followed part by part from the working
  directory: every part but the last has to lead to a directory, two dots lead to the directory
  above, and there are no links.

  * `Tree.walk` -- the location a path leads to, which may be free if only the last part is;
  * `Tree.read`, `Tree.write`, `Tree.append` -- the content of files;
  * `Tree.makeDirs` -- makes directories; those made before a fault stay;
  * `find?_put` -- what a location holds after a change.
-/
import OpenerPolicy.Files.Path
import OpenerPolicy.Keyed
import OpenerPolicy.Text.Quoted

namespace OpenerPolicy.Files

/-! ## 1. Faults -/

/-- Why a path cannot be used. -/
inductive Obstacle where
  | missing
  | exists
  | notDirectory
  | isDirectory
  | nameTooLong
  /-- The path holds a zero character. -/
  | zeroCharacter
  deriving DecidableEq, Repr

/-- An obstacle, and the path as it was given. -/
structure FileFault where
  obstacle : Obstacle
  path : String
  deriving DecidableEq, Repr

def Obstacle.describe : Obstacle → String
  | .missing => "[Errno 2] No such file or directory"
  | .exists => "[Errno 17] File exists"
  | .notDirectory => "[Errno 20] Not a directory"
  | .isDirectory => "[Errno 21] Is a directory"
  | .nameTooLong => "[Errno 36] File name too long"
  | .zeroCharacter => "embedded null byte"

def FileFault.message (f : FileFault) : String :=
  match f.obstacle with
  | .zeroCharacter => f.obstacle.describe
  | o => s!"{o.describe}: {Text.quoted f.path}"

/-- The name of the kind of a fault. -/
def FileFault.kind (f : FileFault) : String :=
  match f.obstacle with
  | .missing => "FileNotFoundError"
  | .exists => "FileExistsError"
  | .notDirectory => "NotADirectoryError"
  | .isDirectory => "IsADirectoryError"
  | .nameTooLong => "OSError"
  | .zeroCharacter => "ValueError"

/-! ## 2. Trees -/

abbrev Location := List String

inductive Node where
  | dir
  | file (content : List UInt8)
  deriving DecidableEq, Repr

/-- Directories and files, and the working directory. -/
structure Tree where
  nodes : Keyed Location Node
  working : Location

namespace Tree

/-- A tree with nothing but a working directory and those above it. -/
def empty (working : Location) : Tree :=
  ⟨(List.range working.length).map fun n => (working.take (n + 1), .dir), working⟩

/-- What a location holds. -/
def find? (t : Tree) (l : Location) : Option Node :=
  if l = [] then some .dir else Keyed.find? t.nodes l

def put (t : Tree) (l : Location) (n : Node) : Tree := { t with nodes := t.nodes.put l n }

/-- The longest name of a file, in bytes. -/
def maxNameBytes : Nat := 255

/-- **Follows the parts of a path.** Every part asks for a directory to start from; the last one may
    lead to a free location. -/
def walk (t : Tree) (here : Location) : List String → Except Obstacle Location
  | [] => .ok here
  | part :: rest =>
    match t.find? here with
    | none => .error .missing
    | some (.file _) => .error .notDirectory
    | some .dir =>
      if part = ".." then walk t here.dropLast rest
      else if maxNameBytes < part.utf8ByteSize then .error .nameTooLong
      else if rest.isEmpty then .ok (here ++ [part])
      else walk t (here ++ [part]) rest

/-- Where a path starts: at the working directory, or at the root. -/
def origin (t : Tree) (p : Path) : Location := if p.slashes = 0 then t.working else []

/-- The longest path, in bytes. -/
def maxPathBytes : Nat := 4095

/-- The location of a path. -/
def locate (t : Tree) (p : Path) : Except Obstacle Location :=
  if p.hasZero then .error .zeroCharacter
  else if maxPathBytes < p.text.utf8ByteSize then .error .nameTooLong
  else t.walk (t.origin p) p.parts

/-- What a path leads to. -/
def lookup (t : Tree) (p : Path) : Except Obstacle Node := do
  let l ← t.locate p
  match t.find? l with
  | none => .error .missing
  | some n => .ok n

/-! ## 3. Operations -/

/-- **Whether something is there.** Only a name or a path that is too long is a fault of its own. -/
def holds (t : Tree) (p : Path) : Except FileFault Bool :=
  match t.lookup p with
  | .ok _ => .ok true
  | .error .nameTooLong => .error ⟨.nameTooLong, p.text⟩
  | .error _ => .ok false

def isDir (t : Tree) (p : Path) : Bool :=
  match t.lookup p with
  | .ok .dir => true
  | _ => false

/-- **The content of a file.** -/
def read (t : Tree) (p : Path) : Except FileFault (List UInt8) :=
  match t.lookup p with
  | .ok (.file content) => .ok content
  | .ok .dir => .error ⟨.isDirectory, p.text⟩
  | .error o => .error ⟨o, p.text⟩

/-- Changes the content of the file at a location, which may be free; a directory is refused. -/
def update (t : Tree) (l : Location) (f : List UInt8 → List UInt8) : Except Obstacle Tree :=
  match t.find? l with
  | some .dir => .error .isDirectory
  | some (.file content) => .ok (t.put l (.file (f content)))
  | none => .ok (t.put l (.file (f [])))

/-- **Replaces the content of a file**, which is made if it is missing. -/
def write (t : Tree) (p : Path) (content : List UInt8) : Except FileFault Tree :=
  match t.locate p >>= fun l => t.update l fun _ => content with
  | .ok t => .ok t
  | .error o => .error ⟨o, p.text⟩

/-- Adds to the end of the file at a location; nothing happens if no file is there. -/
def append (t : Tree) (l : Location) (more : List UInt8) : Tree :=
  match t.find? l with
  | some (.file content) => t.put l (.file (content ++ more))
  | _ => t

/-- Makes one directory. -/
def makeDir (t : Tree) (p : Path) : Except Obstacle Tree := do
  let l ← t.locate p
  match t.find? l with
  | some _ => .error .exists
  | none => .ok (t.put l .dir)

/-- The outcome of making a directory, when one that is there already is enough. -/
def settle (t : Tree) (p : Path) : Except Obstacle Tree → Tree × Except FileFault Unit
  | .ok t => (t, .ok ())
  | .error .missing => (t, .error ⟨.missing, p.text⟩)
  | .error .zeroCharacter => (t, .error ⟨.zeroCharacter, p.text⟩)
  | .error o => (t, if t.isDir p then .ok () else .error ⟨o, p.text⟩)

/-- Makes a directory, after the `depth` ones above it if they are missing. -/
def makeDirsFrom (t : Tree) (p : Path) : (depth : Nat) → Tree × Except FileFault Unit
  | 0 => t.settle p (t.makeDir p)
  | depth + 1 =>
    match t.makeDir p with
    | .error .missing =>
      match makeDirsFrom t p.parent depth with
      | (t, .error f) => (t, .error f)
      | (t, .ok ()) => t.settle p (t.makeDir p)
    | outcome => t.settle p outcome

/-- **Makes a directory and those above it that are missing.** A directory that is there already is
    enough. The tree is given back in either case: what was made before a fault stays. -/
def makeDirs (t : Tree) (p : Path) : Tree × Except FileFault Unit :=
  t.makeDirsFrom p p.parts.length

/-! ## 4. Absolute paths -/

/-- Two dots taken back textually, without asking the tree. -/
def reduceDots : (done : List String) → List String → List String
  | done, [] => done.reverse
  | done, part :: rest => reduceDots (if part = ".." then done.drop 1 else part :: done) rest

/-- **The absolute path of a path**, with its dots taken back textually. -/
def absolute (t : Tree) (p : Path) : Path :=
  ⟨if p.slashes = 0 then 1 else p.slashes, reduceDots [] (t.origin p ++ p.parts)⟩

/-! ## 5. What a location holds after a change -/

theorem find?_put (t : Tree) (l l' : Location) (n : Node) (h : l ≠ []) :
    (t.put l n).find? l' = if l = l' then some n else t.find? l' := by
  unfold find? put
  by_cases h' : l' = []
  · subst h'
    simp [h]
  · simp [h']

end Tree

end OpenerPolicy.Files
