/-
  File:      OpenerPolicy/Settings/Document.lean
  Subject:   SETTINGS IN FILES.

  A file is read as text, the text as JSON, and the value is checked; each step has faults of its own,
  and the first one ends the reading. Written settings are indented JSON with all members, in ASCII.

  * `readDocument` -- the checked value of a file;
  * `Settings.load`, `Settings.loading` -- the settings of a file, which has to be there;
  * `Settings.document`, `Settings.save` -- the text of settings, and writing it to a file;
  * `DocumentFault.message`, `DocumentFault.kind` -- the texts and the kinds of the faults.
-/
import OpenerPolicy.Files.Tree
import OpenerPolicy.Json.Reader
import OpenerPolicy.Json.Writer
import OpenerPolicy.Settings.Model
import OpenerPolicy.Text.Case
import OpenerPolicy.Text.EncodingName

namespace OpenerPolicy

open Files

namespace Settings

/-! ## 1. Faults -/

/-- Why a file gives no value. `kind` is what the file is called in messages. -/
inductive DocumentFault where
  /-- Nothing is there. -/
  | absent (kind : String) (path : Path)
  /-- It cannot be found out whether something is there. -/
  | unreachable (f : FileFault)
  | unreadable (kind : String) (path : Path) (f : FileFault)
  /-- The name of the encoding holds a zero character. -/
  | unusableEncoding
  | noEncoding (f : Text.NameFault)
  | undecodable (f : Text.TextFault)
  | malformed (kind : String) (path : Path) (f : Json.ReadFault)
  | invalid (kind : String) (path : Path) (issues : List Issue)

/-- **The text of a fault.** A path that no file can have, and an integer that is too long, are
    reported without the file. -/
def DocumentFault.message : DocumentFault → String
  | .absent kind path => Text.capitalized kind ++ " file not found at " ++ path.text ++ "."
  | .unreachable f => f.message
  | .unreadable _ _ ⟨.zeroCharacter, path⟩ => FileFault.message ⟨.zeroCharacter, path⟩
  | .unreadable kind path f => "Could not read " ++ kind ++ " file " ++ path.text ++ ": " ++ f.message
  | .unusableEncoding => "embedded null character"
  | .noEncoding f => f.message
  | .undecodable f => f.message
  | .malformed _ _ (.longInteger digits) => (Json.ReadFault.longInteger digits).message
  | .malformed kind path f => "Invalid JSON in " ++ kind ++ " file " ++ path.text ++ ": " ++ f.message
  | .invalid kind path issues =>
    "Invalid " ++ kind ++ " file " ++ path.text ++ ":\n"
      ++ "\n".intercalate (issues.map fun i => "  - " ++ i.text)

/-- **The name of the kind of a fault.** Only a file that is not there, bytes that are no text and an
    encoding that cannot be used have kinds of their own. -/
def DocumentFault.kind : DocumentFault → String
  | .absent _ _ => "FileNotFoundError"
  | .unreachable f => f.kind
  | .unreadable _ _ _ => "ValueError"
  | .unusableEncoding => "ValueError"
  | .noEncoding _ => "LookupError"
  | .undecodable (.malformed _) | .undecodable (.noPunycode (.malformed _))
  | .undecodable (.noLabels (.malformed _)) => "UnicodeDecodeError"
  | .undecodable .unusableSet => "RuntimeError"
  | .undecodable _ => "UnicodeError"
  | .malformed _ _ _ => "ValueError"
  | .invalid _ _ _ => "ValueError"

/-! ## 2. Reading -/

/-- **Refuses a path where nothing is.** -/
def requireFile (t : Tree) (path : Path) (kind : String) : Except DocumentFault Unit :=
  match t.holds path with
  | .ok true => .ok ()
  | .ok false => .error (.absent kind path)
  | .error f => .error (.unreachable f)

/-- The code points of a file, every end of line as a single line feed. -/
def readPoints (t : Tree) (path : Path) (kind encoding : String) : Except DocumentFault (List Nat) := do
  if holdsZero encoding then .error .unusableEncoding
  else
    let bytes ← (t.read path).mapError (.unreadable kind path)
    let e ← (Text.Encoding.ofName encoding).mapError .noEncoding
    let points ← (e.decode bytes).mapError .undecodable
    return Text.unifyLineEnds points

/-- **The checked value of a file.** -/
def readDocument {α : Type} (t : Tree) (path : Path) (kind encoding : String)
    (check : Json → Checked α) : Except DocumentFault α := do
  let points ← readPoints t path kind encoding
  let value ← (Json.parse points).mapError (.malformed kind path)
  (check value).mapError (.invalid kind path)

/-- The encoding of settings. -/
def encodingName : String := "utf-8"

/-- **The settings of a file.** -/
def load (t : Tree) (path : Path) : Except DocumentFault Settings := do
  requireFile t path "configuration"
  readDocument t path "config" encodingName Settings.check

/-- Loading as a step: the tree after it, which is the one before, and the outcome. -/
def loading (t : Tree) (path : Path) : Tree × Except DocumentFault Settings := (t, load t path)

/-! ## 3. Writing -/

/-- **The text of settings.** -/
def document (s : Settings) : String := s.toJson.indented ++ "\n"

/-- **Writes settings to a file**, after the directories above it. The tree is given back in either
    case: directories made before a fault stay. -/
def save (s : Settings) (t : Tree) (path : Path) : Tree × Except FileFault Unit :=
  match t.makeDirs path.parent with
  | (t, .error f) => (t, .error f)
  | (t, .ok ()) =>
    match t.write path (Text.utf8Bytes s.document) with
    | .ok t => (t, .ok ())
    | .error f => (t, .error f)

end Settings

end OpenerPolicy
