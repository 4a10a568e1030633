import DeployPlan.Keyed
import DeployPlan.Text.Pieces
import DeployPlan.Text.Utf8

/-!
Files and directories below a root, found by the names that lead to them. Nothing lies below a file.
-/

namespace DeployPlan

inductive FileError where
  | notFound
  | isDirectory
  | notDirectory
  | invalidData
  | alreadyExists
deriving DecidableEq, Repr

def FileError.name : FileError → String
  | .notFound => "NotFound"
  | .isDirectory => "IsADirectory"
  | .notDirectory => "NotADirectory"
  | .invalidData => "InvalidData"
  | .alreadyExists => "AlreadyExists"

inductive FileEntry where
  | directory
  | file (bytes : List UInt8)
deriving DecidableEq, Repr

structure Files where
  entries : List (List String × FileEntry) := []
deriving Repr, Inhabited

namespace Files

def namesOf (path : String) : List String :=
  (Text.pieces '/' path).filter fun name => name ≠ "" ∧ name ≠ "."

/-- What names lead to. No names lead to the root, which is always there. -/
def at? (fs : Files) : List String → Option FileEntry
  | [] => some .directory
  | names => fs.entries.lookup names

def blocked (fs : Files) (names : List String) : Bool :=
  (List.range names.length).any fun n =>
    match fs.at? (names.take n) with
    | some (.file _) => true
    | _ => false

/-- The error about names that lead to nothing. -/
def absence (fs : Files) (names : List String) : FileError :=
  if fs.blocked names then .notDirectory else .notFound

def bytes (fs : Files) (names : List String) : Except FileError (List UInt8) :=
  match fs.at? names with
  | some (.file bs) => .ok bs
  | some .directory => .error .isDirectory
  | none => .error (fs.absence names)

def text (fs : Files) (names : List String) : Except FileError String := do
  match Text.Utf8.decode? (← fs.bytes names) with
  | some cs => return String.ofList cs
  | none => .error .invalidData

def addDirectory (fs : Files) (names : List String) : Except FileError Files :=
  match fs.at? names with
  | some .directory => .ok fs
  | some (.file _) => .error .alreadyExists
  | none =>
    if fs.blocked names then .error .notDirectory
    else
      .ok ⟨(List.range names.length).foldl
        (fun es n => putEntry (names.take (n + 1)) .directory es) fs.entries⟩

def write (fs : Files) (names : List String) (bs : List UInt8) : Except FileError Files :=
  match fs.at? names with
  | some .directory => .error .isDirectory
  | some (.file _) => .ok ⟨putEntry names (.file bs) fs.entries⟩
  | none =>
    match fs.at? names.dropLast with
    | some .directory => .ok ⟨putEntry names (.file bs) fs.entries⟩
    | _ => .error (fs.absence names)

def remove (fs : Files) (names : List String) : Except FileError Files :=
  match fs.at? names with
  | some .directory => .error .isDirectory
  | some (.file _) => .ok ⟨fs.entries.filter fun e => e.1 ≠ names⟩
  | none => .error (fs.absence names)

end Files

end DeployPlan
