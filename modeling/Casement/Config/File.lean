import Casement.Config.Records
import Casement.Config.Ron.Writer
import Casement.Config.Tables
import Casement.Config.Toml.Reader
import Casement.Config.Toml.Writer

/-!
# Configuration files

The end of a file's name tells its format.
-/

namespace Casement

/-- Why a file could not be read or written. -/
inductive FileError where
  | notFound
  | notText
  deriving DecidableEq, Repr

def FileError.message : FileError → String
  | .notFound => "No such file or directory (os error 2)"
  | .notText => "stream did not contain valid UTF-8"

inductive ConfigError where
  | file (cause : FileError)
  | malformed
  | unsupported (path : String)
  deriving DecidableEq, Repr

/-- What is wrong with a malformed document is not told. -/
def ConfigError.message : ConfigError → String
  | .file cause => "IO error: " ++ cause.message
  | .malformed => "Parse error: "
  | .unsupported path => "Unsupported format: " ++ path

/-! ## Formats -/

inductive FileFormat where
  | toml
  | ron
  deriving DecidableEq, Repr

def FileFormat.ofPath? (path : String) : Option FileFormat :=
  if ".toml".toList.isSuffixOf path.toList then some .toml
  else if ".ron".toList.isSuffixOf path.toList then some .ron
  else none

/-- How configurations of a type stand in documents. -/
structure Schema (α : Type) where
  toTable : α → Toml.Table
  ofTable? : Toml.Table → Option α
  shape : Ron.Shape
  toRecord : α → Ron.Value
  ofRecord? : Ron.Value → Option α

def ContextConfig.schema : Schema ContextConfig where
  toTable := toTable
  ofTable? t := ofValue? (.table t)
  shape := shape
  toRecord := toRecord
  ofRecord? := ofRecord?

def DemoConfig.schema : Schema DemoConfig where
  toTable := toTable
  ofTable? t := ofValue? (.table t)
  shape := shape
  toRecord := toRecord
  ofRecord? := ofRecord?

namespace Schema

variable {α : Type}

def render (s : Schema α) (c : α) : FileFormat → String
  | .toml => Toml.write (s.toTable c)
  | .ron => Ron.write (s.toRecord c)

def parse? (s : Schema α) (text : String) : FileFormat → Option α
  | .toml => (Toml.read? text).bind s.ofTable?
  | .ron => (Ron.read? s.shape text).bind s.ofRecord?

end Schema

/-! ## Files -/

/-- A folder of files by name. It has no folders in it. -/
structure Folder where
  files : List (String × ByteArray) := []

/-- What stands between the slashes of a path. -/
def pathSteps : List Char → List (List Char)
  | [] => [[]]
  | '/' :: rest => [] :: pathSteps rest
  | c :: rest =>
    match pathSteps rest with
    | [] => [[c]]
    | step :: more => (c :: step) :: more

/-- A step that stays where it is. -/
def isStay (step : List Char) : Bool := step = [] || step = ['.']

/-- The name that a path means in the folder it starts from: all steps before it stay there. -/
def nameOfPath? (path : String) : Option String :=
  match (pathSteps path.toList).reverse with
  | [] => none
  | name :: before =>
    if isStay name || name = ['.', '.'] || before.getLast? = some [] || !before.all isStay then none
    else some (String.ofList name)

namespace Folder

def write (f : Folder) (path : String) (bytes : ByteArray) : Except FileError Folder :=
  match nameOfPath? path with
  | none => .error .notFound
  | some name => .ok ⟨(name, bytes) :: f.files.filter (·.1 ≠ name)⟩

def readText (f : Folder) (path : String) : Except FileError String :=
  match (nameOfPath? path).bind fun name => f.files.lookup name with
  | none => .error .notFound
  | some bytes =>
    match String.fromUTF8? bytes with
    | none => .error .notText
    | some text => .ok text

end Folder

namespace Schema

variable {α : Type} (s : Schema α)

/-- Makes a configuration of what was read under a path. A file that cannot be read is told before a
format that is not supported. -/
def load (path : String) (contents : Except FileError String) : Except ConfigError α :=
  match contents with
  | .error cause => .error (.file cause)
  | .ok text =>
    match FileFormat.ofPath? path with
    | none => .error (.unsupported path)
    | some format =>
      match s.parse? text format with
      | none => .error .malformed
      | some c => .ok c

def loadFrom (f : Folder) (path : String) : Except ConfigError α := s.load path (f.readText path)

/-- Writes a configuration. A format that is not supported is told before a file that cannot be
written. -/
def saveTo (f : Folder) (path : String) (c : α) : Except ConfigError Folder :=
  match FileFormat.ofPath? path with
  | none => .error (.unsupported path)
  | some format =>
    match f.write path (s.render c format).toUTF8 with
    | .error cause => .error (.file cause)
    | .ok f => .ok f

end Schema

end Casement
