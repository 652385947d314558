import TokenSurvey.Storage.Sink
import TokenSurvey.Text.Pieces

/-! Files and folders by name, and what comes of reading and creating them. -/
namespace TokenSurvey.Storage

/-- Folders from the root down, and at last the name itself. -/
abbrev Path := List String

/-- Why a name cannot be read or created. -/
inductive Obstacle where
  | missing
  | notFolder
  | isFolder
  | nameTooLong
  | badName
  | other (text : String)
  deriving DecidableEq

def Obstacle.message : Obstacle → String
  | missing => "No such file or directory (os error 2)"
  | notFolder => "Not a directory (os error 20)"
  | isFolder => "Is a directory (os error 21)"
  | nameTooLong => "File name too long (os error 36)"
  | badName => "file name contained an unexpected NUL byte"
  | other text => text

abbrev Content := List UInt8

inductive Node where
  | file (content : Content)
  | folder

/-- Names are relative to `current`; every folder on the way to a file exists. -/
structure Disk where
  current : Path := []
  files : List (Path × Content) := []
  folders : List Path := []
  device : Path → Device := fun _ => {}

namespace Disk

def innermost (d : Disk) : List Path := d.current :: d.folders ++ d.files.map (·.1.dropLast)

/-- With a folder all folders around it are there. -/
def isFolder (d : Disk) (p : Path) : Bool := d.innermost.any fun folder => p.isPrefixOf folder

def node? (d : Disk) (p : Path) : Option Node :=
  match d.files.lookup p with
  | some content => some (.file content)
  | none => if d.isFolder p then some .folder else none

def longestPart : Nat := 255

def longestName : Nat := 4095

/-- A part of a name, met in a folder; the root is its own parent. -/
def enter (p : Path) (part : String) : Except Obstacle Path :=
  if part = "" ∨ part = "." then .ok p
  else if part = ".." then .ok p.dropLast
  else if longestPart < part.utf8ByteSize then .error .nameTooLong
  else .ok (p ++ [part])

/-- Every part but the first is met in what the ones before it lead to. -/
def walk (d : Disk) (p : Path) : List String → Except Obstacle Path
  | [] => .ok p
  | part :: parts =>
    match d.node? p with
    | none => .error .missing
    | some (.file _) => .error .notFolder
    | some .folder => do d.walk (← enter p part) parts

/-- A slash in front leads to the root. -/
def isAbsolute (name : String) : Bool := name.toList.head? = some '/'

def resolve (d : Disk) (name : String) : Except Obstacle Path :=
  if name = "" then .error .missing
  else if '\x00' ∈ name.toList then .error .badName
  else if longestName < name.utf8ByteSize then .error .nameTooLong
  else
    let start := if isAbsolute name then [] else d.current
    d.walk start ((Text.pieces '/' name.toList).map String.ofList)

def read (d : Disk) (name : String) : Except Obstacle Content := do
  match d.node? (← d.resolve name) with
  | some (.file content) => .ok content
  | some .folder => .error .isFolder
  | none => .error .missing

def isFile (d : Disk) (name : String) : Bool := (d.read name).isOk

/-- The path that a name gives to a new file, or to one that is replaced. -/
def destination (d : Disk) (name : String) : Except Obstacle Path := do
  let p ← d.resolve name
  match d.node? p with
  | some .folder => .error .isFolder
  | _ => .ok p

def put (d : Disk) (p : Path) (content : Content) : Disk :=
  { d with files := (p, content) :: d.files.filter fun (file, _) => file ≠ p }

end Disk
end TokenSurvey.Storage
