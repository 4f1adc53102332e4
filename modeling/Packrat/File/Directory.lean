import Packrat.File.Access

/-! A directory of files in memory. -/
namespace Packrat

/-- A place below a directory: the names that lead to it. -/
abbrev Place := List String

/-- What stands at the places below a directory. The directory itself is the empty place. -/
structure Directory where
  files : List (Place × String) := []
  folders : List Place := []

namespace Directory

inductive Obstacle where
  | missing | notFolder | isFolder | nameTooLong | nulByte
  deriving DecidableEq, Repr

def Obstacle.reason : Obstacle → String
  | missing => "No such file or directory (os error 2)"
  | notFolder => "Not a directory (os error 20)"
  | isFolder => "Is a directory (os error 21)"
  | nameTooLong => "File name too long (os error 36)"
  | nulByte => "file name contained an unexpected NUL byte"

def isFolder (d : Directory) (p : Place) : Bool := p.isEmpty || d.folders.contains p

def file? (d : Directory) (p : Place) : Option String := d.files.lookup p

def enter (d : Directory) (p : Place) : Except Obstacle Unit :=
  if d.isFolder p then .ok ()
  else if (d.file? p).isSome then .error .notFolder
  else .error .missing

/-- The place that names lead to. All but the last must lead to folders. -/
def walk (d : Directory) : (here : Place) → (names : List String) → Except Obstacle Place
  | here, [] => .ok here
  | here, name :: rest => do
    d.enter here
    if name.utf8ByteSize > 255 then .error .nameTooLong
    else if name = "." then d.walk here rest
    else if name = ".." then d.walk here.dropLast rest
    else d.walk (here ++ [name]) rest

def names (path : String) : List String :=
  ((Path.split path.toList).filter (!·.isEmpty)).map String.ofList

/-- The place of a path, and whether it must be a folder, as a slash at the end says. A path takes
at most 4095 bytes, none of them zero. -/
def locate (d : Directory) (path : String) : Except Obstacle (Place × Bool) := do
  if path = "" then .error .missing
  else if path.contains '\x00' then .error .nulByte
  else if path.utf8ByteSize > 4095 then .error .nameTooLong
  else
    let place ← d.walk [] (names path)
    return (place, path.toList.getLast? == some '/')

def read (d : Directory) (path : String) : Except Obstacle String := do
  let (place, slash) ← d.locate path
  match d.file? place with
  | some text => if slash then .error .notFolder else return text
  | none => .error (if d.isFolder place then .isFolder else .missing)

def write (d : Directory) (path text : String) : Except Obstacle Directory := do
  let (place, slash) ← d.locate path
  if d.isFolder place then .error .isFolder
  else if slash then .error (if (d.file? place).isSome then .notFolder else .isFolder)
  else return { d with files := (place, text) :: d.files.filter (·.1 != place) }

def addFolder (d : Directory) (path : String) : Except Obstacle Directory := do
  let (place, _) ← d.locate path
  if d.isFolder place || (d.file? place).isSome then return d
  else return { d with folders := place :: d.folders }

/-- Access to the files of a directory that is kept as a state. -/
def access : FileAccess (StateM Directory) where
  read path := do return ((← get).read path).mapError Obstacle.reason
  write path text := do
    match (← get).write path text with
    | .ok d =>
      set d
      return .ok ()
    | .error e => return .error e.reason

end Directory

end Packrat
