import Rehearsal.Text

namespace Rehearsal

inductive FileProblem
  | missing
  | notDirectory
  | isDirectory
  | nameTooLong
  | denied
  deriving DecidableEq, Repr

def FileProblem.isAbsence : FileProblem → Bool
  | .missing | .notDirectory => true
  | .isDirectory | .nameTooLong | .denied => false

def FileProblem.message (path : Text) (p : FileProblem) : String :=
  (match p with
  | .missing => "[Errno 2] No such file or directory: "
  | .notDirectory => "[Errno 20] Not a directory: "
  | .isDirectory => "[Errno 21] Is a directory: "
  | .nameTooLong => "[Errno 36] File name too long: "
  | .denied => "[Errno 13] Permission denied: ") ++ path.quoted

namespace Path

def parts : Text → List Text
  | .whole path =>
    ((path.splitOn "/").filter fun part => part != "" && part != ".").map .whole
  | .torn points _ =>
    ((Text.splitPoints '/'.toNat points).map .ofPoints).filter fun part =>
      part != .whole "" && part != .whole "."

/-- What a path starts with if it does not start here: one slash, or exactly two. -/
def rootText (path : Text) : String :=
  match (path.points.take 3).map Char.ofNat with
  | ['/', '/', '/'] => "/"
  | '/' :: '/' :: _ => "//"
  | '/' :: _ => "/"
  | _ => ""

def normal (path : Text) : Text :=
  let text := rootText path ++ Text.join "/" (parts path)
  if text.isEmpty then "." else text

/-- The end of a path from the last dot of its last component, unless that dot stands first or
last. -/
def suffix (path : Text) : Text :=
  let name := ((parts path).getLast?.getD "").points
  let tail := (name.reverse.takeWhile (· != '.'.toNat)).reverse
  let head := name.take (name.length - tail.length - 1)
  if tail.length == name.length || tail.isEmpty || head.isEmpty then ""
  else .ofPoints ('.'.toNat :: tail)

def maxName : Nat := 255

def maxPath : Nat := 4095

end Path

inductive FileEntry
  | file (content : Bytes)
  | directory
  /-- a directory that nobody may look into -/
  | closed
  deriving DecidableEq, Repr

/-- Files and directories by the components of their paths from the root, and the current
directory. -/
structure Files where
  entries : List (List Text × FileEntry) := []
  here : List Text := []
  deriving DecidableEq, Repr

namespace Files

def at? (f : Files) (place : List Text) : Option FileEntry :=
  f.entries.lookup place <|> if place.isPrefixOf f.here then some .directory else none

/-- Follows components one by one, so that a fault names the first one that cannot be passed, and `..` leads
back only out of directories that exist. -/
def walk (f : Files) (place : List Text) : List Text → Except FileProblem FileEntry
  | [] =>
    match f.at? place with
    | some entry => .ok entry
    | none => .error .missing
  | part :: rest =>
    match f.at? place with
    | none => .error .missing
    | some (.file _) => .error .notDirectory
    | some .closed => .error .denied
    | some .directory =>
      if part == .whole ".." then walk f place.dropLast rest
      else if Path.maxName < part.nameSize then .error .nameTooLong
      else
        match f.at? (place ++ [part]) with
        | none => .error .missing
        | some _ => walk f (place ++ [part]) rest

def start (f : Files) (path : Text) : List Text :=
  if Path.rootText path == "" then f.here else []

def find (f : Files) (path : Text) : Except FileProblem FileEntry :=
  if Path.maxPath < (Path.normal path).nameSize then .error .nameTooLong
  else f.walk (f.start path) (Path.parts path)

def read (f : Files) (path : Text) : Except FileProblem Bytes :=
  match f.find path with
  | .ok (.file content) => .ok content
  | .ok .directory => .error .isDirectory
  | .ok .closed => .error .denied
  | .error p => .error p

def put (place : List Text) (entry : FileEntry) :
    List (List Text × FileEntry) → List (List Text × FileEntry)
  | [] => [(place, entry)]
  | (p, e) :: rest => if p = place then (p, entry) :: rest else (p, e) :: put place entry rest

def resolve (f : Files) (path : Text) : List Text :=
  (Path.parts path).foldl (fun place part =>
    if part == .whole ".." then place.dropLast else place ++ [part]) (f.start path)

def makePlace (f : Files) (place : List Text) : Files :=
  (List.range place.length).foldl (fun f n =>
    let above := place.take (n + 1)
    if (f.at? above).isSome then f else { f with entries := put above .directory f.entries }) f

def makeDirectory (f : Files) (path : Text) : Files := f.makePlace (f.resolve path)

def write (f : Files) (path : Text) (content : Bytes) : Files :=
  let place := f.resolve path
  let f := f.makePlace place.dropLast
  { f with entries := put place (.file content) f.entries }

end Files

def unifyLineEnds : List Char → List Char
  | [] => []
  | '\r' :: '\n' :: rest => '\n' :: unifyLineEnds rest
  | '\r' :: rest => '\n' :: unifyLineEnds rest
  | c :: rest => c :: unifyLineEnds rest

end Rehearsal
