import Converge.Files.Basic
import Converge.Text.Utf8
/-!
# A file system in memory

Files and directories by their place below the root, and a directory to start from.  It answers
the steps of `Files.Question` the way a file system without links does: a path is walked segment
by segment, and everything but its last segment has to be a directory.
-/

namespace Converge

/-- A place in a file system: the names on the way to it, the last one first. -/
abbrev FilePlace := List String

/-- What a file holds. -/
inductive FileContent where
  | text (s : String)
  /-- Bytes that are no text. -/
  | binary (bytes : List UInt8)
  deriving DecidableEq, Repr, Inhabited

namespace FileContent

/-- The content that bytes are. -/
def ofBytes (bytes : List UInt8) : FileContent :=
  match String.fromUTF8? ⟨bytes.toArray⟩ with
  | some s => .text s
  | none => .binary bytes

/-- The content as text, with a mark for what is no character. -/
def shown : FileContent → String
  | .text s => s
  | .binary bytes => Utf8.lossy bytes

end FileContent

/-- What is at a place. -/
inductive FileEntry where
  | file (content : FileContent)
  | directory
  deriving DecidableEq, Repr, Inhabited

/-- A file system: what is at each place below the root, and the directory that relative paths
start from. -/
structure FileTree where
  entries : List (FilePlace × FileEntry)
  start : FilePlace
  deriving DecidableEq, Repr, Inhabited

namespace FileTree

/-- What is at a place; the root is a directory. -/
def entry? (t : FileTree) (place : FilePlace) : Option FileEntry :=
  match place with
  | [] => some .directory
  | _ => t.entries.lookup place

/-- Whether there is a directory at a place. -/
def hasDirectory (t : FileTree) (place : FilePlace) : Bool := t.entry? place = some .directory

/-- Removes what is at a place. -/
def erase (t : FileTree) (place : FilePlace) : FileTree :=
  { t with entries := t.entries.filter fun e => e.1 ≠ place }

/-- Puts something at a place. -/
def put (t : FileTree) (place : FilePlace) (entry : FileEntry) : FileTree :=
  { t with entries := (t.erase place).entries ++ [(place, entry)] }

/-- Walks from a place along segments.  Every place but the last has to be a directory. -/
def walk (t : FileTree) : FilePlace → List String → Except FileError FilePlace
  | place, [] => .ok place
  | place, s :: rest =>
    match t.entry? place with
    | none => .error .notFound
    | some (.file _) => .error .notADirectory
    | some .directory =>
      if s = "" || s = "." then t.walk place rest
      else if s = ".." then t.walk place.tail rest
      else t.walk (s :: place) rest

/-- The place that a path leads to. -/
def locate (t : FileTree) (p : Path) : Except FileError FilePlace :=
  if p.isEmpty then .error .notFound
  else t.walk (if p.absolute then [] else t.start) p.segments

/-- What a path leads to. -/
def at? (t : FileTree) (p : Path) : Option FileEntry :=
  match t.locate p with
  | .ok place => t.entry? place
  | .error _ => none

/-- The text of a file. -/
def read (t : FileTree) (p : Path) : Except FileError String := do
  match t.entry? (← t.locate p) with
  | none => .error .notFound
  | some .directory => .error .isADirectory
  | some (.file (.text s)) => .ok s
  | some (.file (.binary _)) => .error .notText

/-- A change of one place. -/
def change (t : FileTree) (p : Path)
    (f : Option FileEntry → Except FileError FileEntry) : Except FileError Unit × FileTree :=
  match t.locate p with
  | .error e => (.error e, t)
  | .ok place =>
    match f (t.entry? place) with
    | .error e => (.error e, t)
    | .ok entry => (.ok (), t.put place entry)

/-- Makes a directory. -/
def makeDirectory (t : FileTree) (p : Path) : Except FileError Unit × FileTree :=
  t.change p fun
    | none => .ok .directory
    | some _ => .error .alreadyExists

/-- Makes a file with a text, or gives a file another text. -/
def write (t : FileTree) (p : Path) (text : String) : Except FileError Unit × FileTree :=
  t.change p fun
    | some .directory => .error .isADirectory
    | _ => .ok (.file (.text text))

/-- Moves a file. -/
def rename (t : FileTree) (source target : Path) : Except FileError Unit × FileTree :=
  match t.locate source, t.locate target with
  | .error e, _ => (.error e, t)
  | .ok _, .error e => (.error e, t)
  | .ok here, .ok there =>
    match t.entry? here, t.entry? there with
    | none, _ => (.error .notFound, t)
    | some .directory, _ => (.error .isADirectory, t)
    | some (.file _), some .directory => (.error .isADirectory, t)
    | some (.file content), _ => (.ok (), (t.erase here).put there (.file content))

/-- Answers one step; the lines of the log go nowhere. -/
def answer : (q : Files.Question) → FileTree → q.Reply × FileTree
  | .isPresent p, t => ((t.at? p).isSome, t)
  | .isDirectory p, t => (t.at? p = some .directory, t)
  | .read p, t => (t.read p, t)
  | .makeDirectory p, t => t.makeDirectory p
  | .create p, t => t.write p ""
  | .write p text, t => t.write p text
  | .sync _, t => (.ok (), t)
  | .rename source target, t => t.rename source target
  | .log _ _, t => ((), t)

/-- The files with their places. -/
def files (t : FileTree) : List (FilePlace × FileContent) :=
  t.entries.filterMap fun (place, entry) =>
    match entry with
    | .file content => some (place, content)
    | .directory => none

/-- Makes a directory and those above it, as far as they are missing. -/
def withDirectories (t : FileTree) : FilePlace → FileTree
  | [] => t
  | s :: above =>
    let t := t.withDirectories above
    if t.hasDirectory (s :: above) then t else t.put (s :: above) .directory

/-- Puts a file or directory at a place, with the directories above it. -/
def plant (t : FileTree) (place : FilePlace) (entry : FileEntry) : FileTree :=
  (t.withDirectories place.tail).put place entry

/-- Removes what is at a place and below it. -/
def uproot (t : FileTree) (place : FilePlace) : FileTree :=
  { t with entries := t.entries.filter fun e => !place.isSuffixOf e.1 }

end FileTree

end Converge
