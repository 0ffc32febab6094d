import TypeExport.Tool.Path
import TypeExport.Tool.Services
import TypeExport.Upsert

/-! # Disks

    A disk holds directories and files at places.  A path is followed part by part, and every part
    must begin at a directory: at the root if the path is absolute, and otherwise at the home
    directory.

    A disk tells nothing of permissions and links, and it is never full.  What may come of these is
    left to other machines. -/

namespace TypeExport.Tool

/-! ## Section 1: Places -/

/-- A place on a disk: the names that lead to it from the root, the innermost first. -/
abbrev Place := List String

/-- Where a part of a path leads to from a directory. -/
def Place.enter (place : Place) (part : String) : Place :=
  if part = "" ∨ part = "." then place
  else if part = ".." then place.tail
  else part :: place

/-- What stands at a place. -/
inductive Item where
  | directory
  | text (s : String)
  /-- A file that holds no text. -/
  | bytes
  deriving Repr, DecidableEq

/-- What stands at each place, and the place where relative paths begin. -/
structure Disk where
  items : List (Place × Item) := []
  home : Place := []
  deriving Repr, DecidableEq

namespace Disk

/-- What stands at a place.  There is always a directory at the root. -/
def item? (d : Disk) (place : Place) : Option Item :=
  if place = [] then some .directory else (d.items.find? (·.1 == place)).map (·.2)

/-- The place that the parts of a path lead to, whether or not anything stands there. -/
def follow (d : Disk) (place : Place) : List String → Option Place
  | [] => some place
  | part :: rest =>
    if d.item? place = some .directory then d.follow (place.enter part) rest else none

/-- The place that a path leads to. -/
def locate (d : Disk) (path : String) : Option Place :=
  if isValidPath path then d.follow (if isAbsolute path then [] else d.home) (pathParts path)
  else none

/-! ## Section 2: Files -/

/-- Whether a path leads to a file. -/
def isFile (d : Disk) (path : String) : Bool :=
  match d.locate path >>= d.item? with
  | some (.text _) | some .bytes => true
  | _ => false

/-- The text of a file. -/
def read (d : Disk) (path : String) : Option String :=
  match d.locate path >>= d.item? with
  | some (.text s) => some s
  | _ => none

/-- The disk with an item at a place, instead of what stood there. -/
def put (d : Disk) (place : Place) (item : Item) : Disk :=
  { d with items := upsert Prod.fst (place, item) d.items }

/-- Writes a file: the one that is there, or a new one. -/
def write (d : Disk) (path text : String) : Option Disk := do
  let place ← d.locate path
  if d.item? place = some .directory then none else return d.put place (.text text)

end Disk

/-! ## Section 3: A machine with a disk -/

/-- What a call can look at and change. -/
structure Surroundings where
  disk : Disk := {}
  /-- What the working directory is called. -/
  workingDirectory : Except String String := .ok ""
  stdout : String := ""
  stderr : String := ""

/-- The words for what is refused. -/
structure Wording where
  unreadable (d : Disk) (path : String) : String
  unwritable (d : Disk) (path : String) : String
  complaint (form : FileForm) (text : String) : String

/-- The machine that finds the words of `w`. -/
def Wording.machine (w : Wording) : Machine Surroundings where
  workingDirectory s := s.workingDirectory
  isFile s path := s.disk.isFile path
  read s path := (s.disk.read path).elim (.error (w.unreadable s.disk path)) .ok
  write s path text :=
    match s.disk.write path text with
    | some disk => .ok { s with disk }
    | none => .error (w.unwritable s.disk path)
  print s text := .ok { s with stdout := s.stdout ++ text }
  report s text := { s with stderr := s.stderr ++ text }
  complaint := w.complaint

/-! ## Section 4: A directory by itself -/

/-- The text files of a directory and the directories in it, by their paths. -/
structure Directory where
  files : List (String × String) := []
  deriving Repr, DecidableEq

/-- The place of the directory on its disk. -/
def Directory.place : Place := ["work"]

/-- The places of the directories around a place, from the inside out. -/
def Place.around : Place → List Place
  | [] => []
  | _ :: outer => outer :: Place.around outer

/-- A disk with the directory, its files and the directories they are in. -/
def Directory.disk (d : Directory) : Disk where
  items := (Directory.place, .directory) :: d.files.flatMap fun (path, text) =>
    let place := (pathNames path).reverse ++ Directory.place
    ((Place.around place).map fun outer => (outer, .directory)) ++ [(place, .text text)]
  home := Directory.place

/-- The text files in the directory. -/
def Disk.directory (d : Disk) : Directory where
  files := d.items.filterMap fun
    | (place, .text s) =>
      if Directory.place.isSuffixOf place then
        some ("/".intercalate (place.dropLast).reverse, s)
      else none
    | _ => none

end TypeExport.Tool
