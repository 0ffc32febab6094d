import TypeExport.Graph.Node

/-! # Rebuilding Nodes

    Nodes stand inside nodes: as parameters of arrays and maps, as types of members, and as types of
    the parameters of methods.  `rebuild f` goes through all of them, the innermost first, and does
    `f` to each. -/

namespace TypeExport

/-- The parameter with `f` done to its type. -/
def Arg.mapType (f : TypeNode → TypeNode) (arg : Arg) : Arg := { arg with type := f arg.type }

/-- The member with `f` done to its type and to those of its parameters. -/
def Member.mapTypes (f : TypeNode → TypeNode) (member : Member) : Member :=
  { member with type := f member.type, args := member.args.map (Arg.mapType f) }

namespace TypeNode

mutual

/-- The node after `f` has been done to it and to all nodes inside. -/
def rebuild (f : TypeNode → TypeNode) : TypeNode → TypeNode
  | .simple name => f (.simple name)
  | .array params => f (.array (rebuildAll f params))
  | .map params => f (.map (rebuildAll f params))
  | .interface name comment members => f (.interface name comment (rebuildMembers f members))
  | .enum name comment members => f (.enum name comment members)
  | .void => f .void

def rebuildAll (f : TypeNode → TypeNode) : List TypeNode → List TypeNode
  | [] => []
  | n :: rest => rebuild f n :: rebuildAll f rest

def rebuildMembers (f : TypeNode → TypeNode) : List Member → List Member
  | [] => []
  | ⟨name, type, optional, function, comment, args⟩ :: rest =>
    ⟨name, rebuild f type, optional, function, comment, rebuildArgs f args⟩ :: rebuildMembers f rest

def rebuildArgs (f : TypeNode → TypeNode) : List Arg → List Arg
  | [] => []
  | ⟨name, type⟩ :: rest => ⟨name, rebuild f type⟩ :: rebuildArgs f rest

end

variable (f : TypeNode → TypeNode)

theorem rebuildAll_eq_map (nodes : List TypeNode) : rebuildAll f nodes = nodes.map (rebuild f) := by
  induction nodes with
  | nil => rfl
  | cons n rest ih =>
    rw [List.map_cons, ← ih]
    rfl

theorem rebuildArgs_eq_map (args : List Arg) :
    rebuildArgs f args = args.map (Arg.mapType (rebuild f)) := by
  induction args with
  | nil => rfl
  | cons arg rest ih =>
    obtain ⟨name, type⟩ := arg
    rw [List.map_cons, ← ih]
    rfl

theorem rebuildMembers_eq_map (members : List Member) :
    rebuildMembers f members = members.map (Member.mapTypes (rebuild f)) := by
  induction members with
  | nil => rfl
  | cons member rest ih =>
    obtain ⟨name, type, optional, function, comment, args⟩ := member
    rw [List.map_cons, ← ih, Member.mapTypes, ← rebuildArgs_eq_map]
    rfl

@[simp] theorem rebuild_simple (name : String) : rebuild f (.simple name) = f (.simple name) := rfl

@[simp] theorem rebuild_array (params : List TypeNode) :
    rebuild f (.array params) = f (.array (params.map (rebuild f))) := by
  rw [← rebuildAll_eq_map]
  rfl

@[simp] theorem rebuild_map (params : List TypeNode) :
    rebuild f (.map params) = f (.map (params.map (rebuild f))) := by
  rw [← rebuildAll_eq_map]
  rfl

@[simp] theorem rebuild_interface (name : String) (comment : Option String)
    (members : List Member) :
    rebuild f (.interface name comment members) =
      f (.interface name comment (members.map (Member.mapTypes (rebuild f)))) := by
  rw [← rebuildMembers_eq_map]
  rfl

@[simp] theorem rebuild_enum (name : String) (comment : Option String)
    (members : List EnumMember) :
    rebuild f (.enum name comment members) = f (.enum name comment members) := rfl

@[simp] theorem rebuild_void : rebuild f .void = f .void := rfl

/-- A node keeps its name if `f` keeps names. -/
theorem name_rebuild {f : TypeNode → TypeNode} (hf : ∀ n, (f n).name = n.name) (n : TypeNode) :
    (rebuild f n).name = n.name := by
  cases n with
  | simple name => rw [rebuild_simple, hf]
  | array params => rw [rebuild_array, hf]; rfl
  | map params => rw [rebuild_map, hf]; rfl
  | interface name comment members => rw [rebuild_interface, hf]; rfl
  | enum name comment members => rw [rebuild_enum, hf]
  | void => rw [rebuild_void, hf]

end TypeNode

end TypeExport
