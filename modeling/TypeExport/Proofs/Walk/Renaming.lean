import TypeExport.Proofs.Walk.Parallel

/-! # Renaming Declarations

    The target name of a declaration is made up anew in each place that needs it: when the
    declaration gets its node, and whenever it is referred to.  Nodes are kept by their target
    names, while a walk goes by host names when it asks what it has met.

    All of this works out as long as different declarations get different names and no promoted
    anonymous struct gets in their way.  Then the walk under another namer takes the same steps, and
    its graph is the graph under the host names with the names of all declarations changed, and
    nothing else.

    `Renames` is the relation between the states of the two walks; its names are `Renamable`, which
    is where the renaming tells them apart. -/

namespace TypeExport

/-! ## Section 1: Renamed graphs -/

namespace HostModule

def declaredNames (m : HostModule) : List String := m.types.map (·.name)

/-- What becomes of a name when declarations are renamed by `f`: names of other things stay. -/
def relabel (m : HostModule) (f : String → String) (k : String) : String :=
  if k ∈ m.declaredNames then f k else k

/-- The name is that of a declaration, or no declaration gets it. -/
def Renamable (m : HostModule) (f : String → String) (k : String) : Prop :=
  k ∈ m.declaredNames ∨ ∀ j ∈ m.declaredNames, f j ≠ k

variable {m : HostModule} {f : String → String}

theorem mem_declaredNames {d : TypeDecl} (hd : m.lookup d.name = some d) :
    d.name ∈ m.declaredNames :=
  List.mem_map_of_mem (mem_of_lookup hd)

theorem relabel_of_mem {k : String} (h : k ∈ m.declaredNames) : m.relabel f k = f k :=
  if_pos h

theorem relabel_of_not_mem {k : String} (h : k ∉ m.declaredNames) : m.relabel f k = k :=
  if_neg h

/-- Different names stay different. -/
theorem Renamable.relabel_inj (hinj : ∀ j ∈ m.declaredNames, ∀ k ∈ m.declaredNames,
    f j = f k → j = k) {a b : String} (ha : m.Renamable f a) (hb : m.Renamable f b) :
    m.relabel f a = m.relabel f b ↔ a = b := by
  refine ⟨fun h => ?_, congrArg _⟩
  by_cases hma : a ∈ m.declaredNames
  · rw [relabel_of_mem hma] at h
    by_cases hmb : b ∈ m.declaredNames
    · rw [relabel_of_mem hmb] at h
      exact hinj a hma b hmb h
    · rw [relabel_of_not_mem hmb] at h
      exact absurd h ((hb.resolve_left hmb) a hma)
  · rw [relabel_of_not_mem hma] at h
    by_cases hmb : b ∈ m.declaredNames
    · rw [relabel_of_mem hmb] at h
      exact absurd h.symm ((ha.resolve_left hma) b hmb)
    · rwa [relabel_of_not_mem hmb] at h

end HostModule

namespace TypeNode

/-- A reference under another name; all other nodes stay as they are. -/
def mapReference (g : String → String) : TypeNode → TypeNode
  | .simple k => .simple (g k)
  | n => n

/-- The node with all references in it renamed. -/
def renameReferences (g : String → String) : TypeNode → TypeNode := rebuild (mapReference g)

def mapName (g : String → String) : TypeNode → TypeNode
  | .interface k comment members => .interface (g k) comment members
  | .enum k comment members => .enum (g k) comment members
  | n => n

/-- The declaration with its own name and all references in it renamed. -/
def rename (g : String → String) (n : TypeNode) : TypeNode := (n.renameReferences g).mapName g

variable (g : String → String)

@[simp] theorem renameReferences_simple (k : String) :
    renameReferences g (.simple k) = .simple (g k) := by
  rw [renameReferences, rebuild_simple, mapReference]

theorem renameReferences_interface (k : String) (comment : Option String)
    (members : List Member) :
    renameReferences g (.interface k comment members) =
      .interface k comment (members.map (Member.mapTypes (renameReferences g))) := by
  rw [renameReferences, rebuild_interface]
  rfl

theorem rename_interface (k : String) (comment : Option String) (members : List Member) :
    rename g (.interface k comment members) =
      .interface (g k) comment (members.map (Member.mapTypes (renameReferences g))) := by
  rw [rename, renameReferences_interface, mapName]

theorem rename_enum (k : String) (comment : Option String) (members : List EnumMember) :
    rename g (.enum k comment members) = .enum (g k) comment members := by
  rw [rename, renameReferences, rebuild_enum]
  rfl

theorem IsDeclaration.name_rename {n : TypeNode} (h : n.IsDeclaration) :
    (n.rename g).name = g n.name := by
  cases h with
  | interface => rw [rename_interface]; rfl
  | enum => rw [rename_enum]; rfl

end TypeNode

namespace ExtractPolicy

/-! ## Section 2: Walks under two namers -/

/-- The policy that names declarations by what `f` makes of their host names. -/
def namedBy (policy : ExtractPolicy) (f : String → String) : ExtractPolicy :=
  { policy with typeNamer := fun d => f d.name }

/-- The policy that keeps the host names of declarations. -/
def preserving (policy : ExtractPolicy) : ExtractPolicy := policy.namedBy CaseStyle.preserve.apply

/-- The second state has the nodes of the first, with declarations renamed. -/
structure Renames (m : HostModule) (f : String → String) (s r : Progress) : Prop where
  nodes : r.nodes = s.nodes.map (TypeNode.rename (m.relabel f))
  declared : r.declared = s.declared
  renamable : ∀ n ∈ s.nodes, n.IsDeclaration ∧ m.Renamable f n.name

/-- Names of declarations and of promoted structs can be told apart after they are renamed as
    before. -/
structure TellsApart (policy : ExtractPolicy) (m : HostModule) (root : TypeDecl)
    (f : String → String) : Prop where
  /-- No declaration has the name of a primitive. -/
  primitives : ∀ k ∈ m.declaredNames, k ∉ primitiveNames
  inj : ∀ j ∈ m.declaredNames, ∀ k ∈ m.declaredNames, f j = f k → j = k
  /-- No promoted struct gets the name of a declaration, old or new. -/
  promoted : ∀ namer field fields, policy.anonNamer = some namer →
    policy.Stands m root (some field) (.struct fields) →
      namer field ∉ m.declaredNames ∧ ∀ k ∈ m.declaredNames, f k ≠ namer field

variable {policy : ExtractPolicy} {m : HostModule} {f : String → String} {s r : Progress}

section states

variable (hinj : ∀ j ∈ m.declaredNames, ∀ k ∈ m.declaredNames, f j = f k → j = k)

include hinj

/-- A declaration is added under its new name. -/
theorem Renames.put (h : Renames m f s r) {node : TypeNode} (hn : node.IsDeclaration)
    (hname : m.Renamable f node.name) :
    Renames m f (s.put node) (r.put (node.rename (m.relabel f))) where
  nodes := by
    rw [Progress.nodes_put, Progress.nodes_put, h.nodes]
    refine upsert_map_of_iff fun n hmem => ?_
    obtain ⟨hdecl, hrename⟩ := h.renamable n hmem
    rw [hdecl.name_rename, hn.name_rename]
    exact hrename.relabel_inj hinj hname
  declared := h.declared
  renamable n hmem := by
    rcases mem_upsert hmem with rfl | hmem
    · exact ⟨hn, hname⟩
    · exact h.renamable n hmem

theorem Renames.declare (h : Renames m f s r) {node : TypeNode} (hn : node.IsDeclaration)
    (hname : m.Renamable f node.name) (k : String) :
    Renames m f (s.declare k node) (r.declare k (node.rename (m.relabel f))) where
  nodes := (h.put hinj hn hname).nodes
  declared := congrArg (k :: ·) h.declared
  renamable := (h.put hinj hn hname).renamable

end states

section policies

variable {root : TypeDecl} {d : TypeDecl}

theorem arrange_preserving (hsort : policy.sort = .discovery) (members : List Member) :
    policy.preserving.arrange members = members := arrange_discovery hsort members

theorem arrange_namedBy (hsort : policy.sort = .discovery) (members : List Member) :
    (policy.namedBy f).arrange members = members := arrange_discovery hsort members

/-- Primitives are not renamed. -/
theorem TellsApart.leaf (h : policy.preserving.TellsApart m root f) {t : HostType} {site : String}
    {n : TypeNode} (hn : TypeExport.leaf site t = .ok n) :
    n.renameReferences (m.relabel f) = n := by
  have hprimitive : ∃ k ∈ primitiveNames, n = .simple k := by
    cases t <;> cases hn <;> exact ⟨_, by simp [primitiveNames], rfl⟩
  obtain ⟨k, hk, rfl⟩ := hprimitive
  rw [TypeNode.renameReferences_simple, HostModule.relabel_of_not_mem]
  exact fun hmem => h.primitives k hmem hk

/-- References to declarations are renamed. -/
theorem mention_relabel (hd : m.lookup d.name = some d) :
    TypeNode.renameReferences (m.relabel f) (.simple (policy.preserving.typeNamer d)) =
      .simple ((policy.namedBy f).typeNamer d) := by
  rw [TypeNode.renameReferences_simple]
  exact congrArg _ (HostModule.relabel_of_mem (HostModule.mem_declaredNames hd))

/-- Anonymous structs keep the names that they are promoted to. -/
theorem TellsApart.anonymous (h : policy.preserving.TellsApart m root f)
    {field : Option HostField} {fields : List HostField}
    (hstands : policy.preserving.Stands m root field (.struct fields)) (members : List Member) :
    Agree (Renames m f) (TypeNode.renameReferences (m.relabel f))
      (policy.preserving.anonymousStruct field members)
      ((policy.namedBy f).anonymousStruct field
        (members.map (Member.mapTypes (TypeNode.renameReferences (m.relabel f))))) := by
  have hinline := TypeNode.renameReferences_interface (m.relabel f) "" none members
  cases hnamer : policy.anonNamer with
  | none =>
    simp only [anonymousStruct, preserving, namedBy, hnamer]
    exact .pure hinline.symm
  | some namer =>
    cases field with
    | none =>
      simp only [anonymousStruct, preserving, namedBy, hnamer]
      exact .pure hinline.symm
    | some field =>
      -- The name of a promoted struct is no declared name and stays as it is.
      obtain ⟨hnot, hnew⟩ := h.promoted namer field fields hnamer hstands
      have hkept := HostModule.relabel_of_not_mem (f := f) hnot
      intro s r hR
      have hput : Renames m f (s.put (.interface (namer field) none members)) _ :=
        hR.put h.inj .interface (.inr hnew)
      rw [TypeNode.rename_interface, hkept] at hput
      simp only [anonymousStruct, preserving, namedBy, hnamer]
      refine ⟨?_, hput⟩
      rw [TypeNode.renameReferences_simple, hkept]

theorem TellsApart.declare (h : policy.preserving.TellsApart m root f)
    (hsort : policy.sort = .discovery) (hd : m.lookup d.name = some d) (members : List Member) :
    Agree (Renames m f) id (policy.preserving.declare d members)
      ((policy.namedBy f).declare d
        (members.map (Member.mapTypes (TypeNode.renameReferences (m.relabel f))))) := by
  have hmem := HostModule.mem_declaredNames hd
  have hnode : (policy.preserving.interfaceOf d members).rename (m.relabel f) =
      (policy.namedBy f).interfaceOf d
        (members.map (Member.mapTypes (TypeNode.renameReferences (m.relabel f)))) := by
    rw [interfaceOf, interfaceOf, arrange_preserving hsort, arrange_namedBy hsort,
      TypeNode.rename_interface]
    exact congrArg (TypeNode.interface · _ _) (HostModule.relabel_of_mem hmem)
  intro s r hR
  rw [declare_apply, declare_apply, ← hnode]
  exact ⟨rfl, hR.declare h.inj .interface (.inl hmem) d.name⟩

/-- Enumerations are declared under their new names and with their members as they are. -/
theorem TellsApart.enumeration (h : policy.preserving.TellsApart m root f)
    (hd : m.lookup d.name = some d) (provider : EnumProvider) :
    Agree (Renames m f) (TypeNode.renameReferences (m.relabel f))
      (policy.preserving.enumeration provider d) ((policy.namedBy f).enumeration provider d) := by
  have hmem := HostModule.mem_declaredNames hd
  have hmention : TypeNode.simple ((policy.namedBy f).typeNamer d) =
      TypeNode.renameReferences (m.relabel f) (.simple (policy.preserving.typeNamer d)) :=
    (mention_relabel hd).symm
  unfold ExtractPolicy.enumeration
  refine .get_bind fun s r hR => ?_
  rw [hR.declared]
  by_cases hn : s.declared.contains d.name
  · simp only [hn]
    exact .pure hmention
  · simp only [hn]
    cases hm : provider.members d with
    | error cause => exact .throw _
    | ok members =>
      -- The node is the same but for its name.
      have hnode : (policy.preserving.enumOf d members).rename (m.relabel f) =
          (policy.namedBy f).enumOf d members := by
        rw [enumOf, enumOf, TypeNode.rename_enum]
        exact congrArg (TypeNode.enum · _ _) (HostModule.relabel_of_mem hmem)
      have hdecl : (policy.preserving.enumOf d members).IsDeclaration := .enum
      intro s r hR
      have hdeclare := hR.declare h.inj hdecl (.inl hmem) d.name
      rw [hnode] at hdeclare
      exact ⟨hmention, hdeclare⟩

/-- The namer makes no difference to the steps of a walk. -/
theorem TellsApart.alike (h : policy.preserving.TellsApart m root f)
    (hsort : policy.sort = .discovery) :
    Alike m root (Renames m f) (TypeNode.renameReferences (m.relabel f)) policy.preserving
      (policy.namedBy f) where
  embedStructs := rfl
  followStructs := rfl
  methodDocs := rfl
  argName := rfl
  declared hR := hR.declared
  leaf := h.leaf
  void := TypeNode.rebuild_void _
  array n := TypeNode.rebuild_array _ _
  map k v := TypeNode.rebuild_map _ _
  mentioned hd _ := mention_relabel hd
  embedded _ := by
    rw [arrange_preserving hsort, arrange_namedBy hsort, TypeNode.renameReferences_interface]
    rfl
  anonymous hstands members := by
    rw [arrange_preserving hsort, arrange_namedBy hsort]
    exact h.anonymous hstands members
  declare hd := h.declare hsort hd _
  claims {d} hd _ := by
    cases hc : policy.claims? d with
    | none => exact .inl ⟨hc, hc⟩
    | some provider => exact .inr ⟨provider, provider, hc, hc, h.enumeration hd provider⟩

end policies

/-! ## Section 3: Graphs under two namers -/

/-- In discovery order the graph under a namer is the graph under host names in which each
    declaration, and each reference to it, has its new name, and an extraction that fails fails with
    the same error.  For this the new names must differ, no declaration may have the name of a
    primitive, and no promoted struct the old or new name of a declaration. -/
theorem extract_namedBy (hsort : policy.sort = .discovery) {root : HostType}
    (h : ∀ d, m.lookup d.name = some d → root.deref = .named d.name →
      policy.preserving.TellsApart m d f) :
    extract m root (policy.namedBy f) =
      (extract m root policy.preserving).map (List.map (TypeNode.rename (m.relabel f))) := by
  have hempty : Renames m f {} {} := ⟨rfl, rfl, fun _ hn => absurd hn (by simp)⟩
  have hagree : Agree (Renames m f) id (policy.preserving.walkRoot m root)
      ((policy.namedBy f).walkRoot m root) :=
    Alike.walkRoot fun d hd hroot => (h d hd hroot).alike hsort
  have hsort' : (policy.namedBy f).sort = .discovery := hsort
  have hsort'' : policy.preserving.sort = .discovery := hsort
  unfold extract StateT.run
  rw [hsort', hsort'']
  rcases hagree.outcome hempty with ⟨e, hp, hq⟩ | ⟨a, s, r, hp, hq, hR⟩
  · rw [hp, hq]
    rfl
  · rw [hp, hq]
    exact congrArg Except.ok hR.nodes

/-- A cart with lines that are structs without a name, a coupon, and carts saved for later. -/
def cartModule : HostModule where
  types := [
    ⟨"Cart", .struct [⟨"Lines", .struct [⟨"Count", .int 32 true, none⟩,
      ⟨"Coupon", .pointer (.named "Coupon"), none⟩], none⟩, ⟨"Later", .slice (.named "Cart"), none⟩,
      ⟨"Status", .named "Status", none⟩], none, none⟩,
    ⟨"Coupon", .struct [⟨"Code", .string, none⟩], none, none⟩,
    ⟨"Status", .string, none, some [.string "Open" "open"]⟩]

/-- Follows structs and promotes anonymous ones. -/
def promoting : ExtractPolicy :=
  { following with anonNamer := some fun field => "Inner" ++ field.name }

/-- The graph of the cart, with another namer for declarations. -/
def cartGraph : List TypeNode :=
  [.interface "ApiCoupon" none [.property "Code" .string],
    .interface "InnerLines" none [.property "Count" .number,
      .property "Coupon" (.simple "ApiCoupon")],
    .enum "ApiStatus" none [.string "Open" "open"],
    .interface "ApiCart" none [.property "Lines" (.simple "InnerLines"),
      .property "Later" (.array [.simple "ApiCart"]),
      .property "Status" (.simple "ApiStatus")]]

theorem cartGraph_namedBy :
    (∀ d, cartModule.lookup d.name = some d → (HostType.named "Cart").deref = .named d.name →
      promoting.preserving.TellsApart cartModule d ("Api" ++ ·)) ∧
    extract cartModule (.named "Cart") (promoting.namedBy ("Api" ++ ·)) = .ok cartGraph := by
  have hapart : ∀ d, cartModule.lookup d.name = some d →
      (HostType.named "Cart").deref = .named d.name →
        promoting.preserving.TellsApart cartModule d ("Api" ++ ·) := by
    refine fun d _ _ => ⟨by decide, fun j _ k _ h => (String.append_right_inj "Api").mp h, ?_⟩
    intro namer field fields hnamer _
    obtain rfl := Option.some.inj hnamer
    -- Names of declarations, old and new, do not begin as names of promoted structs do.
    have hfirst : ("Inner" ++ field.name).toList.head? = some 'I' := by
      rw [String.toList_append]
      rfl
    refine ⟨fun hmem => ?_, fun k _ (heq : "Api" ++ k = "Inner" ++ field.name) => ?_⟩
    · have hold : ∀ k ∈ cartModule.declaredNames, k.toList.head? ≠ some 'I' := by decide
      exact hold _ hmem hfirst
    · rw [← heq, String.toList_append] at hfirst
      exact absurd hfirst (by simp)
  refine ⟨hapart, ?_⟩
  rw [extract_namedBy rfl hapart]
  cbv

end ExtractPolicy

end TypeExport
