import TypeExport.Proofs.Graph.ReadBack
import TypeExport.Proofs.Host.Variants

/-! # Descriptors Read Back

    Reading a descriptor gives the declarations that were written, also after it has been changed
    in the ways that do not change what it says.

    Writing leaves nothing out but texts and annotations that are not there, so a reader finds every
    field as it was written or, in a variant, its default.  The proof follows the types: one reading
    equation for each kind, and one case for each kind of what a reader finds.

    Widths are written as numbers of one byte and lengths as numbers of one word, so a module has
    widths and lengths within these bounds. -/

namespace TypeExport

open TypeExport.Tree

/-! ## Section 1: Widths and lengths -/

mutual

/-- Whether all widths in a type fit into a byte and all lengths into a word. -/
def HostType.inRange : HostType → Bool
  | .int bits _ | .float bits | .complex bits => bits < 256
  | .array len elem => len < wordValues && elem.inRange
  | .slice elem | .pointer elem | .chan elem => elem.inRange
  | .map key value => key.inRange && value.inRange
  | .struct fields => fieldsInRange fields
  | .interface methods => methodsInRange methods
  | .func ⟨params, results, _⟩ => paramsInRange params && typesInRange results
  | .bool | .string | .error | .named _ => true

def fieldsInRange : List HostField → Bool
  | [] => true
  | ⟨_, type, _⟩ :: rest => type.inRange && fieldsInRange rest

def methodsInRange : List HostMethod → Bool
  | [] => true
  | ⟨_, ⟨params, results, _⟩, _⟩ :: rest =>
    paramsInRange params && typesInRange results && methodsInRange rest

def paramsInRange : List HostParam → Bool
  | [] => true
  | ⟨_, type⟩ :: rest => type.inRange && paramsInRange rest

def typesInRange : List HostType → Bool
  | [] => true
  | t :: rest => t.inRange && typesInRange rest

end

def HostModule.inRange (m : HostModule) : Bool := m.types.all (·.type.inRange)

/-! ## Section 2: Reading a tagged record -/

namespace HostType

/-- A kind by its name is known everywhere. -/
theorem kindOf_kind (t : HostType) (indexed : Bool) :
    kindOf kinds indexed (.text t.kind) = some t.kind :=
  TypeNode.kindOf_text (by cases t <;> simp [kinds, kind]) indexed

section reading

variable {t : Tree} {nested : Bool}

theorem ofTree_bool (ht : t.tagged? = some (.text "bool", t)) (hbare : t.isBare = true) :
    ofTree nested t = some .bool := by
  have hkind := kindOf_kind .bool nested
  rw [ofTree]
  grind [kind]

theorem ofTree_string (ht : t.tagged? = some (.text "string", t)) (hbare : t.isBare = true) :
    ofTree nested t = some .string := by
  have hkind := kindOf_kind .string nested
  rw [ofTree]
  grind [kind]

theorem ofTree_error (ht : t.tagged? = some (.text "error", t)) (hbare : t.isBare = true) :
    ofTree nested t = some .error := by
  have hkind := kindOf_kind .error nested
  rw [ofTree]
  grind [kind]

theorem ofTree_int {bits unsigned : Option Tree} (ht : t.tagged? = some (.text "int", t))
    (hslots : t.slots ["bits", "unsigned"] false = some [bits, unsigned]) :
    ofTree nested t = do return .int (← width 64 bits) (← flag unsigned) := by
  have hkind := kindOf_kind (.int 0 false) nested
  rw [ofTree]
  grind [kind]

theorem ofTree_float {bits : Option Tree} (ht : t.tagged? = some (.text "float", t))
    (hslots : t.slots ["bits"] false = some [bits]) :
    ofTree nested t = .float <$> width 64 bits := by
  have hkind := kindOf_kind (.float 0) nested
  rw [ofTree]
  grind [kind]

theorem ofTree_complex {bits : Option Tree} (ht : t.tagged? = some (.text "complex", t))
    (hslots : t.slots ["bits"] false = some [bits]) :
    ofTree nested t = .complex <$> width 128 bits := by
  have hkind := kindOf_kind (.complex 0) nested
  rw [ofTree]
  grind [kind]

theorem ofTree_slice {elem : Tree} (ht : t.tagged? = some (.text "slice", t))
    (hslots : t.slots ["elem"] false = some [some elem]) :
    ofTree nested t = .slice <$> ofTree true elem := by
  have hkind := kindOf_kind (.slice .bool) nested
  rw [ofTree]
  grind [kind]

theorem ofTree_array {len elem : Tree} (ht : t.tagged? = some (.text "array", t))
    (hslots : t.slots ["len", "elem"] false = some [some len, some elem]) :
    ofTree nested t = do return .array (← len.natBelow wordValues) (← ofTree true elem) := by
  have hkind := kindOf_kind (.array 0 .bool) nested
  rw [ofTree]
  grind [kind]

theorem ofTree_map {key value : Tree} (ht : t.tagged? = some (.text "map", t))
    (hslots : t.slots ["key", "value"] false = some [some key, some value]) :
    ofTree nested t = do return .map (← ofTree true key) (← ofTree true value) := by
  have hkind := kindOf_kind (.map .bool .bool) nested
  rw [ofTree]
  grind [kind]

theorem ofTree_pointer {elem : Tree} (ht : t.tagged? = some (.text "pointer", t))
    (hslots : t.slots ["elem"] false = some [some elem]) :
    ofTree nested t = .pointer <$> ofTree true elem := by
  have hkind := kindOf_kind (.pointer .bool) nested
  rw [ofTree]
  grind [kind]

theorem ofTree_struct {fields : Option Tree} {items : List Tree}
    (ht : t.tagged? = some (.text "struct", t))
    (hslots : t.slots ["fields"] false = some [fields])
    (hitems : itemsOrNone fields = some items) :
    ofTree nested t = .struct <$> fieldsOfTrees items := by
  have hkind := kindOf_kind (.struct []) nested
  rw [ofTree]
  grind [kind]

theorem ofTree_interface {methods : Option Tree} {items : List Tree}
    (ht : t.tagged? = some (.text "interface", t))
    (hslots : t.slots ["methods"] false = some [methods])
    (hitems : itemsOrNone methods = some items) :
    ofTree nested t = .interface <$> methodsOfTrees items := by
  have hkind := kindOf_kind (.interface []) nested
  rw [ofTree]
  grind [kind]

theorem ofTree_chan {elem : Tree} (ht : t.tagged? = some (.text "chan", t))
    (hslots : t.slots ["elem"] false = some [some elem]) :
    ofTree nested t = .chan <$> ofTree true elem := by
  have hkind := kindOf_kind (.chan .bool) nested
  rw [ofTree]
  grind [kind]

theorem ofTree_func {signature : Tree} (ht : t.tagged? = some (.text "func", t))
    (hslots : t.slots ["signature"] false = some [some signature]) :
    ofTree nested t = .func <$> signatureOfTree signature := by
  have hkind := kindOf_kind (.func ⟨[], [], false⟩) nested
  rw [ofTree]
  grind [kind]

theorem ofTree_named {name : String} (ht : t.tagged? = some (.text "named", t))
    (hslots : t.slots ["name"] false = some [some (.text name)]) :
    ofTree nested t = some (.named name) := by
  have hkind := kindOf_kind (.named "") nested
  rw [ofTree]
  grind [kind]

end reading

end HostType

theorem signatureOfTree_eq {t : Tree} {params results variadic : Option Tree}
    {ps rs : List Tree}
    (hslots : t.slots ["params", "results", "variadic"] false = some [params, results, variadic])
    (hparams : itemsOrNone params = some ps) (hresults : itemsOrNone results = some rs) :
    signatureOfTree t = do
      return ⟨← paramsOfTrees ps, ← typesOfTrees rs, ← flag variadic⟩ := by
  rw [signatureOfTree]
  grind

/-- Reads a field first. -/
theorem fieldsOfTrees_cons {t type : Tree} {name : String} {tag : Option Tree}
    (hslots : t.slots ["name", "type", "tag"] false = some [some (.text name), some type, tag])
    (rest : List Tree) :
    fieldsOfTrees (t :: rest) = do
      return ⟨name, ← HostType.ofTree true type, ← optionalText tag⟩ ::
        (← fieldsOfTrees rest) := by
  rw [fieldsOfTrees]
  grind

/-- Reads a method first. -/
theorem methodsOfTrees_cons {entries : List (String × Tree)} {name : String}
    {docs : Option Tree}
    (hslots : (Tree.record entries).slots ["name", "docs"] false =
      some [some (.text name), docs]) (rest : List Tree) :
    methodsOfTrees (.record entries :: rest) = do
      return ⟨name, ← signatureOfTree (.record entries), ← optionalText docs⟩ ::
        (← methodsOfTrees rest) := by
  rw [methodsOfTrees]
  grind

/-- Reads a parameter first. -/
theorem paramsOfTrees_cons {t type : Tree} {name : Option Tree}
    (hslots : t.slots ["name", "type"] false = some [name, some type]) (rest : List Tree) :
    paramsOfTrees (t :: rest) = do
      return ⟨← optionalText name, ← HostType.ofTree true type⟩ :: (← paramsOfTrees rest) := by
  rw [paramsOfTrees]
  grind

/-! ## Section 3: Reading a variant of a written type -/

theorem Variant.isBare {written : List (String × Tree)} {u : Tree}
    (h : Variant .type (.record written) u) : u.isBare = true := by
  obtain ⟨entries, rfl, _⟩ := h.slot
  rfl

/-- What a reader finds of a written type that has another type as its only field. -/
theorem Variant.elem {kind : String} {elem u : Tree}
    (h : Variant .type (.record [("kind", .text kind), ("elem", elem)]) u)
    (hfields : Role.kindFields kind = [⟨"elem", .type, none⟩]) :
    u.tagged? = some (.text kind, u) ∧
      ∃ elem', u.slots ["elem"] false = some [some elem'] ∧ Variant .type elem elem' := by
  have hss : (Tree.record [("kind", .text kind), ("elem", elem)]).slots
      ((Role.kindFields kind).map (·.name)) false = some [some elem] := by
    rw [hfields]
    rfl
  obtain ⟨ht, ss, hss, hfound⟩ := h.tagged rfl hss
  rw [hfields] at hss hfound
  obtain ⟨_, rfl, hslot⟩ := hfound.one
  obtain ⟨elem', rfl, helem⟩ := hslot.piece
  exact ⟨ht, elem', hss, helem⟩

/-- What a reader finds of a written signature. -/
theorem VariantSlots.signature {params results : List Tree} {variadic : Bool}
    {ss : List (Option Tree)}
    (h : VariantSlots Role.signatureFields
      [some (.list params), some (.list results), some (.bool variadic)] ss) :
    ∃ p r v ps rs, ss = [p, r, v] ∧ itemsOrNone p = some ps ∧ itemsOrNone r = some rs ∧
      VariantItems .param params ps ∧ VariantItems .type results rs ∧ flag v = some variadic := by
  obtain ⟨_, _, _, rfl, hparams, hresults, hvariadic⟩ := h.three
  obtain ⟨ps, hps, hparams⟩ := hparams.items
  obtain ⟨rs, hrs, hresults⟩ := hresults.items
  exact ⟨_, _, _, ps, rs, rfl, hps, hrs, hparams, hresults, hvariadic.flag⟩

theorem slots_field (name : String) (type : Tree) (tag : Option String) :
    (Tree.record ([("name", .text name), ("type", type)] ++ textEntry "tag" tag)).slots
      ["name", "type", "tag"] false = some [some (.text name), some type, tag.map .text] := by
  cases tag <;> rfl

theorem slots_param (name : Option String) (type : Tree) :
    (Tree.record (textEntry "name" name ++ [("type", type)])).slots ["name", "type"] false =
      some [name.map .text, some type] := by
  cases name <;> rfl

section method

variable (name : String) (params results : List Tree) (variadic : Bool) (docs : Option String)

def methodEntries : List (String × Tree) :=
  [("name", .text name)] ++ signatureEntries params results variadic ++ textEntry "docs" docs

theorem slots_method :
    (Tree.record (methodEntries name params results variadic docs)).slots ["name", "docs"] false =
      some [some (.text name), docs.map .text] := by
  cases docs <;> rfl

theorem slots_methodSignature :
    (Tree.record (methodEntries name params results variadic docs)).slots
      ["params", "results", "variadic"] false =
      some [some (.list params), some (.list results), some (.bool variadic)] := by
  cases docs <;> rfl

variable {name params results variadic docs}

/-- What a reader finds of a written method, whose signature stands beside its name. -/
theorem Variant.method {u : Tree}
    (h : Variant .method (.record (methodEntries name params results variadic docs)) u) :
    ∃ entries d ss, u = .record entries ∧
      (Tree.record entries).slots ["name", "docs"] false = some [some (.text name), d] ∧
      optionalText d = some docs ∧
      (Tree.record entries).slots ["params", "results", "variadic"] false = some ss ∧
      VariantSlots Role.signatureFields
        [some (.list params), some (.list results), some (.bool variadic)] ss := by
  -- A method holds its own fields and those of its signature, side by side.
  have hown : ∀ rule ∈ ([⟨"name", .plain, none⟩, ⟨"docs", .plain, none⟩] : List FieldRule),
      rule ∈ Role.fields .method (methodEntries name params results variadic docs) := by
    simp [Role.fields]
  have hbeside : ∀ rule ∈ Role.signatureFields,
      rule ∈ Role.fields .method (methodEntries name params results variadic docs) :=
    fun rule hrule => List.mem_append_left _ (List.mem_cons_of_mem _ hrule)
  obtain ⟨own, hown, hfound⟩ := h.slots hown (slots_method name params results variadic docs)
  obtain ⟨ss, hss, hparts⟩ :=
    h.slots hbeside (slots_methodSignature name params results variadic docs)
  obtain ⟨entries, rfl, _⟩ := h.slot
  obtain ⟨_, _, rfl, hname, hdocs⟩ := hfound.two
  obtain rfl := hname.text
  exact ⟨entries, _, ss, rfl, hown, hdocs.optionalText, hss, hparts⟩

end method

section variants

open HostType

mutual

/-- A variant of a written type is read as this type, on its own and inside another one. -/
theorem HostType.ofTree_variant : ∀ (t : HostType) (nested : Bool) {u : Tree},
    t.inRange = true → Variant .type t.toTree u → HostType.ofTree nested u = some t
  -- Kinds that say nothing more are read from a bare label, too.
  | .bool, nested, u, _, h => by
    rw [toTree] at h
    exact ofTree_bool (h.tagged rfl rfl).1 h.isBare
  | .string, nested, u, _, h => by
    rw [toTree] at h
    exact ofTree_string (h.tagged rfl rfl).1 h.isBare
  | .error, nested, u, _, h => by
    rw [toTree] at h
    exact ofTree_error (h.tagged rfl rfl).1 h.isBare
  -- The width is read back because it is in range, and a flag that is left out is off.
  | .int bits unsigned, nested, u, hr, h => by
    rw [inRange, decide_eq_true_iff] at hr
    rw [toTree] at h
    obtain ⟨ht, ss, hss, hfound⟩ := h.tagged rfl rfl
    obtain ⟨_, _, rfl, hbits, hunsigned⟩ := hfound.two
    rw [ofTree_int ht hss, hbits.width hr, hunsigned.flag]
    rfl
  | .float bits, nested, u, hr, h => by
    rw [inRange, decide_eq_true_iff] at hr
    rw [toTree] at h
    obtain ⟨ht, ss, hss, hfound⟩ := h.tagged rfl rfl
    obtain ⟨_, rfl, hbits⟩ := hfound.one
    rw [ofTree_float ht hss, hbits.width hr]
    rfl
  | .complex bits, nested, u, hr, h => by
    rw [inRange, decide_eq_true_iff] at hr
    rw [toTree] at h
    obtain ⟨ht, ss, hss, hfound⟩ := h.tagged rfl rfl
    obtain ⟨_, rfl, hbits⟩ := hfound.one
    rw [ofTree_complex ht hss, hbits.width hr]
    rfl
  -- A type with one part: the part is a variant of what was written for it, inside this one.
  | .slice elem, nested, u, hr, h => by
    rw [inRange] at hr
    rw [toTree] at h
    obtain ⟨ht, elem', hss, helem⟩ := h.elem rfl
    rw [ofTree_slice ht hss, HostType.ofTree_variant elem true hr helem]
    rfl
  | .pointer elem, nested, u, hr, h => by
    rw [inRange] at hr
    rw [toTree] at h
    obtain ⟨ht, elem', hss, helem⟩ := h.elem rfl
    rw [ofTree_pointer ht hss, HostType.ofTree_variant elem true hr helem]
    rfl
  | .chan elem, nested, u, hr, h => by
    rw [inRange] at hr
    rw [toTree] at h
    obtain ⟨ht, elem', hss, helem⟩ := h.elem rfl
    rw [ofTree_chan ht hss, HostType.ofTree_variant elem true hr helem]
    rfl
  -- Of two slots each is a variant by itself, in whatever order they stand.
  | .array len elem, nested, u, hr, h => by
    rw [inRange, Bool.and_eq_true, decide_eq_true_iff] at hr
    rw [toTree] at h
    obtain ⟨ht, ss, hss, hfound⟩ := h.tagged rfl rfl
    obtain ⟨_, _, rfl, hlen, hslot⟩ := hfound.two
    obtain rfl := hlen.natural
    obtain ⟨elem', rfl, helem⟩ := hslot.piece
    have hword : (Tree.natural len).natBelow wordValues = some len := if_pos hr.1
    rw [ofTree_array ht hss, hword, HostType.ofTree_variant elem true hr.2 helem]
    rfl
  | .map key value, nested, u, hr, h => by
    rw [inRange, Bool.and_eq_true] at hr
    rw [toTree] at h
    obtain ⟨ht, ss, hss, hfound⟩ := h.tagged rfl rfl
    obtain ⟨_, _, rfl, hkeySlot, hvalueSlot⟩ := hfound.two
    obtain ⟨key', rfl, hkey⟩ := hkeySlot.piece
    obtain ⟨value', rfl, hvalue⟩ := hvalueSlot.piece
    rw [ofTree_map ht hss, HostType.ofTree_variant key true hr.1 hkey,
      HostType.ofTree_variant value true hr.2 hvalue]
    rfl
  -- Lists of parts vary item by item.
  | .struct fields, nested, u, hr, h => by
    rw [inRange] at hr
    rw [toTree] at h
    obtain ⟨ht, ss, hss, hfound⟩ := h.tagged rfl rfl
    obtain ⟨_, rfl, hslot⟩ := hfound.one
    obtain ⟨items, hitems, hfields⟩ := hslot.items
    rw [ofTree_struct ht hss hitems, fieldsOfTrees_variant fields hr hfields]
    rfl
  | .interface methods, nested, u, hr, h => by
    rw [inRange] at hr
    rw [toTree] at h
    obtain ⟨ht, ss, hss, hfound⟩ := h.tagged rfl rfl
    obtain ⟨_, rfl, hslot⟩ := hfound.one
    obtain ⟨items, hitems, hmethods⟩ := hslot.items
    rw [ofTree_interface ht hss hitems, methodsOfTrees_variant methods hr hmethods]
    rfl
  -- The signature is a record in a slot of its own, and its three parts are found in there.
  | .func ⟨params, results, variadic⟩, nested, u, hr, h => by
    rw [inRange, Bool.and_eq_true] at hr
    rw [toTree] at h
    obtain ⟨ht, ss, hss, hfound⟩ := h.tagged rfl rfl
    obtain ⟨_, rfl, hslot⟩ := hfound.one
    obtain ⟨signature, rfl, hsignature⟩ := hslot.piece
    obtain ⟨found, hfound, hparts⟩ := hsignature.slots (fun _ => id) rfl
    obtain ⟨p, r, v, ps, rs, rfl, hp, hr', hparams, hresults, hvariadic⟩ := hparts.signature
    rw [ofTree_func ht hss, signatureOfTree_eq hfound hp hr',
      paramsOfTrees_variant params hr.1 hparams, typesOfTrees_variant results hr.2 hresults,
      hvariadic]
    rfl
  | .named name, nested, u, _, h => by
    rw [toTree] at h
    obtain ⟨ht, ss, hss, hfound⟩ := h.tagged rfl rfl
    obtain ⟨_, rfl, hname⟩ := hfound.one
    obtain rfl := hname.text
    exact ofTree_named ht hss

/-- So are fields. -/
theorem fieldsOfTrees_variant : ∀ (fields : List HostField) {us : List Tree},
    fieldsInRange fields = true → VariantItems .field (fieldsToTrees fields) us →
      fieldsOfTrees us = some fields
  | [], us, _, h => by
    rw [fieldsToTrees] at h
    cases h
    rw [fieldsOfTrees]
  | ⟨name, type, tag⟩ :: rest, us, hr, h => by
    rw [fieldsInRange, Bool.and_eq_true] at hr
    rw [fieldsToTrees] at h
    cases h with | cons h hrest =>
    -- Each of the three slots is read from what stands in it now.
    obtain ⟨ss, hss, hfound⟩ := h.slots (fun _ => id) (slots_field name type.toTree tag)
    obtain ⟨_, _, _, rfl, hname, hslot, htag⟩ := hfound.three
    obtain rfl := hname.text
    obtain ⟨type', rfl, htype⟩ := hslot.piece
    rw [fieldsOfTrees_cons hss, HostType.ofTree_variant type true hr.1 htype, htag.optionalText,
      fieldsOfTrees_variant rest hr.2 hrest]
    rfl

/-- So are methods. -/
theorem methodsOfTrees_variant : ∀ (methods : List HostMethod) {us : List Tree},
    methodsInRange methods = true → VariantItems .method (methodsToTrees methods) us →
      methodsOfTrees us = some methods
  | [], us, _, h => by
    rw [methodsToTrees] at h
    cases h
    rw [methodsOfTrees]
  | ⟨name, ⟨params, results, variadic⟩, docs⟩ :: rest, us, hr, h => by
    rw [methodsInRange, Bool.and_eq_true, Bool.and_eq_true] at hr
    rw [methodsToTrees] at h
    cases h with | cons h hrest =>
    obtain ⟨entries, d, found, rfl, hss, hdocs, hfound, hparts⟩ := h.method
    obtain ⟨p, r, v, ps, rs, rfl, hp, hr', hparams, hresults, hvariadic⟩ := hparts.signature
    rw [methodsOfTrees_cons hss, signatureOfTree_eq hfound hp hr',
      paramsOfTrees_variant params hr.1.1 hparams, typesOfTrees_variant results hr.1.2 hresults,
      hvariadic, hdocs, methodsOfTrees_variant rest hr.2 hrest]
    rfl

/-- So are parameters. -/
theorem paramsOfTrees_variant : ∀ (params : List HostParam) {us : List Tree},
    paramsInRange params = true → VariantItems .param (paramsToTrees params) us →
      paramsOfTrees us = some params
  | [], us, _, h => by
    rw [paramsToTrees] at h
    cases h
    rw [paramsOfTrees]
  | ⟨name, type⟩ :: rest, us, hr, h => by
    rw [paramsInRange, Bool.and_eq_true] at hr
    rw [paramsToTrees] at h
    cases h with | cons h hrest =>
    obtain ⟨ss, hss, hfound⟩ := h.slots (fun _ => id) (slots_param name type.toTree)
    obtain ⟨_, _, rfl, hname, hslot⟩ := hfound.two
    obtain ⟨type', rfl, htype⟩ := hslot.piece
    rw [paramsOfTrees_cons hss, hname.optionalText, HostType.ofTree_variant type true hr.1 htype,
      paramsOfTrees_variant rest hr.2 hrest]
    rfl

/-- So are several types. -/
theorem typesOfTrees_variant : ∀ (types : List HostType) {us : List Tree},
    typesInRange types = true → VariantItems .type (typesToTrees types) us →
      typesOfTrees us = some types
  | [], us, _, h => by
    rw [typesToTrees] at h
    cases h
    rw [typesOfTrees]
  | t :: rest, us, hr, h => by
    rw [typesInRange, Bool.and_eq_true] at hr
    rw [typesToTrees] at h
    cases h with | cons h hrest =>
    rw [typesOfTrees, HostType.ofTree_variant t true hr.1 h,
      typesOfTrees_variant rest hr.2 hrest]
    rfl

end

end variants

/-! ## Section 4: Written descriptors have an exact text -/

namespace HostType

open TypeNode (exact_textEntry)

/-- The entries of a record have exact texts if the given ones do, the texts that may be missing
    aside. -/
theorem exact_signatureEntries {params results : List Tree} (variadic : Bool)
    (hparams : ∀ t ∈ params, t.Exact) (hresults : ∀ t ∈ results, t.Exact) :
    ∀ e ∈ signatureEntries params results variadic, e.2.Exact := by
  simp [signatureEntries, Exact.list hparams, Exact.list hresults, Exact.bool]

theorem lt_wordValues {bits : Nat} (h : bits < 256) : bits < wordValues :=
  Nat.lt_trans h (by decide)

mutual

theorem exact_toTree : ∀ t : HostType, t.inRange = true → t.toTree.Exact
  | .bool, _ | .string, _ | .error, _ | .named _, _ => by
    rw [toTree]
    exact .record (by simp [Exact.text])
  | .int bits unsigned, h => by
    rw [inRange, decide_eq_true_iff] at h
    rw [toTree]
    exact .record (by simp [Exact.text, Exact.natural (lt_wordValues h), Exact.bool])
  | .float bits, h | .complex bits, h => by
    rw [inRange, decide_eq_true_iff] at h
    rw [toTree]
    exact .record (by simp [Exact.text, Exact.natural (lt_wordValues h)])
  | .slice elem, h | .pointer elem, h | .chan elem, h => by
    rw [inRange] at h
    rw [toTree]
    exact .record (by simp [Exact.text, exact_toTree elem h])
  | .array len elem, h => by
    rw [inRange, Bool.and_eq_true, decide_eq_true_iff] at h
    rw [toTree]
    exact .record (by simp [Exact.text, Exact.natural h.1, exact_toTree elem h.2])
  | .map key value, h => by
    rw [inRange, Bool.and_eq_true] at h
    rw [toTree]
    exact .record (by simp [Exact.text, exact_toTree key h.1, exact_toTree value h.2])
  | .struct fields, h => by
    rw [inRange] at h
    rw [toTree]
    exact .record (by simp [Exact.text, Exact.list (exact_fieldsToTrees fields h)])
  | .interface methods, h => by
    rw [inRange] at h
    rw [toTree]
    exact .record (by simp [Exact.text, Exact.list (exact_methodsToTrees methods h)])
  | .func ⟨params, results, variadic⟩, h => by
    rw [inRange, Bool.and_eq_true] at h
    have hsignature := exact_signatureEntries variadic (exact_paramsToTrees params h.1)
      (exact_typesToTrees results h.2)
    rw [toTree]
    exact .record (by simp [Exact.text, Exact.record hsignature])

theorem exact_fieldsToTrees : ∀ fields : List HostField, fieldsInRange fields = true →
    ∀ t ∈ fieldsToTrees fields, t.Exact
  | [], _ => by
    rw [fieldsToTrees]
    simp
  | ⟨name, type, tag⟩ :: rest, h => by
    rw [fieldsInRange, Bool.and_eq_true] at h
    rw [fieldsToTrees]
    refine List.forall_mem_cons.mpr ⟨.record ?_, exact_fieldsToTrees rest h.2⟩
    refine List.forall_mem_append.mpr ⟨?_, exact_textEntry _ _⟩
    simp [Exact.text, exact_toTree type h.1]

theorem exact_methodsToTrees : ∀ methods : List HostMethod, methodsInRange methods = true →
    ∀ t ∈ methodsToTrees methods, t.Exact
  | [], _ => by
    rw [methodsToTrees]
    simp
  | ⟨name, ⟨params, results, variadic⟩, docs⟩ :: rest, h => by
    rw [methodsInRange, Bool.and_eq_true, Bool.and_eq_true] at h
    have hsignature := exact_signatureEntries variadic (exact_paramsToTrees params h.1.1)
      (exact_typesToTrees results h.1.2)
    rw [methodsToTrees]
    refine List.forall_mem_cons.mpr ⟨.record ?_, exact_methodsToTrees rest h.2⟩
    simp only [List.forall_mem_append]
    exact ⟨⟨List.forall_mem_singleton.mpr .text, hsignature⟩, exact_textEntry _ _⟩

theorem exact_paramsToTrees : ∀ params : List HostParam, paramsInRange params = true →
    ∀ t ∈ paramsToTrees params, t.Exact
  | [], _ => by
    rw [paramsToTrees]
    simp
  | ⟨name, type⟩ :: rest, h => by
    rw [paramsInRange, Bool.and_eq_true] at h
    rw [paramsToTrees]
    refine List.forall_mem_cons.mpr ⟨.record ?_, exact_paramsToTrees rest h.2⟩
    refine List.forall_mem_append.mpr ⟨exact_textEntry _ _, ?_⟩
    exact List.forall_mem_singleton.mpr (exact_toTree type h.1)

theorem exact_typesToTrees : ∀ types : List HostType, typesInRange types = true →
    ∀ t ∈ typesToTrees types, t.Exact
  | [], _ => by
    rw [typesToTrees]
    simp
  | t :: rest, h => by
    rw [typesInRange, Bool.and_eq_true] at h
    rw [typesToTrees]
    exact List.forall_mem_cons.mpr ⟨exact_toTree t h.1, exact_typesToTrees rest h.2⟩

end

end HostType

theorem TypeDecl.exact_toTree {decl : TypeDecl} (h : decl.type.inRange = true) :
    decl.toTree.Exact := by
  refine .record ?_
  simp only [List.forall_mem_append]
  refine ⟨⟨?_, TypeNode.exact_textEntry _ _⟩, ?_⟩
  · simp [Exact.text, HostType.exact_toTree decl.type h]
  · cases decl.enum with
    | none => exact fun e he => absurd he List.not_mem_nil
    | some members =>
      exact List.forall_mem_singleton.mpr (.list (TypeNode.exact_enumMembers members))

theorem HostModule.exact_toTree {m : HostModule} (h : m.inRange = true) : m.toTree.Exact := by
  have htypes : ∀ t ∈ m.types.map TypeDecl.toTree, t.Exact := by
    intro t ht
    obtain ⟨decl, hdecl, rfl⟩ := List.mem_map.mp ht
    exact TypeDecl.exact_toTree (List.all_eq_true.mp h decl hdecl)
  refine .record (List.forall_mem_append.mpr ⟨TypeNode.exact_textEntry _ _, ?_⟩)
  exact List.forall_mem_singleton.mpr (.list htypes)

/-! ## Section 5: Reading a variant of a written module -/

/-- Pieces that are read one by one. -/
theorem VariantItems.mapM {α : Type} {role : Role} {write : α → Tree} {read : Tree → Option α}
    {as : List α} (hread : ∀ a ∈ as, ∀ u, Variant role (write a) u → read u = some a)
    {us : List Tree} (h : VariantItems role (as.map write) us) : us.mapM read = some as := by
  induction as generalizing us with
  | nil =>
    cases h
    rfl
  | cons a rest ih =>
    obtain ⟨ha, hrest⟩ := List.forall_mem_cons.mp hread
    rw [List.map_cons] at h
    cases h with | cons h hs =>
    rw [List.mapM_cons, ha _ h, ih hrest hs]
    rfl

theorem EnumMember.ofTree_variant (lenient : Bool) {member : EnumMember} {u : Tree}
    (h : Variant .enumMember member.toTree u) : EnumMember.ofTree lenient u = some member := by
  rw [EnumMember.toTree] at h
  obtain ⟨ss, hss, hfound⟩ := h.slots (fun _ => id) rfl
  obtain ⟨_, _, rfl, hname, hvalue⟩ := hfound.two
  obtain rfl := hname.text
  obtain rfl := hvalue.text
  have hss : u.slots ["name", "value"] lenient = _ := hss
  rw [EnumMember.ofTree, hss]

/-- An annotation that is there stays, also when it has no members. -/
theorem VariantSlot.annotation {enum : Option (List EnumMember)} {x : Option Tree}
    (lenient : Bool)
    (h : VariantSlot ⟨"enum", .list .enumMember, none⟩
      (enum.map fun members => .list (members.map EnumMember.toTree)) x) :
    enumAnnotation lenient x = some enum := by
  cases enum with
  | none =>
    cases h
    rfl
  | some members =>
    obtain ⟨u, rfl, hlist⟩ := h.piece
    cases hlist with | list hitems =>
    have hmembers := hitems.mapM fun _ _ u => EnumMember.ofTree_variant lenient
    show some <$> List.mapM (EnumMember.ofTree lenient) _ = some (some members)
    rw [hmembers]
    rfl

theorem TypeDecl.slots_toTree (decl : TypeDecl) (lenient : Bool) :
    decl.toTree.slots ["name", "type", "docs", "enum"] lenient =
      some [some (.text decl.name), some decl.type.toTree, decl.docs.map .text,
        decl.enum.map fun members => .list (members.map EnumMember.toTree)] := by
  obtain ⟨name, type, docs, enum⟩ := decl
  cases docs <;> cases enum <;> rfl

theorem TypeDecl.ofTree_variant (lenient : Bool) {decl : TypeDecl} {u : Tree}
    (hr : decl.type.inRange = true) (h : Variant .decl decl.toTree u) :
    TypeDecl.ofTree lenient u = some decl := by
  obtain ⟨ss, hss, hfound⟩ := h.slots (fun _ => id) (decl.slots_toTree lenient)
  cases hfound with | cons hname hfound =>
  cases hfound with | cons hslot hfound =>
  cases hfound with | cons hdocs hfound =>
  cases hfound with | cons henum hfound =>
  cases hfound
  obtain rfl := hname.text
  obtain ⟨type', rfl, htype⟩ := hslot.piece
  have hread : HostType.read type' = some decl.type := by
    rw [HostType.read, if_pos (htype.isReadable (HostType.exact_toTree decl.type hr).isReadable)]
    exact HostType.ofTree_variant decl.type false hr htype
  have hss : u.slots ["name", "type", "docs", "enum"] lenient = _ := hss
  rw [TypeDecl.ofTree, hss]
  simp only [hread, hdocs.optionalText, henum.annotation lenient]
  rfl

theorem HostModule.slots_toTree (m : HostModule) (lenient : Bool) :
    m.toTree.slots ["package", "types"] lenient =
      some [m.package.map .text, some (.list (m.types.map TypeDecl.toTree))] := by
  obtain ⟨package, types⟩ := m
  cases package <;> rfl

/-- A variant of a written module is read as this module. -/
theorem HostModule.ofTree_variant (lenient : Bool) {m : HostModule} {u : Tree}
    (hr : m.inRange = true) (h : Variant .module m.toTree u) :
    HostModule.ofTree lenient u = some m := by
  obtain ⟨ss, hss, hfound⟩ := h.slots (fun _ => id) (m.slots_toTree lenient)
  obtain ⟨_, _, rfl, hpackage, htypes⟩ := hfound.two
  obtain ⟨us, hus, hdecls⟩ := htypes.items
  have hmapM := hdecls.mapM fun decl hdecl u =>
    TypeDecl.ofTree_variant lenient (List.all_eq_true.mp hr decl hdecl)
  have hss : u.slots ["package", "types"] lenient = _ := hss
  rw [HostModule.ofTree, hss]
  simp only [hpackage.optionalText, hus, Option.bind_eq_bind, Option.bind_some, hmapM]
  rfl

/-! ## Section 6: What is written is a variant of itself -/

theorem VariantFields.self {rules : List FieldRule} {written : List (String × Tree)}
    (h : ∀ e ∈ written, ∃ rule ∈ rules, rule.name = e.1 ∧ Variant rule.role e.2 e.2) :
    VariantFields rules written written := by
  induction written with
  | nil => exact .nil
  | cons e rest ih =>
    obtain ⟨⟨rule, hrule, hname, hvalue⟩, hrest⟩ := List.forall_mem_cons.mp h
    obtain ⟨name, t⟩ := e
    subst hname
    exact .keep hrule hvalue (ih hrest)

theorem VariantItems.self {item : Role} {ts : List Tree} (h : ∀ t ∈ ts, Variant item t t) :
    VariantItems item ts ts := by
  induction ts with
  | nil => exact .nil
  | cons t rest ih =>
    obtain ⟨ht, hrest⟩ := List.forall_mem_cons.mp h
    exact .cons ht (ih hrest)

/-- A record of fields only, none of them twice. -/
theorem Variant.self {role : Role} {written : List (String × Tree)}
    (hdistinct : (written.map (·.1)).Nodup)
    (h : ∀ e ∈ written, ∃ rule ∈ role.fields written,
      rule.name = e.1 ∧ Variant rule.role e.2 e.2) :
    Variant role (.record written) (.record written) := by
  have hfield : ∀ e ∈ written, e.1 ∈ (role.fields written).map (·.name) := by
    intro e he
    obtain ⟨rule, hrule, hname, _⟩ := h e he
    exact List.mem_map.mpr ⟨rule, hrule, hname⟩
  refine .record (.self h) hdistinct ?_ fun e he hother => absurd (hfield e he) hother
  rw [knownEntries, List.filter_eq_self.mpr fun e he => List.contains_iff_mem.mpr (hfield e he)]

theorem variant_textEntry {rules : List FieldRule} {name : String} (s : Option String)
    (h : ⟨name, .plain, none⟩ ∈ rules) :
    ∀ e ∈ textEntry name s, ∃ rule ∈ rules, rule.name = e.1 ∧ Variant rule.role e.2 e.2 := by
  cases s with
  | none => exact fun e he => absurd he List.not_mem_nil
  | some s => exact List.forall_mem_singleton.mpr ⟨_, h, rfl, .text⟩

/-- A written type. -/
theorem Variant.selfTagged {kind : String} {written : List (String × Tree)}
    (hdistinct : ("kind" :: written.map (·.1)).Nodup)
    (h : ∀ e ∈ written, ∃ rule ∈ Role.kindFields kind,
      rule.name = e.1 ∧ Variant rule.role e.2 e.2) :
    Variant .type (.record (("kind", .text kind) :: written))
      (.record (("kind", .text kind) :: written)) := by
  -- The tag is the only entry of its name, so the kind is known.
  have hkind : soleValue? "kind" (("kind", .text kind) :: written) = some (some (.text kind)) := by
    refine soleValue?_cons_self.mpr ⟨?_, rfl⟩
    have hnone : written.filter (·.1 == "kind") = [] := by
      refine List.filter_eq_nil_iff.mpr fun e he hname => ?_
      have hmem := List.mem_map_of_mem (f := (·.1)) he
      rw [beq_iff_eq.mp hname] at hmem
      exact (List.nodup_cons.mp hdistinct).1 hmem
    rw [soleValue?, hnone]
  refine .self hdistinct ?_
  rw [Role.fields_type hkind]
  refine List.forall_mem_cons.mpr ⟨⟨_, List.mem_cons_self .., rfl, .text⟩, fun e he => ?_⟩
  obtain ⟨rule, hrule, hrest⟩ := h e he
  exact ⟨rule, List.mem_cons_of_mem _ hrule, hrest⟩

theorem variant_signatureEntries {rules : List FieldRule} {params results : List Tree}
    (variadic : Bool) (hrules : ∀ rule ∈ Role.signatureFields, rule ∈ rules)
    (hparams : ∀ t ∈ params, Variant .param t t) (hresults : ∀ t ∈ results, Variant .type t t) :
    ∀ e ∈ signatureEntries params results variadic,
      ∃ rule ∈ rules, rule.name = e.1 ∧ Variant rule.role e.2 e.2 := by
  have hsignature : ∀ e ∈ signatureEntries params results variadic,
      ∃ rule ∈ Role.signatureFields, rule.name = e.1 ∧ Variant rule.role e.2 e.2 := by
    simp [signatureEntries, Role.signatureFields, Variant.list (.self hparams),
      Variant.list (.self hresults), Variant.bool]
  intro e he
  obtain ⟨rule, hrule, hrest⟩ := hsignature e he
  exact ⟨rule, hrules rule hrule, hrest⟩

namespace HostType

mutual

theorem variant_toTree : ∀ t : HostType, Variant .type t.toTree t.toTree
  | .bool | .string | .error => by
    rw [toTree]
    exact .selfTagged (by simp) (by simp)
  | .int .. | .float _ | .complex _ | .named _ => by
    rw [toTree]
    exact .selfTagged (by simp)
      (by simp [Role.kindFields, Variant.text, Variant.natural, Variant.bool])
  | .slice elem | .pointer elem | .chan elem => by
    rw [toTree]
    exact .selfTagged (by simp) (by simp [Role.kindFields, variant_toTree elem])
  | .array len elem => by
    rw [toTree]
    exact .selfTagged (by simp) (by simp [Role.kindFields, Variant.natural, variant_toTree elem])
  | .map key value => by
    rw [toTree]
    exact .selfTagged (by simp)
      (by simp [Role.kindFields, variant_toTree key, variant_toTree value])
  | .struct fields => by
    have hfields := Variant.list (.self (variant_fieldsToTrees fields))
    rw [toTree]
    exact .selfTagged (by simp) (by simp [Role.kindFields, hfields])
  | .interface methods => by
    have hmethods := Variant.list (.self (variant_methodsToTrees methods))
    rw [toTree]
    exact .selfTagged (by simp) (by simp [Role.kindFields, hmethods])
  | .func ⟨params, results, variadic⟩ => by
    have hsignature : Variant .signature _ _ := .self (by simp [signatureEntries])
      (variant_signatureEntries variadic (fun _ => id) (variant_paramsToTrees params)
        (variant_typesToTrees results))
    rw [toTree]
    exact .selfTagged (by simp) (by simp [Role.kindFields, hsignature])

theorem variant_fieldsToTrees : ∀ fields : List HostField,
    ∀ t ∈ fieldsToTrees fields, Variant .field t t
  | [] => by
    rw [fieldsToTrees]
    simp
  | ⟨name, type, tag⟩ :: rest => by
    rw [fieldsToTrees]
    refine List.forall_mem_cons.mpr ⟨.self ?_ ?_, variant_fieldsToTrees rest⟩
    · cases tag <;> simp [textEntry]
    · refine List.forall_mem_append.mpr ⟨?_, variant_textEntry tag (by simp [Role.fields])⟩
      simp [Role.fields, Variant.text, variant_toTree type]

theorem variant_methodsToTrees : ∀ methods : List HostMethod,
    ∀ t ∈ methodsToTrees methods, Variant .method t t
  | [] => by
    rw [methodsToTrees]
    simp
  | ⟨name, ⟨params, results, variadic⟩, docs⟩ :: rest => by
    rw [methodsToTrees]
    refine List.forall_mem_cons.mpr ⟨.self ?_ ?_, variant_methodsToTrees rest⟩
    · cases docs <;> simp [textEntry, signatureEntries]
    · simp only [List.forall_mem_append]
      refine ⟨⟨?_, variant_signatureEntries variadic ?_ (variant_paramsToTrees params)
        (variant_typesToTrees results)⟩, variant_textEntry docs (by simp [Role.fields])⟩
      · simp [Role.fields, Variant.text]
      · exact fun rule hrule => List.mem_append_left _ (List.mem_cons_of_mem _ hrule)

theorem variant_paramsToTrees : ∀ params : List HostParam,
    ∀ t ∈ paramsToTrees params, Variant .param t t
  | [] => by
    rw [paramsToTrees]
    simp
  | ⟨name, type⟩ :: rest => by
    rw [paramsToTrees]
    refine List.forall_mem_cons.mpr ⟨.self ?_ ?_, variant_paramsToTrees rest⟩
    · cases name <;> simp [textEntry]
    · refine List.forall_mem_append.mpr ⟨variant_textEntry name (by simp [Role.fields]), ?_⟩
      simp [Role.fields, variant_toTree type]

theorem variant_typesToTrees : ∀ types : List HostType,
    ∀ t ∈ typesToTrees types, Variant .type t t
  | [] => by
    rw [typesToTrees]
    simp
  | t :: rest => by
    rw [typesToTrees]
    exact List.forall_mem_cons.mpr ⟨variant_toTree t, variant_typesToTrees rest⟩

end

end HostType

theorem EnumMember.variant_toTree (member : EnumMember) :
    Variant .enumMember member.toTree member.toTree := by
  refine .self (by simp) ?_
  simp [Role.fields, Variant.text]

theorem TypeDecl.variant_toTree (decl : TypeDecl) : Variant .decl decl.toTree decl.toTree := by
  obtain ⟨name, type, docs, enum⟩ := decl
  refine .self ?_ ?_
  · cases docs <;> cases enum <;> simp [textEntry]
  · simp only [List.forall_mem_append]
    refine ⟨⟨?_, variant_textEntry docs (by simp [Role.fields])⟩, ?_⟩
    · simp [Role.fields, Variant.text, type.variant_toTree]
    · cases enum with
      | none => exact fun e he => absurd he List.not_mem_nil
      | some members =>
        have hmembers : ∀ t ∈ members.map EnumMember.toTree, Variant .enumMember t t := by
          simp [EnumMember.variant_toTree]
        simp [Role.fields, Variant.list (.self hmembers)]

theorem HostModule.variant_toTree (m : HostModule) : Variant .module m.toTree m.toTree := by
  obtain ⟨package, types⟩ := m
  have htypes : ∀ t ∈ types.map TypeDecl.toTree, Variant .decl t t := by
    simp [TypeDecl.variant_toTree]
  refine .self ?_ ?_
  · cases package <;> simp [textEntry]
  · refine List.forall_mem_append.mpr ⟨variant_textEntry package (by simp [Role.fields]), ?_⟩
    simp [Role.fields, Variant.list (.self htypes)]

/-! ## Section 7: Modules -/

/-- What is written for a module, and every variant of it, reads back as this module, as data, as a
    value, and from any text that says it. -/
theorem HostModule.readsBack {m : HostModule} (hm : m.inRange = true) :
    (m.toTree.nesting < Json.depthLimit →
      ∀ layout, Json.read (Json.write layout m.toTree) = some m.toTree) ∧
    Variant .module m.toTree m.toTree ∧
    ∀ t, Variant .module m.toTree t →
      (∀ lenient, HostModule.ofTree lenient t = some m) ∧
      (∃ v, Json.Value.ofTree t = some v ∧
        ∀ lenient, HostModule.ofTree lenient v.toTree = some m) ∧
      ∀ path text, Tool.extension? path ≠ some "toml" → Json.read text = some t →
        Tool.readDescriptors path text = some m := by
  have hexact := exact_toTree hm
  refine ⟨fun hdepth layout => ?_, variant_toTree m, fun t ht => ⟨?_, ?_, ?_⟩⟩
  · have hread : Json.read (Json.write layout m.toTree ++ "") = _ :=
      Json.read_write hexact hdepth layout (by simp)
    rwa [String.append_empty] at hread
  · exact fun lenient => ofTree_variant lenient hm ht
  · -- A text is read through values, where keys stand once and in order.
    have hreadable := ht.isReadable hexact.isReadable
    refine ⟨_, Json.Value.ofTree_eq_meaning hreadable, fun lenient => ?_⟩
    exact ofTree_variant lenient hm (ht.throughValue hreadable)
  · intro path text hpath htext
    rw [Tool.readDescriptors, if_neg hpath, htext]
    exact ofTree_variant false hm ht

/-- A declaration that is annotated as an enumeration without members. -/
def levelModule : HostModule where
  types := [⟨"Level", .int 64 true, none, some []⟩]

/-- The same module with its keys in another order and unknown keys among them, and without the
    width. -/
def levelModuleRearranged : Tree :=
  .record [("revision", .natural 3), ("types", .list [.record [("enum", .list []),
    ("type", .record [("unsigned", .bool true), ("least", .null), ("kind", .text "int")]),
    ("name", .text "Level"), ("least", .null)]])]

theorem levelModule_readsBack :
    levelModule.inRange = true ∧ Variant .module levelModule.toTree levelModuleRearranged ∧
      ∀ lenient, HostModule.ofTree lenient levelModuleRearranged = some levelModule := by
  have hrange : levelModule.inRange = true := by decide
  have htype : Variant .type (HostType.int 64 true).toTree
      (.record [("unsigned", .bool true), ("least", .null), ("kind", .text "int")]) := by
    rw [HostType.toTree]
    exact .record (@VariantFields.keep _ ⟨"kind", .plain, none⟩ _ _ _ _ (.head _) .text
      (@VariantFields.leaveOut _ ⟨"bits", .plain, some (.natural 64)⟩ _ _ _ (.tail _ (.head _)) rfl
      (@VariantFields.keep _ ⟨"unsigned", .plain, some (.bool false)⟩ _ _ _ _
        (.tail _ (.tail _ (.head _))) .bool .nil)))
      (by decide) (.swap _ _ _) (by decide)
  -- The entries stand in another order, with one that nothing knows.
  have hdecl : Variant .decl (TypeDecl.toTree ⟨"Level", .int 64 true, none, some []⟩)
      (.record [("enum", .list []),
        ("type", .record [("unsigned", .bool true), ("least", .null), ("kind", .text "int")]),
        ("name", .text "Level"), ("least", .null)]) :=
    .record (@VariantFields.keep _ ⟨"name", .plain, none⟩ _ _ _ _ (.head _) .text
      (@VariantFields.keep _ ⟨"type", .type, none⟩ _ _ _ _ (.tail _ (.head _)) htype
      (@VariantFields.keep _ ⟨"enum", .list .enumMember, none⟩ _ _ _ _
        (.tail _ (.tail _ (.tail _ (.head _)))) (.list .nil) .nil)))
      (by decide) (List.reverse_perm [_, _, _]) (by decide)
  have hmodule : Variant .module levelModule.toTree levelModuleRearranged :=
    .record (@VariantFields.keep _ ⟨"types", .list .decl, some (.list [])⟩ _ _ _ _
      (.tail _ (.head _)) (.list (.cons hdecl .nil)) .nil)
      (by decide) (.refl _) (by decide)
  exact ⟨hrange, hmodule, ((HostModule.readsBack hrange).2.2 _ hmodule).1⟩

end TypeExport
