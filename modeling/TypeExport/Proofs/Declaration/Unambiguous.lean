import TypeExport.Proofs.Declaration.Documentation
import TypeExport.Proofs.Text.Spelling

/-! # Types are Unambiguous

    What is written of a type is not the beginning of what is written of another one.  This holds
    for types in a normal form, which leaves out comments and what the text does not show.

    The text is looked at from its beginning.  `Decodes` says of a node that its text, with anything
    behind it that does not go on a name, is not the beginning of a text of another node.  Brackets
    behind a type are an exception, because they make it an array: the node is known up to the
    number of brackets, and the punctuation that follows a type in a file settles that number.
    There is one lemma for each kind of node, and they are put together along the syntax. -/

namespace TypeExport

open Text

/-! ## Section 1: Types in normal form -/

mutual

/-- The node of a type, without comments.  It does not declare anything, so an interface has no name
    and there is no enumeration. -/
inductive TypeNode.Normal : TypeNode → Prop
  | simple {name} (h : isBareName name = true) (hvoid : name ≠ "void") :
    TypeNode.Normal (.simple name)
  | void : TypeNode.Normal .void
  | array {elem} (h : TypeNode.Normal elem) : TypeNode.Normal (.array [elem])
  | map {key value} (hk : TypeNode.Normal key) (hv : TypeNode.Normal value) :
    TypeNode.Normal (.map [key, value])
  | interface {members} (h : ∀ mem ∈ members, Member.Normal mem) :
    TypeNode.Normal (.interface "" none members)

/-- A member without comments; only a method has parameters.  Its name may be any text. -/
inductive Member.Normal : Member → Prop
  | property {name type optional} (h : TypeNode.Normal type) :
    Member.Normal ⟨name, type, optional, false, none, []⟩
  | method {name type optional args} (h : TypeNode.Normal type)
    (hnames : ∀ a ∈ args, isBareName a.name = true)
    (hargs : ∀ a ∈ args, TypeNode.Normal a.type) :
    Member.Normal ⟨name, type, optional, true, none, args⟩

end

theorem Member.Normal.comment_eq {mem : Member} (h : mem.Normal) : mem.comment = none := by
  cases h <;> rfl

/-- What is normal about the parts of a normal member. -/
theorem Member.Normal.parts {mem : Member} (h : mem.Normal) :
    mem.type.Normal ∧ (∀ a ∈ mem.args, isBareName a.name = true) ∧
      ∀ a ∈ mem.args, a.type.Normal := by
  cases h with
  | property htype => exact ⟨htype, by simp, by simp⟩
  | method htype hnames hargs => exact ⟨htype, hnames, hargs⟩

namespace Render

/-! ## Section 2: Texts of types and members -/

/-- The type that is written as the word. -/
def ofWord (word : String) : TypeNode := if word = "void" then .void else .simple word

theorem type_ofWord (depth : Nat) (word : String) : type depth (ofWord word) = .ok word := by
  unfold ofWord
  split
  · rename_i h
    rw [type, h]
  · rw [type]

theorem isBareName_void : isBareName "void" = true := by decide +kernel

theorem type_array_ok {depth : Nat} {elem : TypeNode} {s : String}
    (h : type depth (.array [elem]) = .ok s) :
    ∃ t, type depth elem = .ok t ∧ s.toList = t.toList ++ ['[', ']'] := by
  obtain ⟨_, t, heq, ht, rfl⟩ := array_ok h
  obtain rfl := (List.cons.inj heq).1
  exact ⟨t, ht, by rw [String.toList_append]; rfl⟩

/-- What is written of a map with these texts of its key and its value. -/
def mapText (k v : String) : List Char :=
  '\x7b' :: ' ' :: ("[key: ".toList ++ (k.toList ++ ']' :: ':' :: ' ' ::
    (v.toList ++ [' ', '\x7d'])))

theorem type_map_ok {depth : Nat} {key value : TypeNode} {s : String}
    (h : type depth (.map [key, value]) = .ok s) :
    ∃ k v, type depth key = .ok k ∧ type depth value = .ok v ∧ s.toList = mapText k v := by
  obtain ⟨_, _, k, v, heq, hk, hv, rfl⟩ := map_ok h
  obtain ⟨rfl, rfl⟩ : key = _ ∧ value = _ := by simpa using heq
  refine ⟨k, v, hk, hv, ?_⟩
  have hopen : "\x7b [key: ".toList = '\x7b' :: ' ' :: "[key: ".toList := rfl
  have hmiddle : "]: ".toList = [']', ':', ' '] := rfl
  have hclose : " \x7d".toList = [' ', '\x7d'] := rfl
  simp [mapText, String.toList_append, hopen, hmiddle, hclose]

/-- What follows the opening brace of a block. -/
def blockRest (depth : Nat) (body : String) : Bool → List Char
  | true => ['\x7d']
  | false => '\n' :: (body.toList ++ ((indent depth).toList ++ ['\x7d']))

theorem toList_block (depth : Nat) (empty : Bool) (body : String) :
    (block depth empty body).toList = '\x7b' :: blockRest depth body empty := by
  unfold block
  cases empty with
  | true => simp [blockRest]
  | false => simp [blockRest, String.toList_append]

theorem type_interface_ok {depth : Nat} {name : String} {doc : Option String}
    {ms : List Member} {s : String} (h : type depth (.interface name doc ms) = .ok s) :
    ∃ body, members (depth + 1) ms = .ok body ∧
      s.toList = '\x7b' :: blockRest depth body ms.isEmpty := by
  obtain ⟨body, hbody, rfl⟩ := interface_ok h
  exact ⟨body, hbody, toList_block _ _ _⟩

/-- What is written of a type that is no array. -/
inductive Spells (depth : Nat) : TypeNode → List Char → Prop
  | word {word} (hword : isBareName word = true) : Spells depth (ofWord word) word.toList
  | map {key value k v} (hkey : key.Normal) (hvalue : value.Normal)
    (hk : type depth key = .ok k) (hv : type depth value = .ok v) :
    Spells depth (.map [key, value]) (mapText k v)
  | interface {members body} (h : ∀ mem ∈ members, Member.Normal mem)
    (hbody : Render.members (depth + 1) members = .ok body) :
    Spells depth (.interface "" none members) ('\x7b' :: blockRest depth body members.isEmpty)

theorem spells_of_normal {depth : Nat} {n : TypeNode} {s : String} (hn : n.Normal)
    (harray : ∀ params, n ≠ .array params) (h : type depth n = .ok s) :
    Spells depth n s.toList := by
  cases hn with
  | @simple name hname hvoid =>
    rw [type] at h
    obtain rfl := Except.ok.inj h
    -- A word that stands for nothing else is the name of a type.
    have hword : Spells depth (ofWord name) name.toList := .word hname
    rwa [ofWord, if_neg hvoid] at hword
  | void =>
    rw [type] at h
    obtain rfl := Except.ok.inj h
    exact .word isBareName_void
  | array => exact absurd rfl (harray _)
  | map hkey hvalue =>
    obtain ⟨k, v, hk, hv, hs⟩ := type_map_ok h
    rw [hs]
    exact .map hkey hvalue hk hv
  | interface hmembers =>
    obtain ⟨body, hbody, hs⟩ := type_interface_ok h
    rw [hs]
    exact .interface hmembers hbody

/-- What stands in the line of a member behind the mark of an optional one, and what follows the
    line. -/
def memberRest (function : Bool) (ps : List String) (t : String) (after : List Char) : List Char :=
  (if function then '(' :: ((", ".intercalate ps).toList ++ [')']) else []) ++
    ':' :: ' ' :: (t.toList ++ ';' :: after)

/-- The text of a member and of what follows it. -/
theorem toList_memberLine (depth : Nat) (mem : Member) (ps : List String) (t : String)
    (after : List Char) :
    (memberLine depth mem ps t).toList ++ after =
      (indent depth).toList ++ ((memberName mem.name).toList ++
        ((if mem.optional then ['?'] else []) ++ memberRest mem.function ps t after)) := by
  have hcolon : ": ".toList = [':', ' '] := rfl
  unfold memberLine memberRest
  cases mem.optional <;> cases mem.function <;> simp [hcolon]

theorem members_nil_ok {depth : Nat} {s : String} (h : members depth [] = .ok s) : s = "" := by
  rw [members] at h
  exact (Except.ok.inj h).symm

theorem members_cons_ok {depth : Nat} {mem : Member} {rest : List Member} {s : String}
    (hcomment : mem.comment = none) (h : members depth (mem :: rest) = .ok s) :
    ∃ ps t body, memberParams depth mem = .ok ps ∧ type depth mem.type = .ok t ∧
      members depth rest = .ok body ∧
      s.toList = (memberLine depth mem ps t).toList ++ '\n' :: body.toList := by
  rw [members_cons] at h
  obtain ⟨ps, hps, h⟩ := bind_ok h
  obtain ⟨t, ht, h⟩ := bind_ok h
  obtain ⟨body, hbody, h⟩ := bind_ok h
  obtain rfl := Except.ok.inj h
  refine ⟨ps, t, body, hps, ht, hbody, ?_⟩
  have hnewline : "\n".toList = ['\n'] := rfl
  simp [hcomment, comment, hnewline]

theorem params_nil_ok {depth : Nat} {ps : List String} (h : params depth [] = .ok ps) :
    ps = [] := by
  rw [params] at h
  exact (Except.ok.inj h).symm

theorem params_cons_ok {depth : Nat} {a : Arg} {rest : List Arg} {ps : List String}
    (h : params depth (a :: rest) = .ok ps) :
    ∃ t ts, type depth a.type = .ok t ∧ params depth rest = .ok ts ∧
      ps = (a.name ++ ": " ++ t) :: ts := by
  rw [params_cons] at h
  obtain ⟨t, ht, h⟩ := bind_ok h
  obtain ⟨ts, hts, h⟩ := bind_ok h
  exact ⟨t, ts, ht, hts, (Except.ok.inj h).symm⟩

end Render

/-! ## Section 3: Arrays -/

/-- Arrays of arrays of the node. -/
def TypeNode.arrays : Nat → TypeNode → TypeNode
  | 0, n => n
  | k + 1, n => .array [arrays k n]

theorem TypeNode.arrays_array (k : Nat) (n : TypeNode) :
    arrays k (.array [n]) = .array [arrays k n] := by
  induction k with
  | zero => rfl
  | succ k ih => rw [arrays, ih, arrays]

namespace Render

/-- What is written behind the type that is in the arrays. -/
def brackets : Nat → List Char
  | 0 => []
  | k + 1 => '[' :: ']' :: brackets k

theorem brackets_append (k : Nat) (after : List Char) :
    brackets k ++ '[' :: ']' :: after = '[' :: ']' :: (brackets k ++ after) := by
  induction k with
  | zero => rfl
  | succ k ih =>
    rw [brackets, List.cons_append, List.cons_append, ih]
    rfl

theorem endsName_brackets {after : List Char} (h : EndsName after) (k : Nat) :
    EndsName (brackets k ++ after) := by
  cases k with
  | zero => exact h
  | succ k => exact endsName_punctuation (by simp) _

/-- Every type is an array of arrays of a type that is no array. -/
theorem exists_spells {depth : Nat} : ∀ {n : TypeNode} {s : String}, n.Normal →
    type depth n = .ok s →
    ∃ k core t, n = TypeNode.arrays k core ∧ Spells depth core t ∧ s.toList = t ++ brackets k
  | .array [elem], s, hn, h => by
    cases hn with | array helem =>
    obtain ⟨t, ht, hs⟩ := type_array_ok h
    -- One more pair of brackets at the end is one more array around the core.
    obtain ⟨k, core, u, rfl, hcore, hu⟩ := exists_spells helem ht
    refine ⟨k + 1, core, u, rfl, hcore, ?_⟩
    have hend := brackets_append k []
    rw [List.append_nil] at hend
    rw [hs, hu, List.append_assoc, hend, brackets]
  | .array [], _, hn, _ | .array (_ :: _ :: _), _, hn, _ => by cases hn
  | .simple _, s, hn, h | .void, s, hn, h | .map _, s, hn, h | .interface .., s, hn, h
  | .enum .., s, hn, h =>
    ⟨0, _, s.toList, rfl, spells_of_normal hn (by simp) h, by rw [brackets, List.append_nil]⟩

/-! ## Section 4: The text of a type -/

/-- The nodes are the same but for brackets: where one of them is an array of the other, the
    brackets stand at the beginning of what follows the other one. -/
def SameBase (n n' : TypeNode) (after after' : List Char) : Prop :=
  ∃ k, n' = TypeNode.arrays k n ∧ after = brackets k ++ after' ∨
    n = TypeNode.arrays k n' ∧ after' = brackets k ++ after

/-- The text of the node is not the beginning of another text, brackets aside. -/
def Decodes (depth : Nat) (n : TypeNode) : Prop :=
  ∀ ⦃n' : TypeNode⦄ ⦃s s' : String⦄ ⦃after after' : List Char⦄, n'.Normal →
    type depth n = .ok s → type depth n' = .ok s' → EndsName after → EndsName after' →
    s.toList ++ after = s'.toList ++ after' → SameBase n n' after after'

/-- A type does not go on here. -/
def EndsType (after : List Char) : Prop := EndsName after ∧ after.head? ≠ some '['

/-- No type goes on at these characters, which follow types in a text. -/
theorem endsType_punctuation {c : Char} (hc : c ∈ [']', ' ', ';', ',', ')'])
    (after : List Char) : EndsType (c :: after) := by
  have hne : c ≠ '[' := by
    rintro rfl
    exact absurd hc (by decide)
  refine ⟨endsName_punctuation ?_ after, by simpa using hne⟩
  simp only [List.mem_cons] at hc ⊢
  tauto

theorem EndsType.brackets_eq {after after' : List Char} (h : EndsType after) {k : Nat}
    (heq : after = brackets k ++ after') : k = 0 := by
  cases k with
  | zero => rfl
  | succ k => exact absurd (heq ▸ rfl) h.2

/-- Where no type goes on, the node is known. -/
theorem Decodes.exact {depth : Nat} {n n' : TypeNode} (hn : Decodes depth n) (hn' : n'.Normal)
    {s s' : String} {after after' : List Char} (hs : type depth n = .ok s)
    (hs' : type depth n' = .ok s') (hafter : EndsType after) (hafter' : EndsType after')
    (h : s.toList ++ after = s'.toList ++ after') : n = n' ∧ after = after' := by
  obtain ⟨k, ⟨rfl, heq⟩ | ⟨rfl, heq⟩⟩ := hn hn' hs hs' hafter.1 hafter'.1 h
  · obtain rfl := hafter.brackets_eq heq
    exact ⟨rfl, heq⟩
  · obtain rfl := hafter'.brackets_eq heq
    exact ⟨rfl, heq.symm⟩

/-- A type that is no array is compared with other such types only. -/
theorem decodes_of_spells {depth : Nat} {n : TypeNode}
    (hspells : ∀ {n' : TypeNode} {s : String} {t' after after' : List Char},
      type depth n = .ok s → Spells depth n' t' → EndsName after → EndsName after' →
        s.toList ++ after = t' ++ after' → n = n' ∧ after = after') : Decodes depth n := by
  intro n' s s' after after' hn' hs hs' hafter hafter' h
  obtain ⟨k, core, t, rfl, hcore, ht⟩ := exists_spells hn' hs'
  rw [ht, List.append_assoc] at h
  obtain ⟨rfl, rfl⟩ := hspells hs hcore hafter (endsName_brackets hafter' k) h
  exact ⟨k, .inl ⟨rfl, rfl⟩⟩

/-- The brackets of an array belong to what follows its parameter. -/
theorem decodes_array {depth : Nat} {elem : TypeNode} (h : Decodes depth elem) :
    Decodes depth (.array [elem]) := by
  intro n' s s' after after' hn' hs hs' hafter hafter' heq
  obtain ⟨t, ht, htext⟩ := type_array_ok hs
  rw [htext, List.append_assoc] at heq
  have hbracket : EndsName ('[' :: ']' :: after) := endsName_punctuation (by simp) _
  obtain ⟨k, ⟨rfl, hk⟩ | ⟨rfl, rfl⟩⟩ := h hn' ht hs' hbracket hafter' heq
  · cases k with
    | zero => exact ⟨1, .inr ⟨rfl, hk.symm⟩⟩
    | succ k =>
      refine ⟨k, .inl ⟨(TypeNode.arrays_array k elem).symm, ?_⟩⟩
      simpa [brackets] using hk
  · exact ⟨k + 1, .inr ⟨rfl, brackets_append k after⟩⟩

theorem word_append_ne_brace {word : String} (h : isBareName word = true)
    (after after' : List Char) : word.toList ++ after ≠ '\x7b' :: after' :=
  bareName_append_ne h (continuesName_punctuation _ (by simp)) after after'

theorem decodes_ofWord (depth : Nat) {word : String} (hword : isBareName word = true) :
    Decodes depth (ofWord word) := by
  refine decodes_of_spells fun {n' s t' after after'} hs ht' hafter hafter' h => ?_
  rw [type_ofWord] at hs
  obtain rfl := Except.ok.inj hs
  cases ht' with
  | word hword' =>
    obtain ⟨rfl, rfl⟩ := bareName_append_inj hword hword' hafter hafter' h
    exact ⟨rfl, rfl⟩
  | map => exact absurd h (word_append_ne_brace hword _ _)
  | interface => exact absurd h (word_append_ne_brace hword _ _)

theorem mapText_append_ne_block (k v : String) (depth : Nat) (body : String) (empty : Bool)
    (after after' : List Char) :
    mapText k v ++ after ≠ '\x7b' :: blockRest depth body empty ++ after' := by
  unfold mapText
  cases empty <;> simp [blockRest]

/-- The key of a map ends at its bracket and the value at the blank. -/
theorem decodes_map {depth : Nat} {key value : TypeNode} (hkey : Decodes depth key)
    (hvalue : Decodes depth value) : Decodes depth (.map [key, value]) := by
  refine decodes_of_spells fun {n' s t' after after'} hs ht' hafter hafter' h => ?_
  obtain ⟨k, v, hk, hv, htext⟩ := type_map_ok hs
  rw [htext] at h
  cases ht' with
  | word hword => exact absurd h.symm (word_append_ne_brace hword _ _)
  | @map key' value' k' v' hkey' hvalue' hk' hv' =>
    unfold mapText at h
    simp only [List.cons_append, List.append_assoc, List.cons.injEq, true_and,
      List.append_cancel_left_eq] at h
    -- The key ends at the bracket behind it, and the value at the brace.
    obtain ⟨rfl, hrest⟩ := hkey.exact hkey' hk hk' (endsType_punctuation (by simp) _)
      (endsType_punctuation (by simp) _) h
    simp only [List.cons.injEq, true_and] at hrest
    obtain ⟨rfl, hafter⟩ := hvalue.exact hvalue' hv hv' (endsType_punctuation (by simp) _)
      (endsType_punctuation (by simp) _) hrest
    exact ⟨rfl, by simpa using hafter⟩
  | interface => exact absurd h (mapText_append_ne_block _ _ _ _ _ _ _)

/-! ## Section 5: Blocks -/

/-- No line of a block at this nesting follows. -/
def EndsBlock (depth : Nat) (after : List Char) : Prop := ¬ (indent depth).toList <+: after

/-- The closing brace stands further left than the lines of its block. -/
theorem endsBlock_brace (depth : Nat) (after : List Char) :
    EndsBlock (depth + 1) ((indent depth).toList ++ '\x7d' :: after) := by
  rintro ⟨rest, h⟩
  have hwide : (indent (depth + 1)).toList = (indent depth).toList ++ [' ', ' ', ' ', ' '] := by
    rw [toList_indent, toList_indent, Nat.mul_succ, List.replicate_add]
    rfl
  rw [hwide, List.append_assoc] at h
  exact absurd (List.cons.inj (List.append_cancel_left h)).1 (by decide)

/-- A block is known when the lines in it are. -/
theorem blockRest_append_inj {α : Type} {depth : Nat} {xs ys : List α} {body body' : String}
    {after after' : List Char}
    (hlines : ∀ {rest rest' : List Char}, EndsBlock (depth + 1) rest →
      EndsBlock (depth + 1) rest' → body.toList ++ rest = body'.toList ++ rest' →
        xs = ys ∧ rest = rest')
    (h : blockRest depth body xs.isEmpty ++ after = blockRest depth body' ys.isEmpty ++ after') :
    xs = ys ∧ after = after' := by
  cases xs with
  | nil =>
    cases ys with
    | nil => exact ⟨rfl, (List.cons.inj h).2⟩
    | cons y ys => exact absurd (List.cons.inj h).1 (by decide)
  | cons x xs =>
    cases ys with
    -- An empty block has its brace at once, another one begins a line.
    | nil => exact absurd (List.cons.inj h).1 (by decide)
    | cons y ys =>
      simp only [blockRest, List.isEmpty_cons, List.cons_append, List.append_assoc,
        List.nil_append, List.cons.injEq, true_and] at h
      obtain ⟨hxs, hrest⟩ := hlines (endsBlock_brace _ _) (endsBlock_brace _ _) h
      exact ⟨hxs, (List.cons.inj (List.append_cancel_left hrest)).2⟩

/-! ## Section 6: Members -/

/-- What is written of the parameters of a method, in front of a comma each. -/
def paramsText (ps : List String) : List Char := ps.flatMap fun p => ',' :: ' ' :: p.toList

theorem paramsText_eq_intercalate (p : String) (ps : List String) :
    paramsText (p :: ps) = ',' :: ' ' :: (", ".intercalate (p :: ps)).toList := by
  rw [toList_intercalate_cons]
  rfl

/-- Parameters in brackets are known from their text. -/
def ArgsDecode (depth : Nat) (args : List Arg) : Prop :=
  ∀ ⦃args' : List Arg⦄ ⦃ps ps' : List String⦄ ⦃after after' : List Char⦄,
    (∀ a ∈ args', isBareName a.name = true) → (∀ a ∈ args', a.type.Normal) →
    params depth args = .ok ps → params depth args' = .ok ps' →
    paramsText ps ++ ')' :: after = paramsText ps' ++ ')' :: after' → args = args' ∧ after = after'

/-- The members in a block are known from their text. -/
def MembersDecode (depth : Nat) (ms : List Member) : Prop :=
  ∀ ⦃ms' : List Member⦄ ⦃body body' : String⦄ ⦃after after' : List Char⦄,
    (∀ mem ∈ ms', mem.Normal) → members depth ms = .ok body → members depth ms' = .ok body' →
    EndsBlock depth after → EndsBlock depth after' →
    body.toList ++ after = body'.toList ++ after' → ms = ms' ∧ after = after'

theorem argsDecode_nil (depth : Nat) : ArgsDecode depth [] := by
  intro args' ps ps' after after' _ _ hps hps' h
  obtain rfl := params_nil_ok hps
  cases args' with
  | nil =>
    obtain rfl := params_nil_ok hps'
    exact ⟨rfl, (List.cons.inj h).2⟩
  | cons a rest =>
    obtain ⟨t, ts, _, _, rfl⟩ := params_cons_ok hps'
    exact absurd (List.cons.inj h).1 (by decide)

/-- The text of a parameter and of what follows it. -/
theorem paramsText_cons (name t : String) (ts : List String) (after : List Char) :
    paramsText ((name ++ ": " ++ t) :: ts) ++ after =
      ',' :: ' ' :: (name.toList ++ ':' :: ' ' :: (t.toList ++ (paramsText ts ++ after))) := by
  have hcolon : ": ".toList = [':', ' '] := rfl
  simp [paramsText, hcolon]

/-- A type ends where the next parameter begins, and where the list of parameters ends. -/
theorem endsType_paramsText (ts : List String) (after : List Char) :
    EndsType (paramsText ts ++ ')' :: after) := by
  cases ts with
  | nil => exact endsType_punctuation (by simp) _
  | cons t ts => exact endsType_punctuation (by simp) _

theorem argsDecode_cons {depth : Nat} {a : Arg} {rest : List Arg} (hname : isBareName a.name = true)
    (htype : Decodes depth a.type) (hrest : ArgsDecode depth rest) :
    ArgsDecode depth (a :: rest) := by
  intro args' ps ps' after after' hnames' htypes' hps hps' h
  obtain ⟨t, ts, ht, hts, rfl⟩ := params_cons_ok hps
  cases args' with
  | nil =>
    obtain rfl := params_nil_ok hps'
    -- Behind the last parameter stands a bracket, and before another one a comma.
    exact absurd (List.cons.inj h).1 (by decide)
  | cons a' rest' =>
    obtain ⟨t', ts', ht', hts', rfl⟩ := params_cons_ok hps'
    obtain ⟨hname', hnames'⟩ := List.forall_mem_cons.mp hnames'
    obtain ⟨htype', htypes'⟩ := List.forall_mem_cons.mp htypes'
    rw [paramsText_cons, paramsText_cons] at h
    simp only [List.cons.injEq, true_and] at h
    -- Name by name and type by type: the colon ends the name.
    have hcolon : ∀ xs, EndsName (':' :: xs) := endsName_punctuation (by simp)
    obtain ⟨hnames, h⟩ := bareName_append_inj hname hname' (hcolon _) (hcolon _) h
    simp only [List.cons.injEq, true_and] at h
    obtain ⟨htypes, h⟩ := htype.exact htype' ht ht' (endsType_paramsText _ _)
      (endsType_paramsText _ _) h
    obtain ⟨rfl, hafter⟩ := hrest hnames' htypes' hts hts' h
    obtain ⟨name, type⟩ := a
    obtain ⟨name', type'⟩ := a'
    obtain rfl : name = name' := hnames
    obtain rfl : type = type' := htypes
    exact ⟨rfl, hafter⟩

/-- A list of parameters begins with a name, or it ends at once. -/
theorem bracket_not_params {depth : Nat} {args : List Arg} {ps : List String}
    (hnames : ∀ a ∈ args, isBareName a.name = true) (hps : params depth args = .ok ps)
    {after after' : List Char} (h : (", ".intercalate ps).toList ++ after = ')' :: after') :
    args = [] := by
  cases args with
  | nil => rfl
  | cons a rest =>
    obtain ⟨t, ts, _, _, rfl⟩ := params_cons_ok hps
    have htext := paramsText_eq_intercalate (a.name ++ ": " ++ t) ts
    rw [← List.append_nil (paramsText _), paramsText_cons] at htext
    simp only [List.cons.injEq, true_and] at htext
    rw [← htext, List.append_assoc] at h
    exact absurd h (bareName_append_ne (hnames a List.mem_cons_self)
      (continuesName_punctuation _ (by simp)) _ _)

/-- A list of parameters is known from its text between brackets. -/
theorem ArgsDecode.list {depth : Nat} {args args' : List Arg} {ps ps' : List String}
    {after after' : List Char} (h : ArgsDecode depth args)
    (hnames : ∀ a ∈ args, isBareName a.name = true)
    (hnames' : ∀ a ∈ args', isBareName a.name = true) (hargs' : ∀ a ∈ args', a.type.Normal)
    (hps : params depth args = .ok ps) (hps' : params depth args' = .ok ps')
    (heq : (", ".intercalate ps).toList ++ ')' :: after =
      (", ".intercalate ps').toList ++ ')' :: after') : args = args' ∧ after = after' := by
  by_cases hnil : args = [] ∨ args' = []
  · obtain ⟨rfl, rfl⟩ : args = [] ∧ args' = [] := by
      rcases hnil with rfl | rfl
      · obtain rfl := params_nil_ok hps
        exact ⟨rfl, bracket_not_params hnames' hps' heq.symm⟩
      · obtain rfl := params_nil_ok hps'
        exact ⟨bracket_not_params hnames hps heq, rfl⟩
    obtain rfl := params_nil_ok hps
    obtain rfl := params_nil_ok hps'
    exact ⟨rfl, (List.cons.inj heq).2⟩
  · obtain ⟨hne, hne'⟩ := not_or.mp hnil
    obtain ⟨a, rest, rfl⟩ := List.exists_cons_of_ne_nil hne
    obtain ⟨a', rest', rfl⟩ := List.exists_cons_of_ne_nil hne'
    obtain ⟨t, ts, _, _, rfl⟩ := params_cons_ok hps
    obtain ⟨t', ts', _, _, rfl⟩ := params_cons_ok hps'
    -- A comma in front makes all parameters look alike.
    refine h hnames' hargs' hps hps' ?_
    rw [paramsText_eq_intercalate, paramsText_eq_intercalate]
    exact congrArg (',' :: ' ' :: ·) heq

/-- A mark that may be left out. -/
theorem mark_append_inj {c : Char} {present present' : Bool} {xs ys : List Char}
    (hxs : xs.head? ≠ some c) (hys : ys.head? ≠ some c)
    (h : (if present then [c] else []) ++ xs = (if present' then [c] else []) ++ ys) :
    present = present' ∧ xs = ys := by
  cases present with
  | true =>
    cases present' with
    | true => exact ⟨rfl, (List.cons.inj h).2⟩
    | false => exact absurd (congrArg List.head? h).symm hys
  | false =>
    cases present' with
    | true => exact absurd (congrArg List.head? h) hxs
    | false => exact ⟨rfl, h⟩

theorem head_memberRest (function : Bool) (ps : List String) (t : String) (after : List Char) :
    (memberRest function ps t after).head? = some (if function then '(' else ':') := by
  cases function <;> rfl

theorem endsName_member (optional function : Bool) (ps : List String) (t : String)
    (after : List Char) :
    EndsName ((if optional then ['?'] else []) ++ memberRest function ps t after) := by
  cases optional <;> cases function <;> exact endsName_punctuation (by simp) _

/-- The type of a member is the last thing in its line. -/
theorem Decodes.memberType {depth : Nat} {n n' : TypeNode} {t t' : String}
    {after after' : List Char} (hn : Decodes depth n) (hn' : n'.Normal)
    (ht : type depth n = .ok t) (ht' : type depth n' = .ok t')
    (h : ':' :: ' ' :: (t.toList ++ ';' :: after) = ':' :: ' ' :: (t'.toList ++ ';' :: after')) :
    n = n' ∧ after = after' := by
  simp only [List.cons.injEq, true_and] at h
  obtain ⟨hsame, hafter⟩ := hn.exact hn' ht ht' (endsType_punctuation (by simp) _)
    (endsType_punctuation (by simp) _) h
  exact ⟨hsame, (List.cons.inj hafter).2⟩

/-- The line of a member is read from the left: its name, its mark, its parameters and its type. -/
theorem memberLine_append_inj {depth : Nat} {mem mem' : Member} {ps ps' : List String}
    {t t' : String} {after after' : List Char} (hmem : mem.Normal) (hmem' : mem'.Normal)
    (htype : Decodes depth mem.type) (hargs : ArgsDecode depth mem.args)
    (hps : memberParams depth mem = .ok ps) (hps' : memberParams depth mem' = .ok ps')
    (ht : type depth mem.type = .ok t) (ht' : type depth mem'.type = .ok t')
    (h : (memberLine depth mem ps t).toList ++ after =
      (memberLine depth mem' ps' t').toList ++ after') : mem = mem' ∧ after = after' := by
  rw [toList_memberLine, toList_memberLine] at h
  -- A line is read from the left: the name, the mark, and then what tells a property from a method.
  obtain ⟨hname, hrest⟩ := memberName_append_inj (endsName_member _ _ ps t _)
    (endsName_member _ _ ps' t' _) (List.append_cancel_left h)
  have hmark : ∀ function qs u rest, (memberRest function qs u rest).head? ≠ some '?' := by
    intro function qs u rest
    rw [head_memberRest]
    cases function <;> decide
  obtain ⟨hoptional, hrest⟩ := mark_append_inj (hmark _ _ _ _) (hmark _ _ _ _) hrest
  cases hmem with
  | property hn =>
    cases hmem' with
    | property hn' =>
      obtain ⟨hsame, hafter⟩ := htype.memberType hn' ht ht' hrest
      simp only [Member.mk.injEq]
      exact ⟨⟨hname, hsame, hoptional, trivial, trivial, trivial⟩, hafter⟩
    -- A property goes on with a colon, a method with a parenthesis.
    | method => exact absurd (List.cons.inj hrest).1 (by decide)
  | method hn hnames =>
    cases hmem' with
    | property => exact absurd (List.cons.inj hrest).1 (by decide)
    | method hn' hnames' hargs' =>
      simp only [memberRest, if_true, List.cons_append, List.append_assoc, List.nil_append,
        List.cons.injEq, true_and] at hrest
      obtain ⟨hsameArgs, hrest⟩ := hargs.list hnames hnames' hargs' hps hps' hrest
      obtain ⟨hsame, hafter⟩ := htype.memberType hn' ht ht' hrest
      simp only [Member.mk.injEq]
      exact ⟨⟨hname, hsame, hoptional, trivial, trivial, hsameArgs⟩, hafter⟩

/-- A block does not end where a member is written. -/
theorem not_endsBlock_memberLine (depth : Nat) (mem : Member) (ps : List String) (t : String)
    (after : List Char) : ¬ EndsBlock depth ((memberLine depth mem ps t).toList ++ after) := by
  rw [EndsBlock, not_not, toList_memberLine]
  exact List.prefix_append _ _

theorem not_endsBlock_members {depth : Nat} {mem : Member} {rest : List Member} {body : String}
    (hmem : mem.Normal) (hbody : members depth (mem :: rest) = .ok body) (after : List Char) :
    ¬ EndsBlock depth (body.toList ++ after) := by
  obtain ⟨ps, t, text, _, _, _, hline⟩ := members_cons_ok hmem.comment_eq hbody
  rw [hline, List.append_assoc]
  exact not_endsBlock_memberLine depth mem ps t _

theorem membersDecode_nil (depth : Nat) : MembersDecode depth [] := by
  intro ms' body body' after after' hms' hbody hbody' hafter _ h
  obtain rfl := members_nil_ok hbody
  cases ms' with
  | nil =>
    obtain rfl := members_nil_ok hbody'
    exact ⟨rfl, h⟩
  | cons mem' rest' =>
    have hmem' := hms' mem' List.mem_cons_self
    have h : after = body'.toList ++ after' := h
    exact absurd (h ▸ hafter) (not_endsBlock_members hmem' hbody' after')

theorem membersDecode_cons {depth : Nat} {mem : Member} {rest : List Member} (hmem : mem.Normal)
    (htype : Decodes depth mem.type) (hargs : ArgsDecode depth mem.args)
    (hrest : MembersDecode depth rest) : MembersDecode depth (mem :: rest) := by
  intro ms' body body' after after' hms' hbody hbody' hafter hafter' h
  cases ms' with
  | nil =>
    obtain rfl := members_nil_ok hbody'
    -- The first text has one more line, which the end of the other block excludes.
    have h : body.toList ++ after = after' := h
    exact absurd (h ▸ hafter') (not_endsBlock_members hmem hbody after)
  | cons mem' rest' =>
    obtain ⟨hmem', hmore'⟩ := List.forall_mem_cons.mp hms'
    obtain ⟨ps, t, text, hps, ht, htext, hline⟩ := members_cons_ok hmem.comment_eq hbody
    obtain ⟨ps', t', text', hps', ht', htext', hline'⟩ := members_cons_ok hmem'.comment_eq hbody'
    rw [hline, hline', List.append_assoc, List.append_assoc] at h
    obtain ⟨rfl, hlines⟩ := memberLine_append_inj hmem hmem' htype hargs hps hps' ht ht' h
    obtain ⟨rfl, hsame⟩ := hrest hmore' htext htext' hafter hafter' (List.cons.inj hlines).2
    exact ⟨rfl, hsame⟩

/-- An inline interface is known when its members are. -/
theorem decodes_interface {depth : Nat} {ms : List Member} (h : MembersDecode (depth + 1) ms) :
    Decodes depth (.interface "" none ms) := by
  refine decodes_of_spells fun {n' s t' after after'} hs ht' hafter hafter' heq => ?_
  obtain ⟨body, hbody, htext⟩ := type_interface_ok hs
  rw [htext] at heq
  cases ht' with
  | word hword => exact absurd heq.symm (word_append_ne_brace hword _ _)
  | map => exact absurd heq.symm (mapText_append_ne_block _ _ _ _ _ _ _)
  | interface hms' hbody' =>
    obtain ⟨rfl, hsame⟩ := blockRest_append_inj
      (fun hrest hrest' heq => h hms' hbody hbody' hrest hrest' heq) (List.cons.inj heq).2
    exact ⟨rfl, hsame⟩

/-! ## Section 7: The whole syntax -/

mutual

/-- Every type is known from its text. -/
theorem type_decodes : ∀ (n : TypeNode) (depth : Nat), n.Normal → Decodes depth n
  | .simple name, depth, h => by
    cases h with | simple hname hvoid =>
    have hword : Decodes depth (ofWord name) := decodes_ofWord depth hname
    rwa [ofWord, if_neg hvoid] at hword
  | .void, depth, _ => decodes_ofWord depth isBareName_void
  | .array [elem], depth, h => by
    cases h with | array helem =>
    exact decodes_array (type_decodes elem depth helem)
  | .map [key, value], depth, h => by
    cases h with | map hkey hvalue =>
    exact decodes_map (type_decodes key depth hkey) (type_decodes value depth hvalue)
  | .interface name doc ms, depth, h => by
    cases h with | interface hms =>
    exact decodes_interface (members_decode ms (depth + 1) hms)
  | .array [], _, h | .array (_ :: _ :: _), _, h => by cases h
  | .map [], _, h | .map [_], _, h | .map (_ :: _ :: _ :: _), _, h => by cases h
  | .enum .., _, h => by cases h

/-- So are members. -/
theorem members_decode : ∀ (ms : List Member) (depth : Nat), (∀ mem ∈ ms, mem.Normal) →
    MembersDecode depth ms
  | [], depth, _ => membersDecode_nil depth
  | ⟨name, t, optional, function, doc, args⟩ :: rest, depth, h => by
    obtain ⟨hmem, hrest⟩ := List.forall_mem_cons.mp h
    obtain ⟨htype, hnames, hargs⟩ := hmem.parts
    exact membersDecode_cons hmem (type_decodes t depth htype) (args_decode args depth hnames hargs)
      (members_decode rest depth hrest)

/-- So are parameters. -/
theorem args_decode : ∀ (args : List Arg) (depth : Nat),
    (∀ a ∈ args, isBareName a.name = true) → (∀ a ∈ args, a.type.Normal) → ArgsDecode depth args
  | [], depth, _, _ => argsDecode_nil depth
  | ⟨name, t⟩ :: rest, depth, hnames, htypes => by
    obtain ⟨hname, hnames⟩ := List.forall_mem_cons.mp hnames
    obtain ⟨htype, htypes⟩ := List.forall_mem_cons.mp htypes
    exact argsDecode_cons hname (type_decodes t depth htype)
      (args_decode rest depth hnames htypes)

end

end Render

end TypeExport
