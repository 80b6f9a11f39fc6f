import NodeSettings.Document.Json
import NodeSettings.Document.Yaml
import NodeSettings.Proofs.Rules

/-!
Documents written by hand. In YAML as in JSON, a value holds a document if it is a table of tables
of single values, either table of which may be left out. Of entries that name the same, the last one
counts. What a value must be like is said once for both formats (`Layout`), and that a reader takes
just these values, and loses nothing, as well (`Layout.IsReadBy`); `Document.reads_handwritten` says
it of the two readers.
-/

namespace NodeSettings

/-! ## The entry that counts -/

section Last

variable {α : Type} {P Q : α → Prop} {a b : α} {l : List α}

/-- The last of a list that is as `P` says. -/
def IsLast (P : α → Prop) (l : List α) (a : α) : Prop :=
  ∃ before after, l = before ++ a :: after ∧ P a ∧ ∀ b ∈ after, ¬ P b

theorem IsLast.mem (h : IsLast P l a) : a ∈ l := by
  obtain ⟨before, after, rfl, -, -⟩ := h
  exact List.mem_append_right _ List.mem_cons_self

theorem IsLast.holds (h : IsLast P l a) : P a := by
  obtain ⟨-, -, -, holds, -⟩ := h
  exact holds

theorem isLast_cons_iff :
    IsLast P (b :: l) a ↔ IsLast P l a ∨ (a = b ∧ P b ∧ ∀ c ∈ l, ¬ P c) := by
  constructor
  · rintro ⟨before, after, split, holds, none⟩
    cases before with
    | nil =>
      cases split
      exact .inr ⟨rfl, holds, none⟩
    | cons first before =>
      cases split
      exact .inl ⟨before, after, rfl, holds, none⟩
  · rintro (⟨before, after, rfl, holds, none⟩ | ⟨rfl, holds, none⟩)
    · exact ⟨b :: before, after, rfl, holds, none⟩
    · exact ⟨[], l, rfl, holds, none⟩

theorem exists_isLast_iff : (∃ a, IsLast P l a) ↔ ∃ a ∈ l, P a := by
  constructor
  · rintro ⟨a, before, after, rfl, holds, -⟩
    exact ⟨a, List.mem_append_right _ List.mem_cons_self, holds⟩
  · intro some_
    induction l with
    | nil => simp at some_
    | cons b l ih =>
      by_cases later : ∃ a ∈ l, P a
      · obtain ⟨a, last⟩ := ih later
        exact ⟨a, isLast_cons_iff.2 (.inl last)⟩
      · obtain ⟨a, among, holds⟩ := some_
        have here : a = b :=
          (List.mem_cons.1 among).resolve_right fun behind => later ⟨a, behind, holds⟩
        have none : ∀ c ∈ l, ¬ P c := fun c hc holds => later ⟨c, hc, holds⟩
        exact ⟨b, isLast_cons_iff.2 (.inr ⟨rfl, here ▸ holds, none⟩)⟩

theorem isLast_congr (same : ∀ a ∈ l, P a ↔ Q a) : IsLast P l a ↔ IsLast Q l a := by
  induction l with
  | nil => simp [IsLast]
  | cons b l ih =>
    obtain ⟨first, rest⟩ := List.forall_mem_cons.1 same
    have none : (∀ c ∈ l, ¬ P c) ↔ ∀ c ∈ l, ¬ Q c :=
      forall₂_congr fun c hc => not_congr (rest c hc)
    rw [isLast_cons_iff, isLast_cons_iff, ih rest, first, none]

end Last

/-! ## Tables that are read entry by entry -/

namespace Table

variable {ε α β : Type} {read : α → Except ε (String × β)} {l before after : List α}
  {t t' : Table β} {key : String} {value : β} {a b : α}

/-- Puts entries that are read one after the other into a table. -/
def collect (read : α → Except ε (String × β)) (l : List α) (t : Table β) :
    Except ε (Table β) :=
  l.foldlM (fun t a => do
    let e ← read a
    return t.insert e.1 e.2) t

theorem collect_cons : collect read (a :: l) t = .ok t' ↔
    ∃ e, read a = .ok e ∧ collect read l (t.insert e.1 e.2) = .ok t' := by
  rw [collect, List.foldlM_cons]
  cases first : read a with
  | error e => simp [bind, Except.bind]
  | ok e => simp [bind, Except.bind, pure, Except.pure, collect]

theorem exists_collect_iff : (∃ t', collect read l t = .ok t') ↔ ∀ a ∈ l, ∃ e, read a = .ok e := by
  induction l generalizing t with
  | nil => simp [collect, pure, Except.pure]
  | cons a l ih =>
    simp only [collect_cons, List.forall_mem_cons]
    constructor
    · rintro ⟨t', e, first, rest⟩
      exact ⟨⟨e, first⟩, ih.1 ⟨t', rest⟩⟩
    · rintro ⟨⟨e, first⟩, rest⟩
      obtain ⟨t', rest⟩ := ih.2 rest
      exact ⟨t', e, first, rest⟩

/-- Under a key stands what the last entry under it says, or else what stood there before. -/
theorem get?_collect_iff (h : collect read l t = .ok t') : t'.get? key = some value ↔
    (∃ a, IsLast (fun a => ∃ v, read a = .ok (key, v)) l a ∧ read a = .ok (key, value)) ∨
      ((∀ a ∈ l, ¬ ∃ v, read a = .ok (key, v)) ∧ t.get? key = some value) := by
  induction l generalizing t with
  | nil =>
    cases h
    simp [IsLast]
  | cons a l ih =>
    obtain ⟨⟨k, v⟩, first, rest⟩ := collect_cons.1 h
    rw [ih rest, get?_insert]
    by_cases same : key = k
    · subst same
      simp [isLast_cons_iff, first, or_and_right, exists_or, and_assoc]
    · simp [isLast_cons_iff, first, same, Ne.symm same]

theorem collect_congr (same : read a = read b) :
    collect read (before ++ a :: after) t = collect read (before ++ b :: after) t := by
  simp only [collect, List.foldlM_append, List.foldlM_cons, same]

end Table

/-! ## Documents in a format -/

/-- How a format writes documents: what it has for nothing, for a table and for a text, what a key
names, and what text a single value stands for. -/
structure Layout (κ ν : Type) where
  null : ν
  table : List (κ × ν) → ν
  string : String → ν
  Names : κ → String → Prop
  StandsFor : ν → String → Prop
  null_ne_table : ∀ entries, null ≠ table entries
  table_injective : ∀ entries others, table entries = table others → entries = others
  names_unique : ∀ key name other, Names key name → Names key other → name = other

/-- A table of tables without the value at one place. -/
structure Gap (κ ν : Type) where
  groupsBefore : List (κ × ν)
  name : κ
  before : List (κ × ν)
  key : κ
  after : List (κ × ν)
  groupsAfter : List (κ × ν)

namespace Layout

variable {κ ν : Type}

/-- The entries of a table; where there is nothing, there are none. -/
def Holds (f : Layout κ ν) (v : ν) (entries : List (κ × ν)) : Prop :=
  (v = f.null ∧ entries = []) ∨ v = f.table entries

/-- A table, if any, of groups that are tables, if any, of single values. -/
def IsTwoLevel (f : Layout κ ν) (root : ν) : Prop :=
  ∃ groups, f.Holds root groups ∧ ∀ g ∈ groups, (∃ name, f.Names g.1 name) ∧
    ∃ entries, f.Holds g.2 entries ∧ ∀ e ∈ entries, (∃ id, f.Names e.1 id) ∧
      ∃ text, f.StandsFor e.2 text

/-- There is a group of a name. -/
def HasGroup (f : Layout κ ν) (root : ν) (group : String) : Prop :=
  ∃ groups, f.Holds root groups ∧ ∃ g ∈ groups, f.Names g.1 group

/-- The last value under an id in the last group of a name stands for a text. -/
def Says (f : Layout κ ν) (root : ν) (group id text : String) : Prop :=
  ∃ groups g, f.Holds root groups ∧ IsLast (fun g => f.Names g.1 group) groups g ∧
    ∃ entries e, f.Holds g.2 entries ∧ IsLast (fun e => f.Names e.1 id) entries e ∧
      f.StandsFor e.2 text

/-- The table of tables with a value in its gap. -/
def fill (f : Layout κ ν) (gap : Gap κ ν) (v : ν) : ν :=
  f.table (gap.groupsBefore ++
    (gap.name, f.table (gap.before ++ (gap.key, v) :: gap.after)) :: gap.groupsAfter)

/-- A reader takes just the tables of tables of single values. It finds every group of them, and
under each id the text that is said there last, whether it is written as a text or otherwise. -/
structure IsReadBy (f : Layout κ ν) (read : ν → Except StoreError Document) : Prop where
  accepts : ∀ root, (∃ d, read root = .ok d) ↔ f.IsTwoLevel root
  groups : ∀ root d, read root = .ok d → ∀ group, (d.get? group).isSome ↔ f.HasGroup root group
  texts : ∀ root d, read root = .ok d →
    ∀ group id text, d.text? group id = some text ↔ f.Says root group id text
  restated : ∀ gap v text, f.StandsFor v text →
    read (f.fill gap (f.string text)) = read (f.fill gap v)

variable {f : Layout κ ν} {v : ν} {entries others : List (κ × ν)}

theorem Holds.unique (h : f.Holds v entries) (h' : f.Holds v others) : entries = others := by
  rcases h with ⟨rfl, rfl⟩ | rfl
  · rcases h' with ⟨-, rfl⟩ | is
    · rfl
    · exact absurd is (f.null_ne_table others)
  · rcases h' with ⟨is, -⟩ | is
    · exact absurd is.symm (f.null_ne_table entries)
    · exact f.table_injective _ _ is

section Tables

variable {β : Type} {read : ν → Except StoreError (Table β)}
  {entry : κ × ν → Except StoreError (String × β)} {Holding : String → ν → β → Prop}

/-- Values are read as tables by reading their entries, whose values hold what goes under their
names; nothing else is read as a table. -/
structure ReadsTables (f : Layout κ ν) (read : ν → Except StoreError (Table β))
    (entry : κ × ν → Except StoreError (String × β)) (Holding : String → ν → β → Prop) : Prop where
  null : read f.null = .ok ∅
  table : ∀ entries, read (f.table entries) = Table.collect entry entries ∅
  holds : ∀ v t, read v = .ok t → ∃ entries, f.Holds v entries
  entry : ∀ e name x, entry e = .ok (name, x) ↔ f.Names e.1 name ∧ Holding name e.2 x

namespace ReadsTables

variable {t : Table β} {name : String} {x : β} (h : f.ReadsTables read entry Holding)

include h

theorem read_eq_ok_iff :
    read v = .ok t ↔ ∃ entries, f.Holds v entries ∧ Table.collect entry entries ∅ = .ok t := by
  have held {entries : List (κ × ν)} (holds : f.Holds v entries) :
      read v = Table.collect entry entries ∅ := by
    rcases holds with ⟨rfl, rfl⟩ | rfl
    · exact h.null
    · exact h.table entries
  constructor
  · intro loaded
    obtain ⟨entries, holds⟩ := h.holds v t loaded
    exact ⟨entries, holds, (held holds).symm.trans loaded⟩
  · rintro ⟨entries, holds, collected⟩
    exact (held holds).trans collected

theorem exists_entry_iff {e : κ × ν} :
    (∃ r, entry e = .ok r) ↔ ∃ name, f.Names e.1 name ∧ ∃ x, Holding name e.2 x := by
  simp only [Prod.exists, h.entry, exists_and_left]

theorem exists_read_iff : (∃ t, read v = .ok t) ↔ ∃ entries, f.Holds v entries ∧
    ∀ e ∈ entries, ∃ name, f.Names e.1 name ∧ ∃ x, Holding name e.2 x := by
  simp only [h.read_eq_ok_iff, ← h.exists_entry_iff]
  constructor
  · rintro ⟨t, entries, holds, collected⟩
    exact ⟨entries, holds, Table.exists_collect_iff.1 ⟨t, collected⟩⟩
  · rintro ⟨entries, holds, all⟩
    obtain ⟨t, collected⟩ := Table.exists_collect_iff.2 all
    exact ⟨t, entries, holds, collected⟩

/-- The entries of what was read as a table, each with what it holds under each of its names. -/
theorem exists_holds (loaded : read v = .ok t) : ∃ entries, f.Holds v entries ∧
    Table.collect entry entries ∅ = .ok t ∧
    ∀ e ∈ entries, ∀ name, f.Names e.1 name → ∃ x, Holding name e.2 x := by
  obtain ⟨entries, holds, collected⟩ := h.read_eq_ok_iff.1 loaded
  refine ⟨entries, holds, collected, fun e he name names => ?_⟩
  obtain ⟨other, named, x, holding⟩ :=
    h.exists_entry_iff.1 (Table.exists_collect_iff.1 ⟨t, collected⟩ e he)
  obtain rfl := f.names_unique _ _ _ names named
  exact ⟨x, holding⟩

/-- Under a name stands what the last entry of that name holds. -/
theorem get?_eq_some_iff (loaded : read v = .ok t) : t.get? name = some x ↔
    ∃ entries e, f.Holds v entries ∧ IsLast (fun e => f.Names e.1 name) entries e ∧
      Holding name e.2 x := by
  obtain ⟨entries, holds, collected, all⟩ := h.exists_holds loaded
  have named : ∀ e ∈ entries, (∃ x, entry e = .ok (name, x)) ↔ f.Names e.1 name := fun e he => by
    simp only [h.entry, exists_and_left, and_iff_left_iff_imp]
    exact all e he name
  simp only [Table.get?_collect_iff collected, isLast_congr named]
  simp only [Table.get?_empty, reduceCtorEq, and_false, or_false, h.entry]
  constructor
  · rintro ⟨e, last, -, holding⟩
    exact ⟨entries, e, holds, last, holding⟩
  · rintro ⟨others, e, held, last, holding⟩
    obtain rfl := holds.unique held
    exact ⟨e, last, last.holds, holding⟩

/-- Every entry leaves something under its name. -/
theorem isSome_get?_iff (loaded : read v = .ok t) : (t.get? name).isSome ↔
    ∃ entries, f.Holds v entries ∧ ∃ e ∈ entries, f.Names e.1 name := by
  obtain ⟨entries, holds, -, all⟩ := h.exists_holds loaded
  simp only [Option.isSome_iff_exists, h.get?_eq_some_iff loaded, ← exists_isLast_iff]
  constructor
  · rintro ⟨x, others, e, held, last, -⟩
    exact ⟨others, held, e, last⟩
  · rintro ⟨others, held, e, last⟩
    obtain rfl := holds.unique held
    obtain ⟨x, holding⟩ := all e last.mem name last.holds
    exact ⟨x, entries, e, holds, last, holding⟩

end ReadsTables
end Tables

/-! ## Readers -/

/-- A reader of tables of tables is as said if its steps are. -/
theorem IsReadBy.of_readsTables {read : ν → Except StoreError Document}
    {readGroup : String → ν → Except StoreError (Table String)}
    {group : κ × ν → Except StoreError (String × Table String)}
    {text : String → κ × ν → Except StoreError (String × String)}
    (outer : f.ReadsTables read group fun name v t => readGroup name v = .ok t)
    (inner : ∀ name, f.ReadsTables (readGroup name) (text name) fun _ => f.StandsFor)
    (sameGroup : ∀ key v w, (∀ name, readGroup name v = readGroup name w) →
      group (key, v) = group (key, w))
    (sameText : ∀ name key v s, f.StandsFor v s →
      text name (key, f.string s) = text name (key, v)) : f.IsReadBy read where
  accepts root := by
    simp only [outer.exists_read_iff, (inner _).exists_read_iff, IsTwoLevel, exists_and_right]
  groups root d loaded name := outer.isSome_get?_iff loaded
  texts root d loaded name id s := by
    obtain ⟨groups, holds, -, all⟩ := outer.exists_holds loaded
    rw [Document.text?, Option.bind_eq_some_iff]
    constructor
    · rintro ⟨t, found, there⟩
      obtain ⟨groups, g, holds, last, group⟩ := (outer.get?_eq_some_iff loaded).1 found
      exact ⟨groups, g, holds, last, ((inner name).get?_eq_some_iff group).1 there⟩
    · rintro ⟨others, g, held, last, said⟩
      obtain rfl := holds.unique held
      obtain ⟨t, group⟩ := all g last.mem name last.holds
      exact ⟨t, (outer.get?_eq_some_iff loaded).2 ⟨groups, g, holds, last, group⟩,
        ((inner name).get?_eq_some_iff group).2 said⟩
  restated gap v s stands := by
    have inside (name : String) :
        readGroup name (f.table (gap.before ++ (gap.key, f.string s) :: gap.after)) =
          readGroup name (f.table (gap.before ++ (gap.key, v) :: gap.after)) := by
      rw [(inner name).table, (inner name).table,
        Table.collect_congr (sameText name gap.key v s stands)]
    rw [fill, fill, outer.table, outer.table, Table.collect_congr (sameGroup gap.name _ _ inside)]

end Layout

/-! ## YAML -/

/-- The text that a single YAML value stands for. -/
inductive Yaml.StandsFor : Yaml → String → Prop
  | null : StandsFor .null ""
  | yes : StandsFor (.bool true) "true"
  | no : StandsFor (.bool false) "false"
  | number (n : Yaml.Number) : StandsFor (.number n) n.text
  | string (s : String) : StandsFor (.string s) s

namespace Document

open NodeSettings.Yaml (StandsFor)

variable {v : NodeSettings.Yaml} {s : String}

theorem scalarText_eq_ok_iff : Yaml.scalarText v = .ok s ↔ StandsFor v s := by
  constructor
  · intro h
    cases v with
    | null | number | string =>
      cases h
      constructor
    | bool b => cases b <;> cases h <;> constructor
    | sequence | mapping | tagged => cases h
  · intro h
    cases h <;> rfl

end Document

/-- YAML, in which keys are values as well: those that stand for one text name the same. -/
def Layout.yaml : Layout Yaml Yaml where
  null := .null
  table := .mapping
  string := .string
  Names := Yaml.StandsFor
  StandsFor := Yaml.StandsFor
  null_ne_table := nofun
  table_injective _ _ := Yaml.mapping.inj
  names_unique _ _ _ h h' := Except.ok.inj <|
    (Document.scalarText_eq_ok_iff.2 h).symm.trans (Document.scalarText_eq_ok_iff.2 h')

namespace Document

section

open StoreError
open NodeSettings.Yaml (StandsFor)

variable {group name key text : String} {t : Table String}
  {e : NodeSettings.Yaml × NodeSettings.Yaml}

/-- The text of an entry under its key. -/
def yamlEntry (group : String) (e : NodeSettings.Yaml × NodeSettings.Yaml) :
    Except StoreError (String × String) := do
  let key ← within (.readingKey group) (Yaml.scalarText e.1)
  let text ← within (.readingText group key) (Yaml.scalarText e.2)
  return (key, text)

/-- The table of a group under its name. -/
def yamlGroupEntry (g : NodeSettings.Yaml × NodeSettings.Yaml) :
    Except StoreError (String × Table String) := do
  let name ← within .readingGroupName (Yaml.scalarText g.1)
  let t ← Yaml.groupOfYaml name g.2
  return (name, t)

theorem yamlEntry_eq_ok_iff :
    yamlEntry group e = .ok (key, text) ↔ StandsFor e.1 key ∧ StandsFor e.2 text := by
  simp only [yamlEntry, bind_eq_ok_iff, within_eq_ok_iff, scalarText_eq_ok_iff]
  constructor
  · rintro ⟨_, names, _, stands, ⟨⟩⟩
    exact ⟨names, stands⟩
  · rintro ⟨names, stands⟩
    exact ⟨key, names, text, stands, rfl⟩

theorem yamlGroupEntry_eq_ok_iff :
    yamlGroupEntry e = .ok (name, t) ↔
      StandsFor e.1 name ∧ Yaml.groupOfYaml name e.2 = .ok t := by
  simp only [yamlGroupEntry, bind_eq_ok_iff, within_eq_ok_iff, scalarText_eq_ok_iff]
  constructor
  · rintro ⟨_, names, _, read, ⟨⟩⟩
    exact ⟨names, read⟩
  · rintro ⟨names, read⟩
    exact ⟨name, names, t, read, rfl⟩

theorem readsTables_groupOfYaml (group : String) :
    Layout.yaml.ReadsTables (Yaml.groupOfYaml group) (yamlEntry group) fun _ => StandsFor where
  null := rfl
  table entries := by
    show Yaml.groupOfEntries group entries = Table.collect (yamlEntry group) entries ∅
    simp only [Yaml.groupOfEntries, Table.collect, yamlEntry, bind_assoc, pure_bind]
  holds v t read := by
    cases v with
    | null => exact ⟨[], .inl ⟨rfl, rfl⟩⟩
    | mapping entries => exact ⟨entries, .inr rfl⟩
    | _ => cases read
  entry _ _ _ := yamlEntry_eq_ok_iff

theorem readsTables_ofYaml :
    Layout.yaml.ReadsTables ofYaml yamlGroupEntry
      fun name v t => Yaml.groupOfYaml name v = .ok t where
  null := rfl
  table groups := by
    show groups.foldlM _ ∅ = Table.collect yamlGroupEntry groups ∅
    simp only [Table.collect, yamlGroupEntry, bind_assoc, pure_bind]
  holds v d read := by
    cases v with
    | null => exact ⟨[], .inl ⟨rfl, rfl⟩⟩
    | mapping groups => exact ⟨groups, .inr rfl⟩
    | _ => cases read
  entry _ _ _ := yamlGroupEntry_eq_ok_iff

theorem isReadBy_ofYaml : Layout.yaml.IsReadBy ofYaml :=
  .of_readsTables readsTables_ofYaml readsTables_groupOfYaml
    (fun key v w same => by simp only [yamlGroupEntry, same])
    (fun name key v s stands => by
      simp only [yamlEntry, scalarText_eq_ok_iff.2 stands]
      rfl)

end

end Document

/-! ## JSON -/

/-- The text that a single JSON value stands for. -/
inductive Json.StandsFor : Json → String → Prop
  | null : StandsFor .null ""
  | yes : StandsFor (.bool true) "true"
  | no : StandsFor (.bool false) "false"
  | number (n : Json.Number) : StandsFor (.number n) n.text
  | string (s : String) : StandsFor (.string s) s

/-- JSON, in which a key names itself. -/
def Layout.json : Layout String Json where
  null := .null
  table := .object
  string := .string
  Names key name := key = name
  StandsFor := Json.StandsFor
  null_ne_table := nofun
  table_injective _ _ := Json.object.inj
  names_unique _ _ _ h h' := h.symm.trans h'

namespace Document

section

open NodeSettings.Json (StandsFor)

variable {group name key text : String} {t : Table String}

theorem scalarText?_eq_some_iff {v : NodeSettings.Json} :
    Json.scalarText? v = some text ↔ StandsFor v text := by
  constructor
  · intro h
    cases v with
    | null | number | string =>
      cases h
      constructor
    | bool b => cases b <;> cases h <;> constructor
    | array | object => cases h
  · intro h
    cases h <;> rfl

/-- The text of a member under its key. -/
def jsonEntry (group : String) (m : String × NodeSettings.Json) :
    Except StoreError (String × String) :=
  match Json.scalarText? m.2 with
  | some text => .ok (m.1, text)
  | none => .error (.notScalarAt group m.1 m.2.compact)

/-- The table of a group under its name. -/
def jsonGroupEntry (g : String × NodeSettings.Json) :
    Except StoreError (String × Table String) := do
  let t ← Json.groupOfJson g.1 g.2
  return (g.1, t)

theorem jsonEntry_eq_ok_iff {m : String × NodeSettings.Json} :
    jsonEntry group m = .ok (key, text) ↔ m.1 = key ∧ StandsFor m.2 text := by
  rw [← scalarText?_eq_some_iff, jsonEntry]
  cases Json.scalarText? m.2 <;> simp

theorem jsonGroupEntry_eq_ok_iff {g : String × NodeSettings.Json} :
    jsonGroupEntry g = .ok (name, t) ↔ g.1 = name ∧ Json.groupOfJson name g.2 = .ok t := by
  rw [jsonGroupEntry, bind_eq_ok_iff]
  constructor
  · rintro ⟨_, read, ⟨⟩⟩
    exact ⟨rfl, read⟩
  · rintro ⟨rfl, read⟩
    exact ⟨t, read, rfl⟩

theorem readsTables_groupOfJson (group : String) :
    Layout.json.ReadsTables (Json.groupOfJson group) (jsonEntry group) fun _ => StandsFor where
  null := rfl
  table members := by
    show members.foldlM _ ∅ = Table.collect (jsonEntry group) members ∅
    rw [Table.collect]
    congr 1
    funext t m
    rw [jsonEntry]
    cases Json.scalarText? m.2 <;> rfl
  holds v t read := by
    cases v with
    | null => exact ⟨[], .inl ⟨rfl, rfl⟩⟩
    | object members => exact ⟨members, .inr rfl⟩
    | _ => cases read
  entry _ _ _ := jsonEntry_eq_ok_iff

theorem readsTables_ofJson :
    Layout.json.ReadsTables ofJson jsonGroupEntry
      fun name v t => Json.groupOfJson name v = .ok t where
  null := rfl
  table groups := by
    show groups.foldlM _ ∅ = Table.collect jsonGroupEntry groups ∅
    simp only [Table.collect, jsonGroupEntry, bind_assoc, pure_bind]
  holds v d read := by
    cases v with
    | null => exact ⟨[], .inl ⟨rfl, rfl⟩⟩
    | object groups => exact ⟨groups, .inr rfl⟩
    | _ => cases read
  entry _ _ _ := jsonGroupEntry_eq_ok_iff

theorem isReadBy_ofJson : Layout.json.IsReadBy ofJson :=
  .of_readsTables readsTables_ofJson readsTables_groupOfJson
    (fun key v w same => by simp only [jsonGroupEntry, same])
    (fun name key v s stands => by
      simp only [jsonEntry, scalarText?_eq_some_iff.2 stands]
      rfl)

end

/-- The two readers take just the tables of tables of single values, and lose nothing of them. -/
theorem reads_handwritten : Layout.yaml.IsReadBy ofYaml ∧ Layout.json.IsReadBy ofJson :=
  ⟨isReadBy_ofYaml, isReadBy_ofJson⟩

open NodeSettings.Yaml (StandsFor) in
/-- A number and a text name the same key, of which the second entry counts. -/
theorem reads_handwritten_colliding :
    ∃ d, ofYaml (.mapping [(.string "root", .mapping
        [(.number (.natural 1), .string "first"), (.string "1", .null)]), (.bool true, .null)]) =
          .ok d ∧
      d.text? "root" "1" = some "" ∧ (d.get? "true").isSome := by
  let entries : List (NodeSettings.Yaml × NodeSettings.Yaml) :=
    [(.number (.natural 1), .string "first"), (.string "1", .null)]
  let groups : List (NodeSettings.Yaml × NodeSettings.Yaml) :=
    [(.string "root", .mapping entries), (.bool true, .null)]
  have scalars : ∀ e ∈ entries, (∃ id, StandsFor e.1 id) ∧ ∃ text, StandsFor e.2 text :=
    List.forall_mem_cons.2 ⟨⟨⟨_, .number _⟩, _, .string _⟩,
      List.forall_mem_singleton.2 ⟨⟨_, .string _⟩, _, .null⟩⟩
  have twoLevel : Layout.yaml.IsTwoLevel (.mapping groups) :=
    ⟨groups, .inr rfl, List.forall_mem_cons.2 ⟨⟨⟨_, .string _⟩, entries, .inr rfl, scalars⟩,
      List.forall_mem_singleton.2 ⟨⟨_, .yes⟩, [], .inl ⟨rfl, rfl⟩, nofun⟩⟩⟩
  have other : ¬ StandsFor (.bool true) "root" := by
    simp [← scalarText_eq_ok_iff, Yaml.scalarText]
  have root : IsLast (fun g => StandsFor g.1 "root") groups (.string "root", .mapping entries) :=
    ⟨[], [(.bool true, .null)], rfl, .string _, List.forall_mem_singleton.2 other⟩
  have one : IsLast (fun e => StandsFor e.1 "1") entries (.string "1", .null) :=
    ⟨[(.number (.natural 1), .string "first")], [], rfl, .string _, nofun⟩
  obtain ⟨d, read⟩ := (reads_handwritten.1.accepts _).2 twoLevel
  exact ⟨d, read,
    (reads_handwritten.1.texts _ d read "root" "1" "").2
      ⟨groups, _, .inr rfl, root, entries, _, .inr rfl, one, .null⟩,
    (reads_handwritten.1.groups _ d read "true").2
      ⟨groups, .inr rfl, _, List.mem_cons_of_mem _ List.mem_cons_self, .yes⟩⟩

end Document
end NodeSettings
