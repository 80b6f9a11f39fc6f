/-!
Finite maps from texts, kept in the order of their keys. The order makes a table determined by its
look-ups: `ext_get?`. `get?_insert` and `get?_erase` say what an update does to them.
-/

namespace NodeSettings

/-- A map from texts whose entries stand in increasing order of their keys. -/
structure Table (β : Type) where
  entries : List (String × β)
  sorted : entries.Pairwise fun a b => a.1 < b.1

namespace Table

variable {β : Type}

/-- Two keys are in one order or the other, or equal. -/
theorem key_trichotomy (j k : String) : j < k ∨ j = k ∨ k < j := by
  by_cases h : j < k
  · exact .inl h
  · by_cases e : j = k
    · exact .inr (.inl e)
    · exact .inr (.inr (Std.lt_of_le_of_ne (String.not_lt.1 h) (Ne.symm e)))

def insertEntry (key : String) (value : β) : List (String × β) → List (String × β)
  | [] => [(key, value)]
  | (k, v) :: rest =>
    if key < k then (key, value) :: (k, v) :: rest
    else if key = k then (key, value) :: rest
    else (k, v) :: insertEntry key value rest

theorem mem_insertEntry {key : String} {value : β} {entries : List (String × β)} {e : String × β}
    (h : e ∈ insertEntry key value entries) : e = (key, value) ∨ e ∈ entries := by
  induction entries with
  | nil => simpa [insertEntry] using h
  | cons head rest ih =>
    obtain ⟨k, v⟩ := head
    simp only [insertEntry] at h
    split at h
    · simpa using h
    · split at h
      · rcases List.mem_cons.1 h with h | h
        · exact .inl h
        · exact .inr (List.mem_cons_of_mem _ h)
      · rcases List.mem_cons.1 h with h | h
        · exact .inr (h ▸ List.mem_cons_self)
        · exact (ih h).imp_right (List.mem_cons_of_mem _)

theorem pairwise_insertEntry {key : String} {value : β} {entries : List (String × β)}
    (h : entries.Pairwise fun a b => a.1 < b.1) :
    (insertEntry key value entries).Pairwise fun a b => a.1 < b.1 := by
  induction entries with
  | nil => simp [insertEntry]
  | cons head rest ih =>
    obtain ⟨k, v⟩ := head
    have ⟨above, tail⟩ := List.pairwise_cons.1 h
    simp only [insertEntry]
    split
    · rename_i lt
      refine List.pairwise_cons.2 ⟨fun e m => ?_, h⟩
      rcases List.mem_cons.1 m with rfl | m
      · exact lt
      · exact String.lt_trans lt (above e m)
    · split
      · rename_i eq
        exact List.pairwise_cons.2 ⟨fun e m => eq ▸ above e m, tail⟩
      · rename_i nlt ne
        have gt : k < key := by
          rcases key_trichotomy key k with lt | eq | gt
          · exact absurd lt nlt
          · exact absurd eq ne
          · exact gt
        refine List.pairwise_cons.2 ⟨fun e m => ?_, ih tail⟩
        rcases mem_insertEntry m with rfl | m
        · exact gt
        · exact above e m

def empty : Table β := ⟨[], .nil⟩

instance : EmptyCollection (Table β) := ⟨empty⟩

instance : Inhabited (Table β) := ⟨empty⟩

/-- The value under a key. -/
def get? (t : Table β) (key : String) : Option β := t.entries.lookup key

/-- Puts a value under a key, in place of what was there. -/
def insert (t : Table β) (key : String) (value : β) : Table β :=
  ⟨insertEntry key value t.entries, pairwise_insertEntry t.sorted⟩

/-- Removes a key. -/
def erase (t : Table β) (key : String) : Table β :=
  ⟨t.entries.filter (·.1 != key), t.sorted.filter _⟩

/-- Puts a value under a key unless one is there. -/
def insertIfNew (t : Table β) (key : String) (value : β) : Table β :=
  if (t.get? key).isSome then t else t.insert key value

/-- The table of a list of entries, of which the last under a key counts. -/
def ofList (entries : List (String × β)) : Table β :=
  entries.foldl (fun t e => t.insert e.1 e.2) ∅

instance [DecidableEq β] : DecidableEq (Table β) := fun t u =>
  decidable_of_iff (t.entries = u.entries)
    ⟨fun h => by cases t; cases u; cases h; rfl, fun h => h ▸ rfl⟩

theorem lookup_cons (k j : String) (v : β) (rest : List (String × β)) :
    ((j, v) :: rest).lookup k = if k = j then some v else rest.lookup k := by
  rw [List.lookup_cons]
  by_cases h : k = j
  · rw [if_pos h, beq_iff_eq.2 h]
  · rw [if_neg h, beq_eq_false_iff_ne.2 h]

theorem lookup_insertEntry (key k : String) (value : β) (entries : List (String × β)) :
    (insertEntry key value entries).lookup k =
      if k = key then some value else entries.lookup k := by
  induction entries with
  | nil => simp [insertEntry, lookup_cons]
  | cons head rest ih =>
    obtain ⟨j, v⟩ := head
    simp only [insertEntry]
    split
    · simp only [lookup_cons]
    · split
      · rename_i eq
        subst eq
        simp only [lookup_cons]
        split <;> rfl
      · rename_i ne
        simp only [lookup_cons, ih]
        by_cases h : k = j
        · have : k ≠ key := fun e => ne (e ▸ h)
          simp [h, show j ≠ key from h ▸ this]
        · simp [h]

@[simp] theorem get?_empty (key : String) : (∅ : Table β).get? key = none := rfl

@[simp] theorem get?_insert (t : Table β) (key k : String) (value : β) :
    (t.insert key value).get? k = if k = key then some value else t.get? k :=
  lookup_insertEntry key k value t.entries

theorem lookup_filter_ne (key k : String) (entries : List (String × β)) :
    (entries.filter (·.1 != key)).lookup k = if k = key then none else entries.lookup k := by
  induction entries with
  | nil => simp
  | cons head rest ih =>
    obtain ⟨j, v⟩ := head
    by_cases hj : j = key
    · subst hj
      rw [List.filter_cons_of_neg (by simp), ih, lookup_cons]
      split <;> rfl
    · rw [List.filter_cons_of_pos (by simpa using hj), lookup_cons, ih, lookup_cons]
      by_cases h : k = j
      · subst h
        simp [hj]
      · simp [h]

@[simp] theorem get?_erase (t : Table β) (key k : String) :
    (t.erase key).get? k = if k = key then none else t.get? k :=
  lookup_filter_ne key k t.entries

theorem lookup_eq_none_of_lt {k : String} {entries : List (String × β)}
    (h : ∀ e ∈ entries, k < e.1) : entries.lookup k = none := by
  induction entries with
  | nil => rfl
  | cons head rest ih =>
    obtain ⟨j, v⟩ := head
    have lt : k < j := h (j, v) List.mem_cons_self
    have ne : k ≠ j := fun e => String.lt_irrefl j (e ▸ lt)
    rw [lookup_cons, if_neg ne]
    exact ih fun e m => h e (List.mem_cons_of_mem _ m)

theorem entries_eq_of_lookup {a b : List (String × β)}
    (ha : a.Pairwise fun x y => x.1 < y.1) (hb : b.Pairwise fun x y => x.1 < y.1)
    (same : ∀ k, a.lookup k = b.lookup k) : a = b := by
  induction a generalizing b with
  | nil =>
    cases b with
    | nil => rfl
    | cons head rest =>
      have := same head.1
      rw [lookup_cons, if_pos rfl] at this
      cases this
  | cons x a ih =>
    cases b with
    | nil => simpa [lookup_cons] using same x.1
    | cons y b =>
      obtain ⟨j, v⟩ := x
      obtain ⟨k, w⟩ := y
      have ⟨aboveA, tailA⟩ := List.pairwise_cons.1 ha
      have ⟨aboveB, tailB⟩ := List.pairwise_cons.1 hb
      have key : j = k := by
        rcases key_trichotomy j k with lt | eq | gt
        · have none : ((k, w) :: b).lookup j = none := by
            refine lookup_eq_none_of_lt fun e m => ?_
            rcases List.mem_cons.1 m with rfl | m
            · exact lt
            · exact String.lt_trans lt (aboveB e m)
          have := same j
          rw [none, lookup_cons, if_pos rfl] at this
          cases this
        · exact eq
        · have none : ((j, v) :: a).lookup k = none := by
            refine lookup_eq_none_of_lt fun e m => ?_
            rcases List.mem_cons.1 m with rfl | m
            · exact gt
            · exact String.lt_trans gt (aboveA e m)
          have := same k
          rw [none, lookup_cons, if_pos rfl] at this
          cases this
      subst key
      have value : v = w := by simpa [lookup_cons] using same j
      subst value
      refine congrArg _ (ih tailA tailB fun k => ?_)
      by_cases h : k = j
      · subst h
        rw [lookup_eq_none_of_lt aboveA, lookup_eq_none_of_lt aboveB]
      · simpa [lookup_cons, h] using same k

/-- A table is determined by its look-ups. -/
theorem ext_get? {t u : Table β} (h : ∀ k, t.get? k = u.get? k) : t = u := by
  have := entries_eq_of_lookup t.sorted u.sorted h
  cases t
  cases u
  cases this
  rfl

/-- Putting in what is there changes nothing. -/
theorem insert_of_get? {t : Table β} {key : String} {value : β} (h : t.get? key = some value) :
    t.insert key value = t := by
  refine ext_get? fun k => ?_
  rw [get?_insert]
  split
  · next same => rw [same, h]
  · rfl

theorem get?_foldl_insert_of_not_mem {key : String} {entries : List (String × β)}
    (h : key ∉ entries.map (·.1)) (t : Table β) :
    (entries.foldl (fun t e => t.insert e.1 e.2) t).get? key = t.get? key := by
  induction entries generalizing t with
  | nil => rfl
  | cons e entries ih =>
    rw [List.map_cons, List.mem_cons, not_or] at h
    rw [List.foldl_cons, ih h.2, get?_insert, if_neg h.1]

/-- A table of entries with different keys has them all. -/
theorem get?_ofList {key : String} {value : β} {entries : List (String × β)}
    (unique : (entries.map (·.1)).Nodup) (h : (key, value) ∈ entries) :
    (ofList entries).get? key = some value := by
  unfold ofList
  generalize (∅ : Table β) = t
  induction entries generalizing t with
  | nil => cases h
  | cons e entries ih =>
    obtain ⟨fresh, unique⟩ := List.nodup_cons.1 unique
    rw [List.foldl_cons]
    rcases List.mem_cons.1 h with rfl | h
    · rw [get?_foldl_insert_of_not_mem fresh, get?_insert, if_pos rfl]
    · exact ih unique h _

theorem mem_of_get?_foldl_insert {key : String} {value : β} {entries : List (String × β)}
    {t : Table β}
    (h : (entries.foldl (fun t e => t.insert e.1 e.2) t).get? key = some value) :
    (key, value) ∈ entries ∨ t.get? key = some value := by
  induction entries generalizing t with
  | nil => exact .inr h
  | cons e entries ih =>
    rcases ih h with mem | first
    · exact .inl (List.mem_cons_of_mem e mem)
    · rw [get?_insert] at first
      split at first
      · next same =>
        subst same
        cases first
        exact .inl List.mem_cons_self
      · exact .inr first

/-- What is in a table of entries is one of them. -/
theorem mem_of_get?_ofList {key : String} {value : β} {entries : List (String × β)}
    (h : (ofList entries).get? key = some value) : (key, value) ∈ entries :=
  (mem_of_get?_foldl_insert h).resolve_right nofun

theorem get?_ofList_iff {key : String} {value : β} {entries : List (String × β)}
    (unique : (entries.map (·.1)).Nodup) :
    (ofList entries).get? key = some value ↔ (key, value) ∈ entries :=
  ⟨mem_of_get?_ofList, get?_ofList unique⟩

theorem isSome_get?_ofList {key : String} {entries : List (String × β)}
    (unique : (entries.map (·.1)).Nodup) :
    ((ofList entries).get? key).isSome ↔ key ∈ entries.map (·.1) := by
  simp [Option.isSome_iff_exists, get?_ofList_iff unique]

theorem perm_insertEntry {key : String} {value : β} {entries : List (String × β)}
    (fresh : key ∉ entries.map (·.1)) :
    (insertEntry key value entries).Perm ((key, value) :: entries) := by
  induction entries with
  | nil => exact .refl _
  | cons head rest ih =>
    obtain ⟨k, v⟩ := head
    rw [List.map_cons, List.mem_cons, not_or] at fresh
    simp only [insertEntry]
    split
    · exact .refl _
    · rw [if_neg fresh.1]
      exact ((ih fresh.2).cons (k, v)).trans (.swap ..)

theorem perm_foldl_insert {entries : List (String × β)} {t : Table β}
    (unique : ((t.entries ++ entries).map (·.1)).Nodup) :
    (entries.foldl (fun t e => t.insert e.1 e.2) t).entries.Perm (t.entries ++ entries) := by
  induction entries generalizing t with
  | nil => simp
  | cons e entries ih =>
    have inFront : (t.entries ++ e :: entries).Perm (e :: t.entries ++ entries) := List.perm_middle
    have unique := (inFront.map (·.1)).nodup_iff.1 unique
    have fresh : e.1 ∉ t.entries.map (·.1) := fun there => by
      rw [List.cons_append, List.map_cons, List.map_append] at unique
      exact (List.nodup_cons.1 unique).1 (List.mem_append_left _ there)
    have inserted : ((t.insert e.1 e.2).entries ++ entries).Perm (e :: t.entries ++ entries) :=
      (perm_insertEntry fresh).append_right entries
    exact (ih ((inserted.map (·.1)).nodup_iff.2 unique)).trans (inserted.trans inFront.symm)

/-- A table of entries with different keys has just these, in another order. -/
theorem perm_ofList {entries : List (String × β)} (unique : (entries.map (·.1)).Nodup) :
    (ofList entries).entries.Perm entries :=
  perm_foldl_insert (t := ∅) unique

theorem insertEntry_of_forall_lt {key : String} {value : β} {entries : List (String × β)}
    (h : ∀ e ∈ entries, e.1 < key) : insertEntry key value entries = entries ++ [(key, value)] := by
  induction entries with
  | nil => rfl
  | cons head rest ih =>
    obtain ⟨k, v⟩ := head
    have lt : k < key := h (k, v) List.mem_cons_self
    have other : key ≠ k := fun e => String.lt_irrefl k (e ▸ lt)
    simp only [insertEntry]
    rw [if_neg (String.lt_asymm lt), if_neg other, List.cons_append,
      ih fun e m => h e (List.mem_cons_of_mem _ m)]

/-- Entries in order are put in behind one another. -/
theorem foldl_insertEntry {entries l : List (String × β)}
    (h : (l ++ entries).Pairwise fun a b => a.1 < b.1) :
    entries.foldl (fun l e => insertEntry e.1 e.2 l) l = l ++ entries := by
  induction entries generalizing l with
  | nil => simp
  | cons e entries ih =>
    have last : ∀ x ∈ l, x.1 < e.1 := fun x hx =>
      (List.pairwise_append.1 h).2.2 x hx e List.mem_cons_self
    rw [List.foldl_cons, insertEntry_of_forall_lt last, ih (by simpa using h), List.append_assoc,
      List.singleton_append]

/-- A table is made of its own entries. -/
theorem ofList_entries (t : Table β) : ofList t.entries = t := by
  have entries (new : List (String × β)) (u : Table β) :
      (new.foldl (fun t e => t.insert e.1 e.2) u).entries =
        new.foldl (fun l e => insertEntry e.1 e.2 l) u.entries := by
    induction new generalizing u with
    | nil => rfl
    | cons e new ih => exact ih (u.insert e.1 e.2)
  have same : (ofList t.entries).entries = t.entries :=
    (entries t.entries ∅).trans (foldl_insertEntry (l := []) t.sorted)
  exact ext_get? fun k => by rw [get?, get?, same]

@[simp] theorem get?_insertIfNew (t : Table β) (key k : String) (value : β) :
    (t.insertIfNew key value).get? k =
      if k = key then some ((t.get? key).getD value) else t.get? k := by
  unfold insertIfNew
  split
  · rename_i h
    obtain ⟨v, hv⟩ := Option.isSome_iff_exists.1 h
    by_cases e : k = key <;> simp [e, hv]
  · rename_i h
    have : t.get? key = none := by simpa using h
    by_cases e : k = key <;> simp [e, this]

end Table

/-- A stored document: under each group's key a table from ids to texts. -/
abbrev Document := Table (Table String)

namespace Document

/-- The text at a place of the document. -/
def text? (d : Document) (group id : String) : Option String :=
  (d.get? group).bind fun t => t.get? id

end Document
end NodeSettings
