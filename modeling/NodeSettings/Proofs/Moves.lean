import Mathlib.Logic.Basic
import NodeSettings.Document.Upgrade

/-!
Changes of the layout, place by place. A `Move` says which texts go where; `Relocated` says what a
document is after some moves. `Relocated.append`: moves without a place in common can be made one
after the other.
-/

namespace NodeSettings

/-- A place in a document: a group and an id. -/
abbrev Place := String × String

namespace Document

/-- The text at a place. -/
def at? (d : Document) (p : Place) : Option String := d.text? p.1 p.2

/-- A document has a group, if only an empty one. -/
def Has (d : Document) (group : String) : Prop := (d.get? group).isSome

end Document

/-- How a layout moved texts. -/
inductive Move where
  /-- One text. -/
  | text (source target : Place)
  /-- A whole group, texts or none. -/
  | rename (source target : String)
  /-- The texts of a group but some that are dropped. -/
  | split (source target : String) (dropped : List String)
  /-- Some texts of a group, each to a place of its own; the others are dropped. -/
  | spread (source : String) (targets : List (String × Place))

namespace Move

/-- Where the text at a place goes. -/
def target? : Move → Place → Option Place
  | text source target, p => if p = source then some target else none
  | rename source target, p => if p.1 = source then some (target, p.2) else none
  | split source target dropped, p =>
    if p.1 = source ∧ p.2 ∉ dropped then some (target, p.2) else none
  | spread source targets, p => if p.1 = source then targets.lookup p.2 else none

/-- The text at a place is taken away. -/
def Takes : Move → Place → Prop
  | text source _, p => p = source
  | rename source _, p | split source _ _, p | spread source _, p => p.1 = source

/-- A group is taken away, whatever it has. -/
def Removes : Move → String → Prop
  | text .., _ => False
  | rename source _, group | split source _ _, group | spread source _, group => group = source

/-- A group is there afterwards if another one was before. -/
def Renames : Move → String → String → Prop
  | rename source target, old, new => old = source ∧ new = target
  | _, _, _ => False

/-- A text is taken from a place, or may come to it. -/
def Touches (move : Move) (p : Place) : Prop := move.Takes p ∨ ∃ q, move.target? q = some p

/-- The groups that a move is about as a whole. -/
def groups : Move → List String
  | text .. => []
  | rename source target | split source target _ => [source, target]
  | spread source _ => [source]

/-- The single places that a move is about. -/
def places : Move → List Place
  | text source target => [source, target]
  | rename .. | split .. => []
  | spread _ targets => targets.map (·.2)

/-- Whether a place is among those that a move is about. -/
def covers (move : Move) (p : Place) : Bool :=
  move.places.contains p || move.groups.contains p.1

/-- Whether two moves are about different places. -/
def isApart (a b : Move) : Bool :=
  a.places.all (fun p => !b.covers p) && b.places.all (fun p => !a.covers p) &&
    a.groups.all fun g => !b.groups.contains g

variable {a b move : Move} {p q : Place} {old new : String}

section Targets

variable {source target : Place} {group group' : String} {dropped : List String}
  {targets : List (String × Place)}

theorem target?_text : (text source target).target? p = some q ↔ p = source ∧ target = q := by
  simp [target?]

theorem target?_rename :
    (rename group group').target? p = some q ↔ p.1 = group ∧ (group', p.2) = q := by
  simp [target?]

theorem target?_split : (split group group' dropped).target? p = some q ↔
    (p.1 = group ∧ p.2 ∉ dropped) ∧ (group', p.2) = q := by
  simp [target?]

theorem target?_spread : (spread group targets).target? p = some q ↔
    p.1 = group ∧ targets.lookup p.2 = some q := by
  simp [target?]

end Targets

theorem takes_of_target? (h : move.target? p = some q) : move.Takes p := by
  cases move with
  | text source target => exact (target?_text.1 h).1
  | rename source target => exact (target?_rename.1 h).1
  | split source target dropped => exact (target?_split.1 h).1.1
  | spread source targets => exact (target?_spread.1 h).1

theorem touches_of_removes (h : move.Removes old) (id : String) : move.Touches (old, id) := by
  cases move with
  | text source target => exact absurd h not_false
  | rename source target | split source target dropped | spread source targets => exact .inl h

theorem removes_of_renames (h : move.Renames old new) : move.Removes old := by
  cases move with
  | rename source target => exact h.1
  | text | split | spread => exact absurd h not_false

theorem touches_of_renames (h : move.Renames old new) (id : String) : move.Touches (new, id) := by
  cases move with
  | rename source target =>
    obtain ⟨rfl, rfl⟩ := h
    exact .inr ⟨(old, id), if_pos rfl⟩
  | text | split | spread => exact absurd h not_false

/-- The group that a move takes texts from, where it takes all there are. -/
def source? : Move → Option String
  | text .. => none
  | rename source _ | split source _ _ | spread source _ => some source

theorem takes_iff (h : move.source? = some old) : move.Takes p ↔ p.1 = old := by
  cases move <;> cases h <;> rfl

theorem removes_iff (h : move.source? = some old) : move.Removes new ↔ new = old := by
  cases move <;> cases h <;> rfl

theorem mem_of_lookup {targets : List (String × Place)} {id : String}
    (h : targets.lookup id = some q) : (id, q) ∈ targets := by
  induction targets with
  | nil => cases h
  | cons first rest ih =>
    rw [Table.lookup_cons] at h
    split at h
    · next same =>
      cases h
      exact same ▸ List.mem_cons_self
    · exact List.mem_cons_of_mem first (ih h)

theorem covers_of_touches (h : move.Touches p) : move.covers p = true := by
  cases move with
  | text source target =>
    rcases h with rfl | ⟨q, h⟩
    · simp [covers, places]
    · simp [covers, places, (target?_text.1 h).2]
  | rename source target =>
    rcases h with rfl | ⟨q, h⟩
    · simp [covers, groups]
    · simp [covers, groups, ← (target?_rename.1 h).2]
  | split source target dropped =>
    rcases h with rfl | ⟨q, h⟩
    · simp [covers, groups]
    · simp [covers, groups, ← (target?_split.1 h).2]
  | spread source targets =>
    rcases h with rfl | ⟨q, h⟩
    · simp [covers, groups]
    · have : p ∈ targets.map (·.2) := List.mem_map_of_mem (mem_of_lookup (target?_spread.1 h).2)
      simp [covers, places, this]

/-- Moves that are apart have no place in common. -/
theorem not_touches_of_isApart (apart : a.isApart b = true) (h : a.Touches p) : ¬ b.Touches p := by
  intro h'
  have ha := covers_of_touches h
  have hb := covers_of_touches h'
  simp only [isApart, covers, Bool.and_eq_true, List.all_eq_true, Bool.not_eq_true',
    Bool.or_eq_false_iff, Bool.or_eq_true, List.contains_iff_mem] at apart ha hb
  obtain ⟨⟨ab, ba⟩, groups⟩ := apart
  rcases ha with place | group
  · have := ab p place
    rcases hb with hb | hb <;> simp_all
  · rcases hb with hb | hb
    · have := ba p hb
      simp_all
    · have := groups p.1 group
      simp_all

end Move

/-- What a document `m` is after the texts of `d` were moved. -/
structure Relocated (moves : List Move) (d m : Document) : Prop where
  taken : ∀ move ∈ moves, ∀ p, move.Takes p → m.at? p = none
  /-- A text that is there already stays. -/
  moved : ∀ move ∈ moves, ∀ p q, move.target? p = some q → m.at? q = (d.at? q).or (d.at? p)
  kept : ∀ p, (∀ move ∈ moves, ¬ move.Touches p) → m.at? p = d.at? p
  groups : ∀ group, m.Has group ↔ (∀ move ∈ moves, ¬ move.Removes group) ∧
    (d.Has group ∨ (∃ id, (m.at? (group, id)).isSome) ∨
      ∃ move ∈ moves, ∃ old, move.Renames old group ∧ d.Has old)

theorem Document.has_of_at? {d : Document} {group id : String}
    (h : (d.at? (group, id)).isSome) : d.Has group := by
  unfold Document.at? Document.text? at h
  cases found : d.get? group with
  | none => simp [found] at h
  | some table => simp [Document.Has, found]

namespace Relocated

variable {d m n : Document} {moves others : List Move} {group : String}

theorem nil (d : Document) : Relocated [] d d where
  taken := nofun
  moved := nofun
  kept _ _ := rfl
  groups group := by
    constructor
    · exact fun h => ⟨nofun, .inl h⟩
    · rintro ⟨-, h | ⟨id, h⟩ | ⟨_, h, _⟩⟩
      · exact h
      · exact Document.has_of_at? h
      · cases h

theorem single {move : Move} (taken : ∀ p, move.Takes p → m.at? p = none)
    (moved : ∀ p q, move.target? p = some q → m.at? q = (d.at? q).or (d.at? p))
    (kept : ∀ p, ¬ move.Touches p → m.at? p = d.at? p)
    (groups : ∀ group, m.Has group ↔ ¬ move.Removes group ∧
      (d.Has group ∨ (∃ id, (m.at? (group, id)).isSome) ∨
        ∃ old, move.Renames old group ∧ d.Has old)) : Relocated [move] d m where
  taken := List.forall_mem_singleton.2 taken
  moved := List.forall_mem_singleton.2 moved
  kept p away := kept p (away move List.mem_cons_self)
  groups group := by
    rw [List.forall_mem_singleton, groups]
    simp only [List.mem_singleton, exists_eq_left]

/-- A group that moves touch nowhere is there afterwards if it was before. -/
theorem has_iff_of_not_touches (h : Relocated moves d m)
    (away : ∀ move ∈ moves, ∀ id, ¬ move.Touches (group, id)) : m.Has group ↔ d.Has group := by
  rw [h.groups]
  constructor
  · rintro ⟨-, there | ⟨id, text⟩ | ⟨move, hmove, old, renames, -⟩⟩
    · exact there
    · rw [h.kept _ fun move hmove => away move hmove id] at text
      exact Document.has_of_at? text
    · exact absurd (Move.touches_of_renames renames "") (away move hmove "")
  · intro there
    refine ⟨fun move hmove removes => ?_, .inl there⟩
    exact away move hmove "" (Move.touches_of_removes removes "")

/-! ## One change after another -/

section Append

variable {a b : Move} {p : Place} (h : Relocated moves d m) (h' : Relocated others m n)
  (apart : ∀ a ∈ moves, ∀ b ∈ others, a.isApart b = true)

include h' apart in
theorem at?_of_touches_first (ha : a ∈ moves) (touched : a.Touches p) : n.at? p = m.at? p :=
  h'.kept p fun b hb => Move.not_touches_of_isApart (apart a ha b hb) touched

include h apart in
theorem at?_of_touches_second (hb : b ∈ others) (touched : b.Touches p) : m.at? p = d.at? p :=
  h.kept p fun a ha touched' => Move.not_touches_of_isApart (apart a ha b hb) touched' touched

include h apart in
theorem has_iff_of_renames {old : String} (hb : b ∈ others) (renames : b.Renames old group) :
    m.Has old ↔ d.Has old :=
  h.has_iff_of_not_touches fun a ha id touched =>
    Move.not_touches_of_isApart (apart a ha b hb) touched
      (Move.touches_of_removes (Move.removes_of_renames renames) id)

include h h' apart in
/-- A group that the first moves take away does not come back. -/
theorem not_removes_of_has (there : n.Has group) (ha : a ∈ moves) : ¬ a.Removes group := by
  intro removes
  have alone : n.Has group ↔ m.Has group := h'.has_iff_of_not_touches fun b hb id =>
    Move.not_touches_of_isApart (apart a ha b hb) (Move.touches_of_removes removes id)
  exact ((h.groups group).1 (alone.1 there)).1 a ha removes

include h h' apart in
theorem has_append : n.Has group ↔ (∀ move ∈ moves ++ others, ¬ move.Removes group) ∧
    (d.Has group ∨ (∃ id, (n.at? (group, id)).isSome) ∨
      ∃ move ∈ moves ++ others, ∃ old, move.Renames old group ∧ d.Has old) := by
  constructor
  · intro there
    obtain ⟨stays, sources⟩ := (h'.groups group).1 there
    refine ⟨List.forall_mem_append.2
      ⟨fun a ha => not_removes_of_has h h' apart there ha, stays⟩, ?_⟩
    rcases sources with has | text | ⟨b, hb, old, renames, has⟩
    · rcases ((h.groups group).1 has).2 with has | ⟨id, text⟩ | ⟨a, ha, old, renames, has⟩
      · exact .inl has
      -- The text in between is there at the end, or was there at the start.
      · by_cases touched : ∃ b ∈ others, b.Touches (group, id)
        · obtain ⟨b, hb, touches⟩ := touched
          rw [at?_of_touches_second h apart hb touches] at text
          exact .inl (Document.has_of_at? text)
        · have kept := h'.kept (group, id) fun b hb touches => touched ⟨b, hb, touches⟩
          exact .inr (.inl ⟨id, kept ▸ text⟩)
      · exact .inr (.inr ⟨a, List.mem_append_left others ha, old, renames, has⟩)
    · exact .inr (.inl text)
    · have has := (has_iff_of_renames h apart hb renames).1 has
      exact .inr (.inr ⟨b, List.mem_append_right moves hb, old, renames, has⟩)
  · rintro ⟨stays, sources⟩
    obtain ⟨stays, stays'⟩ := List.forall_mem_append.1 stays
    refine (h'.groups group).2 ⟨stays', ?_⟩
    rcases sources with has | text | ⟨move, hmove, old, renames, has⟩
    · exact .inl ((h.groups group).2 ⟨stays, .inl has⟩)
    · exact .inr (.inl text)
    · rcases List.mem_append.1 hmove with ha | hb
      · exact .inl ((h.groups group).2 ⟨stays, .inr (.inr ⟨move, ha, old, renames, has⟩)⟩)
      · have has := (has_iff_of_renames h apart hb renames).2 has
        exact .inr (.inr ⟨move, hb, old, renames, has⟩)

include h h' apart in
/-- Moves without a common place can be made one after the other. -/
theorem append : Relocated (moves ++ others) d n := by
  refine ⟨fun move hmove p takes => ?_, fun move hmove p q goes => ?_, fun p away => ?_,
    fun group => has_append h h' apart⟩
  · rcases List.mem_append.1 hmove with ha | hb
    · rw [at?_of_touches_first h' apart ha (.inl takes), h.taken move ha p takes]
    · exact h'.taken move hb p takes
  · have takes := Move.takes_of_target? goes
    rcases List.mem_append.1 hmove with ha | hb
    · rw [at?_of_touches_first h' apart ha (.inr ⟨p, goes⟩), h.moved move ha p q goes]
    · rw [h'.moved move hb p q goes, at?_of_touches_second h apart hb (.inl takes),
        at?_of_touches_second h apart hb (.inr ⟨p, goes⟩)]
  · rw [h'.kept p fun b hb => away b (List.mem_append_right moves hb),
      h.kept p fun a ha => away a (List.mem_append_left others ha)]

end Append

/-- Moves that do not touch a place have no use for what is there. -/
theorem at?_congr {d' m' : Document} {s : Place} (h : Relocated moves d m)
    (h' : Relocated moves d' m') (away : ∀ move ∈ moves, ¬ move.Touches s)
    (same : ∀ p ≠ s, d.at? p = d'.at? p) : ∀ p ≠ s, m.at? p = m'.at? p := by
  intro p other
  by_cases touched : ∃ move ∈ moves, move.Touches p
  · obtain ⟨move, hmove, takes | ⟨q, goes⟩⟩ := touched
    · rw [h.taken move hmove p takes, h'.taken move hmove p takes]
    · have source : q ≠ s := by
        rintro rfl
        exact away move hmove (.inl (Move.takes_of_target? goes))
      rw [h.moved move hmove q p goes, h'.moved move hmove q p goes, same p other, same q source]
  · have untouched : ∀ move ∈ moves, ¬ move.Touches p := fun move hmove touches =>
      touched ⟨move, hmove, touches⟩
    rw [h.kept p untouched, h'.kept p untouched, same p other]

/-- What does one move for each entry of a list does all the moves. -/
theorem foldl {α : Type} {f : Document → α → Document} {move : α → Move} {l : List α}
    (one : ∀ d, ∀ a ∈ l, Relocated [move a] d (f d a))
    (apart : l.Pairwise fun a b => (move a).isApart (move b) = true) (d : Document) :
    Relocated (l.map move) d (l.foldl f d) := by
  induction l generalizing d with
  | nil => exact nil d
  | cons a l ih =>
    obtain ⟨first, rest⟩ := List.pairwise_cons.1 apart
    have later := ih (fun d b hb => one d b (List.mem_cons_of_mem a hb)) rest (f d a)
    refine (one d a List.mem_cons_self).append later fun x hx y hy => ?_
    obtain ⟨b, hb, rfl⟩ := List.mem_map.1 hy
    obtain rfl := List.mem_singleton.1 hx
    exact first b hb

end Relocated
end NodeSettings
