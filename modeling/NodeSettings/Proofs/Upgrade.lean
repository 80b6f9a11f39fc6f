import Mathlib.Data.List.Flatten
import NodeSettings.Proofs.Moves
import NodeSettings.Proofs.Rules

/-!
What upgrading a document does, place by place. Each step of the upgrade is a list of moves, in
`layoutMoves` for each layout. `upgrade_relocates`: an upgrade makes the moves of the layouts that
are newer than the document's stamp, all from where the texts stood before, and stamps the document.
-/

namespace NodeSettings.Document

variable {d m : Document} {p : Place} {group id text g : String} {table : Table String}

/-! ## Single updates -/

theorem at?_insert (d : Document) (group : String) (table : Table String) (p : Place) :
    at? (d.insert group table) p = if p.1 = group then table.get? p.2 else d.at? p := by
  unfold at? text?
  rw [Table.get?_insert]
  split <;> rfl

theorem has_insert (d : Document) (group : String) (table : Table String) (g : String) :
    Has (d.insert group table) g ↔ g = group ∨ d.Has g := by
  unfold Has
  rw [Table.get?_insert]
  split <;> simp [*]

theorem at?_erase (d : Document) (group : String) (p : Place) :
    at? (d.erase group) p = if p.1 = group then none else d.at? p := by
  unfold at? text?
  rw [Table.get?_erase]
  split <;> rfl

theorem has_erase (d : Document) (group g : String) :
    Has (d.erase group) g ↔ g ≠ group ∧ d.Has g := by
  unfold Has
  rw [Table.get?_erase]
  split <;> simp [*]

theorem get?_getD (d : Document) (p : Place) : ((d.get? p.1).getD ∅).get? p.2 = d.at? p := by
  unfold at? text?
  cases d.get? p.1 <;> rfl

theorem at?_putIfNew (d : Document) (group id text : String) (p : Place) :
    (d.putIfNew group id text).at? p =
      if p = (group, id) then (d.at? p).or (some text) else d.at? p := by
  obtain ⟨g, k⟩ := p
  unfold putIfNew
  rw [at?_insert, Table.get?_insertIfNew]
  by_cases hg : g = group
  · subst hg
    have same (k : String) : ((d.get? g).getD ∅).get? k = d.at? (g, k) := get?_getD d (g, k)
    by_cases hk : k = id
    · subst hk
      simp only [if_pos, same]
      cases d.at? (g, k) <;> rfl
    · simp [hk, same]
  · simp [hg]

theorem has_putIfNew (d : Document) (group id text g : String) :
    (d.putIfNew group id text).Has g ↔ g = group ∨ d.Has g :=
  has_insert d group _ g

theorem at?_removeText (d : Document) (group id : String) (p : Place) :
    (d.removeText group id).at? p = if p = (group, id) then none else d.at? p := by
  obtain ⟨g, k⟩ := p
  unfold removeText
  cases found : d.get? group with
  | none =>
    by_cases same : (g, k) = (group, id)
    · cases same
      simp [at?, text?, found]
    · simp [same]
  | some table =>
    simp only [at?_insert, Table.get?_erase]
    by_cases hg : g = group
    · subst hg
      simp [at?, text?, found]
    · simp [hg]

theorem has_removeText (d : Document) (group id g : String) :
    (d.removeText group id).Has g ↔ d.Has g := by
  unfold removeText
  cases found : d.get? group with
  | none => rfl
  | some table =>
    rw [has_insert, or_iff_right_of_imp]
    rintro rfl
    simp [Has, found]

/-! ## Many updates -/

/-- Puts texts at places, as far as those are free. -/
def putAll (d : Document) (texts : List (Place × String)) : Document :=
  texts.foldl (fun d e => d.putIfNew e.1.1 e.1.2 e.2) d

theorem at?_putAll (d : Document) (texts : List (Place × String)) (p : Place) :
    (d.putAll texts).at? p = (d.at? p).or ((texts.find? (·.1 = p)).map (·.2)) := by
  induction texts generalizing d with
  | nil => simp [putAll]
  | cons e texts ih =>
    obtain ⟨q, text⟩ := e
    show ((d.putIfNew q.1 q.2 text).putAll texts).at? p = _
    rw [ih, at?_putIfNew]
    by_cases h : p = q
    · subst h
      simp
    · have h' : q ≠ p := fun same => h same.symm
      simp [h, h']

theorem has_putAll (d : Document) (texts : List (Place × String)) (g : String) :
    (d.putAll texts).Has g ↔ d.Has g ∨ ∃ e ∈ texts, e.1.1 = g := by
  induction texts generalizing d with
  | nil => simp [putAll]
  | cons e texts ih =>
    show ((d.putIfNew e.1.1 e.1.2 e.2).putAll texts).Has g ↔ _
    rw [ih, has_putIfNew]
    simp only [List.mem_cons, exists_eq_or_imp]
    rw [eq_comm, or_assoc]
    exact or_left_comm

/-- A group that texts were put in has one of them. -/
theorem has_putAll_iff (d : Document) (texts : List (Place × String)) (g : String) :
    (d.putAll texts).Has g ↔ d.Has g ∨ ∃ id, ((d.putAll texts).at? (g, id)).isSome := by
  refine ⟨fun h => ?_, fun h => ?_⟩
  · rcases (has_putAll d texts g).1 h with h | ⟨e, he, rfl⟩
    · exact .inl h
    · have found : (texts.find? (·.1 = e.1)).isSome := by
        rw [List.find?_isSome]
        exact ⟨e, he, by simp⟩
      refine .inr ⟨e.1.2, ?_⟩
      rw [at?_putAll]
      simp [Option.isSome_or, found]
  · rcases h with h | ⟨id, h⟩
    · exact (has_putAll d texts g).2 (.inl h)
    · exact has_of_at? h

/-- Entries under some keys left out, a key that stays has its text. -/
theorem find?_kept {dropped : List String} (stays : id ∉ dropped) (group : String)
    (entries : List (String × String)) :
    (((entries.filter fun e => !dropped.contains e.1).map fun e =>
      ((group, e.1), e.2)).find? (·.1 = (group, id))).map (·.2) = entries.lookup id := by
  induction entries with
  | nil => rfl
  | cons e entries ih =>
    obtain ⟨k, text⟩ := e
    rw [Table.lookup_cons]
    by_cases same : k = id
    · subst same
      simp [stays]
    · have other : id ≠ k := fun h => same h.symm
      by_cases drop : k ∈ dropped
      · rw [if_neg other, ← ih, List.filter_cons_of_neg (by simpa using drop)]
      · rw [if_neg other, ← ih, List.filter_cons_of_pos (by simpa using drop), List.map_cons,
          List.find?_cons_of_neg (by simpa using same)]

/-- Texts listed with places of their own, a place has the text listed for it. -/
theorem find?_listed {targets : List (String × Place)} (own : (targets.map (·.2)).Nodup)
    (listed : targets.lookup id = some p) (table : Table String) :
    ((targets.filterMap fun m => (table.get? m.1).map fun text => (m.2, text)).find?
      (·.1 = p)).map (·.2) = table.get? id := by
  induction targets with
  | nil => cases listed
  | cons m targets ih =>
    obtain ⟨k, q⟩ := m
    obtain ⟨fresh, own⟩ := List.nodup_cons.1 own
    rw [Table.lookup_cons] at listed
    split at listed
    · next same =>
      cases listed
      subst same
      have absent : (targets.filterMap fun m => (table.get? m.1).map fun text =>
          (m.2, text)).find? (·.1 = p) = none := by
        rw [List.find?_eq_none]
        rintro e he same
        obtain ⟨m, hm, is⟩ := List.mem_filterMap.1 he
        obtain ⟨text, -, rfl⟩ := Option.map_eq_some_iff.1 is
        exact fresh (List.mem_map.2 ⟨m, hm, of_decide_eq_true same⟩)
      cases there : table.get? id with
      | none => simp [there, absent]
      | some text => simp [there]
    · have other : q ≠ p := by
        rintro rfl
        exact fresh (List.mem_map.2 ⟨_, Move.mem_of_lookup listed, rfl⟩)
      rw [← ih own listed]
      cases there : table.get? k with
      | none => simp [there]
      | some text => simp [there, other]

theorem get?_foldl_insertIfNew (entries : List (String × String)) (t : Table String)
    (id : String) :
    (entries.foldl (fun t e => t.insertIfNew e.1 e.2) t).get? id =
      (t.get? id).or (entries.lookup id) := by
  induction entries generalizing t with
  | nil => simp
  | cons e entries ih =>
    obtain ⟨k, text⟩ := e
    rw [List.foldl_cons, ih, Table.get?_insertIfNew, Table.lookup_cons]
    by_cases h : id = k
    · subst h
      cases t.get? id <;> simp
    · simp [h]

/-! ## Steps -/

theorem at?_moveText (d : Document) (source target p : Place) :
    (d.moveText source.1 source.2 target.1 target.2).at? p =
      if p = target then (if p = source then none else d.at? p).or (d.at? source)
      else if p = source then none else d.at? p := by
  unfold moveText
  cases found : d.text? source.1 source.2 with
  | none =>
    have empty : d.at? source = none := found
    by_cases h : p = source
    · simp [h, empty]
    · simp [h, empty]
  | some text =>
    have there : d.at? source = some text := found
    simp only [at?_putIfNew, at?_removeText, there]

theorem has_moveText (d : Document) (source target : Place) (g : String) :
    (d.moveText source.1 source.2 target.1 target.2).Has g ↔
      d.Has g ∨ g = target.1 ∧ (d.at? source).isSome := by
  unfold moveText
  cases found : d.text? source.1 source.2 with
  | none => simp [show d.at? source = none from found]
  | some text =>
    simp [show d.at? source = some text from found, has_putIfNew, has_removeText, or_comm]

theorem relocated_moveText (source target : Place) (ne : source ≠ target) :
    Relocated [.text source target] d (d.moveText source.1 source.2 target.1 target.2) := by
  refine .single ?_ ?_ ?_ fun g => ⟨?_, ?_⟩
  · rintro p rfl
    simp [at?_moveText, ne]
  · intro p q goes
    obtain ⟨rfl, rfl⟩ := Move.target?_text.1 goes
    simp [at?_moveText, ne.symm]
  · intro p away
    have notSource : p ≠ source := fun same => away (.inl same)
    have notTarget : p ≠ target := fun same =>
      away (.inr ⟨source, Move.target?_text.2 ⟨rfl, same.symm⟩⟩)
    simp [at?_moveText, notSource, notTarget]
  · intro has
    refine ⟨not_false, ?_⟩
    rcases (has_moveText d source target g).1 has with has | ⟨rfl, there⟩
    · exact .inl has
    · refine .inr (.inl ⟨target.2, ?_⟩)
      simp [at?_moveText, Option.isSome_or, there]
  · rintro ⟨-, has | ⟨id, text⟩ | ⟨old, renames, -⟩⟩
    · exact (has_moveText d source target g).2 (.inl has)
    · exact has_of_at? text
    · exact absurd renames not_false

/-- A group that is not there has nothing to move. -/
theorem relocated_absent {move : Move} {source : String} (from_ : move.source? = some source)
    (absent : d.get? source = none) : Relocated [move] d d := by
  have empty (p : Place) (h : p.1 = source) : d.at? p = none := by
    simp [at?, text?, h, absent]
  have none : ¬ d.Has source := by simp [Has, absent]
  refine .single ?_ ?_ (fun _ _ => rfl) fun g => ⟨?_, ?_⟩
  · exact fun p takes => empty p ((Move.takes_iff from_).1 takes)
  · intro p q goes
    rw [empty p ((Move.takes_iff from_).1 (Move.takes_of_target? goes)), Option.or_none]
  · intro has
    exact ⟨fun removes => none ((Move.removes_iff from_).1 removes ▸ has), .inl has⟩
  · rintro ⟨-, has | ⟨id, text⟩ | ⟨old, renames, has⟩⟩
    · exact has
    · exact has_of_at? text
    · have := (Move.removes_iff from_).1 (Move.removes_of_renames renames)
      exact absurd (this ▸ has) none

theorem relocated_moveGroup {source target : String} (ne : source ≠ target) :
    Relocated [.rename source target] d (d.moveGroup source target) := by
  cases found : d.get? source with
  | none =>
    have same : d.moveGroup source target = d := by simp [moveGroup, found]
    rw [same]
    exact relocated_absent rfl found
  | some table =>
    have there (id : String) : d.at? (source, id) = table.get? id := by simp [at?, text?, found]
    have at? (p : Place) : (d.moveGroup source target).at? p =
        if p.1 = target then (d.at? p).or (table.get? p.2)
        else if p.1 = source then none else d.at? p := by
      simp only [moveGroup, found, at?_insert, at?_erase, get?_foldl_insertIfNew]
      split
      · next same =>
        rw [← same, get?_getD, at?_erase, if_neg (same ▸ ne.symm)]
        rfl
      · rfl
    have has (g : String) : (d.moveGroup source target).Has g ↔
        g = target ∨ g ≠ source ∧ d.Has g := by
      simp only [moveGroup, found, has_insert, has_erase]
    refine .single ?_ ?_ ?_ fun g => ⟨?_, ?_⟩
    · rintro p rfl
      simp [at?, ne]
    · intro p q goes
      obtain ⟨rfl, rfl⟩ := Move.target?_rename.1 goes
      rw [at?, if_pos rfl, ← there]
    · intro p away
      have notSource : p.1 ≠ source := fun same => away (.inl same)
      have notTarget : p.1 ≠ target := fun same =>
        away (.inr ⟨(source, p.2), Move.target?_rename.2 ⟨rfl, Prod.ext same.symm rfl⟩⟩)
      simp [at?, notSource, notTarget]
    · intro is
      rcases (has g).1 is with rfl | ⟨stays, is⟩
      · exact ⟨ne.symm, .inr (.inr ⟨source, ⟨rfl, rfl⟩, by simp [Has, found]⟩)⟩
      · exact ⟨stays, .inl is⟩
    · rintro ⟨stays, is | ⟨id, text⟩ | ⟨old, ⟨-, rfl⟩, -⟩⟩
      · exact (has g).2 (.inr ⟨stays, is⟩)
      · exact has_of_at? text
      · exact (has g).2 (.inl rfl)

/-- Texts of a group are put at their new places once the group is gone. -/
theorem relocated_putAll {move : Move} {source : String} {texts : List (Place × String)}
    (from_ : move.source? = some source) (fresh : ∀ old new, ¬ move.Renames old new)
    (leaves : ∀ p q, move.target? p = some q → q.1 ≠ source)
    (goes : ∀ p q, move.target? p = some q →
      (texts.find? (·.1 = q)).map (·.2) = d.at? p)
    (only : ∀ e ∈ texts, ∃ p, move.target? p = some e.1) :
    Relocated [move] d (putAll (d.erase source) texts) := by
  have nowhere (p : Place) (h : ∀ q, move.target? q ≠ some p) :
      (texts.find? (·.1 = p)).map (·.2) = none := by
    rw [Option.map_eq_none_iff, List.find?_eq_none]
    intro e he same
    obtain ⟨q, hq⟩ := only e he
    exact h q (hq.trans (congrArg some (of_decide_eq_true same)))
  have taken (p : Place) (h : p.1 = source) : (putAll (d.erase source) texts).at? p = none := by
    rw [at?_putAll, at?_erase, if_pos h, nowhere p fun q hq => leaves q p hq h]
    rfl
  refine .single ?_ ?_ ?_ fun g => ?_
  · exact fun p takes => taken p ((Move.takes_iff from_).1 takes)
  · intro p q hq
    rw [at?_putAll, at?_erase, if_neg (leaves p q hq), goes p q hq]
  · intro p away
    have other : p.1 ≠ source := fun same => away (.inl ((Move.takes_iff from_).2 same))
    rw [at?_putAll, at?_erase, if_neg other, nowhere p fun q hq => away (.inr ⟨q, hq⟩),
      Option.or_none]
  · rw [has_putAll_iff, has_erase, Move.removes_iff from_]
    constructor
    · rintro (⟨stays, has⟩ | ⟨id, text⟩)
      · exact ⟨stays, .inl has⟩
      · refine ⟨fun same => ?_, .inr (.inl ⟨id, text⟩)⟩
        simp [taken (g, id) same] at text
    · rintro ⟨stays, has | text | ⟨old, renames, -⟩⟩
      · exact .inl ⟨stays, has⟩
      · exact .inr text
      · exact absurd renames (fresh old g)

/-! ## Moves of the layouts -/

/-- Where the texts of the external consensus client go, given which client it is. -/
def splitFor : Option String → Move
  | some "prysm" => .split "externalConsensus" "externalPrysm" []
  | some "teku" =>
    .split "externalConsensus" "externalTeku" ["jsonRpcUrl", "doppelgangerDetection"]
  | _ => .split "externalConsensus" "externalLighthouse" ["jsonRpcUrl"]

theorem splitFor_eq (client : Option String) :
    splitFor client =
      .split "externalConsensus" (externalGroup client).1 (externalGroup client).2 := by
  unfold splitFor
  split
  · rfl
  · rfl
  · simp [externalGroup]

theorem externalGroup_ne (client : Option String) :
    (externalGroup client).1 ≠ "externalConsensus" := by
  unfold externalGroup
  split <;> decide

theorem relocated_splitExternal :
    Relocated [splitFor (d.at? ("root", "externalConsensusClient"))] d d.splitExternal := by
  rw [splitFor_eq]
  cases found : d.get? "externalConsensus" with
  | none =>
    have same : d.splitExternal = d := by simp [splitExternal, found]
    rw [same]
    exact relocated_absent rfl found
  | some table =>
    have client : text? (d.erase "externalConsensus") "root" "externalConsensusClient" =
        d.at? ("root", "externalConsensusClient") := at?_erase d _ ("root", _)
    have there (id : String) : d.at? ("externalConsensus", id) = table.get? id := by
      simp [at?, text?, found]
    let group := externalGroup (d.at? ("root", "externalConsensusClient"))
    have puts : d.splitExternal = putAll (d.erase "externalConsensus")
        ((table.entries.filter fun e => !group.2.contains e.1).map fun e =>
          ((group.1, e.1), e.2)) := by
      simp only [splitExternal, found, client, putAll, List.foldl_map]
      rfl
    rw [puts]
    refine relocated_putAll rfl (fun _ _ => not_false) ?_ ?_ ?_
    · intro p q goes
      obtain ⟨-, rfl⟩ := Move.target?_split.1 goes
      exact externalGroup_ne _
    · rintro ⟨g, id⟩ q goes
      obtain ⟨⟨rfl, stays⟩, rfl⟩ := Move.target?_split.1 goes
      rw [there]
      exact find?_kept stays _ table.entries
    · intro e he
      obtain ⟨⟨id, text⟩, hid, rfl⟩ := List.mem_map.1 he
      have stays := (List.mem_filter.1 hid).2
      exact ⟨("externalConsensus", id),
        Move.target?_split.2 ⟨⟨rfl, by simpa [group] using stays⟩, rfl⟩⟩

/-- The moves that call clients execution and consensus clients. -/
def clientMoves : List Move :=
  [.text ("root", "eth1ClientMode") ("root", "executionClientMode"),
    .text ("root", "eth1Client") ("root", "executionClient"),
    .text ("root", "useFallbackEth1") ("root", "useFallbackExecutionClient"),
    .text ("root", "fallbackEth1ClientMode") ("root", "fallbackExecutionClientMode"),
    .text ("root", "fallbackEth1Client") ("root", "fallbackExecutionClient"),
    .text ("root", "eth2ClientMode") ("root", "consensusClientMode"),
    .text ("root", "eth2Client") ("root", "consensusClient"),
    .text ("root", "externalEth2Client") ("root", "externalConsensusClient"),
    .text ("root", "eth1MetricsPort") ("root", "ecMetricsPort"),
    .rename "eth1Common" "executionCommon",
    .rename "externalEth1" "externalExecution",
    .rename "fallbackEth1Common" "fallbackExecutionCommon",
    .rename "fallbackExternalEth1" "fallbackExternalExecution",
    .rename "eth2Common" "consensusCommon"]

/-- The move that takes the metrics group apart. -/
def metricsMove : Move :=
  .spread "metrics"
    [("enabled", "root", "enableMetrics"),
      ("grafanaPort", "grafana", "port"),
      ("prometheusPort", "prometheus", "port"),
      ("exporterRootFs", "exporter", "enableRootFs")]

/-- The moves of each layout, oldest first, given which external consensus client is used. -/
def layoutMoves (client : Option String) : List (Version × List Move) :=
  [(⟨1, 1, 0⟩, [.text ("root", "network") ("smartnode", "network")]), (⟨1, 2, 0⟩, clientMoves),
    (⟨1, 4, 0⟩, [splitFor client]), (⟨1, 5, 0⟩, [metricsMove])]

/-- The moves of the layouts that are newer than a version. -/
def dueMoves (found : Version) (client : Option String) : List Move :=
  ((layoutMoves client).filter fun layout => found.isBefore layout.1).flatMap (·.2)

/-- The external consensus client that a document names, under its present key or, in an old enough
layout, under its former one. -/
def externalClient (d : Document) (found : Version) : Option String :=
  (d.at? ("root", "externalConsensusClient")).or
    (if found.isBefore ⟨1, 2, 0⟩ then d.at? ("root", "externalEth2Client") else none)

theorem relocated_moveNetwork :
    Relocated [.text ("root", "network") ("smartnode", "network")] d d.moveNetwork :=
  relocated_moveText ("root", "network") ("smartnode", "network") (by decide)

theorem relocated_renameClients : Relocated clientMoves d d.renameClients := by
  have differ : ∀ r ∈ renamedClients, ((("root", r.1) : Place) ≠ ("root", r.2)) := by decide
  have differ' : ∀ r ∈ renamedGroups, r.1 ≠ r.2 := by decide
  have texts : Relocated (renamedClients.map fun r => .text ("root", r.1) ("root", r.2)) d
      (renamedClients.foldl (fun d r => d.moveText "root" r.1 "root" r.2) d) :=
    .foldl (fun d r hr => relocated_moveText _ _ (differ r hr)) (by decide) d
  have groups (d : Document) : Relocated (renamedGroups.map fun r => .rename r.1 r.2) d
      (renamedGroups.foldl (fun d r => d.moveGroup r.1 r.2) d) :=
    .foldl (fun d r hr => relocated_moveGroup (differ' r hr)) (by decide) d
  exact texts.append (groups _) (by decide)

theorem relocated_spreadMetrics : Relocated [metricsMove] d d.spreadMetrics := by
  show Relocated [.spread "metrics" movedMetrics] d d.spreadMetrics
  cases found : d.get? "metrics" with
  | none =>
    have same : d.spreadMetrics = d := by simp [spreadMetrics, found]
    rw [same]
    exact relocated_absent rfl found
  | some table =>
    have there (id : String) : d.at? ("metrics", id) = table.get? id := by
      simp [at?, text?, found]
    have puts : d.spreadMetrics = putAll (d.erase "metrics")
        (movedMetrics.filterMap fun m => (table.get? m.1).map fun text => (m.2, text)) := by
      simp only [spreadMetrics, found, putAll, List.foldl_filterMap]
      congr 1
      funext d m
      cases table.get? m.1 <;> rfl
    rw [puts]
    refine relocated_putAll rfl (fun _ _ => not_false) ?_ ?_ ?_
    · intro p q goes
      have each : ∀ m ∈ movedMetrics, m.2.1 ≠ "metrics" := by decide
      exact each _ (Move.mem_of_lookup (Move.target?_spread.1 goes).2)
    · rintro ⟨g, id⟩ q goes
      obtain ⟨rfl, listed⟩ := Move.target?_spread.1 goes
      rw [there]
      exact find?_listed (by decide) listed table
    · intro e he
      have each : ∀ m ∈ movedMetrics, movedMetrics.lookup m.1 = some m.2 := by decide
      obtain ⟨m, hm, is⟩ := List.mem_filterMap.1 he
      obtain ⟨text, -, rfl⟩ := Option.map_eq_some_iff.1 is
      exact ⟨("metrics", m.1), Move.target?_spread.2 ⟨rfl, each m hm⟩⟩

/-! ## The upgrade -/

theorem splitFor_cases (client : Option String) :
    splitFor client = splitFor (some "prysm") ∨ splitFor client = splitFor (some "teku") ∨
      splitFor client = splitFor none := by
  unfold splitFor
  split <;> simp

/-- The moves of all layouts are apart from each other. -/
theorem pairwise_layoutMoves (client : Option String) :
    ((layoutMoves client).flatMap (·.2)).Pairwise fun a b => a.isApart b = true := by
  rcases splitFor_cases client with h | h | h <;> rw [layoutMoves, h] <;> decide

theorem pairwise_dueMoves (found : Version) (client : Option String) :
    (dueMoves found client).Pairwise fun a b => a.isApart b = true :=
  (pairwise_layoutMoves client).sublist (List.filter_sublist.flatMap _)

theorem dueMoves_eq (found : Version) (client : Option String) :
    dueMoves found client =
      (((if found.isBefore ⟨1, 1, 0⟩ then
          [.text ("root", "network") ("smartnode", "network")] else []) ++
        if found.isBefore ⟨1, 2, 0⟩ then clientMoves else []) ++
        if found.isBefore ⟨1, 4, 0⟩ then [splitFor client] else []) ++
        if found.isBefore ⟨1, 5, 0⟩ then [metricsMove] else [] := by
  have each (l : List (Version × List Move)) :
      (l.filter fun layout => found.isBefore layout.1).flatMap (·.2) =
        l.flatMap fun layout => if found.isBefore layout.1 then layout.2 else [] := by
    induction l with
    | nil => rfl
    | cons layout l ih =>
      rw [List.filter_cons, List.flatMap_cons, ← ih]
      split <;> rfl
  simp only [dueMoves, each, layoutMoves, List.flatMap_cons, List.flatMap_nil, List.append_nil,
    List.append_assoc]

theorem relocated_ite {b : Bool} {moves : List Move} (h : Relocated moves d m) :
    Relocated (if b then moves else []) d (if b then m else d) := by
  cases b with
  | true => exact h
  | false => exact .nil d

/-- The document before it is stamped. -/
def relocate (d : Document) (found : Version) : Document :=
  (steps.filter fun step => found.isBefore step.version).foldl (fun d step => step.apply d) d

/-- The client is read once the top-level texts have their present names. -/
theorem at?_externalClient {found : Version}
    (early : Relocated ((if found.isBefore ⟨1, 1, 0⟩ then
        [.text ("root", "network") ("smartnode", "network")] else []) ++
      if found.isBefore ⟨1, 2, 0⟩ then clientMoves else []) d m) :
    m.at? ("root", "externalConsensusClient") = d.externalClient found := by
  unfold externalClient
  cases old : found.isBefore ⟨1, 2, 0⟩ with
  | true =>
    rw [old] at early
    exact early.moved (.text ("root", "externalEth2Client") ("root", "externalConsensusClient"))
      (List.mem_append_right _ (by simp [clientMoves])) _ _ rfl
  | false =>
    rw [old, if_neg Bool.false_ne_true, List.append_nil] at early
    refine (early.kept _ fun move hmove touches => ?_).trans Option.or_none.symm
    obtain rfl := List.mem_singleton.1 (ite_subset hmove)
    exact absurd (Move.covers_of_touches touches) (by decide)

/-- The steps that are due make the moves that are due. -/
theorem relocated_relocate (d : Document) (found : Version) :
    Relocated (dueMoves found (d.externalClient found)) d (d.relocate found) := by
  -- The documents between the steps, whether or not a step is due.
  obtain ⟨d₁, eq₁⟩ : ∃ d₁, d₁ = if found.isBefore ⟨1, 1, 0⟩ then d.moveNetwork else d := ⟨_, rfl⟩
  obtain ⟨d₂, eq₂⟩ : ∃ d₂, d₂ = if found.isBefore ⟨1, 2, 0⟩ then d₁.renameClients else d₁ :=
    ⟨_, rfl⟩
  obtain ⟨d₃, eq₃⟩ : ∃ d₃, d₃ = if found.isBefore ⟨1, 4, 0⟩ then d₂.splitExternal else d₂ :=
    ⟨_, rfl⟩
  have all : d.relocate found = if found.isBefore ⟨1, 5, 0⟩ then d₃.spreadMetrics else d₃ := by
    rw [relocate, List.foldl_filter]
    simp only [steps, List.foldl_cons, List.foldl_nil, ← eq₁, ← eq₂, ← eq₃]
  have first := relocated_ite (b := found.isBefore ⟨1, 1, 0⟩) (relocated_moveNetwork (d := d))
  have second := relocated_ite (b := found.isBefore ⟨1, 2, 0⟩) (relocated_renameClients (d := d₁))
  have third := relocated_ite (b := found.isBefore ⟨1, 4, 0⟩) (relocated_splitExternal (d := d₂))
  have fourth := relocated_ite (b := found.isBefore ⟨1, 5, 0⟩) (relocated_spreadMetrics (d := d₃))
  rw [← eq₁] at first
  rw [← eq₂] at second
  rw [← eq₃] at third
  rw [← all] at fourth
  have apart := pairwise_dueMoves found (d.externalClient found)
  rw [dueMoves_eq] at apart ⊢
  obtain ⟨apart₃, -, last⟩ := List.pairwise_append.1 apart
  obtain ⟨apart₂, -, late⟩ := List.pairwise_append.1 apart₃
  have early := first.append second (List.pairwise_append.1 apart₂).2.2
  -- The third step looks for the client where the second one has put it.
  rw [at?_externalClient early] at third
  exact (early.append third late).append fourth last

theorem upgrade_eq_ok_iff :
    d.upgrade = .ok m ↔ ∃ found, d.version = .ok found ∧
      Version.current.isBefore found = false ∧ m = (d.relocate found).stampCurrent := by
  unfold upgrade
  rw [bind_eq_ok_iff]
  refine exists_congr fun found => and_congr_right fun _ => ?_
  cases known : Version.current.isBefore found with
  | true => simp [bind, Except.bind, throw, throwThe, MonadExceptOf.throw]
  | false => simp [pure, Except.pure, relocate, eq_comm]

/-- A document is not upgraded if its stamp is no version or a newer one than the current. -/
theorem upgrade_eq_error_iff {e : SettingError} :
    d.upgrade = .error e ↔ d.version = .error e ∨ ∃ found, d.version = .ok found ∧
      Version.current.isBefore found = true ∧
      e = .unsupportedVersion found.stamp Version.current.stamp := by
  unfold upgrade
  rw [bind_eq_error_iff]
  refine or_congr_right (exists_congr fun found => and_congr_right fun _ => ?_)
  cases known : Version.current.isBefore found with
  | true => simp [bind, Except.bind, throw, throwThe, MonadExceptOf.throw, eq_comm]
  | false => simp [pure, Except.pure]

theorem at?_stampCurrent (d : Document) (p : Place) :
    d.stampCurrent.at? p =
      if p = ("root", "version") then some Version.current.stamp else d.at? p := by
  obtain ⟨g, id⟩ := p
  unfold stampCurrent
  rw [at?_insert, Table.get?_insert]
  by_cases h : g = "root"
  · subst h
    have same : ((d.get? "root").getD ∅).get? id = d.at? ("root", id) := get?_getD d ("root", id)
    by_cases h' : id = "version"
    · simp [h']
    · simp [h', same]
  · simp [h]

theorem has_stampCurrent (d : Document) (g : String) :
    d.stampCurrent.Has g ↔ g = "root" ∨ d.Has g :=
  has_insert d "root" _ g

theorem text?_version_of_upgrade (h : d.upgrade = .ok m) :
    m.text? "root" "version" = some Version.current.stamp := by
  obtain ⟨found, -, -, rfl⟩ := upgrade_eq_ok_iff.1 h
  exact at?_stampCurrent _ ("root", "version")

theorem version_of_current (h : d.text? "root" "version" = some Version.current.stamp) :
    d.version = .ok Version.current := by
  have parsed : Version.parse Version.current.stamp = .ok Version.current := by decide +kernel
  rw [Document.version, h]
  exact parsed

/-- A document of the current layout is left as it is. -/
theorem upgrade_of_current (h : d.text? "root" "version" = some Version.current.stamp) :
    d.upgrade = .ok d := by
  have none : steps.filter (fun step => Version.current.isBefore step.version) = [] := by
    simp [steps]
    decide
  have stamped : d.stampCurrent = d := by
    unfold text? at h
    cases root : d.get? "root" with
    | none => simp [root] at h
    | some table =>
      rw [root, Option.bind_some] at h
      rw [stampCurrent, root, Option.getD_some, Table.insert_of_get? h, Table.insert_of_get? root]
  refine upgrade_eq_ok_iff.2 ⟨Version.current, version_of_current h, by decide, ?_⟩
  rw [relocate, none, List.foldl_nil, stamped]

/-- No layout moved a text from or to a place. -/
def IsFixed (p : Place) : Prop :=
  ∀ client ∈ [some "prysm", some "teku", none], ∀ move ∈ (layoutMoves client).flatMap (·.2),
    move.covers p = false

instance (p : Place) : Decidable (IsFixed p) :=
  inferInstanceAs (Decidable (∀ client ∈ [some "prysm", some "teku", none],
    ∀ move ∈ (layoutMoves client).flatMap (·.2), move.covers p = false))

theorem covers_of_isFixed {p : Place} {client : Option String} {move : Move} (fixed : IsFixed p)
    (h : move ∈ (layoutMoves client).flatMap (·.2)) : move.covers p = false := by
  obtain ⟨known, listed, same⟩ : ∃ known ∈ [some "prysm", some "teku", none],
      splitFor client = splitFor known := by
    simpa using splitFor_cases client
  rw [layoutMoves, same] at h
  exact fixed known listed move h

theorem not_touches_of_isFixed {p : Place} {found : Version} {client : Option String} {move : Move}
    (fixed : IsFixed p) (h : move ∈ dueMoves found client) : ¬ move.Touches p := by
  intro touches
  have covered := Move.covers_of_touches touches
  rw [covers_of_isFixed fixed ((List.filter_sublist.flatMap _).subset h)] at covered
  exact Bool.false_ne_true covered

/-- No move is about the stamp. -/
theorem not_touches_version {found : Version} {client : Option String} {move : Move}
    (h : move ∈ dueMoves found client) : ¬ move.Touches ("root", "version") :=
  not_touches_of_isFixed (by decide) h

/-- What stands where no layout moved anything stays there. -/
theorem at?_of_upgrade {p : Place} (fixed : IsFixed p) (other : p ≠ ("root", "version"))
    (h : d.upgrade = .ok m) : m.at? p = d.at? p := by
  obtain ⟨found, -, -, rfl⟩ := upgrade_eq_ok_iff.1 h
  rw [at?_stampCurrent, if_neg other]
  exact (relocated_relocate d found).kept p fun move due => not_touches_of_isFixed fixed due

/-- A document of a known layout is upgraded by the moves of the layouts that are newer than its
stamp. A moved text is gone from its place, and at its new place it gives way to a text that was
there. All other texts stay but for the stamp. A group is there if it was before or has a text now,
unless its texts were taken as a whole, and also if it is the new name of a group that was there. -/
theorem upgrade_relocates {found : Version} (version : d.version = .ok found)
    (known : Version.current.isBefore found = false) :
    ∃ m, d.upgrade = .ok m ∧ m.at? ("root", "version") = some "v1.5.0" ∧
      (∀ move ∈ dueMoves found (d.externalClient found),
        (∀ p, move.Takes p → m.at? p = none) ∧
        ∀ p q, move.target? p = some q → m.at? q = (d.at? q).or (d.at? p)) ∧
      (∀ p, p ≠ ("root", "version") →
        (∀ move ∈ dueMoves found (d.externalClient found), ¬ move.Touches p) →
        m.at? p = d.at? p) ∧
      ∀ group, m.Has group ↔ group = "root" ∨
        (∀ move ∈ dueMoves found (d.externalClient found), ¬ move.Removes group) ∧
        (d.Has group ∨ (∃ id, (m.at? (group, id)).isSome) ∨
          ∃ move ∈ dueMoves found (d.externalClient found),
            ∃ old, move.Renames old group ∧ d.Has old) := by
  have relocated := relocated_relocate d found
  have stamp : Version.current.stamp = "v1.5.0" := by decide +kernel
  have other {p : Place} (h : p ≠ ("root", "version")) :
      (d.relocate found).stampCurrent.at? p = (d.relocate found).at? p := by
    rw [at?_stampCurrent, if_neg h]
  have touched {p : Place} {move : Move} (hmove : move ∈ dueMoves found (d.externalClient found))
      (touches : move.Touches p) : p ≠ ("root", "version") := by
    rintro rfl
    exact not_touches_version hmove touches
  refine ⟨_, upgrade_eq_ok_iff.2 ⟨found, version, known, rfl⟩, ?_,
    fun move hmove => ⟨fun p takes => ?_, fun p q goes => ?_⟩,
    fun p notVersion away => ?_, fun group => ?_⟩
  · rw [at?_stampCurrent, if_pos rfl, stamp]
  · rw [other (touched hmove (.inl takes)), relocated.taken move hmove p takes]
  · rw [other (touched hmove (.inr ⟨p, goes⟩)), relocated.moved move hmove p q goes]
  · rw [other notVersion, relocated.kept p away]
  · rw [has_stampCurrent, relocated.groups]
    by_cases root : group = "root"
    · simp [root]
    · have same (id : String) : (d.relocate found).stampCurrent.at? (group, id) =
          (d.relocate found).at? (group, id) :=
        other fun h => root (Prod.mk.inj h).1
      simp only [same]

/-- The texts of the external client of an old document go where its client's former key says. -/
theorem upgrade_relocates_teku : ∃ d m : Document,
    d.version = .ok .unstamped ∧ Version.current.isBefore .unstamped = false ∧
    d.upgrade = .ok m ∧ m.at? ("externalTeku", "httpUrl") = some "http://cc:5052" ∧
    ∀ id, m.at? ("externalConsensus", id) = none := by
  let d : Document := .ofList
    [("root", .ofList [("externalEth2Client", "teku")]),
      ("externalConsensus", .ofList [("httpUrl", "http://cc:5052"), ("jsonRpcUrl", "http://cc")])]
  have version : d.version = .ok .unstamped := by decide +kernel
  have known : Version.current.isBefore .unstamped = false := by decide
  obtain ⟨m, upgraded, -, moves, -⟩ := upgrade_relocates version known
  have client : d.externalClient .unstamped = some "teku" := by decide +kernel
  rw [client] at moves
  have due : splitFor (some "teku") ∈ dueMoves .unstamped (some "teku") :=
    List.mem_flatMap.2 ⟨(⟨1, 4, 0⟩, [splitFor (some "teku")]),
      List.mem_filter.2 ⟨by simp [layoutMoves], by decide⟩, List.mem_singleton.2 rfl⟩
  obtain ⟨taken, moved⟩ := moves _ due
  refine ⟨d, m, version, known, upgraded, ?_, fun id => taken _ rfl⟩
  rw [moved ("externalConsensus", "httpUrl") _ rfl]
  decide +kernel

end NodeSettings.Document
