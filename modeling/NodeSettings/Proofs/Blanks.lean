import NodeSettings.Proofs.Selections

/-!
Blank settings, which are reported exactly: one problem for each required setting in use that is
empty, in the order of the groups, and no other problem says so (`Reachable.reports_blanks`). The
settings that a client ignores are no texts, so that none of them hides a blank one.
-/

namespace NodeSettings

/-- A setting that must hold some text. -/
def Declaration.IsRequired (d : Declaration) : Prop := d.kind = .string ∧ d.canBeBlank = false

instance (d : Declaration) : Decidable d.IsRequired :=
  inferInstanceAs (Decidable (d.kind = .string ∧ d.canBeBlank = false))

/-- What is reported of a blank setting. -/
def Group.blankReport (group : Group) (name : String) : String :=
  match group with
  | root => "[" ++ name ++ "] cannot be blank."
  | _ => "[" ++ group.title ++ " - " ++ name ++ "] cannot be blank."

/-- Whether a problem is that something is blank. -/
def saysBlank (problem : String) : Bool := " cannot be blank.".toList.isSuffixOf problem.toList

theorem Group.blankReport_of_ne {group : Group} (other : group ≠ .root) (name : String) :
    group.blankReport name = "[" ++ group.title ++ " - " ++ name ++ "] cannot be blank." := by
  cases group with
  | root => exact absurd rfl other
  | _ => rfl

theorem saysBlank_blankReport (group : Group) (name : String) :
    saysBlank (group.blankReport name) = true := by
  have ends : ∃ front, group.blankReport name = front ++ "] cannot be blank." := by
    cases group <;> exact ⟨_, rfl⟩
  obtain ⟨front, is⟩ := ends
  rw [is, saysBlank, List.isSuffixOf_iff_suffix, String.toList_append]
  exact List.IsSuffix.trans (by decide) (List.suffix_append _ _)

/-- What ends without a full stop does not say so. -/
theorem not_saysBlank_append {rear : String} (last : (rear.toList.getLast?.any (· ≠ '.')) = true)
    (front : String) : saysBlank (front ++ rear) = false := by
  obtain ⟨x, ends, other⟩ := (Option.any_eq_true _ _).1 last
  refine Bool.eq_false_iff.2 fun blank => of_decide_eq_true other ?_
  rw [saysBlank, List.isSuffixOf_iff_suffix, String.toList_append] at blank
  obtain ⟨t, is⟩ := blank
  have same := congrArg List.getLast? is
  rw [List.getLast?_append, List.getLast?_append, ends] at same
  exact (Option.some.inj same).symm

namespace Catalog

/-- The only port that a client ignores is no text. -/
theorem not_isRequired_wsPort {group : Group} :
    ∀ d ∈ declarations "" group, d.id = "wsPort" → ¬ d.IsRequired := by
  cases group <;> decide

end Catalog

namespace Configuration

variable {c : Configuration} {group : Group} {p : Parameter} {problem : String}
  {permitted : Edit → Prop}

theorem ignored_subset (c : Configuration) (group : Group) : c.ignored group ⊆ ["wsPort"] := by
  have own (o : Option Group) : (o.map ignoredBy).getD [] ⊆ ["wsPort"] := by
    cases o with
    | none => exact List.nil_subset _
    | some g =>
      show ignoredBy g ⊆ _
      unfold ignoredBy
      split
      · exact List.Subset.refl _
      · exact List.nil_subset _
  unfold ignored
  split
  · exact own _
  · exact own _
  · exact List.nil_subset _
  · exact List.nil_subset _

theorem root_not_mem_activeGroups (c : Configuration) : Group.root ∉ c.activeGroups := by
  have none : c.activeGroups.filter (· ∈ [Group.root]) = [] := by
    cases native : c.isNative with
    | true => exact filter_activeGroups_of_native native (by decide)
    | false =>
      rw [filter_activeGroups native (by decide),
        filter_eq_nil c.executionGroups_subset (by decide),
        filter_eq_nil c.fallbackGroups_subset (by decide),
        filter_eq_nil c.consensusGroups_subset (by decide)]
      rfl
  intro here
  exact absurd (List.mem_filter.2 ⟨here, by decide⟩) (none ▸ List.not_mem_nil)

/-- The required settings of a group that are empty, in display order. -/
def blanks (c : Configuration) (group : Group) : List Parameter :=
  (c.parameters group).filter fun p => p.IsRequired ∧ p.text = ""

theorem lacksText_eq (kind : p.value.kind = p.kind) :
    lacksText p = decide (p.IsRequired ∧ p.text = "") := by
  rw [lacksText, isBlank_eq kind, Bool.eq_iff_iff, decide_eq_true_iff, Declaration.IsRequired]
  simp only [Bool.and_eq_true, beq_iff_eq, Bool.not_eq_true']
  exact and_right_comm

/-- No setting that is ignored is missing among the blank ones. -/
theorem Reachable.filter_lacksText (h : c.Reachable permitted) (group : Group)
    {ignored : List String} (few : ignored ⊆ ["wsPort"]) :
    ((c.parameters group).filter fun p => lacksText p && !ignored.contains p.id) =
      c.blanks group := by
  refine List.filter_congr fun p hp => ?_
  rw [lacksText_eq (h.kind_eq (mem_parameters.1 hp))]
  by_cases blank : p.IsRequired ∧ p.text = ""
  · obtain ⟨d, declared, same⟩ := exists_declared h.outline_eq hp
    have id : d.id = p.id := congrArg (·.id) same
    have kind : d.kind = p.kind := congrArg (·.kind) same
    have canBeBlank : d.canBeBlank = p.canBeBlank := congrArg (·.canBeBlank) same
    have heeded : p.id ∉ ignored := fun here =>
      Catalog.not_isRequired_wsPort d declared (id.trans (List.mem_singleton.1 (few here)))
        ⟨kind.trans blank.1.1, canBeBlank.trans blank.1.2⟩
    simp [blank, heeded]
  · simp [blank]

theorem Reachable.blankProblems_eq (h : c.Reachable permitted) :
    c.blankProblems =
      (Group.root :: c.activeGroups).flatMap fun g => (c.blanks g).map (g.blankReport ·.name) := by
  rw [List.flatMap_cons]
  refine congrArg₂ (· ++ ·) ?_ (List.flatMap_congr fun g hg => ?_)
  · rw [← h.filter_lacksText .root (List.nil_subset _)]
    simp [Group.blankReport]
  · have other : g ≠ .root := fun root => c.root_not_mem_activeGroups (root ▸ hg)
    rw [h.filter_lacksText g (c.ignored_subset g)]
    exact List.map_congr_left fun p _ => (Group.blankReport_of_ne other p.name).symm

/-! ## The other problems -/

/-- A problem of the pairing starts in one way, and ends with the name of a client. -/
theorem exists_of_mem_pairingProblems (reads : c.Reads) (hp : problem ∈ c.pairingProblems) :
    ∃ name which, ∃ client : ExecutionClient, problem = "Selected Consensus client:\n\t" ++ name ++
      "\nis not compatible with selected " ++ which ++ ":\n\t" ++ Named.name client := by
  unfold pairingProblems at hp
  split at hp
  · rcases List.mem_append.1 hp with hp | hp
    · obtain ⟨choice, -, rfl⟩ := Option.map_eq_some_iff.1 (Option.mem_toList.1 hp)
      exact ⟨_, _, c.executionClient, by rw [← reads.executionClient.1]; rfl⟩
    · obtain ⟨choice, -, rfl⟩ := Option.map_eq_some_iff.1 (Option.mem_toList.1 hp)
      exact ⟨_, _, c.fallbackClient, by rw [← reads.fallbackClient.1]; rfl⟩
  · cases hp

/-- The only problem of the delay is a text that is none. -/
theorem exists_of_mem_delayProblems (hp : problem ∈ c.delayProblems) :
    ∃ raw, problem = (SettingError.violation "reconnectDelay" (.badDuration raw)).message := by
  unfold delayProblems at hp
  split at hp
  · split at hp
    · cases hp
    · next e failed =>
      unfold reconnectDelay at failed
      simp only at failed
      split at failed
      · cases failed
      · obtain rfl := Except.error.inj failed
        exact ⟨_, List.mem_singleton.1 hp⟩
  · cases hp

theorem not_saysBlank_of_pairing (reads : c.Reads) (hp : problem ∈ c.pairingProblems) :
    saysBlank problem = false := by
  have named (client : ExecutionClient) :
      ((Named.name client).toList.getLast?.any (· ≠ '.')) = true := by
    cases client <;> decide
  obtain ⟨_, _, client, rfl⟩ := exists_of_mem_pairingProblems reads hp
  exact not_saysBlank_append (named client) _

/-- A problem of the delay ends with what a delay is. -/
theorem not_saysBlank_of_delay (hp : problem ∈ c.delayProblems) : saysBlank problem = false := by
  obtain ⟨raw, rfl⟩ := exists_of_mem_delayProblems hp
  have ends : ∃ front, (SettingError.violation "reconnectDelay" (.badDuration raw)).message =
      front ++ " is not a valid duration" := ⟨_, String.append_assoc.symm⟩
  obtain ⟨front, is⟩ := ends
  rw [is]
  exact not_saysBlank_append (by decide) front

/-- What is reported as blank is each required setting in use that is empty, once and in order: the
top-level ones first, then those of each group in use. So where there is no problem at all, every
required setting in use is shown with some text. -/
theorem Reachable.reports_blanks (h : c.Reachable Edit.LeavesChoices) :
    c.problems.filter saysBlank =
      (Group.root :: c.activeGroups).flatMap (fun g => (c.blanks g).map (g.blankReport ·.name)) ∧
    (c.problems = [] → ∀ g ∈ Group.root :: c.activeGroups, ∀ p ∈ c.parameters g, p.IsRequired →
      ∀ name ∈ p.shownAs, ∃ text, c.environment.get? name = some text ∧ text ≠ "") := by
  constructor
  · have pairing : c.pairingProblems.filter saysBlank = [] :=
      List.filter_eq_nil_iff.2 fun _ hp => by simp [not_saysBlank_of_pairing h.reads hp]
    have delay : c.delayProblems.filter saysBlank = [] :=
      List.filter_eq_nil_iff.2 fun _ hp => by simp [not_saysBlank_of_delay hp]
    have blank : c.blankProblems.filter saysBlank = c.blankProblems := by
      refine List.filter_eq_self.2 fun problem hp => ?_
      rw [h.blankProblems_eq] at hp
      obtain ⟨g, -, hp⟩ := List.mem_flatMap.1 hp
      obtain ⟨p, -, rfl⟩ := List.mem_map.1 hp
      exact saysBlank_blankReport g p.name
    rw [problems, List.filter_append, List.filter_append, pairing, delay, blank, List.nil_append,
      List.nil_append, h.blankProblems_eq]
  · intro none g hg p hp required name shown
    refine ⟨p.text, get?_environment_of_mem h.outline_eq hg hp shown, fun empty => ?_⟩
    have blank : p ∈ c.blanks g := List.mem_filter.2 ⟨hp, by simp [required, empty]⟩
    have reported : g.blankReport p.name ∈ c.problems := by
      refine List.mem_append_right _ ?_
      rw [h.blankProblems_eq]
      exact List.mem_flatMap.2 ⟨g, hg, List.mem_map_of_mem blank⟩
    exact List.not_mem_nil (none ▸ reported)

/-- Infura needs a project. Once it has one, it is shown. -/
theorem reports_blanks_infura : ∃ c c' : Configuration, c.Reachable Edit.LeavesChoices ∧
    c'.Reachable Edit.LeavesChoices ∧
    c.problems.filter saysBlank = ["[Infura Settings - Project ID] cannot be blank."] ∧
    c'.problems = [] ∧
    ∃ text, c'.environment.get? "INFURA_PROJECT_ID" = some text ∧ text ≠ "" := by
  let project : Operation :=
    .assignText .infura "projectID" "0123456789abcdef0123456789abcdef"
  obtain ⟨c, reached, blanks, none, active, required⟩ :=
    exists_reachable Edit.LeavesChoices "/srv/node" false
      (fun _ h => .operation (.assignText .root "executionClient" "infura") h)
      (P := fun c => (Group.root :: c.activeGroups).flatMap
          (fun g => (c.blanks g).map (g.blankReport ·.name)) =
            ["[Infura Settings - Project ID] cannot be blank."] ∧
        (c.after project).problems = [] ∧ .infura ∈ (c.after project).activeGroups ∧
        ∃ p ∈ (c.after project).parameters .infura, p.IsRequired ∧ "INFURA_PROJECT_ID" ∈ p.shownAs)
      (by decide +kernel)
  obtain ⟨p, hp, required, shown⟩ := required
  have reached' := reached.operation project
  exact ⟨c, c.after project, reached, reached', reached.reports_blanks.1.trans blanks, none,
    reached'.reports_blanks.2 none .infura (List.mem_cons_of_mem _ active) p hp required _ shown⟩

end Configuration
end NodeSettings
