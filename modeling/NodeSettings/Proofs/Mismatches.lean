import NodeSettings.Proofs.Blanks

/-!
Clients that do not go together. Which consensus clients to choose from are told to be unfit is read
off the execution clients that are managed locally (`mem_incompatible_iff`). An unfit client that is
selected is reported where it is managed locally, and only there: one that is managed elsewhere is
known to be unfit, but that is no problem (`Reachable.reports_mismatches`).
-/

namespace NodeSettings

/-- Whether a problem is that two clients do not go together. -/
def saysMismatched (problem : String) : Bool :=
  "Selected Consensus client:\n\t".toList.isPrefixOf problem.toList

theorem saysMismatched_append (rear : String) :
    saysMismatched ("Selected Consensus client:\n\t" ++ rear) = true := by
  rw [saysMismatched, List.isPrefixOf_iff_prefix, String.toList_append]
  exact List.prefix_append _ _

/-- What starts in another way does not say so. -/
theorem not_saysMismatched_append {front : String}
    (first : (front.toList.head?.any (· ≠ 'S')) = true) (rear : String) :
    saysMismatched (front ++ rear) = false := by
  obtain ⟨x, starts, other⟩ := (Option.any_eq_true _ _).1 first
  refine Bool.eq_false_iff.2 fun mismatched => of_decide_eq_true other ?_
  rw [saysMismatched, List.isPrefixOf_iff_prefix, String.toList_append] at mismatched
  obtain ⟨t, is⟩ := mismatched
  have same := congrArg List.head? is
  rw [List.head?_append, List.head?_append, starts] at same
  exact (Option.some.inj same).symm

namespace Configuration

variable {c : Configuration} {choice : Choice} {problem : String}

/-- The setting that the consensus client is selected with. -/
def consensusSetting (c : Configuration) : String :=
  match c.consensusMode with
  | .locallyManaged => "consensusClient"
  | .externallyManaged => "externalConsensusClient"

/-- The consensus client that is selected, wherever it is managed. -/
def chosenConsensus (c : Configuration) : ConsensusClient :=
  match c.consensusMode with
  | .locallyManaged => c.consensusClient
  | .externallyManaged => c.externalConsensusClient

/-- An execution client, as its group is set up, cannot be paired with a consensus client. Where no
clients are listed it can be paired with any. -/
def Excludes (c : Configuration) (group : Group) (client : ConsensusClient) : Prop :=
  (c.profiles group).compatible ≠ [] ∧ client ∉ (c.profiles group).compatible

instance (c : Configuration) (group : Group) (client : ConsensusClient) :
    Decidable (c.Excludes group client) :=
  inferInstanceAs (Decidable (_ ∧ _))

/-- The selected consensus client is among those that are told to be unfit. -/
def IsMismatched (c : Configuration) : Prop :=
  ∃ choice ∈ c.incompatible.primary ++ c.incompatible.fallback,
    c.value? .root c.consensusSetting = some choice.value

instance (c : Configuration) : Decidable c.IsMismatched :=
  inferInstanceAs (Decidable (∃ choice ∈ _, _ = _))

/-! ## Unfit clients -/

/-- The clients to choose from. -/
def consensusChoices (c : Configuration) : List Choice :=
  ((c.find? .root c.consensusSetting).map (·.choices)).getD []

/-- A choice names a client that the execution client of a group, if there is one, excludes. -/
def isUnfit (c : Configuration) (group : Option Group) (choice : Choice) : Bool :=
  (choice.value.named? : Option ConsensusClient).any fun client =>
    group.any fun g => c.Excludes g client

theorem isUnfit_iff {group : Option Group} : c.isUnfit group choice = true ↔
    ∃ client, choice.value.named? = some client ∧ ∃ g, group = some g ∧ c.Excludes g client := by
  simp [isUnfit, Option.any_eq_true]

/-- The clients that go with the execution client of a group; none listed means any. -/
def listed (c : Configuration) (group : Option Group) : List ConsensusClient :=
  (group.map fun g => (c.profiles g).compatible).getD []

theorem isUnfit_eq (c : Configuration) (group : Option Group) :
    c.isUnfit group = fun choice => (choice.value.named? : Option ConsensusClient).any fun client =>
      !(c.listed group).isEmpty && !(c.listed group).contains client := by
  funext choice
  cases group with
  | none => cases h : (choice.value.named? : Option ConsensusClient) <;> simp [isUnfit, listed, h]
  | some g =>
    refine congrArg (Option.any · _) (funext fun client => ?_)
    rw [Bool.eq_iff_iff, Option.any_some, decide_eq_true_iff]
    simp [Excludes, listed]

/-- What the primary execution client excludes is told apart from what the fallback does. -/
theorem incompatible_eq (native : c.isNative = false) :
    c.incompatible =
      ⟨c.consensusChoices.filter (c.isUnfit c.executionGroup?),
        (c.consensusChoices.filter fun choice => !c.isUnfit c.executionGroup? choice).filter
          (c.isUnfit c.fallbackGroup?)⟩ := by
  have execution : c.executionGroup? =
      if c.executionMode = .locallyManaged then some c.executionClient.group else none := by
    cases mode : c.executionMode <;> simp [executionGroup?, native, mode]
  rw [isUnfit_eq, isUnfit_eq, execution]
  unfold incompatible
  simp only [List.partition_eq_filter_filter]
  cases c.executionMode with
  | locallyManaged => cases c.fallbackGroup? <;> rfl
  | externallyManaged => cases c.fallbackGroup? <;> rfl

theorem mem_incompatible_iff (native : c.isNative = false) :
    choice ∈ c.incompatible.primary ++ c.incompatible.fallback ↔
      choice ∈ c.consensusChoices ∧ ∃ client, choice.value.named? = some client ∧
        ∃ g, (c.executionGroup? = some g ∨ c.fallbackGroup? = some g) ∧ c.Excludes g client := by
  have either : choice ∈ c.incompatible.primary ++ c.incompatible.fallback ↔
      choice ∈ c.consensusChoices ∧
        (c.isUnfit c.executionGroup? choice = true ∨ c.isUnfit c.fallbackGroup? choice = true) := by
    rw [incompatible_eq native]
    cases h : c.isUnfit c.executionGroup? choice <;> simp [h]
  rw [either, isUnfit_iff, isUnfit_iff]
  refine and_congr_right fun _ => ⟨?_, ?_⟩
  · rintro (⟨client, named, g, is, excludes⟩ | ⟨client, named, g, is, excludes⟩)
    · exact ⟨client, named, g, .inl is, excludes⟩
    · exact ⟨client, named, g, .inr is, excludes⟩
  · rintro ⟨client, named, g, is | is, excludes⟩
    · exact .inl ⟨client, named, g, is, excludes⟩
    · exact .inr ⟨client, named, g, is, excludes⟩

/-! ## The selected client -/

theorem Reachable.names_chosenConsensus (h : c.Reachable Edit.LeavesChoices) :
    c.Names .root c.consensusSetting c.chosenConsensus := by
  unfold consensusSetting chosenConsensus
  cases c.consensusMode with
  | locallyManaged => exact h.reads.consensusClient
  | externallyManaged => exact h.reads.externalConsensusClient

/-- The setting holds the selected client, which is one to choose from. -/
theorem Reachable.chosenConsensus_offered (h : c.Reachable Edit.LeavesChoices) :
    c.value? .root c.consensusSetting = some (.ofNamed c.chosenConsensus) ∧
      ∃ choice ∈ c.consensusChoices, choice.value = .ofNamed c.chosenConsensus := by
  obtain ⟨d, declared, id, kind⟩ : ∃ d ∈ Catalog.declarations "" .root,
      d.id = c.consensusSetting ∧ d.kind = .choice := by
    unfold consensusSetting
    cases c.consensusMode <;> decide
  obtain ⟨p, found, same⟩ := h.exists_undefaulted declared
  obtain ⟨s, value, stored⟩ := value?_choice h .root declared kind
  rw [id] at found value stored
  have key : (Group.root, c.consensusSetting) ∈ Catalog.keys :=
    (mem_keys_iff h.outline_eq).2 ⟨p, List.mem_of_find?_eq_some found, (mem_of_find? found).2⟩
  have name : s = Named.name c.chosenConsensus := by
    rw [stored_eq_text h.outline_eq key, h.names_chosenConsensus.1] at stored
    exact (Option.some.inj stored).symm
  subst name
  have valid := (h.mono fun _ => Edit.KeepsChoices.of_leavesChoices).isValid _
    (mem_of_find? found).1
  obtain ⟨choice, offered, holds⟩ := valid.choice ((congrArg (·.kind) same).trans kind)
  refine ⟨value, choice, ?_, ?_⟩
  · rw [consensusChoices, found]
    exact offered
  · rw [value?, found] at value
    exact holds.trans (Option.some.inj value)

/-- The selected client is told to be unfit if an execution client that is managed locally, as the
primary one or to fall back on, excludes it. -/
theorem Reachable.isMismatched_iff (h : c.Reachable Edit.LeavesChoices)
    (native : c.isNative = false) : c.IsMismatched ↔
      ∃ g, (c.executionGroup? = some g ∨ c.fallbackGroup? = some g) ∧
        c.Excludes g c.chosenConsensus := by
  obtain ⟨value, choice, offered, holds⟩ := h.chosenConsensus_offered
  have named : (Value.ofNamed c.chosenConsensus).named? = some c.chosenConsensus :=
    ConsensusClient.find?_name _
  unfold IsMismatched
  constructor
  · rintro ⟨choice, unfit, same⟩
    obtain ⟨-, client, is, g, selected, excludes⟩ := (mem_incompatible_iff native).1 unfit
    rw [value, Option.some.injEq] at same
    rw [← same, named, Option.some.injEq] at is
    exact ⟨g, selected, is ▸ excludes⟩
  · rintro ⟨g, selected, excludes⟩
    have unfit := (mem_incompatible_iff native).2
      ⟨offered, c.chosenConsensus, holds ▸ named, g, selected, excludes⟩
    exact ⟨choice, unfit, value.trans (congrArg some holds.symm)⟩

/-! ## What is reported -/

/-- Where the consensus client is managed locally its unfitness is a problem. -/
theorem Reachable.pairingProblems_eq_nil_iff (h : c.Reachable Edit.LeavesChoices)
    (native : c.isNative = false) (managed : c.consensusMode = .locallyManaged) :
    c.pairingProblems = [] ↔ ¬ c.IsMismatched := by
  have value := h.chosenConsensus_offered.1
  have chosen : c.chosenConsensus = c.consensusClient := by
    rw [chosenConsensus, managed]
  -- The selected client is looked for by its name.
  have selected (choice : Choice) : choice.value.agrees (.ofNamed c.consensusClient) = true ↔
      c.value? .root c.consensusSetting = some choice.value := by
    rw [value, chosen, Option.some.injEq, @eq_comm _ (Value.ofNamed _)]
    exact Value.agrees_choice
  have none_found {list : List Choice} {p : Choice → Bool} {told : Choice → String} :
      ((list.find? p).map told).toList = [] ↔ ∀ choice ∈ list, ¬ p choice = true := by
    simp
  unfold pairingProblems
  rw [if_pos (by simp [native, managed])]
  simp only [IsMismatched, ← selected, List.append_eq_nil_iff, none_found, List.mem_append,
    not_exists, not_and, or_imp, forall_and]

theorem pairingProblems_of_external (managed : c.consensusMode = .externallyManaged) :
    c.pairingProblems = [] := by
  unfold pairingProblems
  simp [managed]

theorem saysMismatched_of_pairing (reads : c.Reads) (hp : problem ∈ c.pairingProblems) :
    saysMismatched problem = true := by
  obtain ⟨name, which, client, rfl⟩ := exists_of_mem_pairingProblems reads hp
  simp only [String.append_assoc]
  exact saysMismatched_append _

/-- A problem of the delay starts with the setting of that. -/
theorem not_saysMismatched_of_delay (hp : problem ∈ c.delayProblems) :
    saysMismatched problem = false := by
  have starts (id : String) (rule : Violation) :
      (SettingError.violation id rule).message =
        "parameter [" ++ (id ++ ("]: " ++ rule.message)) := by
    show "parameter [" ++ id ++ "]: " ++ rule.message = _
    rw [String.append_assoc, String.append_assoc]
  obtain ⟨raw, rfl⟩ := exists_of_mem_delayProblems hp
  rw [starts]
  exact not_saysMismatched_append (by decide) _

theorem not_saysMismatched_blankReport (group : Group) (name : String) :
    saysMismatched (group.blankReport name) = false := by
  have starts : ∃ rear, group.blankReport name = "[" ++ rear := by
    cases group with
    | root => exact ⟨_, String.append_assoc⟩
    | _ => exact ⟨_, by simp [Group.blankReport, String.append_assoc]; rfl⟩
  obtain ⟨rear, is⟩ := starts
  rw [is]
  exact not_saysMismatched_append (by decide) rear

/-- The problems that two clients do not go together are those of the pairing. -/
theorem Reachable.filter_saysMismatched (h : c.Reachable Edit.LeavesChoices) :
    c.problems.filter saysMismatched = c.pairingProblems := by
  have pairing : c.pairingProblems.filter saysMismatched = c.pairingProblems :=
    List.filter_eq_self.2 fun _ hp => saysMismatched_of_pairing h.reads hp
  have delay : c.delayProblems.filter saysMismatched = [] :=
    List.filter_eq_nil_iff.2 fun _ hp => by simp [not_saysMismatched_of_delay hp]
  have blank : c.blankProblems.filter saysMismatched = [] := by
    refine List.filter_eq_nil_iff.2 fun problem hp => ?_
    rw [h.blankProblems_eq] at hp
    obtain ⟨g, -, hp⟩ := List.mem_flatMap.1 hp
    obtain ⟨p, -, rfl⟩ := List.mem_map.1 hp
    simp [not_saysMismatched_blankReport]
  rw [problems, List.filter_append, List.filter_append, pairing, delay, blank, List.append_nil,
    List.append_nil]

/-- A consensus client that is managed locally is a problem just where it is told to be unfit, by
the primary execution client or by the fallback. One that is managed elsewhere never is, though it
may be told to be unfit as well. Unfit is what an execution client in use, which lists some clients,
does not list. -/
theorem Reachable.reports_mismatches (h : c.Reachable Edit.LeavesChoices)
    (native : c.isNative = false) :
    (c.consensusMode = .locallyManaged →
      ((∃ problem ∈ c.problems, saysMismatched problem = true) ↔ c.IsMismatched)) ∧
    (c.consensusMode = .externallyManaged →
      ∀ problem ∈ c.problems, saysMismatched problem = false) ∧
    (c.IsMismatched ↔ ∃ g, (c.executionGroup? = some g ∨ c.fallbackGroup? = some g) ∧
      c.Excludes g c.chosenConsensus) := by
  have told : (∃ problem ∈ c.problems, saysMismatched problem = true) ↔
      c.pairingProblems ≠ [] := by
    rw [← h.filter_saysMismatched]
    simp only [ne_eq, List.filter_eq_nil_iff, not_forall, not_not, exists_prop]
  refine ⟨fun managed => ?_, fun managed problem hp => ?_, h.isMismatched_iff native⟩
  · rw [told, ne_eq, h.pairingProblems_eq_nil_iff native managed, not_not]
  · refine Bool.eq_false_iff.2 fun mismatched => ?_
    exact told.1 ⟨problem, hp, mismatched⟩ (pairingProblems_of_external managed)

/-- Geth is set up for two clients, and Nimbus is selected beside it. -/
theorem reports_mismatches_geth : ∃ c : Configuration, c.Reachable Edit.LeavesChoices ∧
    c.isNative = false ∧ c.Excludes .geth .nimbus ∧ c.IsMismatched ∧
    ∃ problem ∈ c.problems, saysMismatched problem = true := by
  obtain ⟨c, reached, native, managed, execution, client, excludes⟩ :=
    exists_reachable Edit.LeavesChoices "/srv/node" false
      (fun _ h => h.edit (e := .profile .geth ⟨[.lighthouse, .teku], 25000⟩) trivial)
      (P := fun c => c.isNative = false ∧ c.consensusMode = .locallyManaged ∧
        c.executionGroup? = some .geth ∧ c.chosenConsensus = .nimbus ∧ c.Excludes .geth .nimbus)
      (by decide +kernel)
  obtain ⟨reported, -, unfit⟩ := reached.reports_mismatches native
  have mismatched := unfit.2 ⟨.geth, .inl execution, client ▸ excludes⟩
  exact ⟨c, reached, native, excludes, mismatched, (reported managed).2 mismatched⟩

/-- Geth is set up for Teku, and Lighthouse runs elsewhere: it is told to be unfit, and nothing is
reported. -/
theorem exists_unreported_mismatch : ∃ c : Configuration, c.Reachable Edit.LeavesChoices ∧
    c.isNative = false ∧ c.consensusMode = .externallyManaged ∧ c.IsMismatched ∧
    c.problems = [] :=
  exists_reachable Edit.LeavesChoices "/srv/node" false
    (fun _ h => (h.edit (e := .profile .geth ⟨[.teku], 25000⟩) trivial).operations
      [.assignText .root "consensusClientMode" "external",
        .assignText .externalLighthouse "httpUrl" "http://192.168.1.20:5052"])
    (by decide +kernel)

end Configuration
end NodeSettings
