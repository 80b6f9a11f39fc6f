import NodeSettings.Proofs.FileUpgrade
import NodeSettings.Proofs.Stamps

/-!
Which documents are upgraded, and what a second upgrade does to them. The stamp alone decides
whether a document is accepted (`Document.Bears`, `Document.Refuses`). An upgrade changes every
document but those with the very stamp of the current layout. What it makes of the texts depends on
the stamp only through the layouts that are newer: `Document.at?_upgrade_congr`.
-/

namespace NodeSettings

namespace SettingsFile

variable {system : FileSystem} {t : FileTree} {path : String}

/-- An upgrade finds a file current if nothing is due for it. -/
theorem exists_upgrade_false_iff :
    (∃ u, upgrade system t path = .ok (u, false)) ↔ due system t path = .ok none := by
  constructor
  · rintro ⟨u, h⟩
    have ends := ends_upgrade system t path
    rw [h] at ends
    cases ends with
    | current none => exact none
  · intro none
    exact ⟨t, upgrade_of_due_none none⟩

end SettingsFile

namespace Document

open Version (Stamps parse_eq_ok_iff parse_eq_error_iff)

variable {d d' m m' : Document} {v w : Version} {e : SettingError}

/-- The version of a document: what its stamp says, or `0.0.0` without one. -/
def Bears (d : Document) (v : Version) : Prop :=
  (d.at? ("root", "version") = none ∧ v = ⟨0, 0, 0⟩) ∨
    ∃ stamp, d.at? ("root", "version") = some stamp ∧ Stamps stamp v

/-- Why a stamp is refused: it is none, or one of a layout to come. -/
inductive Refuses (stamp : String) : SettingError → Prop
  | malformed : (∀ v, ¬ Stamps stamp v) → Refuses stamp (.invalidVersion stamp)
  | newer {v : Version} : Stamps stamp v → [1, 5, 0] < v.numbers →
      Refuses stamp (.unsupportedVersion v.stamp "v1.5.0")

/-! ## Stamps -/

theorem version_eq_ok_iff : d.version = .ok v ↔ d.Bears v := by
  unfold version Bears at?
  cases d.text? "root" "version" with
  | none => simp [Version.unstamped, eq_comm]
  | some stamp => simp [parse_eq_ok_iff]

theorem version_eq_error_iff : d.version = .error e ↔ ∃ stamp,
    d.at? ("root", "version") = some stamp ∧ (∀ v, ¬ Stamps stamp v) ∧
      e = .invalidVersion stamp := by
  unfold version at?
  cases d.text? "root" "version" with
  | none => simp
  | some stamp => simp [parse_eq_error_iff]

/-- The current layout is not before a version. -/
theorem not_newer_iff : Version.current.isBefore v = false ↔ ¬ [1, 5, 0] < v.numbers := by
  rw [← Bool.not_eq_true, Version.isBefore_iff]
  rfl

theorem current_stamp : Version.current.stamp = "v1.5.0" := by decide +kernel

theorem refused_iff : d.upgrade = .error e ↔
    ∃ stamp, d.at? ("root", "version") = some stamp ∧ Refuses stamp e := by
  rw [upgrade_eq_error_iff, version_eq_error_iff]
  constructor
  · rintro (⟨stamp, there, malformed, rfl⟩ | ⟨v, version, newer, rfl⟩)
    · exact ⟨stamp, there, .malformed malformed⟩
    · have newer : [1, 5, 0] < v.numbers := Version.isBefore_iff.1 newer
      obtain ⟨-, rfl⟩ | ⟨stamp, there, stamps⟩ := version_eq_ok_iff.1 version
      · exact absurd newer (by decide)
      · exact ⟨stamp, there, current_stamp ▸ .newer stamps newer⟩
  · rintro ⟨stamp, there, malformed | ⟨stamps, newer⟩⟩
    · exact .inl ⟨stamp, there, malformed, rfl⟩
    · refine .inr ⟨_, version_eq_ok_iff.2 (.inr ⟨stamp, there, stamps⟩),
        Version.isBefore_iff.2 newer, ?_⟩
      rw [current_stamp]

theorem accepted_iff :
    (∃ m, d.upgrade = .ok m) ↔ ∃ v, d.Bears v ∧ ¬ [1, 5, 0] < v.numbers := by
  constructor
  · rintro ⟨m, h⟩
    obtain ⟨v, version, known, -⟩ := upgrade_eq_ok_iff.1 h
    exact ⟨v, version_eq_ok_iff.1 version, not_newer_iff.1 known⟩
  · rintro ⟨v, bears, known⟩
    exact ⟨_, upgrade_eq_ok_iff.2 ⟨v, version_eq_ok_iff.2 bears, not_newer_iff.2 known, rfl⟩⟩

/-! ## The upgrade in place -/

/-- Steps that are taken one after the other. -/
theorem run_forM (l : List Step) (d : Document) :
    (l.forM fun step => modify step.apply : EStateM SettingError Document Unit).run d =
      .ok () (l.foldl (fun d step => step.apply d) d) := by
  induction l generalizing d with
  | nil => rfl
  | cons step l ih => exact ih (step.apply d)

theorem run_upgradeInPlace (d : Document) :
    upgradeInPlace.run d =
      match d.upgrade with
      | .ok m => .ok () m
      | .error e => .error e d := by
  unfold upgradeInPlace
  rw [EStateM.run_bind, EStateM.run_get]
  cases version : d.version with
  | error e =>
    rw [upgrade_eq_error_iff.2 (.inl version)]
    simp only [version]
    rfl
  | ok v =>
    simp only [version]
    show EStateM.run (if Version.current.isBefore v then _ else _) d = _
    cases known : Version.current.isBefore v with
    | true => rw [upgrade_eq_error_iff.2 (.inr ⟨v, version, known, rfl⟩)]; rfl
    | false =>
      rw [upgrade_eq_ok_iff.2 ⟨v, version, known, rfl⟩]
      show EStateM.run (_ >>= fun _ => _) d = _
      rw [EStateM.run_bind, run_forM]
      rfl

theorem run_eq_ok_iff : upgradeInPlace.run d = .ok () m ↔ d.upgrade = .ok m := by
  rw [run_upgradeInPlace]
  cases d.upgrade <;> simp

theorem run_eq_error_iff : upgradeInPlace.run d = .error e m ↔ m = d ∧ d.upgrade = .error e := by
  rw [run_upgradeInPlace]
  cases d.upgrade <;> simp [eq_comm, and_comm]

/-! ## Upgrades of upgraded documents -/

/-- An upgrade changes nothing only where the very stamp of the current layout stands. -/
theorem upgrade_eq_self_iff :
    d.upgrade = .ok d ↔ d.at? ("root", "version") = some Version.current.stamp :=
  ⟨text?_version_of_upgrade, upgrade_of_current⟩

/-! ## Documents that differ in their stamps -/

/-- The layouts that moved texts. -/
def targets : List (List Nat) := [[1, 1, 0], [1, 2, 0], [1, 4, 0], [1, 5, 0]]

theorem numbers_layoutMoves (client : Option String) :
    (layoutMoves client).map (fun layout => layout.1.numbers) = targets :=
  rfl

section Alike

variable (alike : ∀ target ∈ targets, v.numbers < target ↔ w.numbers < target)

include alike

theorem isBefore_congr {u : Version} (among : u.numbers ∈ targets) :
    v.isBefore u = w.isBefore u := by
  rw [Bool.eq_iff_iff, Version.isBefore_iff, Version.isBefore_iff]
  exact alike u.numbers among

theorem dueMoves_congr (client : Option String) : dueMoves v client = dueMoves w client := by
  have same : ∀ layout ∈ layoutMoves client, v.isBefore layout.1 = w.isBefore layout.1 := by
    intro layout among
    refine isBefore_congr alike ?_
    rw [← numbers_layoutMoves client]
    exact List.mem_map_of_mem among
  rw [dueMoves, dueMoves, List.filter_congr same]

theorem externalClient_congr (off : ∀ p ≠ ("root", "version"), d.at? p = d'.at? p) :
    d.externalClient v = d'.externalClient w := by
  unfold externalClient
  rw [off ("root", "externalConsensusClient") (by decide), off ("root", "externalEth2Client")
    (by decide), isBefore_congr alike (u := ⟨1, 2, 0⟩) (by decide)]

/-- Of the stamp it only matters which layouts it is older than. -/
theorem at?_upgrade_congr (off : ∀ p ≠ ("root", "version"), d.at? p = d'.at? p)
    (bears : d.Bears v) (bears' : d'.Bears w) (h : d.upgrade = .ok m) (h' : d'.upgrade = .ok m')
    (p : Place) : m.at? p = m'.at? p := by
  obtain ⟨_, version, -, rfl⟩ := upgrade_eq_ok_iff.1 h
  obtain ⟨_, version', -, rfl⟩ := upgrade_eq_ok_iff.1 h'
  cases version.symm.trans (version_eq_ok_iff.2 bears)
  cases version'.symm.trans (version_eq_ok_iff.2 bears')
  rw [at?_stampCurrent, at?_stampCurrent]
  split
  · rfl
  · next other =>
    have relocated := relocated_relocate d v
    have relocated' := relocated_relocate d' w
    rw [externalClient_congr alike off, dueMoves_congr alike] at relocated
    exact relocated.at?_congr relocated' (fun move hmove => not_touches_version hmove) off p other

end Alike

/-- Which documents are upgraded, and what stays of the others. A document is refused for its stamp
only, and then it is left as it was; an accepted one bears the stamp of the current layout
afterwards. A second upgrade changes nothing, and a first one changes nothing exactly where the
current stamp stands, which are the documents whose files are found current. Accepted documents that
differ in their stamps only, both of them older than the same layouts, have the same texts
afterwards. -/
theorem upgrade_accepts (d : Document) :
    (∀ m, upgradeInPlace.run d = .ok () m ↔ d.upgrade = .ok m) ∧
    (∀ e m, upgradeInPlace.run d = .error e m ↔ m = d ∧
      ∃ stamp, d.at? ("root", "version") = some stamp ∧ Refuses stamp e) ∧
    ((∃ m, d.upgrade = .ok m) ↔ ∃ v, d.Bears v ∧ ¬ [1, 5, 0] < v.numbers) ∧
    (∀ m, d.upgrade = .ok m → m.at? ("root", "version") = some "v1.5.0" ∧ m.upgrade = .ok m) ∧
    (d.upgrade = .ok d ↔ d.at? ("root", "version") = some "v1.5.0") ∧
    (∀ system t path, SettingsFile.readDocument system t path = .ok (some d) →
      ((∃ u, SettingsFile.upgrade system t path = .ok (u, false)) ↔ d.upgrade = .ok d)) ∧
    ∀ (d' m m' : Document) (v w : Version), (∀ p ≠ ("root", "version"), d.at? p = d'.at? p) →
      d.Bears v → d'.Bears w →
      (∀ target ∈ ([[1, 1, 0], [1, 2, 0], [1, 4, 0], [1, 5, 0]] : List (List Nat)),
        v.numbers < target ↔ w.numbers < target) →
      d.upgrade = .ok m → d'.upgrade = .ok m' → ∀ p, m.at? p = m'.at? p := by
  refine ⟨fun m => run_eq_ok_iff, fun e m => ?_, accepted_iff, fun m h => ?_,
    current_stamp ▸ upgrade_eq_self_iff, fun system t path read => ?_,
    fun d' m m' v w off bears bears' alike h h' => at?_upgrade_congr alike off bears bears' h h'⟩
  · rw [run_eq_error_iff, refused_iff]
  · have stamped := text?_version_of_upgrade h
    exact ⟨current_stamp ▸ stamped, upgrade_of_current stamped⟩
  · rw [SettingsFile.exists_upgrade_false_iff, SettingsFile.due_eq_none_iff, upgrade_eq_self_iff]
    constructor
    · rintro ⟨found, read', current⟩
      cases read.symm.trans read'
      exact current
    · intro current
      exact ⟨d, read, current⟩

/-- A pre-release counts as its release, and no file with such a stamp is current. -/
theorem upgrade_accepts_prerelease : ∃ (d d' m m' : Document) (t : FileTree),
    d.at? ("root", "version") = some " v1.4.0-rc1 " ∧ d'.at? ("root", "version") = some "1.4.2" ∧
    d.upgrade = .ok m ∧ d'.upgrade = .ok m' ∧ (∀ p, m.at? p = m'.at? p) ∧
    m.at? ("root", "enableMetrics") = some "true" ∧
    SettingsFile.readDocument .plain t "s.json" = .ok (some d) ∧
    ∀ u, SettingsFile.upgrade .plain t "s.json" ≠ .ok (u, false) := by
  let old : Document := .ofList [("metrics", .ofList [("enabled", "true")])]
  let root (stamp : String) : Table String := .ofList [("version", stamp)]
  let d : Document := old.insert "root" (root " v1.4.0-rc1 ")
  let d' : Document := old.insert "root" (root "1.4.2")
  let t : FileTree := ⟨.ofList [("s.json", .file 0o600 (d.encode .json).toUTF8)]⟩
  have stamp : d.at? ("root", "version") = some " v1.4.0-rc1 " := by decide +kernel
  have stamp' : d'.at? ("root", "version") = some "1.4.2" := by decide +kernel
  have bears : d.Bears ⟨1, 4, 0⟩ :=
    .inr ⟨_, stamp, Version.ofStamp?_eq_some_iff.1 (by decide +kernel)⟩
  have bears' : d'.Bears ⟨1, 4, 2⟩ :=
    .inr ⟨_, stamp', Version.ofStamp?_eq_some_iff.1 (by decide +kernel)⟩
  have off : ∀ p ≠ ("root", "version"), d.at? p = d'.at? p := by
    rintro ⟨group, id⟩ other
    rw [at?_insert, at?_insert]
    by_cases top : group = "root"
    · have id : id ≠ "version" := fun same => other (by rw [top, same])
      simp [top, root, Table.ofList, id]
    · simp [top]
  have alike : ∀ target ∈ ([[1, 1, 0], [1, 2, 0], [1, 4, 0], [1, 5, 0]] : List (List Nat)),
      (⟨1, 4, 0⟩ : Version).numbers < target ↔ (⟨1, 4, 2⟩ : Version).numbers < target := by
    decide
  have read : SettingsFile.readDocument .plain t "s.json" = .ok (some d) := by
    have json : Format.ofPath "s.json" = .json := by decide +kernel
    refine SettingsFile.readDocument_eq_some_iff.2 ⟨d.encode .json, ?_, json ▸ decode_encode_json d⟩
    refine FileTree.readBy_eq_ok_iff.2 ⟨rfl, ?_⟩
    exact FileTree.read_eq_ok_iff.2 ⟨_, _, rfl, FileTree.fromUTF8?_toUTF8 _⟩
  obtain ⟨-, -, accepted, -, fixed, current, congr⟩ := upgrade_accepts d
  obtain ⟨m, upgraded⟩ := accepted.2 ⟨_, bears, by decide⟩
  obtain ⟨m', upgraded'⟩ := (upgrade_accepts d').2.2.1.2 ⟨_, bears', by decide⟩
  have same := congr d' m m' _ _ off bears bears' alike upgraded upgraded'
  refine ⟨d, d', m, m', t, stamp, stamp', upgraded, upgraded', same, ?_, read, fun u finds => ?_⟩
  · have moved : d.upgrade.toOption.bind (·.at? ("root", "enableMetrics")) = some "true" := by
      decide +kernel
    rw [upgraded] at moved
    exact moved
  · have present := fixed.1 ((current .plain t "s.json" read).1 ⟨u, finds⟩)
    exact absurd (stamp.symm.trans present) (by decide)

end Document
end NodeSettings
