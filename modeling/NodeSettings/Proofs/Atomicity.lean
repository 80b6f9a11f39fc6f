import NodeSettings.Configuration.Operation
import NodeSettings.Proofs.Traversal

/-!
Operations in place. A change of all settings leaves an error's configuration half changed; a
committed one does not: `Follows.atomic_commit`. Every operation leads to what `Configuration.run`
gives, or fails with its error and leaves the configuration as it was: `Operation.atomic_perform`.
-/

namespace NodeSettings

section Changes

variable {ε σ : Type}

/-- A change in place comes to what a function of the state gives. What it leaves behind when it
fails is open. -/
def Follows (change : EStateM ε σ Unit) (f : σ → Except ε σ) : Prop :=
  ∀ s, match change.run s with
    | .ok _ s' => f s = .ok s'
    | .error e _ => f s = .error e

/-- A change in place comes to what a function of the state gives, and an error leaves the state as
it was. -/
def Atomic (change : EStateM ε σ Unit) (f : σ → Except ε σ) : Prop :=
  ∀ s, change.run s =
    match f s with
    | .ok s' => .ok () s'
    | .error e => .error e s

/-! ## Single steps -/

theorem run_get_bind {α : Type} (next : σ → EStateM ε σ α) (s : σ) :
    (get >>= next).run s = (next s).run s :=
  rfl

theorem run_modify_bind {α : Type} (f : σ → σ) (next : PUnit → EStateM ε σ α) (s : σ) :
    (modify f >>= next).run s = (next ⟨⟩).run (f s) :=
  rfl

theorem run_ofExcept_bind {α β : Type} (found : Except ε α) (next : α → EStateM ε σ β) (s : σ) :
    (MonadExcept.ofExcept found >>= next).run s =
      match found with
      | .ok a => (next a).run s
      | .error e => .error e s := by
  cases found <;> rfl

/-! ## Changes -/

variable {change rest : EStateM ε σ Unit} {f g : σ → Except ε σ} {s s' : σ} {e : ε}

theorem Atomic.run_of_ok (h : Atomic change f) (ok : f s = .ok s') :
    change.run s = .ok () s' := by
  rw [h s, ok]

theorem Atomic.run_of_error (h : Atomic change f) (error : f s = .error e) :
    change.run s = .error e s := by
  rw [h s, error]

theorem Follows.run_eq (h : Follows change f) (s : σ) :
    (∃ s', change.run s = .ok () s' ∧ f s = .ok s') ∨
      ∃ e s', change.run s = .error e s' ∧ f s = .error e := by
  have here := h s
  cases ran : change.run s with
  | ok u s' => exact .inl ⟨s', rfl, by simpa only [ran] using here⟩
  | error e s' => exact .inr ⟨e, s', rfl, by simpa only [ran] using here⟩

theorem follows_modify (f : σ → σ) : Follows (modify f : EStateM ε σ Unit) fun s => .ok (f s) :=
  fun _ => rfl

/-- One change, and then another on what it leaves. -/
theorem Follows.seq (h : Follows change f) (h' : Follows rest g) :
    Follows (do change; rest) fun s => f s >>= g := by
  intro s
  show match EStateM.run (change >>= fun _ => rest) s with
    | .ok _ s' => (f s >>= g) = .ok s'
    | .error e _ => (f s >>= g) = .error e
  rw [EStateM.run_bind]
  obtain ⟨s', ran, same⟩ | ⟨e, s', ran, same⟩ := h.run_eq s
  · rw [ran, same]
    exact h' s'
  · rw [ran, same]
    rfl

/-- What is done on a copy is atomic, however the copy is left. -/
theorem Follows.atomic_commit (h : Follows change f) : Atomic (commit change) f := by
  intro s
  unfold commit
  rw [run_get_bind]
  obtain ⟨s', ran, same⟩ | ⟨e, s', ran, same⟩ := h.run_eq s
  · simp only [ran, same]
    rfl
  · simp only [ran, same]
    rfl

end Changes

/-- Settings are changed as each of them is on its own, or the first error is raised. What that
leaves is no list of the settings as they were. -/
theorem changeSettings_eq (f : Group → Parameter → Except SettingError Parameter)
    (l : List Setting) :
    match changeSettings f l with
    | .ok _ l' => l.mapM (Setting.change f) = .ok l'
    | .error e _ => l.mapM (Setting.change f) = .error e := by
  induction l with
  | nil => rfl
  | cons s l ih =>
    rw [changeSettings, List.mapM_cons, Setting.change]
    cases f s.group s.parameter with
    | error e => rfl
    | ok p =>
      cases rest : changeSettings f l with
      | ok u l' =>
        simp only [rest] at ih
        simp only [ih]
        rfl
      | error e l' =>
        simp only [rest] at ih
        simp only [ih]
        rfl

namespace Operation

open NodeSettings.Configuration (storedNative directoryKey versionKey)

variable {c : Configuration}

theorem follows_changeEach (f : Group → Parameter → Except SettingError Parameter) :
    Follows (changeEach f) fun c => c.traverse f := by
  intro c
  have settings := changeSettings_eq f c.settings
  have traverse : c.traverse f =
      (c.settings.mapM (Setting.change f) >>= fun settings => .ok { c with settings }) := rfl
  unfold changeEach
  beta_reduce
  rw [run_get_bind, traverse]
  cases ran : changeSettings f c.settings with
  | ok u l =>
    simp only [ran] at settings
    rw [settings]
    rfl
  | error e l =>
    simp only [ran] at settings
    rw [settings]
    rfl

theorem atomic_assignInPlace (group : Group) (id : String) (v : Value) :
    Atomic (assignInPlace group id v) fun c => c.assignAt group id (·.assign v) := by
  intro c
  unfold assignInPlace Configuration.assignAt
  beta_reduce
  rw [run_get_bind]
  cases found : c.find? group id with
  | none => rfl
  | some p =>
    obtain ⟨-, rfl⟩ := Configuration.mem_of_find? found
    simp only [run_ofExcept_bind, Configuration.assignWith, Parameter.assign]
    cases p.check v <;> rfl

theorem atomic_assignTextInPlace (group : Group) (id raw : String) :
    Atomic (assignTextInPlace group id raw) fun c => c.assignAt group id (·.assignText raw) := by
  intro c
  unfold assignTextInPlace
  beta_reduce
  rw [run_get_bind]
  cases found : c.find? group id with
  | none =>
    simp only [Configuration.assignAt, found]
    rfl
  | some p =>
    simp only [Configuration.assignAt, found, Configuration.assignWith, Parameter.assignText]
    cases Value.parse? p.kind raw with
    | none => rfl
    | some v =>
      have given := atomic_assignInPlace group id v c
      simp only [Configuration.assignAt, found, Configuration.assignWith] at given
      exact given

theorem atomic_switchNetworkInPlace (network : Network) :
    Atomic (switchNetworkInPlace network) fun c => c.switchNetwork network := by
  intro c
  unfold switchNetworkInPlace Configuration.switchNetwork
  beta_reduce
  rw [run_get_bind]
  by_cases same : c.network = network
  · simp only [same, if_true]
    rfl
  · simp only [same, if_false]
    exact ((follows_changeEach _).seq (follows_changeEach _)).atomic_commit c

theorem atomic_resetAllInPlace : Atomic resetAllInPlace Configuration.resetAll := fun c =>
  ((follows_modify Configuration.rebase).seq
    (follows_changeEach fun _ p => p.reset c.network)).atomic_commit c

theorem atomic_refreshInPlace : Atomic refreshInPlace Configuration.refresh := fun c =>
  (follows_changeEach fun _ p =>
    if p.overwriteOnUpgrade then p.reset c.network else .ok p).atomic_commit c

theorem follows_adopt (d : Document) :
    Follows (adopt d) fun c => do
      let isNative ← storedNative d c.isNative
      return { c with
        isNative
        directory := (d.text? Group.root.key directoryKey).getD c.directory
        version := (d.text? Group.root.key versionKey).getD c.version } := by
  intro c
  unfold adopt
  beta_reduce
  rw [run_modify_bind, run_get_bind, run_ofExcept_bind]
  cases storedNative d c.isNative <;> rfl

theorem atomic_loadInPlace (stored : Document) :
    Atomic (loadInPlace stored) fun c => c.load stored := by
  intro c
  unfold loadInPlace Configuration.load
  beta_reduce
  rw [run_ofExcept_bind]
  cases stored.upgrade with
  | error e => rfl
  | ok d =>
    simp only [run_ofExcept_bind]
    cases named : Configuration.storedNetwork d with
    | error e => simp only [bind, Except.bind, named]
    | ok network =>
      refine (((follows_changeEach _).seq ((follows_adopt d).seq
        ((follows_modify Configuration.rebase).seq
          (follows_changeEach _)))).atomic_commit c).trans ?_
      cases changed : c.traverse fun group p =>
          if group = .root then p.load (d.text? group.key p.id) network else .ok p with
      | error e => simp only [bind, Except.bind, named, changed]
      | ok top =>
        obtain ⟨-, rfl⟩ := Configuration.traverse_eq_ok_iff.1 changed
        simp only [bind, Except.bind, named, changed]
        cases storedNative d c.isNative <;> rfl

/-- Every operation comes to what it makes of the configuration, and one that fails leaves the
configuration as it was. -/
theorem atomic_perform (o : Operation) : Atomic o.perform fun c => c.run o := by
  cases o with
  | assign group id v => exact atomic_assignInPlace group id v
  | assignText group id raw => exact atomic_assignTextInPlace group id raw
  | switchNetwork network => exact atomic_switchNetworkInPlace network
  | resetAll => exact atomic_resetAllInPlace
  | refresh => exact atomic_refreshInPlace
  | load stored => exact atomic_loadInPlace stored

end Operation
end NodeSettings
