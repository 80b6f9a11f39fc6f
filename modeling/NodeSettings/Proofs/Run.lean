import NodeSettings.Proofs.Atomicity

/-!
Runs. A configuration starts fresh and then takes operations, done in place, and direct edits of the
places that no rule guards. An operation that fails changes nothing: `Configuration.after_of_error`.
-/

namespace NodeSettings

/-- What is written directly, without a check. -/
inductive Edit where
  | directory (path : String)
  | isNative (flag : Bool)
  | default (group : Group) (id : String) (network : Network) (value : Option Value)
  | addChoice (group : Group) (id : String) (choice : Choice)
  | choices (group : Group) (id : String) (choices : List Choice)
  | profile (group : Group) (profile : ExecutionProfile)

namespace Edit

/-- Edits of the base directory and of the way the node is run. -/
def Relocates : Edit → Prop
  | directory _ | isNative _ => True
  | _ => False

/-- Edits after which every choice that was there still is. -/
def KeepsChoices : Edit → Prop
  | choices .. => False
  | _ => True

/-- Edits that leave the choices of every setting as they are. -/
def LeavesChoices : Edit → Prop
  | addChoice .. | choices .. => False
  | _ => True

theorem KeepsChoices.of_leavesChoices {e : Edit} (h : e.LeavesChoices) : e.KeepsChoices := by
  cases e with
  | addChoice | choices => exact absurd h not_false
  | directory | isNative | default | profile => exact trivial

theorem KeepsChoices.of_relocates {e : Edit} (h : e.Relocates) : e.KeepsChoices := by
  cases e with
  | choices => exact h
  | directory | isNative | default | addChoice | profile => exact trivial

end Edit

namespace Configuration

def edit (c : Configuration) : Edit → Configuration
  | .directory path => { c with directory := path }
  | .isNative flag => { c with isNative := flag }
  | .default group id network v =>
    c.modify group id fun p => { p with defaults := p.defaults.set network v }
  | .addChoice group id choice =>
    c.modify group id fun p => { p with choices := p.choices ++ [choice] }
  | .choices group id choices => c.modify group id fun p => { p with choices }
  | .profile group profile =>
    { c with profiles := fun g => if g = group then profile else c.profiles g }

/-- The configurations that runs with some kinds of edits lead to. -/
inductive Reachable (permitted : Edit → Prop) : Configuration → Prop
  | fresh {directory : String} {isNative : Bool} {c : Configuration} :
      Configuration.fresh directory isNative = .ok c → Reachable permitted c
  | operation {c : Configuration} (o : Operation) :
      Reachable permitted c → Reachable permitted (c.after o)
  | edit {c : Configuration} {e : Edit} :
      permitted e → Reachable permitted c → Reachable permitted (c.edit e)

variable {c c' : Configuration} {o : Operation}

theorem after_of_ok (h : c.run o = .ok c') : c.after o = c' := by
  rw [after, o.atomic_perform.run_of_ok h]

theorem after_of_error {e : SettingError} (h : c.run o = .error e) : c.after o = c := by
  rw [after, o.atomic_perform.run_of_error h]

theorem Reachable.mono {permitted allowed : Edit → Prop} (more : ∀ e, permitted e → allowed e)
    (h : c.Reachable permitted) : c.Reachable allowed := by
  induction h with
  | fresh h => exact .fresh h
  | operation o _ ih => exact .operation o ih
  | edit is _ ih => exact .edit (more _ is) ih

theorem Reachable.operations {permitted : Edit → Prop} (h : c.Reachable permitted)
    (operations : List Operation) : (operations.foldl after c).Reachable permitted := by
  induction operations generalizing c with
  | nil => exact h
  | cons o operations ih => exact ih (h.operation o)

theorem Reachable.of_run {permitted : Edit → Prop} (h : c.Reachable permitted)
    (ran : c.run o = .ok c') : c'.Reachable permitted := by
  rw [← after_of_ok ran]
  exact h.operation o

/-- What some steps make of a fresh configuration can be computed. -/
theorem exists_reachable (permitted : Edit → Prop) (directory : String) (isNative : Bool)
    {steps : Configuration → Configuration} {P : Configuration → Prop} [DecidablePred P]
    (lead : ∀ c, Reachable permitted c → (steps c).Reachable permitted)
    (holds : ((fresh directory isNative).toOption.any fun c => decide (P (steps c))) = true) :
    ∃ c : Configuration, c.Reachable permitted ∧ P c := by
  cases h : fresh directory isNative with
  | error e => simp [h, Except.toOption] at holds
  | ok c => exact ⟨steps c, lead c (.fresh h), by simpa [h, Except.toOption] using holds⟩

/-- What successful operations and permitted edits keep, a run keeps. -/
theorem Reachable.induct {permitted : Edit → Prop} {P : Configuration → Prop}
    (start : ∀ directory isNative c, Configuration.fresh directory isNative = .ok c → P c)
    (step : ∀ c o c', c.Reachable permitted → P c → c.run o = .ok c' → P c')
    (written : ∀ c e, P c → permitted e → P (c.edit e)) (h : c.Reachable permitted) : P c := by
  induction h with
  | fresh h => exact start _ _ _ h
  | @operation c o reached ih =>
    cases h : c.run o with
    | ok c' =>
      rw [after_of_ok h]
      exact step c o c' reached ih h
    | error e =>
      rw [after_of_error h]
      exact ih
  | edit allowed _ ih => exact written _ _ ih allowed

end Configuration
end NodeSettings
