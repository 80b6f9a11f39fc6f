import NodeSettings.Proofs.Defaults
import NodeSettings.Proofs.RoundTrip
import NodeSettings.Proofs.Words

/-!
Identifiers of services. The settings that hold one take exactly the texts that look like one, or
none at all (`Reachable.takes_identifiers`): the patterns of Infura's and Pocket's settings are
matched against the whole text, so that nothing may stand around an identifier, not even a line
break at its end.
-/

namespace NodeSettings

def IsHexDigit (c : Char) : Prop := c.isDigit = true ∨ ('a' ≤ c ∧ c ≤ 'f') ∨ 'A' ≤ c ∧ c ≤ 'F'

/-- What a project of Infura is known by: 32 hexadecimal digits. -/
def IsProjectId (s : List Char) : Prop := s.length = 32 ∧ ∀ c ∈ s, IsHexDigit c

/-- What a gateway of Pocket is known by: at least 24 letters and digits, which `lb/` may lead. -/
def IsGatewayId (s : List Char) : Prop :=
  ∃ name, (s = name ∨ s = 'l' :: 'b' :: '/' :: name) ∧ 24 ≤ name.length ∧
    ∀ c ∈ name, c.isAlphanum = true

/-- The settings that hold an identifier, and what one looks like. -/
inductive Identifies : Group → String → (List Char → Prop) → Prop
  | infura : Identifies .infura "projectID" IsProjectId
  | fallbackInfura : Identifies .fallbackInfura "projectID" IsProjectId
  | pocket : Identifies .pocket "gatewayID" IsGatewayId
  | fallbackPocket : Identifies .fallbackPocket "gatewayID" IsGatewayId

/-! ## The patterns -/

namespace Pattern

open CharacterSet

def hexDigits : CharacterSet := .union (.range '0' '9') (.union (.range 'a' 'f') (.range 'A' 'F'))

def alphanumerics : CharacterSet :=
  .union (.range '0' '9') (.union (.range 'a' 'z') (.range 'A' 'Z'))

def projectId : Pattern :=
  .sequence (.anchor .textStart)
    (.sequence (.repeated (.chars hexDigits) 32 (some 32)) (.anchor .textEnd))

def loadBalancer : Pattern :=
  .sequence (.chars (.single 'l')) (.sequence (.chars (.single 'b')) (.chars (.single '/')))

def gatewayId : Pattern :=
  .either (.sequence (.anchor .textStart) (.anchor .textEnd))
    (.sequence (.anchor .textStart)
      (.sequence (.repeated loadBalancer 0 (some 1))
        (.sequence (.repeated (.chars alphanumerics) 24 none) (.anchor .textEnd))))

theorem parse?_projectId : parse? "^[0-9a-fA-F]\x7b32\x7d$" = some projectId := by
  decide +kernel

theorem parse?_gatewayId : parse? "(^$|^(lb/)?[0-9a-zA-Z]\x7b24,\x7d$)" = some gatewayId := by
  decide +kernel

theorem contains_hexDigits {c : Char} : hexDigits.contains c = true ↔ IsHexDigit c := by
  simp only [hexDigits, contains, Bool.or_eq_true, Bool.and_eq_true, decide_eq_true_eq, IsHexDigit,
    Char.isDigit]
  rfl

theorem contains_alphanumerics {c : Char} :
    alphanumerics.contains c = true ↔ c.isAlphanum = true := by
  have digit : (range '0' '9').contains c = c.isDigit := rfl
  have lower : (range 'a' 'z').contains c = c.isLower := rfl
  have upper : (range 'A' 'Z').contains c = c.isUpper := (Bool.decide_and _ _).symm
  show (_ || (_ || _)) = true ↔ ((c.isUpper || c.isLower) || c.isDigit) = true
  rw [digit, lower, upper, Bool.or_comm, Bool.or_comm c.isLower]

variable {s : String} {text : List Char} {i j k : Nat}

theorem occursIn_projectId : projectId.occursIn s = true ↔ IsProjectId s.toList := by
  simp only [projectId, occursIn_whole_iff, matches_repeated_chars_iff, stands_whole_iff,
    exists_eq_left, contains_hexDigits, Option.mem_some_iff, forall_eq', IsProjectId]
  rw [← and_assoc]
  refine and_congr_left fun _ => ?_
  omega

theorem matches_loadBalancer_iff :
    loadBalancer.Matches text i j ↔ Stands text i j ['l', 'b', '/'] := by
  simp only [loadBalancer, matches_single_sequence_iff, matches_single_iff, stands_cons_iff,
    stands_nil_iff, eq_comm (a := j)]

/-- What the pattern of a gateway holds against the whole text. -/
theorem matches_gateway_iff {least : Nat} :
    (sequence (repeated loadBalancer 0 (some 1))
      (repeated (chars alphanumerics) least none)).Matches
        text 0 text.length ↔
      ∃ name, (text = name ∨ text = ['l', 'b', '/'] ++ name) ∧ least ≤ name.length ∧
        ∀ c ∈ name, c.isAlphanum = true := by
  constructor
  · rintro ⟨j, lead, rest⟩
    obtain ⟨name, stands, long, -, members⟩ := matches_repeated_chars_iff.1 rest
    refine ⟨name, ?_, long, fun c hc => contains_alphanumerics.1 (members c hc)⟩
    rcases matches_optional_iff.1 lead with rfl | lead
    · exact .inl (stands_whole_iff.1 stands).symm
    · have whole := stands_append_iff.2 ⟨j, matches_loadBalancer_iff.1 lead, stands⟩
      exact .inr (stands_whole_iff.1 whole).symm
  · rintro ⟨name, shape, long, members⟩
    have rest {j : Nat} (stands : Stands text j text.length name) :
        (repeated (chars alphanumerics) least none).Matches text j text.length :=
      matches_repeated_chars_iff.2
        ⟨name, stands, long, nofun, fun c hc => contains_alphanumerics.2 (members c hc)⟩
    rcases shape with same | same
    · exact ⟨0, matches_optional_iff.2 (.inl rfl), rest (stands_whole_iff.2 same.symm)⟩
    · obtain ⟨j, lead, stands⟩ := stands_append_iff.1 (stands_whole_iff.2 same.symm)
      exact ⟨j, matches_optional_iff.2 (.inr (matches_loadBalancer_iff.2 lead)), rest stands⟩

theorem occursIn_gatewayId :
    gatewayId.occursIn s = true ↔ s.toList = [] ∨ IsGatewayId s.toList := by
  rw [gatewayId, occursIn_either_iff, occursIn_ends_iff, occursIn_whole_sequence_iff,
    matches_gateway_iff]
  rfl

end Pattern

/-! ## Settings with a grammar -/

namespace Declaration

/-- A declared text that is held against a grammar, and against nothing else. -/
structure Guards (d : Declaration) (grammar : List Char → Prop) : Prop where
  kind : d.kind = .string
  maxLength : d.maxLength = none
  pattern : ∃ source p, d.pattern = some source ∧ Pattern.parse? source = some p ∧
    ∀ s : String, s ≠ "" → (p.occursIn s = true ↔ grammar s.toList)

variable {d e : Declaration} {grammar : List Char → Prop} {raw : String}

theorem Guards.of_bare (h : d.Guards grammar) (same : e.bare = d.bare) : e.Guards grammar := by
  cases d
  cases e
  cases same
  exact ⟨h.kind, h.maxLength, h.pattern⟩

theorem Guards.allows_iff (h : d.Guards grammar) :
    d.Allows (.string raw) ↔ raw = "" ∨ grammar raw.toList := by
  obtain ⟨source, p, held, parsed, tells⟩ := h.pattern
  constructor
  · intro allowed
    by_cases blank : raw = ""
    · exact .inl blank
    · obtain ⟨q, read, occurs⟩ := allowed.pattern raw rfl blank source held
      obtain rfl := Option.some.inj (parsed.symm.trans read)
      exact .inr ((tells raw blank).1 occurs)
  · intro shape
    refine ⟨h.kind.symm, fun k => absurd (h.kind.symm.trans k) nofun, ?_, ?_, nofun⟩
    · rintro _ ⟨⟩ limit bounded
      rw [h.maxLength] at bounded
      cases bounded
    · rintro _ ⟨⟩ filled other listed
      rw [held] at listed
      obtain rfl := Option.some.inj listed
      exact ⟨p, parsed, (tells raw filled).2 (shape.resolve_left filled)⟩

end Declaration

namespace Catalog

theorem guards_projectId {isFallback : Bool} : ∃ d ∈ infura isFallback,
    d.id = "projectID" ∧ d.Guards IsProjectId := by
  refine ⟨_, List.mem_cons_self, rfl, rfl, rfl, _, _, rfl, Pattern.parse?_projectId, ?_⟩
  intro s _
  exact Pattern.occursIn_projectId

theorem guards_gatewayId {isFallback : Bool} : ∃ d ∈ pocket isFallback,
    d.id = "gatewayID" ∧ d.Guards IsGatewayId := by
  refine ⟨_, List.mem_cons_self, rfl, rfl, rfl, _, _, rfl, Pattern.parse?_gatewayId, ?_⟩
  intro s filled
  rw [Pattern.occursIn_gatewayId]
  exact or_iff_right fun none => filled (String.toList_eq_nil_iff.1 none)

theorem exists_guards {group : Group} {id : String} {grammar : List Char → Prop}
    (h : Identifies group id grammar) :
    ∃ d ∈ declarations "" group, d.id = id ∧ d.Guards grammar := by
  cases h with
  | infura | fallbackInfura => exact guards_projectId
  | pocket | fallbackPocket => exact guards_gatewayId

end Catalog

namespace Configuration

variable {c c' : Configuration} {group : Group} {id raw : String} {grammar : List Char → Prop}
  {permitted : Edit → Prop}

/-- Whatever is written into the tables, a text that is held against a grammar obeys it. -/
theorem Reachable.obeys_grammar (h : c.Reachable permitted) {s : Setting} (hs : s ∈ c.settings)
    (guards : s.parameter.Guards grammar) :
    s.parameter.text = "" ∨ grammar s.parameter.text.toList := by
  have taken (p q : Parameter) (takes : p.Takes q) :
      q.Guards grammar → q.text = "" ∨ grammar q.text.toList := by
    intro guards
    have valid := takes.isValid
    have kind : q.value.kind = .string := valid.kind.trans guards.kind
    unfold Parameter.IsValid at valid
    cases value : q.value with
    | string s =>
      rw [value] at valid
      rw [Parameter.text, value]
      exact guards.allows_iff.1 valid
    | bool | int | uint | uint16 | float | choice =>
      rw [value] at kind
      cases kind
  have written (c : Configuration) (e : Edit)
      (all : c.Every fun p => p.Guards grammar → p.text = "" ∨ grammar p.text.toList) :
      (c.edit e).Every fun p => p.Guards grammar → p.text = "" ∨ grammar p.text.toList := by
    cases e with
    | directory path | isNative flag | profile group profile => exact all
    | default group id network v | addChoice group id choice | choices group id choices =>
      exact every_modify all fun p obeys guards => obeys (guards.of_bare rfl)
  exact h.induct (fun _ _ _ => every_of_resetAll taken) (fun _ _ _ _ => every_run taken)
    (fun c e all _ => written c e all) s hs guards

/-- A setting that is there is given the text, or the operation fails. -/
theorem run_assignText_eq_ok_iff {p : Parameter} (found : c.find? group id = some p) :
    c.run (.assignText group id raw) = .ok c' ↔
      ∃ q, p.assignText raw = .ok q ∧ c' = c.modify group id fun _ => q := by
  obtain ⟨-, rfl⟩ := mem_of_find? found
  rw [run, assignAt, found]
  simp only [assignWith, bind_eq_ok_iff, pure, Except.pure, Except.ok.injEq, eq_comm (a := c')]

theorem mem_modify {p : Parameter} {f : Parameter → Parameter}
    (found : c.find? group id = some p) :
    (⟨group, f p⟩ : Setting) ∈ (c.modify group id f).settings := by
  obtain ⟨mem, rfl⟩ := mem_of_find? found
  rw [modify_settings]
  exact List.mem_map.2 ⟨_, mem, if_pos rfl⟩

/-- A setting that holds an identifier takes a text if it is empty or looks like one, and then holds
that text as it is. So what it holds is empty or looks like one, whatever became of the node. -/
theorem Reachable.takes_identifiers (h : c.Reachable permitted)
    (identifies : Identifies group id grammar) :
    (∀ raw, (∃ c', c.run (.assignText group id raw) = .ok c') ↔
      raw = "" ∨ grammar raw.toList) ∧
    (∀ raw c', c.run (.assignText group id raw) = .ok c' → c'.text group id = raw) ∧
    (c.text group id = "" ∨ grammar (c.text group id).toList) := by
  obtain ⟨d, declared, rfl, guards⟩ := Catalog.exists_guards identifies
  obtain ⟨p, found, bare⟩ := exists_find? h.outline_eq group declared
  have guards : p.Guards grammar := guards.of_bare bare
  have assigned {raw : String} {q : Parameter} : p.assignText raw = .ok q ↔
      (raw = "" ∨ grammar raw.toList) ∧ q = { p with value := .string raw } := by
    rw [Parameter.assignText_eq_ok_iff, guards.kind]
    simp [Value.parse?, guards.allows_iff]
  refine ⟨fun raw => ?_, fun raw c' ran => ?_, ?_⟩
  · simp only [run_assignText_eq_ok_iff found, assigned]
    constructor
    · rintro ⟨_, _, ⟨shape, -⟩, -⟩
      exact shape
    · intro shape
      exact ⟨_, _, ⟨shape, rfl⟩, rfl⟩
  · have reached := h.of_run ran
    obtain ⟨q, taken, rfl⟩ := (run_assignText_eq_ok_iff found).1 ran
    obtain ⟨-, rfl⟩ := assigned.1 taken
    have id : d.id = p.id := (mem_of_find? found).2.symm
    have mem := mem_modify (f := fun _ => { p with value := .string raw }) found
    exact (congrArg (Configuration.text _ group) id).trans (text_of_mem reached.keys_nodup mem)
  · rw [Configuration.text, found]
    exact h.obeys_grammar (mem_of_find? found).1 guards

/-- A gateway is known by its name alone: a line break behind it is not overlooked. -/
theorem takes_identifiers_gateway : ∃ c : Configuration, c.Reachable Edit.Relocates ∧
    (∃ c', c.run (.assignText .pocket "gatewayID" "lb/0123456789abcdefghijABCD") = .ok c' ∧
      c'.text .pocket "gatewayID" = "lb/0123456789abcdefghijABCD") ∧
    ¬ ∃ c', c.run (.assignText .pocket "gatewayID" "lb/0123456789abcdefghijABCD\n") = .ok c' := by
  obtain ⟨c, fresh⟩ := exists_fresh "/srv/node" false
  have reached : c.Reachable Edit.Relocates := .fresh fresh
  obtain ⟨takes, holds, -⟩ := reached.takes_identifiers .pocket
  refine ⟨c, reached, ?_, ?_⟩
  · obtain ⟨c', ran⟩ := (takes "lb/0123456789abcdefghijABCD").2
      (.inr ⟨"0123456789abcdefghijABCD".toList, .inr (by decide), by decide,
        List.all_eq_true.1 (by decide)⟩)
    exact ⟨c', ran, holds _ c' ran⟩
  · intro ran
    rcases (takes _).1 ran with none | ⟨name, shape, -, alphanumeric⟩
    · exact absurd none (by decide)
    · have last : '\n' ∈ name := by
        rcases shape with rfl | same
        · decide
        · obtain rfl : _ = name := (List.cons.inj (List.cons.inj (List.cons.inj same).2).2).2
          decide
      exact absurd (alphanumeric _ last) (by decide)

end Configuration
end NodeSettings
