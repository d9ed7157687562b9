import Mathlib.Data.List.Induction
import MailboxSearch.Query.Builder

namespace MailboxSearch

namespace Setting

def base? : Setting → Option Path
  | base path => some path
  | _ => none

def username? : Setting → Option String
  | username user => some user
  | _ => none

def private? : Setting → Option Unit
  | privateMailboxes => some ()
  | _ => none

def expression? : Setting → Option String
  | expression text => some text
  | matchesAll => some Builder.everything
  | _ => none

def session? : Setting → Option Session
  | session s => some s
  | _ => none

variable {α : Type} {kind : Setting → Option α} {s : Setting} {settings more : List Setting}

def last (kind : Setting → Option α) (settings : List Setting) : Option α :=
  (settings.filterMap kind).getLast?

def Given (kind : Setting → Option α) (settings : List Setting) : Prop :=
  ∃ s ∈ settings, (kind s).isSome = true

theorem last_concat : last kind (settings ++ [s]) = (kind s).or (last kind settings) := by
  rw [last, List.filterMap_append, List.getLast?_append]
  cases h : kind s <;> simp [last, h]

theorem isSome_last_iff : (last kind settings).isSome = true ↔ Given kind settings := by
  rw [last, List.getLast?_isSome, Ne, List.filterMap_eq_nil_iff, Given]
  simp [Option.isSome_iff_ne_none]

theorem Given.append (h : Given kind settings) (more : List Setting) :
    Given kind (settings ++ more) := by
  obtain ⟨s, hs, hk⟩ := h
  exact ⟨s, List.mem_append_left more hs, hk⟩

end Setting

open Setting

namespace Builder

def holding (settings : List Setting) : Builder where
  base := last base? settings
  username := last username? settings
  privateMailboxes := (last private? settings).isSome
  expression := last expression? settings
  session := last session? settings

theorem holding_concat (settings : List Setting) (s : Setting) :
    holding (settings ++ [s]) = (holding settings).set s := by
  cases s <;> simp [holding, set, last_concat, base?, username?, private?, expression?, session?]

theorem setAll_eq_holding (settings : List Setting) :
    ({} : Builder).setAll settings = holding settings := by
  induction settings using List.reverseRecOn with
  | nil => rfl
  | append_singleton settings s ih =>
    rw [holding_concat, ← ih]
    exact List.foldl_append

/-- Two rows of settings that end up saying the same. -/
structure Agree (these those : List Setting) : Prop where
  base : last base? these = last base? those
  username : last username? these = last username? those
  privateMailboxes : Given private? these ↔ Given private? those
  expression : last expression? these = last expression? those
  session : last session? these = last session? those

theorem Agree.holding_eq {these those : List Setting} (h : Agree these those) :
    holding these = holding those := by
  have hp : (last private? these).isSome = (last private? those).isSome := by
    rw [Bool.eq_iff_iff, isSome_last_iff, isSome_last_iff, h.privateMailboxes]
  rw [holding, holding, h.base, h.username, hp, h.expression, h.session]

inductive Start
  | blank
  | privateOf (session : Session)

namespace Start

def builder : Start → Builder
  | blank => {}
  | privateOf session => ofPrivate session

def settings : Start → List Setting
  | blank => []
  | privateOf session =>
    .session session :: (session.user.map Setting.username).toList ++ [.privateMailboxes]

def run (start : Start) (settings : List Setting) : Builder :=
  start.builder.setAll settings

def history (start : Start) (settings : List Setting) : List Setting :=
  start.settings ++ settings

theorem builder_eq (start : Start) : start.builder = ({} : Builder).setAll start.settings := by
  cases start with
  | blank => rfl
  | privateOf session =>
    cases h : session.user <;> simp [builder, settings, ofPrivate, setAll, h]

theorem run_eq_holding (start : Start) (settings : List Setting) :
    start.run settings = holding (start.history settings) := by
  rw [run, builder_eq, ← setAll_eq_holding, history]
  exact List.foldl_append.symm

end Start

def OneSource (base username privateMailboxes : Prop) : Prop :=
  (base ∧ ¬ username ∧ ¬ privateMailboxes) ∨ (¬ base ∧ username ∧ privateMailboxes) ∨
    (¬ base ∧ ¬ username ∧ ¬ privateMailboxes)

def Conflict (base username privateMailboxes : Prop) : Error → Prop
  | .baseWithUsername => base ∧ username
  | .baseWithPrivateMailboxes => base ∧ ¬ username ∧ privateMailboxes
  | .privateMailboxesWithoutUsername => ¬ base ∧ ¬ username ∧ privateMailboxes
  | .usernameWithoutPrivateMailboxes => ¬ base ∧ username ∧ ¬ privateMailboxes
  | _ => False

structure Verdict (base username privateMailboxes session : Prop)
    (outcome : Except Error Query) : Prop where
  ok_iff : (∃ q, outcome = .ok q) ↔ session ∧ OneSource base username privateMailboxes
  error_iff : ∀ e, outcome = .error e ↔
    Conflict base username privateMailboxes e ∨
      e = .missingSession ∧ ¬ session ∧ OneSource base username privateMailboxes

section

variable {base username privateMailboxes session : Prop} {outcome : Except Error Query}

theorem Verdict.baseWithUsername_iff
    (h : Verdict base username privateMailboxes session outcome) :
    outcome = .error .baseWithUsername ↔ base ∧ username := by
  simp [h.error_iff, Conflict]

theorem Verdict.baseWithPrivateMailboxes_iff
    (h : Verdict base username privateMailboxes session outcome) :
    outcome = .error .baseWithPrivateMailboxes ↔ base ∧ ¬ username ∧ privateMailboxes := by
  simp [h.error_iff, Conflict]

end

section

variable {b : Builder} {e : Error}

theorem ok_baseSource_iff :
    (∃ source, b.baseSource = .ok source) ↔
      OneSource (b.base.isSome = true) (b.username.isSome = true) (b.privateMailboxes = true) := by
  fun_cases baseSource b <;> simp_all [OneSource]

theorem baseSource_eq_error_iff :
    b.baseSource = .error e ↔
      Conflict (b.base.isSome = true) (b.username.isSome = true) (b.privateMailboxes = true) e := by
  fun_cases baseSource b <;> cases e <;> simp_all [Conflict]

theorem resolve_of_error (h : b.baseSource = .error e) : b.resolve = .error e := by
  rw [resolve, h]
  rfl

theorem resolve_of_missing {source : BaseSource} (h : b.baseSource = .ok source)
    (hs : b.session = none) : b.resolve = .error .missingSession := by
  rw [resolve, h, hs]
  rfl

theorem resolve_of_session {source : BaseSource} {session : Session}
    (h : b.baseSource = .ok source) (hs : b.session = some session) :
    b.resolve = .ok {
      base := sourcePath session source
      expression := sourceExpression b.expression source
      delimiter := session.delimiter } := by
  rw [resolve, h, hs]
  rfl

theorem resolve_eq_error_iff :
    b.resolve = .error e ↔
      b.baseSource = .error e ∨
        e = .missingSession ∧ b.session = none ∧ ∃ source, b.baseSource = .ok source := by
  cases h : b.baseSource with
  | error e' => simp [resolve_of_error h]
  | ok source =>
    cases hs : b.session with
    | none => simp [resolve_of_missing h hs, eq_comm]
    | some session => simp [resolve_of_session h hs]

theorem resolve_eq_ok_iff :
    (∃ q, b.resolve = .ok q) ↔
      b.session.isSome = true ∧ ∃ source, b.baseSource = .ok source := by
  cases h : b.baseSource with
  | error e' => simp [resolve_of_error h]
  | ok source =>
    cases hs : b.session with
    | none => simp [resolve_of_missing h hs]
    | some session => simp [resolve_of_session h hs]

end

theorem verdict_resolve (b : Builder) :
    Verdict (b.base.isSome = true) (b.username.isSome = true) (b.privateMailboxes = true)
      (b.session.isSome = true) b.resolve where
  ok_iff := by rw [resolve_eq_ok_iff, ok_baseSource_iff]
  error_iff e := by
    rw [resolve_eq_error_iff, baseSource_eq_error_iff, ok_baseSource_iff,
      ← Option.not_isSome_iff_eq_none]

theorem outcome_build (b : Builder) : b.build.outcome = b.resolve := by
  rw [build, Logged.outcome_bind, Logged.outcome_ofExcept]
  cases b.resolve <;> rfl

theorem verdict_build (start : Start) (settings : List Setting) :
    Verdict (Given base? (start.history settings)) (Given username? (start.history settings))
      (Given private? (start.history settings)) (Given session? (start.history settings))
      (start.run settings).build.outcome := by
  rw [outcome_build, Start.run_eq_holding]
  simpa only [holding, isSome_last_iff] using verdict_resolve (holding (start.history settings))

theorem Start.history_append (start : Start) (settings more : List Setting) :
    start.history (settings ++ more) = start.history settings ++ more :=
  (List.append_assoc ..).symm

theorem baseWithUsername_append {start : Start} {settings : List Setting}
    (h : (start.run settings).build.outcome = .error .baseWithUsername) (more : List Setting) :
    (start.run (settings ++ more)).build.outcome = .error .baseWithUsername := by
  obtain ⟨hb, hu⟩ := (verdict_build start settings).baseWithUsername_iff.1 h
  rw [(verdict_build start _).baseWithUsername_iff, start.history_append]
  exact ⟨hb.append more, hu.append more⟩

theorem baseWithPrivateMailboxes_append {start : Start} {settings : List Setting}
    (h : (start.run settings).build.outcome = .error .baseWithPrivateMailboxes)
    (more : List Setting) :
    (start.run (settings ++ more)).build.outcome = .error .baseWithPrivateMailboxes ∨
      (start.run (settings ++ more)).build.outcome = .error .baseWithUsername := by
  obtain ⟨hb, -, hp⟩ := (verdict_build start settings).baseWithPrivateMailboxes_iff.1 h
  rw [(verdict_build start _).baseWithPrivateMailboxes_iff,
    (verdict_build start _).baseWithUsername_iff, start.history_append]
  -- a user that is given later on is the one thing that changes the error
  by_cases hu : Given username? (start.history settings ++ more)
  · exact .inr ⟨hb.append more, hu⟩
  · exact .inl ⟨hb.append more, hu, hp.append more⟩

/--
What is built depends only on the last setting of each kind, and for private mailboxes on whether
they were ever asked for. Whether it is a query or which error depends only on the kinds that were
given: a conflict comes before a missing session, and a base with a user before all other conflicts.
More settings leave that conflict as it is, and turn a base with private mailboxes into it at most.
-/
theorem build_run :
    (∀ (start start' : Start) settings settings',
      Agree (start.history settings) (start'.history settings') →
        (start.run settings).build = (start'.run settings').build) ∧
    (∀ (start : Start) settings,
      Verdict (Given base? (start.history settings)) (Given username? (start.history settings))
        (Given private? (start.history settings)) (Given session? (start.history settings))
        (start.run settings).build.outcome) ∧
    (∀ (start : Start) settings more,
      (start.run settings).build.outcome = .error .baseWithUsername →
        (start.run (settings ++ more)).build.outcome = .error .baseWithUsername) ∧
    (∀ (start : Start) settings more,
      (start.run settings).build.outcome = .error .baseWithPrivateMailboxes →
        (start.run (settings ++ more)).build.outcome = .error .baseWithPrivateMailboxes ∨
          (start.run (settings ++ more)).build.outcome = .error .baseWithUsername) := by
  refine ⟨?_, verdict_build, ?_, ?_⟩
  · intro start start' settings settings' h
    rw [Start.run_eq_holding, Start.run_eq_holding, h.holding_eq]
  · intro start settings more h
    exact baseWithUsername_append h more
  · intro start settings more h
    exact baseWithPrivateMailboxes_append h more

theorem build_run_private :
    let start := Start.privateOf { user := some "al" }
    let settings : List Setting := [.session { user := some "bo", delimiter := '/' }, .matchesAll]
    let settings' : List Setting :=
      [.privateMailboxes, .expression "x", .username "cy", .expression "*", .username "al",
        .session { user := some "bo", delimiter := '/' }]
    let both : List Setting := [.privateMailboxes, .base {}]
    Agree (start.history settings) (Start.blank.history settings') ∧
      (start.run settings).build = (Start.blank.run settings').build ∧
      (start.run both).build.outcome = .error .baseWithUsername ∧
      (start.run (both ++ settings)).build.outcome = .error .baseWithUsername ∧
      (Start.blank.run both).build.outcome = .error .baseWithPrivateMailboxes ∧
      ((Start.blank.run (both ++ settings')).build.outcome = .error .baseWithPrivateMailboxes ∨
        (Start.blank.run (both ++ settings')).build.outcome = .error .baseWithUsername) := by
  intro start settings settings' both
  have hp : Given private? (start.history settings) := isSome_last_iff.1 rfl
  have hp' : Given private? (Start.blank.history settings') := isSome_last_iff.1 rfl
  have hagree : Agree (start.history settings) (Start.blank.history settings') :=
    ⟨by decide, by decide, iff_of_true hp hp', by decide, by decide⟩
  obtain ⟨hbuild, -, huser, hprivate⟩ := build_run
  have hu : (start.run both).build.outcome = .error .baseWithUsername := rfl
  have hm : (Start.blank.run both).build.outcome = .error .baseWithPrivateMailboxes := rfl
  exact ⟨hagree, hbuild _ _ _ _ hagree, hu, huser _ _ settings hu, hm, hprivate _ _ settings' hm⟩

theorem exists_build_eq_ok (q : Query) :
    ∃ settings, (({} : Builder).setAll settings).build.outcome = .ok q := by
  obtain ⟨base, expression, delimiter⟩ := q
  refine ⟨.base base :: (expression.map Setting.expression).toList ++ [.session { delimiter }], ?_⟩
  rw [outcome_build]
  cases expression <;> rfl

end Builder

end MailboxSearch
