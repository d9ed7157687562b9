import MailboxSearch.Command.List
import MailboxSearch.Proofs.Query.Beneath
import MailboxSearch.Proofs.Query.Builder

namespace MailboxSearch.ListOptions

def expression? (o : ListOptions) : Option String :=
  if o.all then some Builder.everything
  else o.pattern.or (if o.privateMailboxes then some Builder.everything else none)

def query (o : ListOptions) (s : Session) : Query where
  base := o.base s
  expression := o.expression?
  delimiter := s.delimiter

def Contradictory (o : ListOptions) (s : Session) : Prop :=
  o.privateMailboxes = true ∧ (o.hasBase = true ∨ s.user = none)

instance (o : ListOptions) (s : Session) : Decidable (o.Contradictory s) :=
  inferInstanceAs (Decidable (_ ∧ _))

/-- How a contradiction is reported: a user that the session has counts as one that was given. -/
def conflict (o : ListOptions) (s : Session) : Error :=
  match o.hasBase, s.user with
  | true, some _ => .baseWithUsername
  | true, none => .baseWithPrivateMailboxes
  | false, _ => .privateMailboxesWithoutUsername

variable {o : ListOptions} {s : Session}

theorem builder_eq (o : ListOptions) (s : Session) :
    o.builder s = {
      base := if o.hasBase then some (o.base s) else none
      username := if o.privateMailboxes then s.user else none
      privateMailboxes := o.privateMailboxes
      expression := if o.all then some Builder.everything else o.pattern
      session := some s } := by
  rw [builder]
  cases o.privateMailboxes <;> cases hu : s.user <;> cases o.hasBase <;> cases o.all <;>
    cases o.pattern <;> simp [Builder.ofPrivate, Builder.set, hu]

theorem hasBase_eq_false_iff :
    o.hasBase = false ↔
      ((o.reference = none ∧ o.space = none) ∧ o.owner = none) ∧ o.anyOwner = false := by
  simp [hasBase]

theorem base_of_not_hasBase (h : o.hasBase = false) :
    o.base s = { space := some Path.privateSpace, owner := s.user, name := some "" } := by
  obtain ⟨⟨⟨hr, hs⟩, ho⟩, ha⟩ := hasBase_eq_false_iff.1 h
  simp [base, hr, hs, ho, ha]

theorem resolve_builder_of_contradictory (h : o.Contradictory s) :
    (o.builder s).resolve = .error (o.conflict s) := by
  obtain ⟨hp, hbu⟩ := h
  apply Builder.resolve_of_error
  rw [builder_eq, conflict, Builder.baseSource]
  cases hb : o.hasBase with
  | true => cases hu : s.user <;> simp [hp]
  | false =>
    have hu : s.user = none := by simpa [hb] using hbu
    simp [hp, hu]

theorem exists_baseSource_builder (h : ¬ o.Contradictory s) :
    ∃ source, (o.builder s).baseSource = .ok source ∧ Builder.sourcePath s source = o.base s ∧
      Builder.sourceExpression (if o.all then some Builder.everything else o.pattern) source =
        o.expression? := by
  rw [builder_eq]
  cases hp : o.privateMailboxes with
  | true =>
    -- private mailboxes want a user and no base
    simp only [Contradictory, hp, true_and, not_or, Bool.not_eq_true] at h
    obtain ⟨hb, hu⟩ := h
    obtain ⟨user, hu⟩ := Option.ne_none_iff_exists'.1 hu
    refine ⟨.privateMailboxes user, by simp [Builder.baseSource, hb, hu], ?_, ?_⟩
    · rw [base_of_not_hasBase hb, hu]
      rfl
    · cases ha : o.all <;> cases he : o.pattern <;>
        simp [Builder.sourceExpression, expression?, hp, ha, he]
  | false =>
    have he : o.expression? = if o.all then some Builder.everything else o.pattern := by
      simp [expression?, hp]
    cases hb : o.hasBase with
    | true => exact ⟨.given (o.base s), by simp [Builder.baseSource], rfl, he.symm⟩
    | false =>
      refine ⟨.sessionUser, by simp [Builder.baseSource], ?_, he.symm⟩
      rw [base_of_not_hasBase hb]
      rfl

theorem resolve_builder_of_not_contradictory (h : ¬ o.Contradictory s) :
    (o.builder s).resolve = .ok (o.query s) := by
  obtain ⟨source, hsource, hbase, hexpression⟩ := exists_baseSource_builder h
  have hs : (o.builder s).session = some s := by rw [builder_eq]
  have he : (o.builder s).expression = if o.all then some Builder.everything else o.pattern := by
    rw [builder_eq]
  rw [Builder.resolve_of_session hsource hs, he, hbase, hexpression]
  rfl

def Refused (o : ListOptions) (s : Session) : Error → Prop
  | .baseWithUsername => o.privateMailboxes = true ∧ o.hasBase = true ∧ s.user ≠ none
  | .baseWithPrivateMailboxes => o.privateMailboxes = true ∧ o.hasBase = true ∧ s.user = none
  | .privateMailboxesWithoutUsername =>
    o.privateMailboxes = true ∧ o.hasBase = false ∧ s.user = none
  | _ => False

theorem refused_iff {e : Error} : o.Refused s e ↔ o.Contradictory s ∧ e = o.conflict s := by
  rw [Contradictory, conflict]
  cases hb : o.hasBase <;> cases hu : s.user <;> cases e <;> simp [Refused, hb, hu]

theorem outcome_build_eq_error_iff {e : Error} :
    (o.builder s).build.outcome = .error e ↔ o.Contradictory s ∧ e = o.conflict s := by
  rw [Builder.outcome_build]
  by_cases h : o.Contradictory s
  · rw [resolve_builder_of_contradictory h, Except.error.injEq, and_iff_right h, eq_comm]
  · simp [resolve_builder_of_not_contradictory h, h]

theorem outcome_build_of_not_contradictory (h : ¬ o.Contradictory s) :
    (o.builder s).build.outcome = .ok (o.query s) := by
  rw [Builder.outcome_build, resolve_builder_of_not_contradictory h]

theorem eq_query_of_build {q : Query} (h : (o.builder s).build.outcome = .ok q) :
    q = o.query s := by
  by_cases hc : o.Contradictory s
  · rw [outcome_build_eq_error_iff.2 ⟨hc, rfl⟩] at h
    contradiction
  · rw [outcome_build_of_not_contradictory hc] at h
    cases h
    rfl

theorem query_privateMailboxes (h : o.all = true ∨ o.pattern.isSome = true) :
    ({ o with privateMailboxes := true } : ListOptions).query s = o.query s := by
  have he : ({ o with privateMailboxes := true } : ListOptions).expression? = o.expression? := by
    rcases h with ha | hp
    · simp [expression?, ha]
    · obtain ⟨pattern, hp⟩ := Option.isSome_iff_exists.1 hp
      simp [expression?, hp]
  rw [query, he]
  rfl

theorem query_owner {user : String} (hb : o.hasBase = false) (hu : s.user = some user) :
    ({ o with owner := some user } : ListOptions).query s = o.query s := by
  have hbase : ({ o with owner := some user } : ListOptions).base s = o.base s := by
    obtain ⟨⟨-, ho⟩, -⟩ := hasBase_eq_false_iff.1 hb
    simp [base, ho, hu]
  rw [query, hbase]
  rfl

/--
Options are refused where private mailboxes are asked for beside a base or without a user, with one
of three errors that tells which. All others come to one query, whichever way it is built. So a
pattern for a user's own mailboxes asks the same alone, with private mailboxes, and with that user
for the owner.
-/
theorem build_of_options (o : ListOptions) (s : Session) :
    (∀ e, (o.builder s).build.outcome = .error e ↔ o.Refused s e) ∧
    ((∃ e, (o.builder s).build.outcome = .error e) ↔
      o.privateMailboxes = true ∧ (o.hasBase = true ∨ s.user = none)) ∧
    (¬ (o.privateMailboxes = true ∧ (o.hasBase = true ∨ s.user = none)) →
      (o.builder s).build.outcome = .ok {
        base := {
          space := some (o.space.getD "#private")
          owner := if o.anyOwner then none else o.owner.or s.user
          name := some (o.reference.getD "") }
        expression :=
          if o.all then some "*" else o.pattern.or (if o.privateMailboxes then some "*" else none)
        delimiter := s.delimiter }) ∧
    (∀ user, s.user = some user → o.hasBase = false → o.privateMailboxes = false →
      (o.all = true ∨ o.pattern.isSome = true) →
      ∃ q, (o.builder s).build.outcome = .ok q ∧
        (({ o with privateMailboxes := true } : ListOptions).builder s).build.outcome = .ok q ∧
        (({ o with owner := some user } : ListOptions).builder s).build.outcome = .ok q) := by
  refine ⟨?_, ?_, ?_, ?_⟩
  · intro e
    rw [outcome_build_eq_error_iff, refused_iff]
  · simp only [outcome_build_eq_error_iff, exists_and_left, exists_eq, and_true]
    exact Iff.rfl
  · exact outcome_build_of_not_contradictory
  · intro user hu hb hp he
    refine ⟨o.query s, ?_, ?_, ?_⟩
    · apply outcome_build_of_not_contradictory
      simp [Contradictory, hp]
    · rw [← query_privateMailboxes he]
      apply outcome_build_of_not_contradictory
      have hbase : ({ o with privateMailboxes := true } : ListOptions).hasBase = false := hb
      simp [Contradictory, hbase, hu]
    · rw [← query_owner hb hu]
      apply outcome_build_of_not_contradictory
      simp [Contradictory, hp]

theorem build_of_options_user :
    let o : ListOptions := { pattern := some "a%" }
    let r : ListOptions := { privateMailboxes := true, owner := some "al" }
    let s : Session := { user := some "al", delimiter := '/' }
    (o.hasBase = false ∧ o.privateMailboxes = false ∧ o.pattern.isSome = true) ∧
      (o.builder s).build.outcome =
        .ok { base := .ofOwner "al" "", expression := some "a%", delimiter := '/' } ∧
      (∃ q, (o.builder s).build.outcome = .ok q ∧
        (({ o with privateMailboxes := true } : ListOptions).builder s).build.outcome = .ok q ∧
        (({ o with owner := some "al" } : ListOptions).builder s).build.outcome = .ok q) ∧
      (r.builder s).build.outcome = .error .baseWithUsername := by
  intro o r s
  have ho : ¬ (o.privateMailboxes = true ∧ (o.hasBase = true ∨ s.user = none)) := by decide
  have hr : r.Refused s .baseWithUsername := ⟨rfl, rfl, by decide⟩
  obtain ⟨-, -, hquery, hsame⟩ := build_of_options o s
  exact ⟨⟨rfl, rfl, rfl⟩, hquery ho, hsame "al" rfl rfl rfl (.inr rfl),
    ((build_of_options r s).1 _).2 hr⟩

end MailboxSearch.ListOptions
