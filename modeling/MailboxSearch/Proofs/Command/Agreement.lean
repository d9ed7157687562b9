import MailboxSearch.Proofs.Command.Options
import MailboxSearch.Proofs.Command.Stages

namespace MailboxSearch

/--
Whether a query for a pattern is what options of `list` come to, without a reference or with an
empty one, in a session with delimiter `d`.
-/
def Query.Listed (d : Char) (pattern : String) (q : Query) : Prop :=
  ∃ (o : ListOptions) (s : Session), (o.builder s).build.outcome = .ok q ∧
    s.delimiter = d ∧ (o.reference = none ∨ o.reference = some "") ∧ q.expression = some pattern

/-- Whether all those queries ask for whatever has a name, as far as it is in their scope. -/
def Agreed (d : Char) (pattern name : String) : Prop :=
  ∀ q : Query, q.Listed d pattern →
    ∀ p, q.inScope p = true → p.nameText = name → q.isPathMatch p = true

variable {d : Char} {pattern name : String} {q : Query} {p : Path}

theorem Query.exists_listed (d : Char) (pattern : String) : ∃ q : Query, q.Listed d pattern := by
  let o : ListOptions := { pattern := some pattern }
  have ho : ¬ o.Contradictory { delimiter := d } := by simp [o, ListOptions.Contradictory]
  exact ⟨_, o, _, ListOptions.outcome_build_of_not_contradictory ho, rfl, .inl rfl, rfl⟩

theorem Query.Listed.expression_eq (h : q.Listed d pattern) : q.expression = some pattern := by
  obtain ⟨o, s, -, -, -, he⟩ := h
  exact he

theorem Query.Listed.delimiter_eq (h : q.Listed d pattern) : q.delimiter = d := by
  obtain ⟨o, s, hq, rfl, -⟩ := h
  rw [ListOptions.eq_query_of_build hq]
  rfl

theorem Query.Listed.baseName_eq_nil (h : q.Listed d pattern) : q.baseName = [] := by
  obtain ⟨o, s, hq, -, hr, -⟩ := h
  have hname : o.reference.getD "" = "" := by
    cases hr with
    | inl hr => rw [hr, Option.getD_none]
    | inr hr => rw [hr, Option.getD_some]
  rw [ListOptions.eq_query_of_build hq]
  exact congrArg String.toList hname

theorem Query.Listed.isPathMatch_iff (h : q.Listed d pattern) :
    q.isPathMatch p = true ↔
      q.inScope p = true ∧ (Pattern.compile pattern d).accepts p.nameText = true := by
  have hs : q.expression.isSome = true := by rw [h.expression_eq]; rfl
  rw [Query.isPathMatch_iff_of_isSome hs, Query.stem_of_baseName_nil h.baseName_eq_nil,
    Query.expressionText_eq h.expression_eq, h.delimiter_eq, Pattern.accepts_compile_iff]
  simp only [List.nil_append, exists_eq_right']

theorem agreed_iff : Agreed d pattern name ↔ (Pattern.compile pattern d).accepts name = true := by
  constructor
  · intro h
    obtain ⟨q, hq⟩ := Query.exists_listed d pattern
    have hname : (q.named name.toList).nameText = name := String.ofList_toList
    have hp := h q hq _ (q.inScope_named name.toList) hname
    rw [hq.isPathMatch_iff, hname] at hp
    exact hp.2
  · rintro h q hq p hscope rfl
    exact hq.isPathMatch_iff.2 ⟨hscope, h⟩

instance : DecidablePred (Agreed d pattern) := fun _ => decidable_of_iff _ agreed_iff.symm

theorem MatchOptions.printed_eq (names : List String) :
    MatchOptions.printed { delimiter := d, pattern, names } =
      names.filter (Agreed d pattern ·) := by
  apply List.filter_congr
  intro name _
  rw [Bool.eq_iff_iff, decide_eq_true_iff, agreed_iff]

/--
`match` prints, in order and as often as they are given, the names on which all queries of `list`
for the same pattern under the same delimiter agree: they ask for whatever has such a name in their
scope. And they ask for nothing whose name `match` would not print.
-/
theorem match_agrees_with_list (d : Char) (pattern : String) :
    (∀ (library : LogLibrary) (files : Files Id) (names : List String), ∃ outcome,
      (Request.matchNames { delimiter := d, pattern, names }).run files library =
          .finished outcome ∧
        outcome.output = unlines (names.filter (Agreed d pattern ·))) ∧
    ∀ q : Query, q.Listed d pattern →
      ∀ p, q.isPathMatch p = true → Agreed d pattern p.nameText := by
  constructor
  · intro library files names
    refine ⟨_, rfl, ?_⟩
    rw [MatchOptions.run_eq, MatchOptions.printed_eq]
  · intro q hq p hp
    exact agreed_iff.2 (hq.isPathMatch_iff.1 hp).2

theorem match_agrees_with_list_percent :
    let q : Query := {
      base := { space := some "#private", name := some "" }
      expression := some "%a"
      delimiter := '%' }
    let p : Path := { space := some "#private", owner := some "bo", name := some "ba" }
    let m : MatchOptions := { delimiter := '%', pattern := "%a", names := ["ba", "%a", "ba", "a"] }
    q.Listed '%' "%a" ∧ q.isPathMatch p = true ∧ Agreed '%' "%a" p.nameText ∧
      ∃ outcome, (Request.matchNames m).run (Files.ofTexts []) = .finished outcome ∧
        outcome.output = "ba\nba\na\n" := by
  intro q p m
  have hq : q.Listed '%' "%a" := by
    let o : ListOptions := { reference := some "", anyOwner := true, pattern := some "%a" }
    exact ⟨o, { delimiter := '%' }, rfl, rfl, .inr rfl, rfl⟩
  have hp : q.isPathMatch p = true := by decide +kernel
  obtain ⟨hprint, hlist⟩ := match_agrees_with_list '%' "%a"
  obtain ⟨outcome, hrun, houtput⟩ := hprint .console (Files.ofTexts []) m.names
  exact ⟨hq, hp, hlist q hq p hp, outcome, hrun, houtput.trans (by decide +kernel)⟩

end MailboxSearch
