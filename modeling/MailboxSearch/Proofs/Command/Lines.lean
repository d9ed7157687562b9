import MailboxSearch.Proofs.Command.Output
import MailboxSearch.Proofs.Path.Text

namespace MailboxSearch

variable {q : Query} {p : Path} {stored answer : List Path}

theorem Query.printedApart_found (h : Path.Legible stored) (hanswer : ∀ p ∈ answer, p ∈ stored) :
    Path.PrintedApart (Path.arrange (answer.filter q.isPathMatch)) := by
  apply h.printedApart
  · intro p hp
    exact hanswer p (mem_found.1 hp).1
  · exact (Path.ascending_arrange _).nodup

theorem Query.nodup_map_render_found (h : Path.Legible stored)
    (hanswer : ∀ p ∈ answer, p ∈ stored) (hc : ∀ p ∈ stored, p.ColonFree) :
    ((Path.arrange (answer.filter q.isPathMatch)).map Path.render).Nodup := by
  apply (printedApart_found h hanswer).nodup_map_render
  intro p hp
  exact hc p (hanswer p (mem_found.1 hp).1)

/--
Two paths without a colon in namespace or owner are printed alike if and only if they are equal but
for parts that one lacks and the other has empty. So where no two stored paths differ in that alone,
what a search over any backend finds is printed as pairwise different texts, and so are the lines of
`list`.
-/
theorem render_tells_apart :
    (∀ p q : Path, p.ColonFree → q.ColonFree → (p.render = q.render ↔ p.filled = q.filled)) ∧
    ∀ stored, Path.Legible stored →
      (∀ (q : Query) (backend : Backend) (answer : List Path),
        (backend q.pathLike).outcome = .ok answer → (∀ p ∈ answer, p ∈ stored) →
        ∃ found, (q.list backend).outcome = .ok found ∧ Path.PrintedApart found ∧
          ((∀ p ∈ stored, p.ColonFree) → (found.map Path.render).Nodup)) ∧
      ∀ (library : LogLibrary) (files : Files Id) (o : ListOptions) (root : String) (log : Log)
          (c : Config) (r : Roster),
        o.Loads library files root log c r → r.mailboxes = stored →
        ¬ o.Contradictory (o.session c) →
        ∃ (outcome : Outcome) (found : List Path),
          (Request.list o).run files library = .finished outcome ∧
          ((o.query (o.session c)).list (Inventory.ofList stored).backend).outcome = .ok found ∧
          outcome.output = o.logged log c r ++ unlines (found.map Path.render) ∧
          Path.PrintedApart found ∧
          ((∀ p ∈ stored, p.ColonFree) → (found.map Path.render).Nodup) := by
  refine ⟨fun p q => Path.render_eq_iff, ?_⟩
  intro stored h
  constructor
  · intro q backend answer ho hanswer
    exact ⟨_, Query.outcome_list_of_ok ho, Query.printedApart_found h hanswer,
      Query.nodup_map_render_found h hanswer⟩
  · rintro library files o root log c r hl rfl hc
    have hall : ∀ p ∈ r.mailboxes, p ∈ r.mailboxes := fun p => id
    exact ⟨o.run library files, _, rfl, Query.outcome_list_ofList _ _, (hl.shows hc).output_eq,
      Query.printedApart_found h hall, Query.nodup_map_render_found h hall⟩

theorem render_tells_apart_two :
    let p : Path := { owner := some "al", name := some ":b" }
    let q : Path := { space := some "", owner := some "al", name := some ":b" }
    let any : Query := { base := {}, expression := some "*", delimiter := '.' }
    let o : ListOptions := { root := some "/r", anyOwner := true, all := true }
    let files := ListOptions.installation none {} ListOptions.double
    let log : Log := .toNotices .warn
    let stored := ListOptions.double.mailboxes
    (p.ColonFree ∧ q.ColonFree ∧ p ≠ q ∧ p.render = q.render) ∧
      Path.Legible stored ∧ (∀ p ∈ stored, p.ColonFree) ∧
      (∃ found, (any.list fun _ => pure stored).outcome = .ok found ∧
        (found.map Path.render).Nodup) ∧
      o.Loads .console files "/r" log {} ListOptions.double ∧ ¬ o.Contradictory (o.session {}) ∧
      ∃ (outcome : Outcome) (found : List Path), (Request.list o).run files = .finished outcome ∧
        outcome.output = unlines (found.map Path.render) ∧ (found.map Path.render).Nodup := by
  intro p q any o files log stored
  have hp : p.ColonFree := ⟨by decide, by decide⟩
  have hq : q.ColonFree := ⟨by decide, by decide⟩
  have hfilled : ∀ p ∈ stored, ∀ q ∈ stored, p.filled = q.filled → p = q := by decide
  have hlegible : Path.Legible stored := fun p hp q hq _ _ => hfilled p hp q hq
  have hfree : ∀ p ∈ stored, ':' ∉ (p.space.getD "").toList ∧ ':' ∉ (p.owner.getD "").toList := by
    decide
  have hcolons : ∀ p ∈ stored, p.ColonFree := fun p hp => ⟨(hfree p hp).1, (hfree p hp).2⟩
  have hl : o.Loads .console files "/r" log {} ListOptions.double :=
    ListOptions.loads_installation rfl rfl ListOptions.keeps_installation_none
  have hc : ¬ o.Contradictory (o.session {}) := by decide
  obtain ⟨hrender, hstored⟩ := render_tells_apart
  obtain ⟨hlist, hcommand⟩ := hstored stored hlegible
  obtain ⟨found, ho, -, hn⟩ := hlist any (fun _ => pure stored) stored rfl fun p hp => hp
  obtain ⟨outcome, printed, hrun, -, houtput, -, hn'⟩ :=
    hcommand .console files o "/r" log {} _ hl rfl hc
  exact ⟨⟨hp, hq, by decide, (hrender p q hp hq).2 (by decide)⟩, hlegible, hcolons,
    ⟨found, ho, hn hcolons⟩, hl, hc, outcome, printed, hrun, houtput, hn' hcolons⟩

end MailboxSearch
