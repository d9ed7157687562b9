import MailboxSearch.Proofs.Command.Options
import MailboxSearch.Proofs.Command.Stages

namespace MailboxSearch

/--
Whether what was printed after `before` is the stored paths of which `P` holds, in order and each on
a line.
-/
def Outcome.Lists (outcome : Outcome) (before : String) (stored : List Path) (P : Path → Prop) :
    Prop :=
  ∃ paths : List Path, outcome.output = before ++ unlines (paths.map Path.render) ∧
    Path.Ascending paths ∧ ∀ p, p ∈ paths ↔ p ∈ stored ∧ P p

namespace ListOptions

/-- Whether a run finds `root`, keeps `log` and is configured by `c`, and `r` lists the mailboxes. -/
structure Loads (o : ListOptions) (library : LogLibrary) (files : Files Id) (root : String)
    (log : Log) (c : Config) (r : Roster) : Prop
    extends Stocked library files o root log c r where
  root_eq : o.root.or (findRoot files roots) = some root

def owner? (o : ListOptions) (c : Config) : Option String :=
  if o.anyOwner then none else o.owner.or (o.user.or c.session.user)

structure Concerns (o : ListOptions) (c : Config) (p : Path) : Prop where
  space : p.space = some (o.space.getD Path.privateSpace)
  owner : ∀ owner, o.owner? c = some owner → p.owner = some owner

/-- Whether the expression after a reference starts with a delimiter that is a wildcard. -/
def Stray (o : ListOptions) (c : Config) : Prop :=
  (o.query (o.session c)).baseName ≠ [] ∧ (o.query (o.session c)).wildJoint = true

variable {library : LogLibrary} {files files' : Files Id} {o : ListOptions} {root root' : String}
  {log log' : Log} {c : Config} {r r' : Roster} {p : Path}

theorem inScope_query_iff : (o.query (o.session c)).inScope p = true ↔ o.Concerns c p := by
  have howner : (o.query (o.session c)).base.owner = o.owner? c := rfl
  have hspace : (o.query (o.session c)).base.space = some (o.space.getD Path.privateSpace) := rfl
  rw [Query.inScope, howner, hspace]
  constructor
  · intro h
    simp only [Bool.and_eq_true, beq_iff_eq, Option.all_eq_true] at h
    exact ⟨h.1.symm, h.2⟩
  · intro h
    simp only [Bool.and_eq_true, beq_iff_eq, Option.all_eq_true]
    exact ⟨h.space.symm, h.owner⟩

theorem Loads.run_eq (h : o.Loads library files root log c r) :
    o.run library files = o.runAt library files root := by
  have hroot := h.root_eq
  rw [run]
  cases ho : o.root with
  | some root' =>
    rw [ho] at hroot
    cases hroot
    rfl
  | none =>
    rw [ho, Option.none_or] at hroot
    rw [bind_of_eq hroot]

theorem Loads.shows (h : o.Loads library files root log c r)
    (hc : ¬ o.Contradictory (o.session c)) :
    (o.run library files).Shows .success
      (o.logged log c r ++ unlines ((Path.arrange
        (r.mailboxes.filter (o.query (o.session c)).isPathMatch)).map Path.render)) := by
  rw [h.run_eq]
  exact h.shows_of_ok (outcome_build_of_not_contradictory hc)

theorem Loads.shows_of_contradictory (h : o.Loads library files root log c r)
    (hc : o.Contradictory (o.session c)) :
    (o.run library files).Shows .usage (o.logged log c r) := by
  rw [h.run_eq]
  exact h.shows_of_error (outcome_build_eq_error_iff.2 ⟨hc, rfl⟩)

theorem loads_installation {logging : Option String} (hroot : o.root = some "/r")
    (hi : c.inventory = "mailboxes.toml")
    (h : Keeps library (installation logging c r) o "/r" log) :
    o.Loads library (installation logging c r) "/r" log c r where
  toStocked := stocked_installation hi h
  root_eq := by rw [hroot, Option.some_or]

theorem Loads.lists_of_iff (h : o.Loads library files root log c r)
    (hc : ¬ o.Contradictory (o.session c)) {P : Path → Prop}
    (hP : ∀ p, (o.query (o.session c)).isPathMatch p = true ↔ P p) :
    (o.run library files).Lists (o.logged log c r) r.mailboxes P := by
  refine ⟨_, (h.shows hc).output_eq, Path.ascending_arrange _, ?_⟩
  intro p
  rw [Query.mem_found, hP]

theorem isPathMatch_query_iff (h : ¬ o.Stray c) :
    (o.query (o.session c)).isPathMatch p = true ↔
      o.Concerns c p ∧ (o.query (o.session c)).LiesAtBase p.nameText.toList := by
  rw [Stray, not_and_or, not_not, Bool.not_eq_true] at h
  rw [Query.isPathMatch_iff_liesAtBase h, inScope_query_iff]

/--
Unless its options contradict each other, `list` succeeds. On its output is what its log writes
there, if that is one of its own, and then the mailboxes of the namespace and the owner that are
asked for whose names lie at the reference as the expression says.
-/
theorem list_prints (h : o.Loads library files root log c r)
    (hc : ¬ o.Contradictory (o.session c)) :
    ∃ outcome, (Request.list o).run files library = .finished outcome ∧ outcome.status.code = 0 ∧
      (¬ o.Stray c → outcome.Lists (o.logged log c r) r.mailboxes fun p =>
        o.Concerns c p ∧ (o.query (o.session c)).LiesAtBase p.nameText.toList) ∧
      (files.isFile (Files.join root logName) = false → o.logged log c r = "") := by
  refine ⟨o.run library files, rfl, ?_, ?_, ?_⟩
  · rw [(h.shows hc).status_eq]
    rfl
  · intro hs
    exact h.lists_of_iff hc fun p => isPathMatch_query_iff hs
  · exact h.log.output_eq_of_not_isFile

theorem list_prints_beneath :
    let o : ListOptions :=
      { root := some "/r", owner := some "bo", reference := some "n.", pattern := some "%" }
    let r : Roster := { mailboxes := [.ofOwner "bo" "n.x", .ofOwner "bo" "nxs"] }
    let files := installation (some loggingText) {} r
    let log : Log := .toOutput .info
    o.Loads outputLibrary files "/r" log {} r ∧ ¬ o.Contradictory (o.session {}) ∧ ¬ o.Stray {} ∧
      ∃ outcome, (Request.list o).run files outputLibrary = .finished outcome ∧
        outcome.status.code = 0 ∧
        (outcome.Lists (o.logged log {} r) r.mailboxes fun p =>
          o.Concerns {} p ∧ (o.query (o.session {})).LiesAtBase p.nameText.toList) ∧
        outcome.output = "Loaded 2 mailboxes\n#private:bo:n.x\n" := by
  intro o r files log
  have h : o.Loads outputLibrary files "/r" log {} r :=
    loads_installation rfl rfl keeps_outputLibrary
  have hc : ¬ o.Contradictory (o.session {}) := by decide
  have hs : ¬ o.Stray {} := by
    rintro ⟨-, hw⟩
    revert hw
    decide
  obtain ⟨outcome, hrun, hcode, hlists, -⟩ := list_prints h hc
  have hprinted : outcome.output = "Loaded 2 mailboxes\n#private:bo:n.x\n" := by
    cases hrun
    rw [(h.shows hc).output_eq]
    decide +kernel
  exact ⟨h, hc, hs, outcome, hrun, hcode, hlists hs, hprinted⟩

/-- A log of its own that has its records on the output comes ahead of the mailboxes. -/
theorem not_list_prints_alone :
    ¬ ∀ (library : LogLibrary) (files : Files Id) (o : ListOptions) (root : String) (log : Log)
        (c : Config) (r : Roster),
      o.Loads library files root log c r → ¬ o.Contradictory (o.session c) → ¬ o.Stray c →
        ∃ outcome, (Request.list o).run files library = .finished outcome ∧
          outcome.status.code = 0 ∧
          outcome.Lists "" r.mailboxes fun p =>
            o.Concerns c p ∧ (o.query (o.session c)).LiesAtBase p.nameText.toList := by
  intro hall
  let o : ListOptions := { root := some "/r" }
  have h : o.Loads outputLibrary (installation (some loggingText) {} {}) "/r" (.toOutput .info)
      {} {} :=
    loads_installation rfl rfl keeps_outputLibrary
  have hc : ¬ o.Contradictory (o.session {}) := by decide
  have hs : ¬ o.Stray {} := by
    rintro ⟨hb, -⟩
    exact hb rfl
  obtain ⟨outcome, hrun, -, paths, houtput, -, hpaths⟩ := hall _ _ o _ _ _ _ h hc hs
  cases hrun
  have hnil : paths = [] := by
    apply List.eq_nil_iff_forall_not_mem.2
    intro p hp
    exact List.not_mem_nil ((hpaths p).1 hp).1
  rw [hnil, (h.shows hc).output_eq] at houtput
  exact absurd houtput (by decide +kernel)

theorem isPathMatch_query_of_owner {owner : String} (ho : o.owner? c = some owner)
    (hp : (o.query (o.session c)).isPathMatch p = true) :
    p.space = some (o.space.getD Path.privateSpace) ∧ p.owner = some owner := by
  have hscope := inScope_query_iff.1 (Query.isPathMatch_iff.1 hp).1
  exact ⟨hscope.space, hscope.owner owner ho⟩

/-- How many mailboxes there are, and how many of them a backend would offer. -/
def counts (o : ListOptions) (c : Config) (r : Roster) : Nat × Nat :=
  let inv := Inventory.ofList r.mailboxes
  (inv.size, (inv.find (o.query (o.session c)).pathLike).length)

/-- What the log of a search takes. Of the mailboxes that are not found there are two numbers in it. -/
def told (o : ListOptions) (c : Config) (found : List Path) (counts : Nat × Nat) : List LogEntry :=
  let built := (o.builder (o.session c)).build
  let records :=
    match built.outcome with
    | .error e => [.fatal e.message]
    | .ok q =>
      [Inventory.answered q.pathLike counts.2 counts.1, q.searched counts.2 found.length]
  (loaded counts.1 :: built.records ++ records).map fun record => { record }

theorem logged_of_contradictory (hc : o.Contradictory (o.session c)) (found : List Path) :
    o.logged log c r = (log.write (o.told c found (o.counts c r))).output := by
  have hb := outcome_build_eq_error_iff.2 ⟨hc, rfl⟩
  rw [logged, entries, search, told, hb]
  rfl

theorem logged_of_not_contradictory (hc : ¬ o.Contradictory (o.session c)) :
    o.logged log c r = (log.write (o.told c
      (Path.arrange (r.mailboxes.filter (o.query (o.session c)).isPathMatch))
      (o.counts c r))).output := by
  rw [logged, entries, search, told, outcome_build_of_not_contradictory hc]
  dsimp only
  rw [Query.outcome_list_ofList, Query.records_list_ofList]
  rfl

def single : Roster where
  mailboxes := [.ofOwner "al" "nxs"]

def double : Roster where
  mailboxes := [.ofOwner "bo" "n.x", .ofOwner "al" "nxs"]

theorem mem_single_iff_mem_double {p : Path} (h : p.owner = some "al") :
    p ∈ single.mailboxes ↔ p ∈ double.mailboxes := by
  have hne : p ≠ .ofOwner "bo" "n.x" := by
    rintro rfl
    exact absurd h (by decide)
  simp [single, double, hne]

/--
What one owner is shown depends on nothing but that owner's mailboxes in the namespace. For two
rosters that agree on those, `list` ends with the same exit status and prints the same mailboxes,
all of that owner. A log that writes on the output may tell how many others there are, and of how
many the names are like what is asked for, but nothing else.
-/
theorem list_isolated {owner : String} (ho : o.owner? c = some owner)
    (h : o.Loads library files root log c r) (h' : o.Loads library files' root' log' c r')
    (hagree : ∀ p : Path, p.space = some (o.space.getD Path.privateSpace) →
      p.owner = some owner → (p ∈ r.mailboxes ↔ p ∈ r'.mailboxes)) :
    ∃ (outcome outcome' : Outcome) (paths : List Path),
      (Request.list o).run files library = .finished outcome ∧
      (Request.list o).run files' library = .finished outcome' ∧
      outcome.status = outcome'.status ∧
      outcome.output = (log.write (o.told c paths (o.counts c r))).output ++
        unlines (paths.map Path.render) ∧
      outcome'.output = (log'.write (o.told c paths (o.counts c r'))).output ++
        unlines (paths.map Path.render) ∧
      (∀ p ∈ paths, p.space = some (o.space.getD Path.privateSpace) ∧ p.owner = some owner) ∧
      (files.isFile (Files.join root logName) = false →
        files'.isFile (Files.join root' logName) = false → outcome.output = outcome'.output) := by
  obtain ⟨status, paths, hs, hs', hpaths⟩ : ∃ (status : Status) (paths : List Path),
      (o.run library files).Shows status ((log.write (o.told c paths (o.counts c r))).output ++
        unlines (paths.map Path.render)) ∧
      (o.run library files').Shows status ((log'.write (o.told c paths (o.counts c r'))).output ++
        unlines (paths.map Path.render)) ∧
      ∀ p ∈ paths, p.space = some (o.space.getD Path.privateSpace) ∧ p.owner = some owner := by
    by_cases hc : o.Contradictory (o.session c)
    · have hnil : unlines ([].map Path.render) = "" := rfl
      refine ⟨.usage, [], ?_, ?_, List.forall_mem_nil _⟩
      · rw [hnil, String.append_empty, ← logged_of_contradictory hc]
        exact h.shows_of_contradictory hc
      · rw [hnil, String.append_empty, ← logged_of_contradictory hc]
        exact h'.shows_of_contradictory hc
    · have hfound : Path.arrange (r'.mailboxes.filter (o.query (o.session c)).isPathMatch) =
          Path.arrange (r.mailboxes.filter (o.query (o.session c)).isPathMatch) := by
        apply Query.found_congr
        intro p hp
        obtain ⟨hspace, howner⟩ := isPathMatch_query_of_owner ho hp
        exact (hagree p hspace howner).symm
      have hs := h.shows hc
      have hs' := h'.shows hc
      rw [logged_of_not_contradictory hc] at hs hs'
      rw [hfound] at hs'
      refine ⟨.success, _, hs, hs', ?_⟩
      intro p hp
      exact isPathMatch_query_of_owner ho (Query.mem_found.1 hp).2
  refine ⟨o.run library files, o.run library files', paths, rfl, rfl, ?_, hs.output_eq,
    hs'.output_eq, hpaths, ?_⟩
  · rw [hs.status_eq, hs'.status_eq]
  · intro hfile hfile'
    rw [hs.output_eq, hs'.output_eq, h.log.output_eq_of_not_isFile hfile,
      h'.log.output_eq_of_not_isFile hfile']

theorem list_isolated_neighbour :
    let o : ListOptions := { root := some "/r", user := some "al", pattern := some "n*" }
    let files := installation none {} single
    let files' := installation none {} double
    let log : Log := .toNotices .warn
    o.owner? {} = some "al" ∧ o.Loads .console files "/r" log {} single ∧
      o.Loads .console files' "/r" log {} double ∧
      (∀ p : Path, p.space = some (o.space.getD Path.privateSpace) → p.owner = some "al" →
        (p ∈ single.mailboxes ↔ p ∈ double.mailboxes)) ∧
      ∃ outcome outcome', (Request.list o).run files = .finished outcome ∧
        (Request.list o).run files' = .finished outcome' ∧ outcome.status = outcome'.status ∧
        outcome.output = outcome'.output ∧ outcome.output = "#private:al:nxs\n" := by
  intro o files files' log
  have h : o.Loads .console files "/r" log {} single :=
    loads_installation rfl rfl keeps_installation_none
  have h' : o.Loads .console files' "/r" log {} double :=
    loads_installation rfl rfl keeps_installation_none
  have hagree : ∀ p : Path, p.space = some (o.space.getD Path.privateSpace) →
      p.owner = some "al" → (p ∈ single.mailboxes ↔ p ∈ double.mailboxes) :=
    fun p _ => mem_single_iff_mem_double
  obtain ⟨outcome, outcome', -, hrun, hrun', hstatus, -, -, -, hsame⟩ :=
    list_isolated rfl h h' hagree
  have hprinted : outcome.output = "#private:al:nxs\n" := by
    cases hrun
    rw [(h.shows (by decide)).output_eq]
    decide +kernel
  exact ⟨rfl, h, h', hagree, outcome, outcome', hrun, hrun', hstatus,
    hsame isFile_installation_none isFile_installation_none, hprinted⟩

/-- A log of its own tells how many mailboxes there are. -/
theorem not_list_isolated_counted :
    ¬ ∀ (library : LogLibrary) (files files' : Files Id) (o : ListOptions) (root root' : String)
        (log log' : Log) (c : Config) (r r' : Roster) (owner : String),
      o.owner? c = some owner → o.Loads library files root log c r →
        o.Loads library files' root' log' c r' →
        (∀ p : Path, p.space = some (o.space.getD Path.privateSpace) →
          p.owner = some owner → (p ∈ r.mailboxes ↔ p ∈ r'.mailboxes)) →
        ∃ outcome outcome', (Request.list o).run files library = .finished outcome ∧
          (Request.list o).run files' library = .finished outcome' ∧
          outcome.output = outcome'.output := by
  intro hall
  let o : ListOptions := { root := some "/r", user := some "al", pattern := some "n*" }
  have h (r : Roster) : o.Loads outputLibrary (installation (some loggingText) {} r) "/r"
      (.toOutput .info) {} r :=
    loads_installation rfl rfl keeps_outputLibrary
  obtain ⟨outcome, outcome', hrun, hrun', hsame⟩ :=
    hall _ _ _ o _ _ _ _ _ _ _ "al" rfl (h single) (h double)
      fun p _ => mem_single_iff_mem_double
  cases hrun
  cases hrun'
  rw [((h single).shows (by decide)).output_eq, ((h double).shows (by decide)).output_eq] at hsame
  exact absurd hsame (by decide +kernel)

end ListOptions

end MailboxSearch
