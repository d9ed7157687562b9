import MailboxSearch.Command.Run
import MailboxSearch.Proofs.Config.Format
import MailboxSearch.Proofs.Listing

namespace MailboxSearch

/-- Whether a file holds a text that is read as `a`, for files that stay as they are during a run. -/
def Files.Reads {α : Type} (files : Files Id) (read : String → Except Error α) (path : String)
    (a : α) : Prop :=
  ∃ text, files.readText path = .ok text ∧ read text = .ok a

def Files.readAs {α : Type} (files : Files Id) (read : String → Except Error α) (path : String) :
    Except Error α :=
  match files.readText path with
  | .error fault => .error (.io fault)
  | .ok text => read text

structure Outcome.Shows (outcome : Outcome) (status : Status) (output : String) : Prop where
  status_eq : outcome.status = status
  output_eq : outcome.output = output

theorem Files.reads_iff {α : Type} {files : Files Id} {read : String → Except Error α}
    {path : String} {a : α} :
    files.Reads read path a ↔ files.readAs read path = .ok a := by
  rw [Files.Reads, Files.readAs]
  cases files.readText path with
  | error fault =>
    constructor
    · rintro ⟨text, ht, -⟩
      contradiction
    · intro h
      contradiction
  | ok text =>
    constructor
    · rintro ⟨_, ht, h⟩
      cases ht
      exact h
    · intro h
      exact ⟨text, rfl, h⟩

theorem Outcome.shows_after (own : Outcome) (written : Writing) :
    (own.after written).Shows own.status (written.output ++ own.output) :=
  ⟨rfl, rfl⟩

theorem Outcome.shows_after_of_output_eq {own : Outcome} (h : own.output = "")
    (written : Writing) : (own.after written).Shows own.status written.output := by
  have hs := own.shows_after written
  rwa [h, String.append_empty] at hs

namespace ListOptions

variable {library : LogLibrary} {files : Files Id} {o : ListOptions} {root : String} {log : Log}
  {c : Config} {r : Roster}

def LogRejected (library : LogLibrary) (files : Files Id) (root : String) : Prop :=
  files.isFile (Files.join root logName) = true ∧
    ∀ log, ¬ files.Reads library (Files.join root logName) log

/-- Which log a run keeps: one that a file in the root sets up, or else one of notices. -/
inductive Keeps (library : LogLibrary) (files : Files Id) (o : ListOptions) (root : String) :
    Log → Prop
  | own {log : Log} (hfile : files.isFile (Files.join root logName) = true)
      (h : files.Reads library (Files.join root logName) log) : Keeps library files o root log
  | notices (hfile : files.isFile (Files.join root logName) = false) :
      Keeps library files o root (.toNotices (if o.verbose then .debug else .warn))

structure Configured (library : LogLibrary) (files : Files Id) (o : ListOptions) (root : String)
    (log : Log) (c : Config) : Prop where
  log : Keeps library files o root log
  config : files.Reads Config.ofToml (Files.join root configName) c

structure Stocked (library : LogLibrary) (files : Files Id) (o : ListOptions) (root : String)
    (log : Log) (c : Config) (r : Roster) : Prop
    extends Configured library files o root log c where
  roster : files.Reads Roster.ofToml (c.inventoryPath root) r

def logged (o : ListOptions) (log : Log) (c : Config) (r : Roster) : String :=
  (log.write (o.entries (o.session c) (Inventory.ofList r.mailboxes))).output

theorem exists_error_of_forall_ne {α : Type} {x : Except Error α} (h : ∀ a, x ≠ .ok a) :
    ∃ cause, x = .error cause := by
  cases x with
  | error cause => exact ⟨cause, rfl⟩
  | ok a => exact absurd rfl (h a)

theorem openLog_of_isFile (h : files.isFile (Files.join root logName) = true) :
    o.openLog library files root = files.readAs library (Files.join root logName) := by
  rw [openLog, h, Files.readAs]
  cases files.readText (Files.join root logName) <;> rfl

theorem openLog_of_not_isFile (h : files.isFile (Files.join root logName) = false) :
    o.openLog library files root = .ok (.toNotices (if o.verbose then .debug else .warn)) := by
  rw [openLog, h]
  rfl

theorem openLog_eq_ok_iff :
    o.openLog library files root = .ok log ↔ Keeps library files o root log := by
  cases hfile : files.isFile (Files.join root logName) with
  | false =>
    rw [openLog_of_not_isFile hfile]
    constructor
    · rintro ⟨rfl⟩
      exact .notices hfile
    · rintro (⟨h, -⟩ | -)
      · rw [hfile] at h
        contradiction
      · rfl
  | true =>
    rw [openLog_of_isFile hfile, ← Files.reads_iff]
    constructor
    · exact .own hfile
    · rintro (⟨-, h⟩ | h)
      · exact h
      · rw [hfile] at h
        contradiction

theorem LogRejected.exists_openLog_eq (h : LogRejected library files root) :
    ∃ cause, o.openLog library files root = .error cause := by
  rw [openLog_of_isFile h.1]
  apply exists_error_of_forall_ne
  intro log hlog
  exact h.2 log (Files.reads_iff.2 hlog)

theorem exists_keeps (o : ListOptions) (h : ¬ LogRejected library files root) :
    ∃ log, Keeps library files o root log := by
  cases hfile : files.isFile (Files.join root logName) with
  | false => exact ⟨_, .notices hfile⟩
  | true =>
    rw [LogRejected, and_iff_right hfile, not_forall_not] at h
    obtain ⟨log, hlog⟩ := h
    exact ⟨log, .own hfile hlog⟩

theorem loadInventory_eq :
    c.loadInventory files root =
      (files.readAs Roster.ofToml (c.inventoryPath root)).map
        fun r => Inventory.ofList r.mailboxes := by
  rw [Config.loadInventory, Files.readAs]
  cases files.readText (c.inventoryPath root) <;> rfl

theorem bind_of_eq {α β : Type} {x : Id α} {a : α} (h : x = a) (f : α → Id β) : x >>= f = f a :=
  congrArg f h

theorem shows_of_logRejected (h : LogRejected library files root) :
    (o.runAt library files root).Shows .config "" := by
  obtain ⟨cause, hcause⟩ := h.exists_openLog_eq (o := o)
  rw [runAt, bind_of_eq hcause]
  exact ⟨rfl, rfl⟩

theorem Keeps.shows {cause : Error} (h : Keeps library files o root log)
    (hc : files.readAs Config.ofToml (Files.join root configName) = .error cause) :
    (o.runAt library files root).Shows .config (log.write []).output := by
  have hload : Config.load files (Files.join root configName) = .error cause := hc
  rw [runAt, bind_of_eq (openLog_eq_ok_iff.2 h)]
  dsimp only
  rw [bind_of_eq hload]
  exact Outcome.shows_after_of_output_eq rfl _

theorem Configured.load_eq (h : Configured library files o root log c) :
    Config.load files (Files.join root configName) = .ok c :=
  Files.reads_iff.1 h.config

theorem Configured.shows {cause : Error} (h : Configured library files o root log c)
    (hr : files.readAs Roster.ofToml (c.inventoryPath root) = .error cause) :
    (o.runAt library files root).Shows .noInput (log.write [unloaded c root cause]).output := by
  have hload : c.loadInventory files root = .error cause := by
    rw [loadInventory_eq, hr]
    rfl
  rw [runAt, bind_of_eq (openLog_eq_ok_iff.2 h.log)]
  dsimp only
  rw [bind_of_eq h.load_eq]
  dsimp only
  rw [bind_of_eq hload]
  exact Outcome.shows_after_of_output_eq rfl _

theorem Stocked.runAt_eq (h : Stocked library files o root log c r) :
    o.runAt library files root = o.answer log (o.session c) (Inventory.ofList r.mailboxes) := by
  have hload : c.loadInventory files root = .ok (Inventory.ofList r.mailboxes) := by
    rw [loadInventory_eq, Files.reads_iff.1 h.roster]
    rfl
  rw [runAt, bind_of_eq (openLog_eq_ok_iff.2 h.log)]
  dsimp only
  rw [bind_of_eq h.load_eq]
  dsimp only
  rw [bind_of_eq hload]
  rfl

theorem outcome_search_of_error {s : Session} {inv : Inventory} {e : Error}
    (h : (o.builder s).build.outcome = .error e) : (o.search s inv).outcome = .error .usage := by
  rw [search, h]

theorem outcome_search_of_ok {s : Session} {stored : List Path} {q : Query}
    (h : (o.builder s).build.outcome = .ok q) :
    (o.search s (Inventory.ofList stored)).outcome =
      .ok (Path.arrange (stored.filter q.isPathMatch)) := by
  rw [search, h]
  dsimp only
  rw [Query.outcome_list_ofList]

theorem Stocked.shows_of_error {e : Error} (h : Stocked library files o root log c r)
    (he : (o.builder (o.session c)).build.outcome = .error e) :
    (o.runAt library files root).Shows .usage (o.logged log c r) := by
  rw [h.runAt_eq, answer, outcome_search_of_error he]
  exact Outcome.shows_after_of_output_eq rfl _

theorem Stocked.shows_of_ok {q : Query} (h : Stocked library files o root log c r)
    (hq : (o.builder (o.session c)).build.outcome = .ok q) :
    (o.runAt library files root).Shows .success
      (o.logged log c r ++
        unlines ((Path.arrange (r.mailboxes.filter q.isPathMatch)).map Path.render)) := by
  rw [h.runAt_eq, answer, outcome_search_of_ok hq]
  exact Outcome.shows_after _ _

/--
With which exit status and output `list` ends in a root. The first stage that fails decides, and
until then nothing but what the log writes is on the output.
-/
inductive Ends (library : LogLibrary) (files : Files Id) (o : ListOptions) (root : String) :
    Nat → String → Prop
  | log (h : LogRejected library files root) : Ends library files o root 78 ""
  | config {log : Log} {cause : Error} (h : Keeps library files o root log)
      (hc : files.readAs Config.ofToml (Files.join root configName) = .error cause) :
      Ends library files o root 78 (log.write []).output
  | inventory {log : Log} {c : Config} {cause : Error} (h : Configured library files o root log c)
      (hr : files.readAs Roster.ofToml (c.inventoryPath root) = .error cause) :
      Ends library files o root 66 (log.write [unloaded c root cause]).output
  | options {log : Log} {c : Config} {r : Roster} {e : Error}
      (h : Stocked library files o root log c r)
      (he : (o.builder (o.session c)).build.outcome = .error e) :
      Ends library files o root 64 (o.logged log c r)
  | success {log : Log} {c : Config} {r : Roster} {q : Query}
      (h : Stocked library files o root log c r)
      (hq : (o.builder (o.session c)).build.outcome = .ok q) :
      Ends library files o root 0
        (o.logged log c r ++
          unlines ((Path.arrange (r.mailboxes.filter q.isPathMatch)).map Path.render))

variable {code : Nat} {output : String}

theorem Ends.exists_shows (h : Ends library files o root code output) :
    ∃ status : Status, status.code = code ∧ (o.runAt library files root).Shows status output := by
  cases h with
  | log h => exact ⟨.config, rfl, shows_of_logRejected h⟩
  | config h hc => exact ⟨.config, rfl, h.shows hc⟩
  | inventory h hr => exact ⟨.noInput, rfl, h.shows hr⟩
  | options h he => exact ⟨.usage, rfl, h.shows_of_error he⟩
  | success h hq => exact ⟨.success, rfl, h.shows_of_ok hq⟩

theorem exists_ends (library : LogLibrary) (files : Files Id) (o : ListOptions) (root : String) :
    ∃ code output, Ends library files o root code output := by
  by_cases hl : LogRejected library files root
  · exact ⟨78, _, .log hl⟩
  obtain ⟨log, hlog⟩ := exists_keeps o hl
  cases hc : files.readAs Config.ofToml (Files.join root configName) with
  | error cause => exact ⟨78, _, .config hlog hc⟩
  | ok c =>
    have hconfig : Configured library files o root log c := ⟨hlog, Files.reads_iff.2 hc⟩
    cases hr : files.readAs Roster.ofToml (c.inventoryPath root) with
    | error cause => exact ⟨66, _, .inventory hconfig hr⟩
    | ok r =>
      have hstocked : Stocked library files o root log c r := ⟨hconfig, Files.reads_iff.2 hr⟩
      cases hb : (o.builder (o.session c)).build.outcome with
      | error e => exact ⟨64, _, .options hstocked hb⟩
      | ok q => exact ⟨0, _, .success hstocked hb⟩

theorem ends_iff :
    Ends library files o root code output ↔
      (o.runAt library files root).status.code = code ∧
        (o.runAt library files root).output = output := by
  constructor
  · intro h
    obtain ⟨status, rfl, hs⟩ := h.exists_shows
    exact ⟨congrArg Status.code hs.status_eq, hs.output_eq⟩
  · rintro ⟨rfl, rfl⟩
    obtain ⟨code, output, h⟩ := exists_ends library files o root
    obtain ⟨status, rfl, hs⟩ := h.exists_shows
    rwa [hs.status_eq, hs.output_eq]

theorem Keeps.output_eq_of_not_isFile {entries : List LogEntry}
    (h : Keeps library files o root log) (hfile : files.isFile (Files.join root logName) = false) :
    (log.write entries).output = "" := by
  cases h with
  | own h => rw [h] at hfile; contradiction
  | notices => rfl

theorem Ends.exists_keeps (h : Ends library files o root code output) (hne : code ≠ 0) :
    output = "" ∨ ∃ log entries, Keeps library files o root log ∧
      output = (log.write entries).output := by
  cases h with
  | log => exact .inl rfl
  | config h => exact .inr ⟨_, _, h, rfl⟩
  | inventory h => exact .inr ⟨_, _, h.log, rfl⟩
  | options h => exact .inr ⟨_, _, h.log, rfl⟩
  | success => contradiction

theorem run_of_root (h : o.root = some root) :
    o.run library files = o.runAt library files root := by
  rw [run, h]

end ListOptions

namespace MatchOptions

def printed (o : MatchOptions) : List String :=
  o.names.filter (Pattern.compile o.pattern o.delimiter).accepts

theorem run_eq (o : MatchOptions) :
    o.run = {
      status := if o.printed.isEmpty then .dataError else .success
      output := unlines o.printed } := rfl

theorem code_run (o : MatchOptions) :
    o.run.status.code = if o.printed.isEmpty then 65 else 0 := by
  rw [run_eq]
  cases o.printed <;> rfl

end MatchOptions

def Files.ofTexts (texts : List (String × String)) : Files Id where
  isFile path := (texts.lookup path).isSome
  readText path :=
    match texts.lookup path with
    | none => .error .notFound
    | some text => .ok text

theorem Files.reads_ofTexts {α : Type} {texts : List (String × String)} {path text : String}
    {read : String → Except Error α} {a : α} (h : texts.lookup path = some text)
    (hr : read text = .ok a) : (Files.ofTexts texts).Reads read path a :=
  ⟨text, by simp only [ofTexts, h], hr⟩

theorem join_logName : Files.join "/r" ListOptions.logName = "/r/logging.toml" := by
  decide +kernel

theorem join_configName : Files.join "/r" ListOptions.configName = "/r/mboxquery.toml" := by
  decide +kernel

theorem inventoryPath_eq {c : Config} (h : c.inventory = "mailboxes.toml") :
    c.inventoryPath "/r" = "/r/mailboxes.toml" := by
  rw [Config.inventoryPath, h]
  decide +kernel

def LogLibrary.knowing (known : String) (log : Log) : LogLibrary := fun text =>
  if text = known then .ok log else .error .toml

theorem LogLibrary.knowing_self (known : String) (log : Log) : knowing known log known = .ok log :=
  if_pos rfl

namespace ListOptions

/-- The set-up of a log that has each message from the level info on a line of the output. -/
def loggingText : String :=
  "[appenders.out]\nkind = \"console\"\n\n" ++
    "[appenders.out.encoder]\npattern = \"\x7bm\x7d\x7bn\x7d\"\n\n" ++
    "[root]\nlevel = \"info\"\nappenders = [\"out\"]\n"

def outputLibrary : LogLibrary :=
  .knowing loggingText (.toOutput .info)

def installation (logging : Option String) (c : Config) (r : Roster) : Files Id :=
  Files.ofTexts ((logging.map ("/r/logging.toml", ·)).toList ++
    [("/r/mboxquery.toml", c.toToml), ("/r/mailboxes.toml", r.toToml)])

theorem isFile_installation_none :
    (installation none c r).isFile (Files.join "/r" logName) = false := by
  rw [join_logName]
  rfl

theorem keeps_installation_none :
    Keeps library (installation none c r) o "/r"
      (.toNotices (if o.verbose then .debug else .warn)) :=
  .notices isFile_installation_none

theorem keeps_outputLibrary :
    Keeps outputLibrary (installation (some loggingText) c r) o "/r" (.toOutput .info) := by
  constructor
  · rw [join_logName]
    rfl
  · rw [join_logName]
    exact Files.reads_ofTexts rfl (LogLibrary.knowing_self _ _)

theorem stocked_installation {logging : Option String} (hi : c.inventory = "mailboxes.toml")
    (h : Keeps library (installation logging c r) o "/r" log) :
    Stocked library (installation logging c r) o "/r" log c r := by
  refine ⟨⟨h, ?_⟩, ?_⟩
  · rw [join_configName]
    cases logging <;> exact Files.reads_ofTexts rfl c.ofToml_toToml
  · rw [inventoryPath_eq hi]
    cases logging <;> exact Files.reads_ofTexts rfl r.ofToml_toToml

end ListOptions

/--
The first stage of `list` that fails decides its exit status, and then nothing is on the output but
what a log of its own writes there. The status of `match` tells whether a name was printed.
-/
theorem exit_status (library : LogLibrary) (files : Files Id) :
    (∀ (o : ListOptions) (root : String), o.root = some root →
      ∃ outcome, (Request.list o).run files library = .finished outcome ∧
        (∀ code output, outcome.status.code = code ∧ outcome.output = output ↔
          o.Ends library files root code output) ∧
        outcome.status.code ≠ 65 ∧ outcome.status.code ≠ 70 ∧
        (outcome.status.code ≠ 0 → outcome.output = "" ∨
          ∃ log entries, files.isFile (Files.join root ListOptions.logName) = true ∧
            files.Reads library (Files.join root ListOptions.logName) log ∧
            outcome.output = (log.write entries).output)) ∧
    (∀ o : MatchOptions,
      ∃ outcome, (Request.matchNames o).run files library = .finished outcome ∧
        outcome.output = unlines o.printed ∧
        (outcome.status.code = 0 ↔ o.printed ≠ []) ∧ (outcome.status.code = 65 ↔ o.printed = []) ∧
        outcome.status.code ≠ 70) := by
  constructor
  · intro o root hroot
    have hends : ListOptions.Ends library files o root _ _ := ListOptions.ends_iff.2 ⟨rfl, rfl⟩
    refine ⟨o.runAt library files root, ?_, ?_, ?_, ?_, ?_⟩
    · rw [← ListOptions.run_of_root hroot]
      rfl
    · intro code output
      exact ListOptions.ends_iff.symm
    · intro h
      rw [h] at hends
      cases hends
    · intro h
      rw [h] at hends
      cases hends
    · intro hne
      obtain hempty | ⟨log, entries, hkeeps, houtput⟩ := hends.exists_keeps hne
      · exact .inl hempty
      · cases hkeeps with
        | own hfile h => exact .inr ⟨log, entries, hfile, h, houtput⟩
        | notices => exact .inl houtput
  · intro o
    refine ⟨o.run, rfl, by rw [o.run_eq], ?_⟩
    rw [o.code_run]
    cases o.printed <;> simp

theorem exit_status_unstocked :
    let files := Files.ofTexts [("/r/mboxquery.toml", Config.toToml {})]
    let o : ListOptions := { root := some "/r", anyOwner := true, privateMailboxes := true }
    let m : MatchOptions := { pattern := "%", names := ["a.b", "a"] }
    o.root = some "/r" ∧
      (o.builder (o.session {})).build.outcome = .error .baseWithPrivateMailboxes ∧
      (∃ outcome, (Request.list o).run files = .finished outcome ∧
        outcome.status.code = 66 ∧ outcome.output = "") ∧
      ∃ outcome, (Request.matchNames m).run files = .finished outcome ∧
        outcome.output = "a\n" ∧ outcome.status.code = 0 := by
  intro files o m
  have hc : ListOptions.Configured .console files o "/r" (.toNotices .warn) {} := by
    constructor
    · exact .notices (by rw [join_logName]; rfl)
    · rw [join_configName]
      exact Files.reads_ofTexts rfl (Config.ofToml_toToml {})
  have hr : files.readAs Roster.ofToml (Config.inventoryPath {} "/r") =
      .error (.io .notFound) := by
    rw [inventoryPath_eq rfl]
    rfl
  obtain ⟨outcome, hrun, hends, -⟩ := (exit_status .console files).1 o "/r" rfl
  obtain ⟨outcome', hrun', houtput', hcode', -⟩ := (exit_status .console files).2 m
  obtain ⟨h66, houtput⟩ := (hends _ _).2 (.inventory hc hr)
  have hprinted : m.printed = ["a"] := by decide +kernel
  rw [hprinted] at houtput' hcode'
  exact ⟨rfl, rfl, ⟨outcome, hrun, h66, houtput⟩, outcome', hrun', houtput',
    hcode'.2 (List.cons_ne_nil _ _)⟩

/-- A log that has its records on the output has a failure there too. -/
theorem not_exit_status_silent :
    ¬ ∀ (library : LogLibrary) (files : Files Id) (o : ListOptions) (root : String),
      o.root = some root → ∃ outcome, (Request.list o).run files library = .finished outcome ∧
        (outcome.status.code ≠ 0 → outcome.output = "") := by
  intro hall
  let o : ListOptions := { root := some "/r", privateMailboxes := true }
  have h : ListOptions.Stocked ListOptions.outputLibrary
      (ListOptions.installation (some ListOptions.loggingText) {} {}) o "/r" (.toOutput .info) {}
      {} :=
    ListOptions.stocked_installation rfl ListOptions.keeps_outputLibrary
  have he : (o.builder (o.session {})).build.outcome =
      .error .privateMailboxesWithoutUsername := rfl
  have hs := h.shows_of_error he
  obtain ⟨outcome, hrun, hempty⟩ := hall ListOptions.outputLibrary _ o "/r" rfl
  cases hrun
  rw [ListOptions.run_of_root rfl, hs.status_eq, hs.output_eq] at hempty
  exact absurd (hempty (by decide)) (by decide +kernel)

end MailboxSearch
