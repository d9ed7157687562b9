import MailboxSearch.Command.Outcome
import MailboxSearch.Config.Format

namespace MailboxSearch

structure LogEntry where
  record : Record
  cause : Option Error := none

namespace LogEntry

def text (e : LogEntry) : String :=
  match e.cause with
  | none => e.record.text
  | some cause => e.record.text ++ cause.message

def notice (e : LogEntry) : Notice where
  text := e.record.render
  cause := e.cause

end LogEntry

structure Writing where
  output : String := ""
  notices : List Notice := []

/-- What a program leaves behind besides its log. An entry is written when it is made, so ahead of this. -/
def Outcome.after (own : Outcome) (written : Writing) : Outcome where
  status := own.status
  output := written.output ++ own.output
  notices := written.notices ++ own.notices

/-- A log, as what it writes in a run that makes these entries. -/
structure Log where
  write : List LogEntry → Writing

/-- Whatever sets up logs from texts. Which texts it rejects, and what its logs write and where, is up to it. -/
abbrev LogLibrary := String → Except Error Log

namespace Log

def silent : Log where
  write _ := {}

def shown (level : Level) (entries : List LogEntry) : List LogEntry :=
  entries.filter fun e => level.shows e.record.level

def toNotices (level : Level) : Log where
  write entries := { notices := (shown level entries).map LogEntry.notice }

def toOutput (level : Level) : Log where
  write entries := { output := unlines ((shown level entries).map LogEntry.text) }

end Log

namespace LogLibrary

open Toml

def isLineAppender (v : Value) : Bool :=
  match v.onlyFields? ["kind", "encoder"] with
  | some [some (.string "console"), some encoder] =>
    match encoder.onlyFields? ["pattern"] with
    | some [some (.string pattern)] => pattern == "\x7bm\x7d\x7bn\x7d"
    | _ => false
  | _ => false

def root? (v : Value) : Option (Option Level × List String) := do
  match ← v.onlyFields? ["level", "appenders"] with
  | [level, appenders] =>
    return (← withDefault? (some .debug) (fun v => do Level.ofName? (← v.string?)) level,
      ← withDefault? [] (fun v => do (← v.list?).mapM Value.string?) appenders)
  | _ => none

def log? (v : Value) : Option Log := do
  match ← v.onlyFields? ["root", "appenders"] with
  | [root, appenders] =>
    let (level, names) ← withDefault? (some .debug, []) root? root
    let known ← withDefault? [] Value.entries? appenders
    guard (known.all fun (_, v) => isLineAppender v)
    match level, names with
    | none, _ => some .silent
    | some _, [] => some .silent
    | some level, [name] => if known.any fun (key, _) => key == name then some (.toOutput level) else none
    | _, _ => none
  | _ => none

/-- The library that the program runs with unless it is given another. It knows one appender, and rejects the rest. -/
def console : LogLibrary :=
  readToml log?

end LogLibrary

end MailboxSearch
