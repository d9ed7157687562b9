import MailboxSearch.Command.Run

namespace MailboxSearch

def systemError (code : UInt32) : UInt32 :=
  min code (0 - code)

def Fault.ofIOError : IO.Error → Fault
  | .noFileOrDirectory .. => .notFound
  | .inappropriateType _ code _ => if systemError code == 20 then .notDirectory else .isDirectory
  | .invalidArgument _ code _ => if systemError code == 36 then .nameTooLong else .invalidPath
  | e => .other (toString e)

def readDisk (path : String) : IO (Except Fault ByteArray) := do
  try return .ok (← IO.FS.readBinFile path) catch e => return .error (Fault.ofIOError e)

/-- The files of the system. What can be found and is no directory counts as a file. -/
def disk : Files IO where
  isFile path := do
    match ← readDisk path with
    | .error fault => return !fault.isAbsence
    | .ok _ => return true
  readText path := do
    match ← readDisk path with
    | .error fault => return .error fault
    | .ok content =>
      match String.fromUTF8? content with
      | none => return .error .invalidText
      | some text => return .ok text

def helpText : List String := [
  "mboxquery list [OPTIONS] [PATTERN]",
  "    List the mailboxes matching a pattern, as namespace:owner:name.",
  "    --root DIR             the directory with mboxquery.toml",
  "    -v, --verbose          show what is done",
  "    -u, --user USER        run as this user",
  "    -r, --reference NAME   only match beneath this mailbox",
  "    --namespace NAMESPACE  search this namespace",
  "    --owner OWNER          search the mailboxes of this owner",
  "    --any-owner            search the mailboxes of all owners",
  "    --private              list the private mailboxes of the user",
  "    --all                  match every mailbox beneath the base",
  "mboxquery match [OPTIONS] PATTERN NAME...",
  "    Test mailbox names against a pattern.",
  "    -d, --delimiter CHAR   the hierarchy delimiter"]

def usageText : String :=
  "mboxquery: these arguments make no command; try mboxquery --help"

end MailboxSearch

open MailboxSearch in
def main (args : List String) : IO UInt32 := do
  match ← (Request.ofArguments args).run disk with
  | .help =>
    IO.print (unlines helpText)
    return 0
  | .misuse =>
    IO.eprintln usageText
    return Status.usage.code.toUInt32
  | .finished outcome =>
    for notice in outcome.notices do
      IO.eprintln notice.render
    IO.print outcome.output
    return outcome.status.code.toUInt32
