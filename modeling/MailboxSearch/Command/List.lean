import MailboxSearch.Command.Basic
import MailboxSearch.Command.Logging
import MailboxSearch.Config.Load

namespace MailboxSearch

namespace ListOptions

def roots : List String :=
  ["/etc/mboxquery", "/usr/local/etc/mboxquery"]

def configName : String :=
  "mboxquery.toml"

def logName : String :=
  "logging.toml"

def rootless : Outcome where
  status := .config
  notices := [
    { text := "Neither /etc/mboxquery nor /usr/local/etc/mboxquery looks" },
    { text := "like the Mboxquery root; use --root=/path/to/mboxquery if" },
    { text := "your installation is elsewhere." }]

def session (o : ListOptions) (c : Config) : Session :=
  { c.session with user := o.user.or c.session.user }

def loaded (stored : Nat) : Record where
  level := .info
  target := commandTarget
  text := "Loaded " ++ toString stored ++ " mailboxes"

def search (o : ListOptions) (s : Session) (inv : Inventory) : Logged Status (List Path) :=
  let built := (o.builder s).build
  let records := loaded inv.size :: built.records
  match built.outcome with
  | .error e => { outcome := .error .usage, records := records ++ [.fatal e.message] }
  | .ok q =>
    let found := q.list inv.backend
    let records := records ++ found.records
    match found.outcome with
    | .error e =>
      { outcome := .error .software, records := records ++ [.fatal ("Listing failed: " ++ e.message)] }
    | .ok paths => { outcome := .ok paths, records }

def entries (o : ListOptions) (s : Session) (inv : Inventory) : List LogEntry :=
  (o.search s inv).records.map fun record => { record }

def answer (o : ListOptions) (log : Log) (s : Session) (inv : Inventory) : Outcome :=
  let own : Outcome :=
    match (o.search s inv).outcome with
    | .ok paths => { status := .success, output := unlines (paths.map Path.render) }
    | .error status => { status }
  own.after (log.write (o.entries s inv))

variable {m : Type → Type} [Monad m]

def findRoot (files : Files m) : List String → m (Option String)
  | [] => return none
  | root :: roots => do
    if ← files.isFile (Files.join root configName) then return some root
    findRoot files roots

/-- The log of a run in a root. A file there is handed to the library as it is, whatever the options say. -/
def openLog (library : LogLibrary) (files : Files m) (o : ListOptions) (root : String) :
    m (Except Error Log) := do
  let path := Files.join root logName
  if ← files.isFile path then
    match ← files.readText path with
    | .error fault => return .error (.io fault)
    | .ok text => return library text
  return .ok (.toNotices (if o.verbose then .debug else .warn))

def unloaded (c : Config) (root : String) (cause : Error) : LogEntry where
  record := .fatal ("Failed to load inventory '" ++ c.inventoryPath root ++ "': ")
  cause := some cause

def runAt (library : LogLibrary) (files : Files m) (o : ListOptions) (root : String) : m Outcome := do
  match ← o.openLog library files root with
  | .error cause =>
    let text := (Error.log (Files.join root logName ++ ": ")).message
    return { status := .config, notices := [{ text, cause := some cause }] }
  | .ok log =>
    let path := Files.join root configName
    match ← Config.load files path with
    | .error cause =>
      let text := "Error in config file at '" ++ path ++ "': "
      let own : Outcome := { status := .config, notices := [{ text, cause := some cause }] }
      return own.after (log.write [])
    | .ok config =>
      match ← config.loadInventory files root with
      | .error cause =>
        let own : Outcome := { status := .noInput }
        return own.after (log.write [unloaded config root cause])
      | .ok inv => return o.answer log (o.session config) inv

def run (library : LogLibrary) (files : Files m) (o : ListOptions) : m Outcome := do
  match o.root with
  | some root => o.runAt library files root
  | none =>
    match ← findRoot files roots with
    | some root => o.runAt library files root
    | none => return rootless

end ListOptions

end MailboxSearch
