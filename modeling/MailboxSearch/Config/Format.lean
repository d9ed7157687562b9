import MailboxSearch.Config.Basic
import MailboxSearch.Error
import MailboxSearch.Toml.Record

namespace MailboxSearch

open Toml

def readToml {α : Type} (read : Value → Option α) (text : String) : Except Error α :=
  match (parse? text).bind read with
  | some a => .ok a
  | none => .error .toml

namespace Path

def ofValue? (v : Value) : Option Path := do
  match ← v.fields? ["namespace", "owner", "name"] with
  | [space, owner, name] =>
    return {
      space := ← optional? Value.string? space
      owner := ← optional? Value.string? owner
      name := ← optional? Value.string? name }
  | _ => none

def ofToml (text : String) : Except Error Path :=
  readToml ofValue? text

def toToml (p : Path) : String :=
  writeOptional "namespace" p.space ++ writeOptional "owner" p.owner ++ writeOptional "name" p.name

end Path

namespace Session

def ofValue? (v : Value) : Option Session := do
  match ← v.fields? ["user", "delimiter"] with
  | [user, delimiter] =>
    return {
      user := ← optional? Value.string? user
      delimiter := ← withDefault? '.' Value.char? delimiter }
  | _ => none

def ofToml (text : String) : Except Error Session :=
  readToml ofValue? text

def toToml (s : Session) : String :=
  writeOptional "user" s.user ++ writeField "delimiter" (String.singleton s.delimiter)

end Session

namespace Roster

def ofValue? (v : Value) : Option Roster := do
  match ← v.fields? ["mailbox"] with
  | [mailboxes] =>
    return { mailboxes := ← withDefault? [] (fun v => do (← v.list?).mapM Path.ofValue?) mailboxes }
  | _ => none

def ofToml (text : String) : Except Error Roster :=
  readToml ofValue? text

def toToml (r : Roster) : String :=
  if r.mailboxes.isEmpty then "mailbox = []\n"
  else "\n".intercalate (r.mailboxes.map fun p => "[[mailbox]]\n" ++ p.toToml)

end Roster

namespace Config

def inventoryOfValue? (v : Value) : Option String := do
  match ← v.fields? ["path"] with
  | [path] => withDefault? "mailboxes.toml" Value.string? path
  | _ => none

def ofValue? (v : Value) : Option Config := do
  match ← v.fields? ["session", "inventory"] with
  | [session, inventory] =>
    return {
      session := ← withDefault? {} Session.ofValue? session
      inventory := ← withDefault? "mailboxes.toml" inventoryOfValue? inventory }
  | _ => none

def ofToml (text : String) : Except Error Config :=
  readToml ofValue? text

def toToml (c : Config) : String :=
  "[session]\n" ++ c.session.toToml ++ "\n[inventory]\n" ++ writeField "path" c.inventory

end Config

end MailboxSearch
