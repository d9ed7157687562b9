import MailboxSearch.Config.Format
import MailboxSearch.Files.Basic
import MailboxSearch.Inventory

namespace MailboxSearch.Config

variable {m : Type → Type} [Monad m]

def load (files : Files m) (path : String) : m (Except Error Config) := do
  match ← files.readText path with
  | .error fault => return .error (.io fault)
  | .ok text => return Config.ofToml text

def inventoryPath (c : Config) (root : String) : String :=
  Files.join root c.inventory

def loadInventory (files : Files m) (c : Config) (root : String) : m (Except Error Inventory) := do
  match ← files.readText (c.inventoryPath root) with
  | .error fault => return .error (.io fault)
  | .ok text => return (Roster.ofToml text).map fun r => Inventory.ofList r.mailboxes

end MailboxSearch.Config
