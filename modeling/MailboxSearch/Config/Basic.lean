import MailboxSearch.Files.Basic
import MailboxSearch.Path.Basic
import MailboxSearch.Session

namespace MailboxSearch

structure Config where
  session : Session := {}
  inventory : String := "mailboxes.toml"
  deriving DecidableEq

/-- Whether two configurations say the same; two paths do if they have one route. -/
def Config.same (c d : Config) : Bool :=
  c.session == d.session && Files.route c.inventory == Files.route d.inventory

def Config.isDefault (c : Config) : Bool :=
  c.same {}

structure Roster where
  mailboxes : List Path := []
  deriving DecidableEq

end MailboxSearch
