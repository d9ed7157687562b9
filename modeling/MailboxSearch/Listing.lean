import MailboxSearch.Path.Order
import MailboxSearch.Query.Builder

namespace MailboxSearch

/-- A store of mailboxes: given a path, it offers those whose names are like the path's name. -/
abbrev Backend := Path → Logged Error (List Path)

def Query.searched (q : Query) (candidates found : Nat) : Record where
  level := .debug
  target := "mboxquery::account::list"
  text :=
    "Query " ++ Text.quoteOption q.expression ++ " under " ++ q.base.render ++ ": "
      ++ toString candidates ++ " candidates, " ++ toString found ++ " matches"

def Query.list (q : Query) (backend : Backend) : Logged Error (List Path) := do
  let candidates ← backend q.pathLike
  let found := Path.arrange (candidates.filter q.isPathMatch)
  Logged.note (q.searched candidates.length found.length)
  return found

end MailboxSearch
