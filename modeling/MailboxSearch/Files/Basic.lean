import MailboxSearch.Error

namespace MailboxSearch

structure Files (m : Type → Type) where
  isFile : String → m Bool
  readText : String → m (Except Fault String)

namespace Files

def join (directory path : String) : String :=
  if path.startsWith "/" || directory.isEmpty then path
  else if directory.endsWith "/" then directory ++ path
  else directory ++ "/" ++ path

structure Route where
  fromTop : Bool
  steps : List String
  deriving DecidableEq

/--
The route of a path. Slashes in a row count as one, the last ones not at all, and a dot is no step: only at the
front of a path that does not start at the top it is one, since it says so.
-/
def route (path : String) : Route :=
  let fromTop := path.startsWith "/"
  let parts := (path.splitOn "/").filter (· != "")
  let steps := parts.filter (· != ".")
  { fromTop, steps := if !fromTop && parts.head? == some "." then "." :: steps else steps }

end Files

end MailboxSearch
