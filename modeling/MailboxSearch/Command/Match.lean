import MailboxSearch.Command.Basic
import MailboxSearch.Command.Outcome

namespace MailboxSearch.MatchOptions

def builder (o : MatchOptions) : Builder :=
  Builder.setAll {} [.base {}, .expression o.pattern, .session { delimiter := o.delimiter }]

def matching (q : Query) (names : List String) : List String :=
  names.filter q.isExpressionMatch

def run (o : MatchOptions) : Outcome :=
  match o.builder.resolve with
  | .error e => { status := .software, notices := [{ text := (Record.fatal e.message).render }] }
  | .ok q =>
    let found := matching q o.names
    { status := if found.isEmpty then .dataError else .success, output := unlines found }

end MailboxSearch.MatchOptions
