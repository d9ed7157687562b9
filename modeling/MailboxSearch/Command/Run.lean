import MailboxSearch.Command.List
import MailboxSearch.Command.Match

namespace MailboxSearch

inductive Answer
  | help
  | misuse
  | finished (outcome : Outcome)

def Request.run {m : Type → Type} [Monad m] (files : Files m) (request : Request)
    (library : LogLibrary := .console) : m Answer := do
  match request with
  | help => return .help
  | misuse => return .misuse
  | version program => return .finished { status := .success, output := program ++ " 1.0.0\n" }
  | list options => return .finished (← options.run library files)
  | matchNames options => return .finished options.run

end MailboxSearch
