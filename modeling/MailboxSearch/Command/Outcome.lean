import MailboxSearch.Error
import MailboxSearch.Log

namespace MailboxSearch

inductive Status
  | success
  | usage
  | dataError
  | noInput
  | software
  | config
  deriving DecidableEq

def Status.code : Status → Nat
  | success => 0
  | usage => 64
  | dataError => 65
  | noInput => 66
  | software => 70
  | config => 78

/-- A text, and what caused it if it ends in that. -/
structure Notice where
  text : String
  cause : Option Error := none
  deriving DecidableEq

def Notice.render (n : Notice) : String :=
  match n.cause with
  | none => n.text
  | some e => n.text ++ e.message

def commandTarget : String :=
  "mboxquery::cli::list"

def Record.fatal (text : String) : Record where
  level := .error
  target := commandTarget
  text := text

structure Outcome where
  status : Status
  output : String := ""
  notices : List Notice := []
  deriving DecidableEq

def unlines (texts : List String) : String :=
  String.join (texts.map (· ++ "\n"))

end MailboxSearch
