namespace MailboxSearch

inductive Level
  | error
  | warn
  | info
  | debug
  | trace
  deriving DecidableEq

namespace Level

def name : Level → String
  | error => "ERROR"
  | warn => "WARN"
  | info => "INFO"
  | debug => "DEBUG"
  | trace => "TRACE"

def rank : Level → Nat
  | error => 1
  | warn => 2
  | info => 3
  | debug => 4
  | trace => 5

def ofName? (name : String) : Option (Option Level) :=
  match name.toUpper with
  | "OFF" => some none
  | "ERROR" => some (some error)
  | "WARN" => some (some warn)
  | "INFO" => some (some info)
  | "DEBUG" => some (some debug)
  | "TRACE" => some (some trace)
  | _ => none

def shows (threshold level : Level) : Bool :=
  level.rank ≤ threshold.rank

end Level

structure Record where
  level : Level
  target : String
  text : String
  deriving DecidableEq

def Record.render (r : Record) : String :=
  "[" ++ r.level.name ++ "][" ++ r.target ++ "] " ++ r.text

/-- A value or an error, with the records made up to there. -/
structure Logged (ε α : Type) where
  outcome : Except ε α
  records : List Record := []

namespace Logged

variable {ε α β : Type}

def note (r : Record) : Logged ε Unit where
  outcome := .ok ()
  records := [r]

def ofExcept (x : Except ε α) : Logged ε α where
  outcome := x

protected def bind (x : Logged ε α) (f : α → Logged ε β) : Logged ε β :=
  match x.outcome with
  | .error e => { outcome := .error e, records := x.records }
  | .ok a =>
    let y := f a
    { outcome := y.outcome, records := x.records ++ y.records }

instance : Monad (Logged ε) where
  pure a := ofExcept (.ok a)
  bind := Logged.bind

@[simp] theorem outcome_pure (a : α) : (pure a : Logged ε α).outcome = .ok a := rfl

@[simp] theorem outcome_ofExcept (x : Except ε α) : (ofExcept x).outcome = x := rfl

@[simp] theorem outcome_note (r : Record) : (note r : Logged ε Unit).outcome = .ok () := rfl

@[simp] theorem outcome_bind (x : Logged ε α) (f : α → Logged ε β) :
    (x >>= f).outcome = x.outcome >>= fun a => (f a).outcome := by
  cases x with
  | mk outcome records =>
    cases outcome with
    | error e => rfl
    | ok a => rfl

end Logged

end MailboxSearch
