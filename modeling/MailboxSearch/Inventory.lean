import MailboxSearch.Listing
import MailboxSearch.Path.Order

namespace MailboxSearch

structure Inventory where
  paths : List Path := []
  deriving DecidableEq

namespace Inventory

def place (p : Path) : List Path → Bool × List Path
  | [] => (true, [p])
  | q :: qs =>
    match Path.compare p q with
    | .lt => (true, p :: q :: qs)
    | .eq => (false, q :: qs)
    | .gt =>
      let (added, rest) := place p qs
      (added, q :: rest)

def insert (inv : Inventory) (p : Path) : Bool × Inventory :=
  let (added, paths) := place p inv.paths
  (added, { paths })

def insertAll (inv : Inventory) (ps : List Path) : Inventory :=
  ps.foldl (fun inv p => (inv.insert p).2) inv

def ofList (ps : List Path) : Inventory :=
  insertAll {} ps

def size (inv : Inventory) : Nat :=
  inv.paths.length

def isEmpty (inv : Inventory) : Bool :=
  inv.paths.isEmpty

def find (inv : Inventory) (like : Path) : List Path :=
  let start := (Pattern.literalPrefix like.nameText).toList
  let pattern := Pattern.like like.nameText
  inv.paths.filter fun p => start.isPrefixOf p.nameText.toList && pattern.accepts p.nameText

def answered (like : Path) (found stored : Nat) : Record where
  level := .trace
  target := "mboxquery::account::mapper"
  text := toString found ++ " of " ++ toString stored ++ " mailboxes are like " ++ like.render

def backend (inv : Inventory) : Backend := fun like => do
  let found := inv.find like
  Logged.note (answered like found.length inv.size)
  return found

end Inventory

end MailboxSearch
