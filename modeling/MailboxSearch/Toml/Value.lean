import MailboxSearch.Toml.Scalar

namespace MailboxSearch.Toml

inductive Opening
  | inline
  | dotted
  | implied
  | declared
  deriving DecidableEq

inductive Value
  | string (text : String)
  | scalar (kind : Scalar)
  | array (items : List Value)
  | tables (items : List Value)
  | table (opening : Opening) (entries : List (String × Value))

abbrev Entries := List (String × Value)

namespace Value

def isOpen : Value → Bool
  | table .implied _ => true
  | table .declared _ => true
  | tables _ => true
  | _ => false

end Value

namespace Entries

def insertDotted (value : Value) : String → List String → Entries → Option Entries
  | key, [], es => some (es ++ [(key, value)])
  | key, next :: keys, es =>
    match es.span fun e => e.1 != key with
    | (before, []) => (insertDotted value next keys []).map fun inner => before ++ [(key, .table .dotted inner)]
    | (before, (_, .table .dotted inner) :: rest) =>
      (insertDotted value next keys inner).map fun inner => before ++ (key, .table .dotted inner) :: rest
    | _ => none

end Entries

structure Section where
  header : List String := []
  isItem : Bool := false
  entries : Entries := []

namespace Entries

/--
Adds a section to a table, by the part of its header that leads on from there. A table takes a header of its own
once, and none that begins an item; a key that leads to several tables means the last of them.
-/
def insertSection (isItem : Bool) (added : Entries) :
    List String → Opening → Entries → Option (Opening × Entries)
  | [], opening, es => if isItem || opening == .declared then none else some (.declared, es ++ added)
  | key :: keys, opening, es =>
    let beginsItem := isItem && keys.isEmpty
    let inner (opening : Opening) (es : Entries) : Option Value :=
      (insertSection isItem added keys opening es).map fun (opening, es) => .table opening es
    let place (before rest : Entries) (v : Option Value) : Option (Opening × Entries) :=
      v.map fun v => (opening, before ++ (key, v) :: rest)
    match es.span fun e => !(e.1 == key && e.2.isOpen) with
    | (before, []) =>
      place before [] (if beginsItem then some (.tables [.table .declared added]) else inner .implied [])
    | (before, (_, .table o es) :: rest) => place before rest (inner o es)
    | (before, (_, .tables items) :: rest) =>
      place before rest <|
        if beginsItem then some (.tables (items ++ [.table .declared added]))
        else
          match items.getLast? with
          | some (.table o es) => (inner o es).map fun last => .tables (items.dropLast ++ [last])
          | _ => none
    | _ => none

def insertAll (sections : List Section) (opening : Opening) (es : Entries) : Option (Opening × Entries) :=
  sections.foldlM (fun (opening, es) s => insertSection s.isItem s.entries s.header opening es) (opening, es)

def ofSections? (sections : List Section) : Option Entries :=
  (insertAll sections .implied []).map Prod.snd

end Entries

end MailboxSearch.Toml
