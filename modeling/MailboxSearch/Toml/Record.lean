import MailboxSearch.Toml.Document

namespace MailboxSearch.Toml

namespace Value

def string? : Value → Option String
  | .string text => some text
  | _ => none

def char? : Value → Option Char
  | .string text =>
    match text.toList with
    | [c] => some c
    | _ => none
  | _ => none

def list? : Value → Option (List Value)
  | .array items => some items
  | .tables items => some items
  | _ => none

def entries? : Value → Option Entries
  | .table _ es => some es
  | _ => none

end Value

/-- The value under a key, if there is one; no result if there are several. -/
def Entries.lookup? (key : String) (es : Entries) : Option (Option Value) :=
  match es.filter fun e => e.1 == key with
  | [] => some none
  | [(_, v)] => some (some v)
  | _ => none

def fieldsInOrder? (names : List String) (items : List Value) : Option (List (Option Value)) :=
  if items.length ≤ names.length then
    some (items.map some ++ List.replicate (names.length - items.length) none)
  else none

/-- The fields of a record in the order of their names. A date is a table without any of them. -/
def Value.fields? (names : List String) : Value → Option (List (Option Value))
  | .table _ es => names.mapM fun name => Entries.lookup? name es
  | .array items => fieldsInOrder? names items
  | .tables items => fieldsInOrder? names items
  | .scalar .date => some (names.map fun _ => none)
  | _ => none

def Value.namesOnly (names : List String) : Value → Bool
  | .table _ es => es.all fun e => names.contains e.1
  | .scalar .date => false
  | _ => true

def Value.onlyFields? (names : List String) (v : Value) : Option (List (Option Value)) :=
  if v.namesOnly names then v.fields? names else none

variable {α : Type}

def optional? (read : Value → Option α) : Option Value → Option (Option α)
  | none => some none
  | some v => (read v).map some

def withDefault? (default : α) (read : Value → Option α) : Option Value → Option α
  | none => some default
  | some v => read v

def writeField (name text : String) : String :=
  name ++ " = " ++ Quoted.write text ++ "\n"

def writeOptional (name : String) : Option String → String
  | none => ""
  | some text => writeField name text

end MailboxSearch.Toml
