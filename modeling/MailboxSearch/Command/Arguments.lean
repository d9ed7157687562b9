namespace MailboxSearch

structure Flag where
  name : String
  letter : Option Char := none
  takesValue : Bool := false
  standing : Option String := none

structure Usage where
  flags : List Flag
  operandLimit : Option Nat

def Usage.standing? (u : Usage) (name : String) : Option String := do
  let flag ← u.flags.find? fun f => f.name == name
  flag.standing

inductive Stop
  | help
  | version
  | misuse
  deriving DecidableEq

structure Arguments where
  options : List (String × String) := []
  operands : List String := []
  waiting : Option String := none
  unvalued : List String := []
  operandsOnly : Bool := false

namespace Arguments

def addOption (a : Arguments) (name value : String) : Arguments :=
  { a with options := a.options ++ [(name, value)] }

def addUnvalued (a : Arguments) (name : String) : Arguments :=
  { a with unvalued := a.unvalued ++ [name] }

def addOperand (u : Usage) (a : Arguments) (text : String) : Except Stop Arguments :=
  if u.operandLimit.all (a.operands.length < ·) then .ok { a with operands := a.operands ++ [text] }
  else .error .misuse

def addLong (u : Usage) (a : Arguments) (name : String) (value : Option String) : Except Stop Arguments :=
  if name == "help" then .error .help
  else if name == "version" then .error .version
  else
    match u.flags.find? fun f => f.name == name with
    | none => .error .misuse
    | some f =>
      if f.takesValue then
        match value with
        | some value => .ok (a.addOption name value)
        | none => .ok { a with waiting := some name }
      else .ok (a.addOption name "")

def addLetters (u : Usage) (a : Arguments) : List Char → Except Stop Arguments
  | [] => .ok a
  | c :: cs =>
    if c == 'h' then .error .help
    else if c == 'V' then .error .version
    else
      match u.flags.find? fun f => f.letter == some c with
      | none => .error .misuse
      | some f =>
        if f.takesValue then
          if cs.isEmpty then .ok { a with waiting := some f.name }
          else .ok (a.addOption f.name (String.ofList (cs.dropWhile (· == '='))))
        else addLetters u (a.addOption f.name "") cs

def splitValue (text : List Char) : String × Option String :=
  let name := String.ofList (text.takeWhile (· != '='))
  match text.dropWhile (· != '=') with
  | [] => (name, none)
  | rest => (name, some (String.ofList (rest.dropWhile (· == '='))))

def addFresh (u : Usage) (a : Arguments) (text : String) : Except Stop Arguments :=
  match text.toList with
  | '-' :: '-' :: cs =>
    let (name, value) := splitValue (cs.dropWhile (· == '-'))
    addLong u a name value
  | '-' :: c :: cs => addLetters u a (c :: cs)
  | _ => addOperand u a text

def isValue (text : String) : Bool :=
  text == "-" || text.toList.head? != some '-'

def add (u : Usage) (a : Arguments) (text : String) : Except Stop Arguments :=
  if a.operandsOnly then addOperand u a text
  else if text == "--" then .ok { a with operandsOnly := true }
  else
    match a.waiting with
    | none => addFresh u a text
    | some name =>
      let a := { a with waiting := none }
      if isValue text then .ok (a.addOption name text) else addFresh u (a.addUnvalued name) text

def finish (a : Arguments) : Arguments :=
  match a.waiting with
  | none => a
  | some name => { a.addUnvalued name with waiting := none }

def given (a : Arguments) : List String :=
  a.options.map Prod.fst ++ a.unvalued

def isRepeated (a : Arguments) : Bool :=
  a.given.any fun name => a.given.count name != 1

/-- The arguments of a whole line: each option once, and none without a value that needs one. -/
def ofList (u : Usage) (texts : List String) : Except Stop Arguments := do
  let a ← finish <$> texts.foldlM (add u) {}
  if a.isRepeated || a.unvalued.any fun name => (u.standing? name).isNone then throw .misuse
  return a

def has (a : Arguments) (name : String) : Bool :=
  a.options.any fun o => o.1 == name

def value? (u : Usage) (a : Arguments) (name : String) : Option String :=
  match a.options.find? fun o => o.1 == name with
  | some (_, value) => some value
  | none => u.standing? name

end Arguments

end MailboxSearch
