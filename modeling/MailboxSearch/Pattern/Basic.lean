namespace MailboxSearch

/-- A character, any characters other than the delimiter, or any characters at all. -/
inductive Element
  | literal (c : Char)
  | localRun
  | freeRun
  deriving DecidableEq

structure Pattern where
  elements : List Element
  delimiter : Char
  deriving DecidableEq

namespace Pattern

def localWildcard : Char := '%'

def freeWildcard : Char := '*'

def isWildcard (c : Char) : Bool :=
  c == localWildcard || c == freeWildcard

def isWild (expression : String) : Bool :=
  expression.toList.any isWildcard

def literalPrefix (expression : String) : String :=
  String.ofList (expression.toList.takeWhile fun c => !isWildcard c)

end Pattern

namespace Element

def ofChar (c : Char) : Element :=
  if c = Pattern.localWildcard then .localRun
  else if c = Pattern.freeWildcard then .freeRun
  else .literal c

def toChar : Element → Char
  | .literal c => c
  | .localRun => Pattern.localWildcard
  | .freeRun => Pattern.freeWildcard

def isRun : Element → Bool
  | .literal _ => false
  | .localRun => true
  | .freeRun => true

def widen : Element → Element
  | .localRun => .freeRun
  | e => e

/--
Takes one more element behind others, whose last one is at the head. Two runs that meet become one, which is free if
either was.
-/
def push : List Element → Element → List Element
  | last :: es, .localRun => if last.isRun then last :: es else .localRun :: last :: es
  | last :: es, .freeRun => if last.isRun then .freeRun :: es else .freeRun :: last :: es
  | es, e => e :: es

def collapse (es : List Element) : List Element :=
  (es.foldl push []).reverse

def ofExpression (cs : List Char) : List Element :=
  collapse (cs.map ofChar)

end Element

namespace Pattern

def compile (expression : String) (delimiter : Char) : Pattern where
  elements := Element.ofExpression expression.toList
  delimiter := delimiter

/--
The reading of an expression by a storage backend, where both wildcards stand for any characters at all. It
accepts whatever `compile` accepts under some delimiter.
-/
def like (expression : String) : Pattern :=
  let p := compile expression localWildcard
  { p with elements := p.elements.map Element.widen }

def render (p : Pattern) : String :=
  String.ofList (p.elements.map Element.toChar)

instance : ToString Pattern := ⟨render⟩

end Pattern

end MailboxSearch
