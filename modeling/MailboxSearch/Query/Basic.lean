import MailboxSearch.Path.Basic
import MailboxSearch.Pattern.Scan

namespace MailboxSearch

structure Query where
  base : Path
  expression : Option String
  delimiter : Char
  deriving DecidableEq

namespace Query

def leads (d : Char) (text : List Char) : Bool :=
  text.head? == some d

def trails (d : Char) (text : List Char) : Bool :=
  text.getLast? == some d

def after (start text : List Char) : Option (List Char) :=
  if start.isPrefixOf text then some (text.drop start.length) else none

def baseName (q : Query) : List Char :=
  q.base.nameText.toList

def expressionText (q : Query) : List Char :=
  (q.expression.getD "").toList

def pattern (q : Query) : Option Pattern :=
  q.expression.map fun e => Pattern.compile e q.delimiter

def isWild (q : Query) : Bool :=
  q.expression.any Pattern.isWild

def isExpressionMatch (q : Query) (name : String) : Bool :=
  q.pattern.any fun p => p.accepts name

/-- Base name and expression with one delimiter between them; if either is empty, the other as it stands. -/
def combinedName (q : Query) : String :=
  let base := q.baseName
  let expression := q.expressionText
  let d := q.delimiter
  String.ofList <|
    if base.isEmpty then expression
    else if expression.isEmpty then base
    else
      match trails d base, leads d expression with
      | true, true => base ++ expression.drop 1
      | true, false => base ++ expression
      | false, true => base ++ expression
      | false, false => base ++ d :: expression

/--
The rest of `name` after what `combinedName` takes from the base, if `name` starts with that. A base without a
name takes nothing away.
-/
def relativeName (q : Query) (name : String) : Option String :=
  let base := q.baseName
  let d := q.delimiter
  if base.isEmpty then some name
  else
    Option.map String.ofList <|
      match trails d base, leads d q.expressionText with
      | false, false =>
        (after base name.toList).bind fun rest =>
          if q.expressionText.isEmpty then some rest else after [d] rest
      | true, false => after base name.toList
      | false, true => after base name.toList
      | true, true => after base.dropLast name.toList

/-- What a backend is asked for: every name that continues the combined name, wildcards at their widest. -/
def pathLike (q : Query) : Path where
  space := q.base.space
  owner := q.base.owner
  name := some (q.combinedName.push Pattern.localWildcard)

/-- The namespaces must agree, absent with absent alone; a base without an owner is about any owner. -/
def inScope (q : Query) (p : Path) : Bool :=
  q.base.space == p.space && q.base.owner.all fun owner => p.owner == some owner

def isPathMatch (q : Query) (p : Path) : Bool :=
  q.inScope p && (q.relativeName p.nameText).any q.isExpressionMatch

end Query

end MailboxSearch
