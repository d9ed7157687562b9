import MailboxSearch.Error
import MailboxSearch.Log
import MailboxSearch.Query.Basic
import MailboxSearch.Session
import MailboxSearch.Text.Quoted

namespace MailboxSearch

structure Builder where
  base : Option Path := none
  username : Option String := none
  privateMailboxes : Bool := false
  expression : Option String := none
  session : Option Session := none
  deriving DecidableEq

inductive Setting
  | base (path : Path)
  | username (user : String)
  | privateMailboxes
  | expression (text : String)
  | matchesAll
  | session (session : Session)

inductive BaseSource
  | given (base : Path)
  | privateMailboxes (user : String)
  | sessionUser
  deriving DecidableEq

namespace Builder

def everything : String :=
  String.ofList [Pattern.freeWildcard]

def set (b : Builder) : Setting → Builder
  | .base path => { b with base := some path }
  | .username user => { b with username := some user }
  | .privateMailboxes => { b with privateMailboxes := true }
  | .expression text => { b with expression := some text }
  | .matchesAll => { b with expression := some everything }
  | .session session => { b with session := some session }

def setAll (b : Builder) (settings : List Setting) : Builder :=
  settings.foldl set b

def ofPrivate (session : Session) : Builder :=
  let b : Builder := set {} (.session session)
  let b :=
    match session.user with
    | none => b
    | some user => b.set (.username user)
  b.set .privateMailboxes

def baseSource (b : Builder) : Except Error BaseSource :=
  match b.base, b.username, b.privateMailboxes with
  | some base, none, false => .ok (.given base)
  | some _, some _, _ => .error .baseWithUsername
  | some _, none, true => .error .baseWithPrivateMailboxes
  | none, some user, true => .ok (.privateMailboxes user)
  | none, none, true => .error .privateMailboxesWithoutUsername
  | none, some _, false => .error .usernameWithoutPrivateMailboxes
  | none, none, false => .ok .sessionUser

def sourcePath (session : Session) : BaseSource → Path
  | .given base => base
  | .privateMailboxes user => Path.ofOwner user ""
  | .sessionUser => { space := some Path.privateSpace, owner := session.user, name := some "" }

def sourceExpression (expression : Option String) : BaseSource → Option String
  | .given _ => expression
  | .privateMailboxes _ => some (expression.getD everything)
  | .sessionUser => expression

def resolve (b : Builder) : Except Error Query := do
  let source ← b.baseSource
  match b.session with
  | none => throw .missingSession
  | some session =>
    return {
      base := sourcePath session source
      expression := sourceExpression b.expression source
      delimiter := session.delimiter }

end Builder

def Query.resolved (q : Query) : Record where
  level := .trace
  target := "mboxquery::account::query"
  text :=
    "Resolved mailbox query base " ++ q.base.render ++ " with expression " ++ Text.quoteOption q.expression

def Builder.build (b : Builder) : Logged Error Query := do
  let q ← Logged.ofExcept b.resolve
  Logged.note q.resolved
  return q

end MailboxSearch
