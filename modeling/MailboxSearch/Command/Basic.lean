import MailboxSearch.Command.Arguments
import MailboxSearch.Query.Builder

namespace MailboxSearch

structure ListOptions where
  root : Option String := none
  verbose : Bool := false
  user : Option String := none
  reference : Option String := none
  space : Option String := none
  owner : Option String := none
  anyOwner : Bool := false
  privateMailboxes : Bool := false
  all : Bool := false
  pattern : Option String := none
  deriving DecidableEq

structure MatchOptions where
  delimiter : Char := '.'
  pattern : String
  names : List String
  deriving DecidableEq

inductive Request
  | list (options : ListOptions)
  | matchNames (options : MatchOptions)
  | help
  | version (program : String)
  | misuse

namespace ListOptions

def usage : Usage where
  flags := [
    { name := "root", takesValue := true },
    { name := "verbose", letter := some 'v' },
    { name := "user", letter := some 'u', takesValue := true },
    { name := "reference", letter := some 'r', takesValue := true },
    { name := "namespace", takesValue := true },
    { name := "owner", takesValue := true },
    { name := "any-owner" },
    { name := "private" },
    { name := "all" }]
  operandLimit := some 1

def ofArguments (a : Arguments) : ListOptions where
  root := a.value? usage "root"
  verbose := a.has "verbose"
  user := a.value? usage "user"
  reference := a.value? usage "reference"
  space := a.value? usage "namespace"
  owner := a.value? usage "owner"
  anyOwner := a.has "any-owner"
  privateMailboxes := a.has "private"
  all := a.has "all"
  pattern := a.operands.head?

def isConsistent (o : ListOptions) : Bool :=
  !(o.owner.isSome && o.anyOwner) && !(o.all && o.pattern.isSome)

def hasBase (o : ListOptions) : Bool :=
  o.reference.isSome || o.space.isSome || o.owner.isSome || o.anyOwner

def base (o : ListOptions) (session : Session) : Path where
  space := some (o.space.getD Path.privateSpace)
  owner := if o.anyOwner then none else o.owner.or session.user
  name := some (o.reference.getD "")

def builder (o : ListOptions) (session : Session) : Builder :=
  let b : Builder := if o.privateMailboxes then Builder.ofPrivate session else Builder.set {} (.session session)
  let b := if o.hasBase then b.set (.base (o.base session)) else b
  if o.all then b.set .matchesAll
  else
    match o.pattern with
    | none => b
    | some pattern => b.set (.expression pattern)

end ListOptions

namespace MatchOptions

def usage : Usage where
  flags := [{ name := "delimiter", letter := some 'd', takesValue := true, standing := some "." }]
  operandLimit := none

def ofArguments? (a : Arguments) : Option MatchOptions :=
  match a.operands, ((a.value? usage "delimiter").getD "").toList with
  | pattern :: name :: names, [delimiter] => some { delimiter, pattern, names := name :: names }
  | _, _ => none

end MatchOptions

namespace Request

def ofStop (program : String) : Stop → Request
  | .help => help
  | .version => version program
  | .misuse => misuse

def ofList (texts : List String) : Request :=
  match Arguments.ofList ListOptions.usage texts with
  | .error stop => ofStop "mboxquery-list" stop
  | .ok a =>
    let options := ListOptions.ofArguments a
    if options.isConsistent then list options else misuse

def ofMatch (texts : List String) : Request :=
  match Arguments.ofList MatchOptions.usage texts with
  | .error stop => ofStop "mboxquery-match" stop
  | .ok a =>
    match MatchOptions.ofArguments? a with
    | none => misuse
    | some options => matchNames options

def ofHelp : List String → Request
  | [] => help
  | ["list"] => help
  | ["match"] => help
  | ["help"] => help
  | _ => misuse

def ofArguments : List String → Request
  | "list" :: texts => ofList texts
  | "match" :: texts => ofMatch texts
  | "help" :: texts => ofHelp texts
  | texts =>
    match Arguments.ofList { flags := [], operandLimit := some 0 } texts with
    | .error stop => ofStop "mboxquery" stop
    | .ok _ => misuse

end Request

end MailboxSearch
