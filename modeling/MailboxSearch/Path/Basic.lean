namespace MailboxSearch

/-- An absent part is not an empty one; only a name is read alike in both cases, by `nameText`. -/
structure Path where
  space : Option String := none
  owner : Option String := none
  name : Option String := none
  deriving DecidableEq, Inhabited

namespace Path

def privateSpace : String := "#private"

def ofOwner (owner name : String) : Path where
  space := some privateSpace
  owner := some owner
  name := some name

def nameText (p : Path) : String :=
  p.name.getD ""

/-- The three parts with a colon between them. Nothing is escaped, and an absent part prints as an empty one. -/
def render (p : Path) : String :=
  p.space.getD "" ++ ":" ++ p.owner.getD "" ++ ":" ++ p.name.getD ""

instance : ToString Path := ⟨render⟩

end Path

end MailboxSearch
