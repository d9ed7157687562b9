import MailboxSearch.Path.Basic

namespace MailboxSearch.Path

def compareParts : Option String → Option String → Ordering
  | none, none => .eq
  | none, some _ => .lt
  | some _, none => .gt
  | some a, some b => compare a b

def compare (p q : Path) : Ordering :=
  ((compareParts p.space q.space).then (compareParts p.owner q.owner)).then (compareParts p.name q.name)

instance : Ord Path := ⟨compare⟩

def sort (ps : List Path) : List Path :=
  ps.mergeSort fun p q => (compare p q).isLE

def dedup : List Path → List Path
  | [] => []
  | [p] => [p]
  | p :: q :: ps => if p = q then dedup (q :: ps) else p :: dedup (q :: ps)

def arrange (ps : List Path) : List Path :=
  dedup (sort ps)

def Ascending (ps : List Path) : Prop :=
  ps.Pairwise fun p q => compare p q = .lt

end MailboxSearch.Path
