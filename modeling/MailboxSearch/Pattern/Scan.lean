import MailboxSearch.Pattern.Basic

/-!
Position `i` of a pattern lies before its element `i`. `live` holds the positions that the characters read so far
can have led to, and `spare` is blank and takes those of the next character.
-/

namespace MailboxSearch

def Element.move (delimiter c : Char) (i : Nat) : Element → Option Nat
  | .literal l => if l = c then some (i + 1) else none
  | .localRun => if c = delimiter then none else some i
  | .freeRun => some i

namespace Pattern

structure Scan where
  live : Array Bool
  spare : Array Bool

def mark (buffer : Array Bool) (positions : List Nat) : Array Bool :=
  positions.foldl (fun b i => b.setIfInBounds i true) buffer

/-- A run may stand for no characters, so a mark before one is passed on to the position after it. -/
def passOn (buffer : Array Bool) : Element × Nat → Array Bool
  | (e, i) => if buffer.getD i false && e.isRun then buffer.setIfInBounds (i + 1) true else buffer

def close (p : Pattern) (buffer : Array Bool) : Array Bool :=
  p.elements.zipIdx.foldl passOn buffer

def moves (p : Pattern) (live : Array Bool) (c : Char) : List Nat :=
  p.elements.zipIdx.filterMap fun (e, i) =>
    if live.getD i false then e.move p.delimiter c i else none

def start (p : Pattern) : Scan :=
  let blank := Array.replicate (p.elements.length + 1) false
  { live := p.close (mark blank [0]), spare := blank }

def advance (p : Pattern) (s : Scan) (c : Char) : Option Scan :=
  match p.moves s.live c with
  | [] => none
  | is => some { live := p.close (mark s.spare is), spare := s.live.map fun _ => false }

def scan (p : Pattern) (name : List Char) : Option Scan :=
  name.foldlM p.advance p.start

def accepts (p : Pattern) (name : String) : Bool :=
  match p.scan name.toList with
  | none => false
  | some s => s.live.getD p.elements.length false

end Pattern

end MailboxSearch
