import MailboxSearch.Toml.Quoted

namespace MailboxSearch.Toml

inductive Token
  | newline
  | blank (text : String)
  | comment
  | equals
  | period
  | comma
  | colon
  | plus
  | leftBrace
  | rightBrace
  | leftBracket
  | rightBracket
  | bare (word : String)
  | quoted (text : String) (multiline : Bool)
  deriving DecidableEq

namespace Token

def isBare (c : Char) : Bool :=
  c.isAlphanum || c == '_' || c == '-'

def isCommentChar (c : Char) : Bool :=
  c == '\t' || ' ' ≤ c

def ofMark? : Char → Option Token
  | '\n' => some .newline
  | '=' => some .equals
  | '.' => some .period
  | ',' => some .comma
  | ':' => some .colon
  | '+' => some .plus
  | '{' => some .leftBrace
  | '}' => some .rightBrace
  | '[' => some .leftBracket
  | ']' => some .rightBracket
  | _ => none

def quotedOf (multiline : Bool) : Quoted.Scanned → Option (Token × List Char) :=
  Option.map fun (text, rest) => (.quoted (String.ofList text) multiline, rest)

def next? (c : Char) (cs : List Char) : Option (Token × List Char) :=
  if Quoted.isBlank c then
    some (.blank (String.ofList (c :: cs.takeWhile Quoted.isBlank)), cs.dropWhile Quoted.isBlank)
  else if isBare c then
    some (.bare (String.ofList (c :: cs.takeWhile isBare)), cs.dropWhile isBare)
  else if c == '#' then
    some (.comment, cs.dropWhile isCommentChar)
  else if c == '"' then
    match cs with
    | '"' :: '"' :: cs => quotedOf true (Quoted.multilineBasic .no (Quoted.dropFirstNewline cs))
    | cs => quotedOf false (Quoted.basic cs)
  else if c == '\'' then
    match cs with
    | '\'' :: '\'' :: cs => quotedOf true (Quoted.multilineLiteral (Quoted.dropFirstNewline cs))
    | cs => quotedOf false (Quoted.literal cs)
  else (ofMark? c).map fun t => (t, cs)

theorem dropFirstNewline_length (cs : List Char) : (Quoted.dropFirstNewline cs).length ≤ cs.length := by
  unfold Quoted.dropFirstNewline
  split
  · exact Nat.le_succ _
  · exact Nat.le_refl _

theorem scan_of_quotedOf {m : Bool} {s : Quoted.Scanned} {t : Token} {rest : List Char}
    (h : quotedOf m s = some (t, rest)) : ∃ text, s = some (text, rest) := by
  obtain ⟨⟨text, r⟩, hs, he⟩ := Option.map_eq_some_iff.1 h
  cases he
  exact ⟨text, hs⟩

theorem next?_length {c : Char} {cs rest : List Char} {t : Token} (h : next? c cs = some (t, rest)) :
    rest.length ≤ cs.length := by
  unfold next? at h
  split at h
  · cases h
    exact (List.dropWhile_suffix _).length_le
  split at h
  · cases h
    exact (List.dropWhile_suffix _).length_le
  split at h
  · cases h
    exact (List.dropWhile_suffix _).length_le
  split at h
  · split at h
    · obtain ⟨text, hs⟩ := scan_of_quotedOf h
      exact Nat.le_trans (Nat.le_of_lt (Quoted.multilineBasic_shorter hs))
        (Nat.le_trans (dropFirstNewline_length _) (Nat.le_add_right _ 2))
    · obtain ⟨text, hs⟩ := scan_of_quotedOf h
      exact Nat.le_of_lt (Quoted.basic_shorter hs)
  split at h
  · split at h
    · obtain ⟨text, hs⟩ := scan_of_quotedOf h
      exact Nat.le_trans (Nat.le_of_lt (Quoted.multilineLiteral_shorter hs))
        (Nat.le_trans (dropFirstNewline_length _) (Nat.le_add_right _ 2))
    · obtain ⟨text, hs⟩ := scan_of_quotedOf h
      exact Nat.le_of_lt (Quoted.literal_shorter hs)
  · obtain ⟨t, -, ht⟩ := Option.map_eq_some_iff.1 h
    cases ht
    exact Nat.le_refl _

def ofChars? (cs : List Char) : Option (List Token) :=
  match cs with
  | [] => some []
  | c :: cs =>
    match hn : next? c cs with
    | none => none
    | some (t, rest) =>
      have := Nat.lt_succ_of_le (next?_length hn)
      (ofChars? rest).map (t :: ·)
termination_by cs.length

/-- A line may end in a carriage return and a line feed; the two count as one line feed, everywhere. -/
def foldLineEnds : List Char → List Char
  | [] => []
  | '\r' :: '\n' :: cs => '\n' :: foldLineEnds cs
  | c :: cs => c :: foldLineEnds cs

def dropByteOrderMark : List Char → List Char
  | '\ufeff' :: cs => cs
  | cs => cs

def ofText? (text : String) : Option (List Token) :=
  ofChars? (foldLineEnds (dropByteOrderMark text.toList))

end Token

end MailboxSearch.Toml
