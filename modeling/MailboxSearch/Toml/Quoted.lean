namespace MailboxSearch.Toml.Quoted

def isBlank (c : Char) : Bool :=
  c == ' ' || c == '\t'

def isTextChar (c : Char) : Bool :=
  c == '\t' || (' ' ≤ c && c != '\x7f')

abbrev Scanned := Option (List Char × List Char)

def Scanned.push (c : Char) (s : Scanned) : Scanned :=
  s.map fun (text, rest) => (c :: text, rest)

def hexDigit? (c : Char) : Option Nat :=
  if c.isDigit then some (c.toNat - '0'.toNat)
  else if 'a' ≤ c && c ≤ 'f' then some (c.toNat - 'a'.toNat + 10)
  else if 'A' ≤ c && c ≤ 'F' then some (c.toNat - 'A'.toNat + 10)
  else none

def hexChar? (digits : List Char) : Option Char := do
  let n ← digits.foldlM (fun n c => (hexDigit? c).map (16 * n + ·)) 0
  if n.isValidChar then some (Char.ofNat n) else none

def escaped? : Char → Option Char
  | '"' => some '"'
  | '\\' => some '\\'
  | 'b' => some '\x08'
  | 'f' => some '\x0c'
  | 'n' => some '\n'
  | 'r' => some '\r'
  | 't' => some '\t'
  | _ => none

def literal : List Char → Scanned
  | [] => none
  | '\'' :: rest => some ([], rest)
  | c :: rest => if isTextChar c then Scanned.push c (literal rest) else none

def basic : List Char → Scanned
  | [] => none
  | '"' :: rest => some ([], rest)
  | '\\' :: 'u' :: a :: b :: c :: d :: rest => do
    Scanned.push (← hexChar? [a, b, c, d]) (basic rest)
  | '\\' :: 'U' :: a :: b :: c :: d :: e :: f :: g :: h :: rest => do
    Scanned.push (← hexChar? [a, b, c, d, e, f, g, h]) (basic rest)
  | '\\' :: c :: rest => do Scanned.push (← escaped? c) (basic rest)
  | c :: rest => if c != '\\' && isTextChar c then Scanned.push c (basic rest) else none

def multilineLiteral : List Char → Scanned
  | [] => none
  | '\'' :: '\'' :: '\'' :: '\'' :: '\'' :: rest => some (['\'', '\''], rest)
  | '\'' :: '\'' :: '\'' :: '\'' :: rest => some (['\''], rest)
  | '\'' :: '\'' :: '\'' :: rest => some ([], rest)
  | c :: rest => if c == '\n' || isTextChar c then Scanned.push c (multilineLiteral rest) else none

inductive Joining
  | no
  | lineEnd
  | blanks
  deriving DecidableEq

/-- Reads to three quotes. A backslash at the end of a line joins it to the next text, over blanks and lines. -/
def multilineBasic (joining : Joining) : List Char → Scanned
  | [] => none
  | c :: rest =>
    if joining = .lineEnd then
      if isBlank c then multilineBasic .lineEnd rest
      else if c == '\n' then multilineBasic .blanks rest
      else none
    else if joining = .blanks && (isBlank c || c == '\n') then multilineBasic .blanks rest
    else
      match c, rest with
      | '"', '"' :: '"' :: '"' :: '"' :: rest => some (['"', '"'], rest)
      | '"', '"' :: '"' :: '"' :: rest => some (['"'], rest)
      | '"', '"' :: '"' :: rest => some ([], rest)
      | '\\', 'u' :: a :: b :: c :: d :: rest => do
        Scanned.push (← hexChar? [a, b, c, d]) (multilineBasic .no rest)
      | '\\', 'U' :: a :: b :: c :: d :: e :: f :: g :: h :: rest => do
        Scanned.push (← hexChar? [a, b, c, d, e, f, g, h]) (multilineBasic .no rest)
      | '\\', c :: rest =>
        if isBlank c then multilineBasic .lineEnd rest
        else if c == '\n' then multilineBasic .blanks rest
        else do Scanned.push (← escaped? c) (multilineBasic .no rest)
      | c, rest =>
        if c == '\n' || (c != '\\' && isTextChar c) then Scanned.push c (multilineBasic .no rest) else none

def dropFirstNewline : List Char → List Char
  | '\n' :: rest => rest
  | cs => cs

theorem exists_of_push {c : Char} {s : Scanned} {t r : List Char} (h : Scanned.push c s = some (t, r)) :
    ∃ u, s = some (u, r) := by
  obtain ⟨⟨u, v⟩, hs, he⟩ := Option.map_eq_some_iff.1 h
  cases he
  exact ⟨u, hs⟩

theorem exists_of_push_bind {c : Option Char} {s : Scanned} {t r : List Char}
    (h : (do Scanned.push (← c) s) = some (t, r)) : ∃ u, s = some (u, r) := by
  obtain ⟨c, -, hc⟩ := Option.bind_eq_some_iff.1 h
  exact exists_of_push hc

theorem length_lt_append {r rest : List Char} (front : List Char) (h : r.length < rest.length) :
    r.length < (front ++ rest).length := by
  rw [List.length_append]
  exact Nat.lt_of_lt_of_le h (Nat.le_add_left _ _)

theorem length_lt_of_cons {r : List Char} (c : Char) (front : List Char) : r.length < (c :: front ++ r).length := by
  rw [List.length_append, List.length_cons]
  exact Nat.lt_add_of_pos_left (Nat.succ_pos _)

theorem literal_shorter {cs t r : List Char} (h : literal cs = some (t, r)) : r.length < cs.length := by
  fun_induction literal cs generalizing t with
  | case1 => cases h
  | case2 rest =>
    cases h
    exact Nat.lt_succ_self _
  | case3 c rest _ _ ih =>
    obtain ⟨u, hu⟩ := exists_of_push h
    exact Nat.lt_succ_of_lt (ih hu)
  | case4 => cases h

theorem basic_shorter {cs t r : List Char} (h : basic cs = some (t, r)) : r.length < cs.length := by
  fun_induction basic cs generalizing t with
  | case1 => cases h
  | case2 rest =>
    cases h
    exact Nat.lt_succ_self _
  | case3 a b c d rest ih =>
    obtain ⟨u, hu⟩ := exists_of_push_bind h
    exact length_lt_append ['\\', 'u', a, b, c, d] (ih hu)
  | case4 a b c d e f g k rest ih =>
    obtain ⟨u, hu⟩ := exists_of_push_bind h
    exact length_lt_append ['\\', 'U', a, b, c, d, e, f, g, k] (ih hu)
  | case5 c rest _ _ ih =>
    obtain ⟨u, hu⟩ := exists_of_push_bind h
    exact length_lt_append ['\\', c] (ih hu)
  | case6 c rest _ _ _ _ _ ih =>
    obtain ⟨u, hu⟩ := exists_of_push h
    exact Nat.lt_succ_of_lt (ih hu)
  | case7 => cases h

theorem multilineLiteral_shorter {cs t r : List Char} (h : multilineLiteral cs = some (t, r)) :
    r.length < cs.length := by
  fun_induction multilineLiteral cs generalizing t with
  | case1 => cases h
  | case2 rest =>
    cases h
    exact length_lt_of_cons '\'' ['\'', '\'', '\'', '\'']
  | case3 rest =>
    cases h
    exact length_lt_of_cons '\'' ['\'', '\'', '\'']
  | case4 rest =>
    cases h
    exact length_lt_of_cons '\'' ['\'', '\'']
  | case5 c rest _ _ _ _ ih =>
    obtain ⟨u, hu⟩ := exists_of_push h
    exact Nat.lt_succ_of_lt (ih hu)
  | case6 => cases h

theorem multilineBasic_shorter {joining : Joining} {cs t r : List Char}
    (h : multilineBasic joining cs = some (t, r)) : r.length < cs.length := by
  fun_induction multilineBasic joining cs generalizing t with
  | case1 => cases h
  | case2 c rest _ ih => exact Nat.lt_succ_of_lt (ih h)
  | case3 c rest _ _ ih => exact Nat.lt_succ_of_lt (ih h)
  | case4 => cases h
  | case5 joining c rest _ _ ih => exact Nat.lt_succ_of_lt (ih h)
  | case6 =>
    cases h
    exact length_lt_of_cons '"' ['"', '"', '"', '"']
  | case7 =>
    cases h
    exact length_lt_of_cons '"' ['"', '"', '"']
  | case8 =>
    cases h
    exact length_lt_of_cons '"' ['"', '"']
  | case9 joining _ a b c d rest _ ih =>
    obtain ⟨u, hu⟩ := exists_of_push_bind h
    exact length_lt_append ['\\', 'u', a, b, c, d] (ih hu)
  | case10 joining _ a b c d e f g k rest _ ih =>
    obtain ⟨u, hu⟩ := exists_of_push_bind h
    exact length_lt_append ['\\', 'U', a, b, c, d, e, f, g, k] (ih hu)
  | case11 joining _ c rest _ _ _ _ ih => exact length_lt_append ['\\', c] (ih h)
  | case12 joining _ c rest _ _ _ _ _ ih => exact length_lt_append ['\\', c] (ih h)
  | case13 joining _ c rest _ _ _ _ _ ih =>
    obtain ⟨u, hu⟩ := exists_of_push_bind h
    exact length_lt_append ['\\', c] (ih hu)
  | case14 joining _ c rest _ _ _ _ _ _ _ _ ih =>
    obtain ⟨u, hu⟩ := exists_of_push h
    exact Nat.lt_succ_of_lt (ih hu)
  | case15 => cases h

def upperHex (n : Nat) : List Char :=
  (Nat.toDigits 16 n).map Char.toUpper

def escape (c : Char) : List Char :=
  match c with
  | '\x08' => ['\\', 'b']
  | '\t' => ['\\', 't']
  | '\n' => ['\\', 'n']
  | '\x0c' => ['\\', 'f']
  | '\r' => ['\\', 'r']
  | '"' => ['\\', '"']
  | '\\' => ['\\', '\\']
  | c =>
    if c < ' ' || c == '\x7f' then
      let digits := upperHex c.toNat
      '\\' :: 'u' :: List.replicate (4 - digits.length) '0' ++ digits
    else [c]

def write (text : String) : String :=
  String.ofList ('"' :: text.toList.flatMap escape ++ ['"'])

end MailboxSearch.Toml.Quoted
