import MailboxSearch.Toml.Scalar
import MailboxSearch.Toml.Value

namespace MailboxSearch.Toml

abbrev Rest (ts : List Token) := { rest : List Token // rest.length < ts.length }

namespace Token

def isGap : Token → Bool
  | .blank _ => true
  | .newline => true
  | .comment => true
  | _ => false

def skipGap (ts : List Token) : List Token :=
  ts.dropWhile isGap

def skipBlank : List Token → List Token
  | .blank _ :: ts => ts
  | ts => ts

theorem skipGap_length (ts : List Token) : (skipGap ts).length ≤ ts.length :=
  (List.dropWhile_suffix _).length_le

theorem skipBlank_length (ts : List Token) : (skipBlank ts).length ≤ ts.length := by
  unfold skipBlank
  split
  · exact Nat.le_succ _
  · exact Nat.le_refl _

theorem length_lt_of_skipGap {t : Token} {ts rest : List Token} (h : skipGap ts = t :: rest) :
    rest.length < ts.length := by
  have hs := skipGap_length ts
  rw [h] at hs
  exact hs

theorem length_lt_of_skipBlank {t : Token} {ts rest : List Token} (h : skipBlank ts = t :: rest) :
    rest.length < ts.length := by
  have hs := skipBlank_length ts
  rw [h] at hs
  exact hs

def key? : Token → Option String
  | .bare word => some word
  | .quoted text false => some text
  | _ => none

def moreKeys? : List Token → Option (List String × List Token)
  | .blank _ :: ts => moreKeys? ts
  | .period :: .blank _ :: t :: ts => do
    let key ← key? t
    let (keys, rest) ← moreKeys? ts
    return (key :: keys, rest)
  | .period :: t :: ts => do
    let key ← key? t
    let (keys, rest) ← moreKeys? ts
    return (key :: keys, rest)
  | [.period] => none
  | ts => some ([], ts)

theorem moreKeys?_length {ts rest : List Token} {keys : List String} (h : moreKeys? ts = some (keys, rest)) :
    rest.length ≤ ts.length := by
  fun_induction moreKeys? ts generalizing keys with
  | case1 t ts ih => exact Nat.le_succ_of_le (ih h)
  | case2 t u ts ih =>
    obtain ⟨key, -, h⟩ := Option.bind_eq_some_iff.1 h
    obtain ⟨⟨keys, rest⟩, hk, h⟩ := Option.bind_eq_some_iff.1 h
    cases h
    have := ih hk
    simp only [List.length_cons]
    omega
  | case3 t ts _ ih =>
    obtain ⟨key, -, h⟩ := Option.bind_eq_some_iff.1 h
    obtain ⟨⟨keys, rest⟩, hk, h⟩ := Option.bind_eq_some_iff.1 h
    cases h
    have := ih hk
    simp only [List.length_cons]
    omega
  | case4 => cases h
  | case5 ts =>
    cases h
    exact Nat.le_refl _

end Token

open Token

mutual

def value? (ts : List Token) : Option (Value × Rest ts) :=
  match ts with
  | .quoted text _ :: ts => some (.string text, ⟨ts, Nat.lt_succ_self _⟩)
  | .bare word :: ts =>
    match h : Scalar.ofWord? word.toList ts with
    | none => none
    | some (s, rest) => some (.scalar s, ⟨rest, Nat.lt_succ_of_le (Scalar.ofWord?_length h)⟩)
  | .plus :: .bare word :: ts =>
    match h : Scalar.afterNumber? word.toList ts with
    | none => none
    | some rest =>
      some (.scalar .number, ⟨rest, Nat.lt_succ_of_le (Nat.le_succ_of_le (Scalar.afterNumber?_length h))⟩)
  | .leftBracket :: ts => do
    let (items, ⟨rest, h⟩) ← items? ts
    return (.array items, ⟨rest, Nat.lt_succ_of_lt h⟩)
  | .leftBrace :: ts => do
    let (entries, ⟨rest, h⟩) ← entries? ts
    return (.table .inline entries, ⟨rest, Nat.lt_succ_of_lt h⟩)
  | _ => none
termination_by (ts.length, 0)

def items? (ts : List Token) : Option (List Value × Rest ts) :=
  match h : skipGap ts with
  | .rightBracket :: rest => some ([], ⟨rest, length_lt_of_skipGap h⟩)
  | start => do
    have hs : start.length ≤ ts.length := h ▸ skipGap_length ts
    let (v, ⟨rest, hv⟩) ← value? start
    have hv := Nat.lt_of_lt_of_le hv hs
    match h : skipGap rest with
    | .rightBracket :: rest => return ([v], ⟨rest, Nat.lt_trans (length_lt_of_skipGap h) hv⟩)
    | .comma :: rest =>
      have hr := Nat.lt_trans (length_lt_of_skipGap h) hv
      let (vs, ⟨rest, h⟩) ← items? rest
      return (v :: vs, ⟨rest, Nat.lt_trans h hr⟩)
    | _ => none
termination_by (ts.length, 1)
decreasing_by all_goals simp only [Prod.lex_def]; omega

/-- The entries of a table between braces, after the opening one: all on one line, and no comma after the last. -/
def entries? (ts : List Token) : Option (Entries × Rest ts) :=
  match h : skipBlank ts with
  | .rightBrace :: rest => some ([], ⟨rest, length_lt_of_skipBlank h⟩)
  | start => do
    have hs : start.length ≤ ts.length := h ▸ skipBlank_length ts
    let (es, ⟨rest, h⟩) ← moreEntries? [] start
    return (es, ⟨rest, Nat.lt_of_lt_of_le h hs⟩)
termination_by (ts.length, 2)
decreasing_by all_goals simp only [Prod.lex_def]; omega

def moreEntries? (es : Entries) (ts : List Token) : Option (Entries × Rest ts) :=
  match ts with
  | [] => none
  | t :: ts => do
    let key ← key? t
    match hk : moreKeys? ts with
    | some (keys, .equals :: rest) =>
      have hs := Nat.le_trans (skipBlank_length rest) (Nat.le_of_lt (moreKeys?_length hk))
      let (v, ⟨rest, hv⟩) ← value? (skipBlank rest)
      have hv := Nat.lt_of_lt_of_le hv hs
      let es ← es.insertDotted v key keys
      match h : skipBlank rest with
      | .rightBrace :: rest =>
        return (es, ⟨rest, Nat.lt_succ_of_lt (Nat.lt_trans (length_lt_of_skipBlank h) hv)⟩)
      | .comma :: rest =>
        have hr := Nat.lt_of_le_of_lt (skipBlank_length rest) (Nat.lt_trans (length_lt_of_skipBlank h) hv)
        let (es, ⟨rest, h⟩) ← moreEntries? es (skipBlank rest)
        return (es, ⟨rest, Nat.lt_succ_of_lt (Nat.lt_trans h hr)⟩)
      | _ => none
    | _ => none
termination_by (ts.length, 1)
decreasing_by all_goals simp only [Prod.lex_def, List.length_cons]; omega

end

inductive Line
  | header (isItem : Bool) (keys : List String)
  | entry (key : String) (keys : List String) (value : Value)

def lineEnd? (ts : List Token) : Option (List Token) :=
  match skipBlank ts with
  | [] => some []
  | .newline :: rest => some rest
  | .comment :: rest => some rest
  | _ => none

def header? (isItem : Bool) (ts : List Token) : Option (Line × List Token) :=
  match skipBlank ts with
  | [] => none
  | t :: ts => do
    let key ← key? t
    let (keys, rest) ← moreKeys? ts
    match isItem, rest with
    | false, .rightBracket :: rest => return (.header false (key :: keys), ← lineEnd? rest)
    | true, .rightBracket :: .rightBracket :: rest => return (.header true (key :: keys), ← lineEnd? rest)
    | _, _ => none

def entry? (ts : List Token) : Option (Line × List Token) :=
  match ts with
  | [] => none
  | t :: ts => do
    let key ← key? t
    match ← moreKeys? ts with
    | (keys, .equals :: rest) =>
      let (v, ⟨rest, _⟩) ← value? (skipBlank rest)
      return (.entry key keys v, ← lineEnd? rest)
    | _ => none

def line? : List Token → Option (Line × List Token)
  | .leftBracket :: .leftBracket :: ts => header? true ts
  | .leftBracket :: ts => header? false ts
  | ts => entry? ts

theorem lineEnd?_length {ts rest : List Token} (h : lineEnd? ts = some rest) : rest.length ≤ ts.length := by
  unfold lineEnd? at h
  split at h
  · cases h
    exact Nat.zero_le _
  · next hs =>
    cases h
    exact Nat.le_of_lt (length_lt_of_skipBlank hs)
  · next hs =>
    cases h
    exact Nat.le_of_lt (length_lt_of_skipBlank hs)
  · cases h

theorem header?_length {isItem : Bool} {ts rest : List Token} {l : Line} (h : header? isItem ts = some (l, rest)) :
    rest.length < ts.length := by
  unfold header? at h
  split at h
  · cases h
  · next hs =>
    have hs := length_lt_of_skipBlank hs
    obtain ⟨key, -, h⟩ := Option.bind_eq_some_iff.1 h
    obtain ⟨⟨keys, more⟩, hk, h⟩ := Option.bind_eq_some_iff.1 h
    have hm := moreKeys?_length hk
    dsimp only at h
    split at h
    · obtain ⟨r, hr, h⟩ := Option.bind_eq_some_iff.1 h
      cases h
      have hl := lineEnd?_length hr
      simp only [List.length_cons] at hm
      omega
    · obtain ⟨r, hr, h⟩ := Option.bind_eq_some_iff.1 h
      cases h
      have hl := lineEnd?_length hr
      simp only [List.length_cons] at hm
      omega
    · cases h

theorem entry?_length {ts rest : List Token} {l : Line} (h : entry? ts = some (l, rest)) :
    rest.length < ts.length := by
  unfold entry? at h
  split at h
  · cases h
  · obtain ⟨key, -, h⟩ := Option.bind_eq_some_iff.1 h
    obtain ⟨⟨keys, more⟩, hk, h⟩ := Option.bind_eq_some_iff.1 h
    have hm := moreKeys?_length hk
    dsimp only at h
    split at h
    · next start he =>
      cases he
      obtain ⟨⟨v, r, hv⟩, -, h⟩ := Option.bind_eq_some_iff.1 h
      obtain ⟨r', hr, h⟩ := Option.bind_eq_some_iff.1 h
      cases h
      have hl : _ ≤ r.length := lineEnd?_length hr
      have hv := Nat.lt_of_lt_of_le hv (skipBlank_length start)
      simp only [List.length_cons] at hm ⊢
      omega
    · cases h

theorem line?_length {ts rest : List Token} {l : Line} (h : line? ts = some (l, rest)) :
    rest.length < ts.length := by
  unfold line? at h
  split at h
  · have := header?_length h
    simp only [List.length_cons]
    omega
  · exact Nat.lt_succ_of_lt (header?_length h)
  · exact entry?_length h

def lines? (ts : List Token) : Option (List Line) :=
  match hs : skipGap ts with
  | [] => some []
  | t :: rest =>
    match hl : line? (t :: rest) with
    | none => none
    | some (l, rest) =>
      have := Nat.lt_of_lt_of_le (line?_length hl) (hs ▸ skipGap_length ts)
      (lines? rest).map (l :: ·)
termination_by ts.length

def Section.ofLines? : Section → List Line → Option (List Section)
  | s, [] => some [s]
  | s, .header isItem keys :: lines => (ofLines? { header := keys, isItem } lines).map (s :: ·)
  | s, .entry key keys v :: lines => do
    let entries ← s.entries.insertDotted v key keys
    ofLines? { s with entries } lines

def parse? (text : String) : Option Value := do
  let tokens ← Token.ofText? text
  let sections ← Section.ofLines? {} (← lines? tokens)
  let entries ← Entries.ofSections? sections
  return .table .declared entries

end MailboxSearch.Toml
