import MailboxSearch.Toml.Document

namespace MailboxSearch.Toml

open Token

variable {ts us rest : List Token} {t : Token} {l : Line}

theorem lines?_nil : lines? [] = some [] := by
  rw [lines?]
  rfl

theorem lines?_of_line? (hs : skipGap ts = t :: us) (hl : line? (t :: us) = some (l, rest)) :
    lines? ts = (lines? rest).map (l :: ·) := by
  rw [lines?]
  split
  · next hs' =>
    rw [hs] at hs'
    contradiction
  · next hs' =>
    rw [hs] at hs'
    cases hs'
    split
    · next hl' =>
      rw [hl] at hl'
      contradiction
    · next hl' =>
      rw [hl] at hl'
      cases hl'
      rfl

theorem lines?_newline (ts : List Token) : lines? (.newline :: ts) = lines? ts := by
  rw [lines?, lines?.eq_def ts]
  rfl

theorem line?_entry (name : String) {v : Value} {h : (Token.newline :: rest).length < ts.length}
    (hv : value? ts = some (v, ⟨.newline :: rest, h⟩)) :
    line? (.bare name :: .blank " " :: .equals :: .blank " " :: ts) =
      some (.entry name [] v, rest) := by
  have hkeys : moreKeys? (.blank " " :: .equals :: .blank " " :: ts) =
      some ([], .equals :: .blank " " :: ts) := rfl
  simp only [line?, entry?, key?, hkeys, skipBlank, hv, lineEnd?, Option.bind_eq_bind,
    Option.bind_some]
  rfl

theorem line?_header (key : String) (rest : List Token) :
    line? (.leftBracket :: .bare key :: .rightBracket :: .newline :: rest) =
      some (.header false [key], rest) := rfl

theorem line?_item (key : String) (rest : List Token) :
    line? (.leftBracket :: .leftBracket :: .bare key :: .rightBracket :: .rightBracket ::
        .newline :: rest) =
      some (.header true [key], rest) := rfl

theorem value?_quoted (text : String) (ts : List Token) :
    value? (.quoted text false :: ts) = some (.string text, ⟨ts, Nat.lt_succ_self _⟩) := by
  rw [value?]

theorem value?_brackets (ts : List Token) :
    value? (.leftBracket :: .rightBracket :: ts) =
      some (.array [], ⟨ts, Nat.lt_succ_of_lt (Nat.lt_succ_self _)⟩) := by
  rw [value?, items?]
  rfl

end MailboxSearch.Toml
