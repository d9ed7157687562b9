import Mathlib.Data.List.TakeDrop
import MailboxSearch.Proofs.Toml.Document
import MailboxSearch.Proofs.Toml.Token
import MailboxSearch.Toml.Record

namespace MailboxSearch.Toml

open Token

/-- Whether a text is read as certain lines, whatever follows it. -/
structure Written (text : List Char) (lines : List Line) : Prop where
  not_mem : '\r' ∉ text
  head? : text.head? ≠ some '\ufeff'
  tokens : ∃ ts, (∀ rest, ofChars? (text ++ rest) = (ofChars? rest).map (ts ++ ·)) ∧
    ∀ rest, lines? (ts ++ rest) = (lines? rest).map (lines ++ ·)

def Line.ofField (field : String × Value) : Line :=
  .entry field.1 [] field.2

def Entries.ofOptional (name : String) : Option String → Entries
  | none => []
  | some text => [(name, .string text)]

namespace Written

variable {text more : List Char} {lines moreLines : List Line}

theorem nil : Written [] [] where
  not_mem := List.not_mem_nil
  head? := by simp
  tokens := ⟨[], fun rest => by simp, fun rest => by simp⟩

theorem append (h : Written text lines) (h' : Written more moreLines) :
    Written (text ++ more) (lines ++ moreLines) where
  not_mem := by simp [h.not_mem, h'.not_mem]
  head? := by
    rw [List.head?_append]
    cases ht : text.head? with
    | none => exact h'.head?
    | some c =>
      rw [Option.some_or, ← ht]
      exact h.head?
  tokens := by
    obtain ⟨ts, hchars, hlines⟩ := h.tokens
    obtain ⟨us, hchars', hlines'⟩ := h'.tokens
    refine ⟨ts ++ us, ?_, ?_⟩
    · intro rest
      rw [List.append_assoc, hchars, hchars', Option.map_map]
      simp only [Function.comp_def, List.append_assoc]
    · intro rest
      rw [List.append_assoc, hlines, hlines', Option.map_map]
      simp only [Function.comp_def, List.append_assoc]

theorem newline : Written ['\n'] [] where
  not_mem := by decide
  head? := by decide
  tokens := by
    refine ⟨[.newline], ofChars?_newline, ?_⟩
    intro rest
    rw [List.singleton_append, lines?_newline]
    simp

theorem of_line (t : Token) (ts : List Token) {l : Line} (hr : '\r' ∉ text)
    (hh : text.head? ≠ some '\ufeff') (hgap : isGap t = false)
    (hchars : ∀ rest, ofChars? (text ++ rest) = (ofChars? rest).map (t :: ts ++ ·))
    (hline : ∀ rest, line? (t :: ts ++ rest) = some (l, rest)) : Written text [l] where
  not_mem := hr
  head? := hh
  tokens := by
    refine ⟨t :: ts, hchars, ?_⟩
    intro rest
    have hs : skipGap (t :: ts ++ rest) = t :: (ts ++ rest) :=
      List.dropWhile_cons_of_neg (Bool.eq_false_iff.1 hgap)
    exact lines?_of_line? hs (hline rest)

variable {name : String}

theorem entry {c : Char} {cs : List Char} {v : Value} (us : List Token) (hw : isWord name = true)
    (hc : Quoted.isBlank c = false) (hr : '\r' ∉ c :: cs)
    (hchars : ∀ rest,
      ofChars? (c :: cs ++ '\n' :: rest) = (ofChars? rest).map (us ++ .newline :: ·))
    (hvalue : ∀ rest, ∃ h, value? (us ++ .newline :: rest) = some (v, ⟨.newline :: rest, h⟩)) :
    Written (name.toList ++ ' ' :: '=' :: ' ' :: (c :: cs ++ ['\n'])) [.entry name [] v] := by
  obtain ⟨hne, -⟩ := Bool.and_eq_true_iff.1 hw
  have hname : name.toList ≠ [] := by simpa using hne
  have hchars' : ∀ rest,
      ofChars? (name.toList ++ ' ' :: '=' :: ' ' :: (c :: cs ++ ['\n']) ++ rest) =
        (ofChars? rest).map
          (.bare name :: (.blank " " :: .equals :: .blank " " :: (us ++ [.newline])) ++ ·) := by
    intro rest
    rw [List.append_assoc, List.cons_append, List.cons_append, List.cons_append,
      List.append_assoc, List.singleton_append, ofChars?_key hw (by simpa using hc), hchars]
    simp [Function.comp_def]
  have hmem : '\r' ∉ name.toList := not_mem_of_isWord hw (by decide)
  refine of_line _ _ ?_ ?_ rfl hchars' ?_
  · simpa [hmem] using hr
  · rw [List.head?_append, List.head?_eq_some_head hname, Option.some_or]
    intro hh
    rw [← List.head?_eq_some_head hname] at hh
    exact not_mem_of_isWord hw (by decide) (List.mem_of_head? hh)
  · intro rest
    obtain ⟨h, hv⟩ := hvalue rest
    simpa using line?_entry name hv

theorem field (hw : isWord name = true) (text : String) :
    Written (writeField name text).toList [.entry name [] (.string text)] := by
  have htext : (writeField name text).toList =
      name.toList ++ ' ' :: '=' :: ' ' ::
        ('"' :: (text.toList.flatMap Quoted.escape ++ ['"']) ++ ['\n']) := by
    simp [writeField, Quoted.write]
  rw [htext]
  apply entry [.quoted text false] hw
  · rfl
  · simp [Quoted.not_mem_escape]
  · intro rest
    rw [List.cons_append, List.append_assoc, List.singleton_append,
      ofChars?_quoted _ (by simp), ofChars?_newline, Option.map_map, String.ofList_toList]
    rfl
  · intro rest
    exact ⟨_, value?_quoted text _⟩

theorem optional (hw : isWord name = true) (text : Option String) :
    Written (writeOptional name text).toList
      ((Entries.ofOptional name text).map Line.ofField) := by
  cases text with
  | none => exact nil
  | some text => exact field hw text

theorem noItems (hw : isWord name = true) :
    Written (name ++ " = []\n").toList [.entry name [] (.array [])] := by
  have htext : (name ++ " = []\n").toList =
      name.toList ++ ' ' :: '=' :: ' ' :: (['[', ']'] ++ ['\n']) := by
    simp
  rw [htext]
  apply entry [.leftBracket, .rightBracket] hw
  · rfl
  · decide
  · intro rest
    simp [ofChars?_leftBracket, ofChars?_rightBracket, ofChars?_newline, Function.comp_def]
  · intro rest
    exact ⟨_, value?_brackets _⟩

theorem header (hw : isWord name = true) :
    Written ("[" ++ name ++ "]\n").toList [.header false [name]] := by
  have hmem : '\r' ∉ name.toList := not_mem_of_isWord hw (by decide)
  refine of_line .leftBracket [.bare name, .rightBracket, .newline] ?_ ?_ rfl ?_
    (line?_header name)
  · simpa using hmem
  · simp
  · intro rest
    simp [ofChars?_leftBracket, ofChars?_word hw, isBare, ofChars?_rightBracket, ofChars?_newline,
      Function.comp_def]

theorem item (hw : isWord name = true) :
    Written ("[[" ++ name ++ "]]\n").toList [.header true [name]] := by
  have hmem : '\r' ∉ name.toList := not_mem_of_isWord hw (by decide)
  refine of_line .leftBracket [.leftBracket, .bare name, .rightBracket, .rightBracket, .newline]
    ?_ ?_ rfl ?_ (line?_item name)
  · simpa using hmem
  · simp
  · intro rest
    simp [ofChars?_leftBracket, ofChars?_word hw, isBare, ofChars?_rightBracket, ofChars?_newline,
      Function.comp_def]

end Written

def Section.lines (s : Section) : List Line :=
  .header s.isItem s.header :: s.entries.map Line.ofField

theorem Section.ofLines?_fields (s : Section) (es : Entries) (lines : List Line) :
    ofLines? s (es.map Line.ofField ++ lines) =
      ofLines? { s with entries := s.entries ++ es } lines := by
  induction es generalizing s with
  | nil => rw [List.append_nil]; rfl
  | cons e es ih =>
    rw [List.map_cons, List.cons_append, Line.ofField, ofLines?, Entries.insertDotted]
    simp only [Option.bind_eq_bind, Option.bind_some]
    rw [ih, List.append_assoc, List.singleton_append]

theorem Section.ofLines?_sections (s : Section) (ss : List Section) :
    ofLines? s (ss.flatMap lines) = some (s :: ss) := by
  induction ss generalizing s with
  | nil => rfl
  | cons t ss ih =>
    rw [List.flatMap_cons, lines, List.cons_append, ofLines?, ofLines?_fields, List.nil_append, ih]
    rfl

theorem Written.parse?_eq {text : String} {es : Entries} {ss : List Section}
    (h : Written text.toList (es.map Line.ofField ++ ss.flatMap Section.lines)) :
    parse? text =
      (Entries.ofSections? ({ entries := es } :: ss)).map fun es => .table .declared es := by
  obtain ⟨ts, hchars, hlines⟩ := h.tokens
  have htokens : ofText? text = some ts := by
    rw [ofText?, dropByteOrderMark_of_head? h.head?, foldLineEnds_of_not_mem h.not_mem]
    simpa [ofChars?.eq_1] using hchars []
  have hlines' : lines? ts = some (es.map Line.ofField ++ ss.flatMap Section.lines) := by
    simpa [lines?_nil] using hlines []
  simp only [parse?, htokens, hlines', Section.ofLines?_fields, Section.ofLines?_sections,
    Option.bind_eq_bind, Option.bind_some, List.nil_append, Option.map_eq_bind]
  rfl

theorem Written.parse?_fields {text : String} {es : Entries}
    (h : Written text.toList (es.map Line.ofField)) : parse? text = some (.table .declared es) := by
  have hlines : Written text.toList (es.map Line.ofField ++ [].flatMap Section.lines) := by simpa
  exact hlines.parse?_eq

theorem Entries.insertSection_item (key : String) (added : Entries) (before : List Value) :
    insertSection true added [key] .declared [(key, .tables before)] =
      some (.declared, [(key, .tables (before ++ [.table .declared added]))]) := by
  simp [insertSection, List.span_eq_takeWhile_dropWhile, Value.isOpen]

theorem Entries.insertAll_items (key : String) (tables : List Entries) (before : List Value) :
    insertAll (tables.map fun es => { header := [key], isItem := true, entries := es }) .declared
        [(key, .tables before)] =
      some (.declared, [(key, .tables (before ++ tables.map fun es => .table .declared es))]) := by
  induction tables generalizing before with
  | nil => simp [insertAll]
  | cons es tables ih =>
    rw [List.map_cons, insertAll, List.foldlM_cons]
    simp only [insertSection_item, Option.bind_eq_bind, Option.bind_some]
    rw [← insertAll, ih]
    simp

end MailboxSearch.Toml
