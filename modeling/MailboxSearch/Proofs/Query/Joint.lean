import MailboxSearch.Proofs.Pattern.Scan
import MailboxSearch.Query.Basic

namespace MailboxSearch.Query

variable {d : Char} {start text rest : List Char}

theorem after_eq_some_iff : after start text = some rest ↔ text = start ++ rest := by
  rw [after]
  split
  · next h =>
    obtain ⟨t, rfl⟩ := List.isPrefixOf_iff_prefix.1 h
    rw [List.drop_left, Option.some_inj, List.append_cancel_left_eq]
  · next h =>
    constructor
    · intro h'
      contradiction
    · rintro rfl
      exact absurd (List.isPrefixOf_iff_prefix.2 (List.prefix_append start rest)) h

@[simp] theorem after_nil : after [] text = some text := rfl

theorem after_append {more : List Char} :
    after (start ++ more) text = (after start text).bind (after more) := by
  ext rest
  simp [Option.bind_eq_some_iff, after_eq_some_iff]

theorem leads_iff : leads d text = true ↔ ∃ rest, text = d :: rest := by
  rw [leads, beq_iff_eq, List.head?_eq_some_iff]

theorem trails_iff : trails d text = true ↔ ∃ front, text = front ++ [d] := by
  rw [trails, beq_iff_eq, List.getLast?_eq_some_iff]

/-- What the base of a query puts in front of the expression. -/
def stem (q : Query) : List Char :=
  if q.baseName.isEmpty then []
  else
    match trails q.delimiter q.baseName, leads q.delimiter q.expressionText with
    | true, true => q.baseName.dropLast
    | true, false => q.baseName
    | false, true => q.baseName
    | false, false => if q.expressionText.isEmpty then q.baseName else q.baseName ++ [q.delimiter]

variable {q : Query} {name : String}

theorem leads_nil : leads d [] = false := rfl

theorem toList_combinedName (q : Query) : q.combinedName.toList = q.stem ++ q.expressionText := by
  rw [combinedName, stem]
  rw [String.toList_ofList]
  by_cases hb : q.baseName.isEmpty
  · rw [if_pos hb, if_pos hb, List.nil_append]
  · rw [if_neg hb, if_neg hb]
    by_cases he : q.expressionText.isEmpty
    · rw [List.isEmpty_iff.1 he, leads_nil]
      cases trails q.delimiter q.baseName <;> simp
    · rw [if_neg he]
      cases ht : trails q.delimiter q.baseName with
      | true =>
        cases hl : leads q.delimiter q.expressionText with
        | true =>
          obtain ⟨front, hf⟩ := trails_iff.1 ht
          obtain ⟨back, hk⟩ := leads_iff.1 hl
          simp [hf, hk]
        | false => rfl
      | false =>
        cases hl : leads q.delimiter q.expressionText with
        | true => rfl
        | false => simp [he]

theorem relativeName_eq (q : Query) (name : String) :
    q.relativeName name = (after q.stem name.toList).map String.ofList := by
  rw [relativeName, stem]
  by_cases hb : q.baseName.isEmpty
  · rw [if_pos hb, if_pos hb, after_nil, Option.map_some, String.ofList_toList]
  · rw [if_neg hb, if_neg hb]
    cases trails q.delimiter q.baseName with
    | true => cases leads q.delimiter q.expressionText <;> rfl
    | false =>
      cases leads q.delimiter q.expressionText with
      | true => rfl
      | false =>
        by_cases he : q.expressionText.isEmpty
        · simp [he]
        · simp [he, after_append]

theorem relativeName_eq_some_iff {rest : String} :
    q.relativeName name = some rest ↔ name.toList = q.stem ++ rest.toList := by
  rw [relativeName_eq, Option.map_eq_some_iff]
  constructor
  · intro ⟨text, ht, h⟩
    rw [← h, String.toList_ofList]
    exact after_eq_some_iff.1 ht
  · intro h
    exact ⟨rest.toList, after_eq_some_iff.2 h, String.ofList_toList⟩

theorem isExpressionMatch_iff :
    q.isExpressionMatch name = true ↔
      ∃ e, q.expression = some e ∧ name.toList ∈ Pattern.spelled q.delimiter e.toList := by
  simp [isExpressionMatch, pattern, Option.any_eq_true, Pattern.accepts_compile_iff]

theorem isPathMatch_iff {p : Path} :
    q.isPathMatch p = true ↔
      q.inScope p = true ∧
        ∃ e rest, q.expression = some e ∧ p.nameText.toList = q.stem ++ rest ∧
          rest ∈ Pattern.spelled q.delimiter e.toList := by
  rw [isPathMatch, Bool.and_eq_true, Option.any_eq_true]
  apply and_congr_right
  intro _
  constructor
  · intro ⟨rest, hr, hm⟩
    obtain ⟨e, he, hs⟩ := isExpressionMatch_iff.1 hm
    exact ⟨e, rest.toList, he, relativeName_eq_some_iff.1 hr, hs⟩
  · intro ⟨e, rest, he, hn, hs⟩
    refine ⟨String.ofList rest, relativeName_eq_some_iff.2 ?_,
      isExpressionMatch_iff.2 ⟨e, he, ?_⟩⟩
    · rw [hn, String.toList_ofList]
    · rwa [String.toList_ofList]

theorem expressionText_eq {e : String} (he : q.expression = some e) :
    q.expressionText = e.toList := by
  rw [expressionText, he, Option.getD_some]

theorem isSome_expression (h : q.expressionText ≠ []) : q.expression.isSome = true := by
  cases he : q.expression with
  | none => simp [expressionText, he] at h
  | some e => rfl

theorem exists_rest_of_isPathMatch {p : Path} (h : q.isPathMatch p = true) :
    ∃ rest ∈ Pattern.spelled q.delimiter q.expressionText,
      p.nameText.toList = q.stem ++ rest := by
  obtain ⟨-, e, rest, he, hn, hs⟩ := isPathMatch_iff.1 h
  exact ⟨rest, by rwa [expressionText_eq he], hn⟩

theorem isPathMatch_iff_of_isSome (h : q.expression.isSome = true) {p : Path} :
    q.isPathMatch p = true ↔
      q.inScope p = true ∧
        ∃ rest ∈ Pattern.spelled q.delimiter q.expressionText,
          p.nameText.toList = q.stem ++ rest := by
  constructor
  · intro hp
    exact ⟨(isPathMatch_iff.1 hp).1, exists_rest_of_isPathMatch hp⟩
  · intro ⟨hscope, rest, hs, hn⟩
    obtain ⟨e, he⟩ := Option.isSome_iff_exists.1 h
    rw [expressionText_eq he] at hs
    exact isPathMatch_iff.2 ⟨hscope, e, rest, he, hn, hs⟩

end MailboxSearch.Query
