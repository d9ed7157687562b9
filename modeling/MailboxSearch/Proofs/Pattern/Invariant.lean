import MailboxSearch.Proofs.Pattern.Normal

namespace MailboxSearch.Pattern

def MarksWithin (b : Array Bool) (is : List Nat) : Prop :=
  ∀ before i after, is = before ++ i :: after → i < (mark b before).size

def ClosesWithin (p : Pattern) (b : Array Bool) : Prop :=
  ∀ before e i after, p.elements.zipIdx = before ++ (e, i) :: after →
    i + 1 < (before.foldl passOn b).size

variable {p : Pattern} {b live : Array Bool} {e : Element} {is : List Nat}
variable {c : Char} {text : List Char} {i j : Nat} {s : Scan}

theorem marksWithin_of_forall_lt (h : ∀ i ∈ is, i < b.size) : MarksWithin b is := by
  rintro before i after rfl
  rw [size_mark]
  exact h i (List.mem_append_right before List.mem_cons_self)

theorem closesWithin_of_size (h : b.size = p.elements.length + 1) : p.ClosesWithin b := by
  intro before e i after hs
  have hmem : (e, i) ∈ p.elements.zipIdx := by
    rw [hs]
    exact List.mem_append_right before List.mem_cons_self
  have hi := (List.getElem?_eq_some_iff.1 (List.mk_mem_zipIdx_iff_getElem?.1 hmem)).1
  rw [size_foldl_passOn, h]
  exact Nat.succ_lt_succ hi

theorem le_succ_of_move (h : e.move p.delimiter c i = some j) : j ≤ i + 1 := by
  cases hr : e.isRun with
  | true => exact ((Element.move_run hr).1 h).2 ▸ Nat.le_succ i
  | false =>
    obtain ⟨l, rfl⟩ := Element.exists_literal hr
    exact (Element.move_literal.1 h).2.ge

theorem lt_of_mem_moves (h : j ∈ p.moves live c) : j < p.elements.length + 1 := by
  obtain ⟨i, e, he, -, hm⟩ := mem_moves.1 h
  have hi := (List.getElem?_eq_some_iff.1 he).1
  have hj := le_succ_of_move hm
  omega

theorem Scan.Holds.size_spare (h : s.Holds p text) : s.spare.size = p.elements.length + 1 := by
  rw [h.spare, Array.size_replicate]

theorem Scan.Holds.marksWithin (h : s.Holds p text) (c : Char) :
    MarksWithin s.spare (p.moves s.live c) := by
  apply marksWithin_of_forall_lt
  intro j hj
  rw [h.size_spare]
  exact lt_of_mem_moves hj

theorem Scan.Holds.closesWithin (h : s.Holds p text) (c : Char) :
    p.ClosesWithin (mark s.spare (p.moves s.live c)) := by
  apply closesWithin_of_size
  rw [size_mark, h.size_spare]

theorem exists_append_mem_language (h : p.Reaches text i) : ∃ rest, text ++ rest ∈ p.language := by
  have hsplit : p.language =
      Element.languageOf p.delimiter (p.elements.take i) *
        Element.languageOf p.delimiter (p.elements.drop i) := by
    rw [← Element.languageOf_append, List.take_append_drop]
    rfl
  -- the literals of the other elements are the shortest way on
  refine ⟨Element.literals (p.elements.drop i), ?_⟩
  rw [hsplit]
  exact Language.append_mem_mul h (Element.literals_mem_languageOf _)

theorem Scan.Holds.exists_append_mem_language {t : Scan} (h : s.Holds p text)
    (ht : p.advance s c = some t) : ∃ rest, text ++ c :: rest ∈ p.language := by
  rw [Pattern.advance] at ht
  split at ht
  · contradiction
  · next is hne =>
    -- a position that is marked is live next, and what it has read can be completed
    obtain ⟨j, hj⟩ := List.exists_mem_of_ne_nil _ hne
    have hlive := (live_concat_iff h.live (Nat.le_of_lt_succ (lt_of_mem_moves hj))).2 (.inl hj)
    obtain ⟨rest, hrest⟩ := Pattern.exists_append_mem_language hlive
    exact ⟨rest, by rwa [List.append_assoc] at hrest⟩

theorem Scan.Holds.advance_eq_none_iff (h : s.Holds p text) :
    p.advance s c = none ↔ ∀ rest, p.accepts (String.ofList (text ++ c :: rest)) = false := by
  simp only [← Bool.not_eq_true, accepts_iff_mem_language, String.toList_ofList]
  constructor
  · intro ht rest
    rw [← live_length]
    exact h.not_live_of_advance ht rest _ le_rfl
  · intro hall
    cases ht : p.advance s c with
    | none => rfl
    | some t =>
      obtain ⟨rest, hrest⟩ := h.exists_append_mem_language ht
      exact absurd hrest (hall rest)

/--
What holds when a scan of any pattern has read a text and has not given up. The spare buffer is
blank, and a position is live if and only if the elements that it answers for stand for the text.
The marks of the next step, like those of the start, fall within their buffers, and the next
character makes the scan give up if and only if no name that goes on with it is accepted.
-/
theorem scan_invariant (p : Pattern) :
    let blank := Array.replicate (p.elements.length + 1) false
    MarksWithin blank [0] ∧ p.ClosesWithin (mark blank [0]) ∧
    ∀ text s, p.scan text = some s →
      s.spare = blank ∧
      s.live.size = p.elements.length + 1 ∧
      (∀ i ≤ p.elements.length,
        (s.live.getD i false = true ↔
          text ∈ Element.languageOf p.delimiter
            (p.elements.take (if p.runAt i then i + 1 else i)))) ∧
      ∀ c, MarksWithin s.spare (p.moves s.live c) ∧
        p.ClosesWithin (mark s.spare (p.moves s.live c)) ∧
        (p.advance s c = none ↔
          ∀ rest, p.accepts (String.ofList (text ++ c :: rest)) = false) := by
  intro blank
  refine ⟨?_, ?_, ?_⟩
  · apply marksWithin_of_forall_lt
    simp [blank]
  · apply closesWithin_of_size
    rw [size_mark, Array.size_replicate]
  · intro text s hs
    have h := holds_scan p text
    rw [hs] at h
    refine ⟨h.spare, h.size, h.live, ?_⟩
    intro c
    exact ⟨h.marksWithin c, h.closesWithin c, h.advance_eq_none_iff⟩

theorem scan_invariant_waiting :
    let p := compile "%a" '.'
    ∃ s, p.scan ['a'] = some s ∧ s.live.toList = [true, true, true] ∧
      ['a'] ∈ Element.languageOf '.' (p.elements.take 1) ∧
      MarksWithin s.spare (p.moves s.live 'a') ∧ p.advance s '.' = none ∧
      ∀ rest, p.accepts (String.ofList ('a' :: '.' :: rest)) = false := by
  intro p
  have hs : (p.scan ['a']).map (fun s => (s.live.toList, (p.advance s '.').isNone)) =
      some ([true, true, true], true) := by decide +kernel
  obtain ⟨s, hs, hlive⟩ := Option.map_eq_some_iff.1 hs
  obtain ⟨hlive, hnone⟩ := Prod.mk.inj hlive
  have hnone : p.advance s '.' = none := Option.isNone_iff_eq_none.1 hnone
  obtain ⟨-, -, hiff, hnext⟩ := (scan_invariant p).2.2 ['a'] s hs
  have hzero : s.live.getD 0 false = true := by
    rw [Array.getD_eq_getD_getElem?, ← Array.getElem?_toList, hlive]
    rfl
  exact ⟨s, hs, hlive, (hiff 0 (Nat.zero_le _)).1 hzero, (hnext 'a').1, hnone,
    (hnext '.').2.2.1 hnone⟩

end MailboxSearch.Pattern
