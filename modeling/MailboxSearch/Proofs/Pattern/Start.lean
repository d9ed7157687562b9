import Mathlib.Data.List.TakeWhile
import MailboxSearch.Proofs.Pattern.Normal

namespace MailboxSearch.Pattern

def names (p : Pattern) : Set String :=
  {name | p.accepts name = true}

structure LongestStart (names : Set String) (start : String) : Prop where
  starts : ∀ name ∈ names, start.toList <+: name.toList
  longest : ∀ text : String, (∀ name ∈ names, text.toList <+: name.toList) →
    text.toList <+: start.toList

/-- Whether an expression tells how all of some names start, and whether there is a choice. -/
structure Fixes (e : String) (names : Set String) : Prop where
  nonempty : names.Nonempty
  longestStart : LongestStart names (literalPrefix e)
  nontrivial_iff : isWild e = true ↔ names.Nontrivial
  eq_singleton_iff : isWild e = false ↔ names = {e}

variable {d c : Char} {a start rest text : List Char} {p : Pattern} {e name : String}

theorem prefix_of_fork (hc : rest.head? ≠ some c) (h : text <+: start ++ rest)
    (h' : text <+: start ++ c :: rest) : text <+: start := by
  rcases List.prefix_or_prefix_of_prefix h (List.prefix_append start rest) with hs | ⟨more, rfl⟩
  · exact hs
  · rw [List.prefix_append_right_inj] at h h'
    cases more with
    | nil => rw [List.append_nil]
    | cons x more =>
      -- one character would have to be that of both names
      obtain ⟨rfl, -⟩ := List.cons_prefix_cons.1 h'
      obtain ⟨tail, rfl⟩ := h
      exact absurd rfl hc

theorem exists_fork (h : a.any isWildcard = true) (d : Char) :
    ∃ c rest, rest.head? ≠ some c ∧
      a.takeWhile (fun c => !isWildcard c) ++ rest ∈ spelled d a ∧
      a.takeWhile (fun c => !isWildcard c) ++ c :: rest ∈ spelled d a := by
  induction a with
  | nil => contradiction
  | cons w a ih =>
    cases hw : isWildcard w with
    | true =>
      have hrun := (isRun_ofChar w).trans hw
      obtain ⟨c, -, hc, hcd⟩ := Element.exists_other_char none
        (a.filter fun c => !isWildcard c).head? d
      -- the wildcard stands for nothing or for `c`, all others for nothing
      have hrest := filter_mem_spelled d a
      have hshort := Language.append_mem_mul (Element.nil_mem_language (d := d) hrun) hrest
      have hlong := Language.append_mem_mul (Element.singleton_mem_language hrun hcd) hrest
      rw [List.takeWhile_cons_of_neg (by simp [hw]), spelled_cons]
      exact ⟨c, _, hc, hshort, hlong⟩
    | false =>
      rw [List.any_cons, hw, Bool.false_or] at h
      obtain ⟨c, rest, hc, hshort, hlong⟩ := ih h
      rw [List.takeWhile_cons_of_pos (by simp [hw])]
      exact ⟨c, rest, hc, (mem_spelled_cons_literal hw).2 ⟨_, hshort, rfl⟩,
        (mem_spelled_cons_literal hw).2 ⟨_, hlong, rfl⟩⟩

theorem likened_eq_spelled (h : ∀ c ∈ a, isWildcard c = false) :
    likened a = spelled localWildcard a := by
  rw [likened, spelled, List.map_map]
  congr 1
  apply List.map_congr_left
  intro c hc
  rw [Function.comp_apply, ofChar_of_not_isWildcard (h c hc)]
  rfl

theorem takeWhile_of_not_isWild (h : isWild e = false) :
    (e.toList.takeWhile fun c => !isWildcard c) = e.toList := by
  apply List.takeWhile_eq_self_iff.2
  intro c hc
  simp [not_isWildcard_of_not_isWild h c hc]

theorem mem_names : name ∈ p.names ↔ name.toList ∈ p.language :=
  accepts_iff_mem_language p name

theorem ofList_mem_names : String.ofList text ∈ p.names ↔ text ∈ p.language := by
  rw [mem_names, String.toList_ofList]

section Between

variable (hl : spelled d e.toList ≤ p.language) (hu : p.language ≤ likened e.toList)

include hl

theorem nonempty_names : p.names.Nonempty := by
  obtain ⟨text, ht⟩ := exists_mem_spelled d e.toList
  exact ⟨String.ofList text, ofList_mem_names.2 (hl ht)⟩

theorem nontrivial_names (h : isWild e = true) : p.names.Nontrivial := by
  obtain ⟨c, rest, -, hshort, hlong⟩ := exists_fork h d
  refine ⟨_, ofList_mem_names.2 (hl hshort), _, ofList_mem_names.2 (hl hlong), ?_⟩
  intro heq
  have hrest := List.append_cancel_left (String.ofList_injective heq)
  exact List.cons_ne_self c rest hrest.symm

include hu

theorem names_eq_singleton (h : isWild e = false) : p.names = {e} := by
  have hwild := not_isWildcard_of_not_isWild h
  ext name
  rw [mem_names, Set.mem_singleton_iff, ← String.toList_inj]
  constructor
  · intro hn
    have hlike : name.toList ∈ likened e.toList := hu hn
    rwa [likened_eq_spelled hwild, mem_spelled_iff_eq hwild] at hlike
  · intro hn
    exact hl ((mem_spelled_iff_eq hwild).2 hn)

theorem longestStart_names : LongestStart p.names (literalPrefix e) where
  starts := by
    intro name hn
    rw [literalPrefix, String.toList_ofList]
    exact takeWhile_prefix_of_mem_likened (hu (mem_names.1 hn))
  longest := by
    intro text h
    rw [literalPrefix, String.toList_ofList]
    cases hw : isWild e with
    | true =>
      obtain ⟨c, rest, hc, hshort, hlong⟩ := exists_fork hw d
      have hshort' := h _ (ofList_mem_names.2 (hl hshort))
      have hlong' := h _ (ofList_mem_names.2 (hl hlong))
      rw [String.toList_ofList] at hshort' hlong'
      exact prefix_of_fork hc hshort' hlong'
    | false =>
      rw [takeWhile_of_not_isWild hw]
      apply h
      rw [names_eq_singleton hl hu hw]
      rfl

theorem fixes_names_of_between : Fixes e p.names where
  nonempty := nonempty_names hl
  longestStart := longestStart_names hl hu
  nontrivial_iff := by
    refine ⟨nontrivial_names hl, ?_⟩
    intro h
    by_contra hw
    rw [names_eq_singleton hl hu (Bool.eq_false_of_not_eq_true hw)] at h
    exact Set.not_nontrivial_singleton h
  eq_singleton_iff := by
    refine ⟨names_eq_singleton hl hu, ?_⟩
    intro h
    apply Bool.eq_false_of_not_eq_true
    intro hw
    exact Set.not_nontrivial_singleton (h ▸ nontrivial_names hl hw)

end Between

/--
There are names that an expression stands for, and the text before its first wildcard is the longest
that all of them start with. They are more than one if and only if it has a wildcard; if it has
none, it is the only one. All of this holds of the names that are like it, too.
-/
theorem fixes_names (e : String) (d : Char) :
    Fixes e (compile e d).names ∧ Fixes e (like e).names := by
  constructor
  · apply fixes_names_of_between (d := d)
    · rw [language_compile]
    · rw [language_compile]
      exact spelled_le_likened
  · apply fixes_names_of_between (d := d)
    · rw [language_like]
      exact spelled_le_likened
    · rw [language_like]

end MailboxSearch.Pattern
