import Mathlib.Data.List.Chain
import MailboxSearch.Proofs.Pattern.Scan

namespace MailboxSearch

namespace Element

def char? : Element → Option Char
  | literal c => some c
  | localRun => none
  | freeRun => none

def literals (es : List Element) : List Char :=
  es.filterMap char?

def Normal (es : List Element) : Prop :=
  es.IsChain fun e f => e.isRun = false ∨ f.isRun = false

def Takes (d c : Char) : List Element → Prop
  | [] => False
  | e :: _ => e.isRun = true ∧ [c] ∈ e.language d

variable {d c : Char} {e f : Element} {es fs front : List Element} {name rest : List Char}

theorem char?_of_isRun (h : e.isRun = true) : e.char? = none := by
  cases e with
  | literal c => contradiction
  | localRun => rfl
  | freeRun => rfl

@[simp] theorem literals_nil : literals [] = [] := rfl

@[simp] theorem literals_cons_literal : literals (literal c :: es) = c :: literals es := rfl

theorem literals_cons_run (h : e.isRun = true) : literals (e :: es) = literals es := by
  simp [literals, char?_of_isRun h]

@[simp] theorem literals_append : literals (es ++ fs) = literals es ++ literals fs :=
  List.filterMap_append

theorem normal_push (h : Normal es) (e : Element) : Normal (push es e) := by
  cases es with
  | nil => cases e <;> exact List.isChain_singleton _
  | cons last es =>
    cases e with
    | literal c => exact List.isChain_cons_cons.2 ⟨.inl rfl, h⟩
    | localRun =>
      rw [push]
      split
      · exact h
      · next hl => exact List.isChain_cons_cons.2 ⟨.inr (Bool.eq_false_of_not_eq_true hl), h⟩
    | freeRun =>
      rw [push]
      split
      · next hl =>
        -- the new run takes the place of one, so what comes before it is still no run
        obtain ⟨hbefore, hes⟩ := List.isChain_cons.1 h
        exact List.isChain_cons.2 ⟨fun f hf => .inr (by simpa [hl] using hbefore f hf), hes⟩
      · next hl => exact List.isChain_cons_cons.2 ⟨.inr (Bool.eq_false_of_not_eq_true hl), h⟩

theorem normal_foldl_push (h : Normal es) (fs : List Element) : Normal (fs.foldl push es) := by
  induction fs generalizing es with
  | nil => exact h
  | cons f fs ih => exact ih (normal_push h f)

theorem normal_collapse (es : List Element) : Normal (collapse es) := by
  rw [collapse, Normal, List.isChain_reverse]
  exact (normal_foldl_push List.isChain_nil es).imp fun _ _ h => h.symm

theorem literals_push (es : List Element) (e : Element) :
    literals (push es e).reverse = literals es.reverse ++ literals [e] := by
  fun_cases push es e with
  | case1 last es h => rw [literals_cons_run rfl, literals_nil, List.append_nil]
  | case2 last es h => rw [List.reverse_cons, literals_append]
  | case3 last es h =>
    rw [List.reverse_cons, List.reverse_cons, literals_append, literals_append,
      literals_cons_run h, literals_cons_run rfl, literals_nil, List.append_nil, List.append_nil]
  | case4 last es h => rw [List.reverse_cons, literals_append]
  | case5 => rw [List.reverse_cons, literals_append]

theorem literals_foldl_push (es fs : List Element) :
    literals (fs.foldl push es).reverse = literals es.reverse ++ literals fs := by
  induction fs generalizing es with
  | nil => simp
  | cons f fs ih =>
    rw [List.foldl_cons, ih, literals_push, List.append_assoc, ← literals_append,
      List.singleton_append]

@[simp] theorem literals_collapse (es : List Element) : literals (collapse es) = literals es :=
  literals_foldl_push [] es

theorem literals_mem_languageOf (es : List Element) : literals es ∈ languageOf d es := by
  induction es with
  | nil => exact rfl
  | cons e es ih =>
    rw [languageOf_cons]
    cases he : e.isRun with
    | true =>
      rw [literals_cons_run he]
      exact Language.append_mem_mul (nil_mem_language he) ih
    | false =>
      obtain ⟨l, rfl⟩ := exists_literal he
      exact Language.append_mem_mul (mem_language_literal.2 rfl) ih

theorem literals_sublist (h : name ∈ languageOf d es) : (literals es).Sublist name := by
  induction es generalizing name with
  | nil => exact List.nil_sublist name
  | cons e es ih =>
    rw [languageOf_cons] at h
    obtain ⟨text, ht, rest, hr, rfl⟩ := Language.mem_mul.1 h
    cases he : e.isRun with
    | true =>
      rw [literals_cons_run he]
      exact (ih hr).trans (List.sublist_append_right text rest)
    | false =>
      obtain ⟨l, rfl⟩ := exists_literal he
      rw [mem_language_literal.1 ht]
      exact (ih hr).cons_cons l

theorem literals_eq_of_languageOf_eq (h : languageOf d es = languageOf d fs) :
    literals es = literals fs :=
  List.Sublist.antisymm (literals_sublist (h ▸ literals_mem_languageOf fs))
    (literals_sublist (h ▸ literals_mem_languageOf es))

theorem head?_literals_of_mem (hes : ∀ e ∈ es.head?, e.isRun = false)
    (h : c :: rest ∈ languageOf d es) : (literals es).head? = some c := by
  cases es with
  | nil => contradiction
  | cons e es =>
    obtain ⟨l, rfl⟩ := exists_literal (hes e rfl)
    rw [languageOf_cons] at h
    obtain ⟨text, rfl, tail, -, ht⟩ := Language.mem_mul.1 h
    cases ht
    rfl

theorem getLast?_literals_of_mem (hes : ∀ e ∈ es.getLast?, e.isRun = false)
    (h : rest ++ [c] ∈ languageOf d es) : (literals es).getLast? = some c := by
  cases List.eq_nil_or_concat' es with
  | inl hn =>
    rw [hn] at h
    exact absurd h (List.append_ne_nil_of_right_ne_nil rest (List.cons_ne_nil c []))
  | inr hn =>
    obtain ⟨es, e, rfl⟩ := hn
    obtain ⟨l, rfl⟩ := exists_literal (hes e List.getLast?_concat)
    rw [languageOf_concat] at h
    obtain ⟨text, -, tail, rfl, ht⟩ := Language.mem_mul.1 h
    cases List.append_inj_right' ht rfl
    simp

theorem head?_not_isRun (h : Normal (e :: es)) (he : e.isRun = true) :
    ∀ f ∈ es.head?, f.isRun = false := by
  intro f hf
  simpa [he] using (List.isChain_cons.1 h).1 f hf

theorem cons_literals_mem_iff (h : Normal es) (hc : (literals es).head? ≠ some c) :
    c :: literals es ∈ languageOf d es ↔ Takes d c es := by
  cases es with
  | nil => exact iff_of_false (List.cons_ne_nil c []) id
  | cons e es =>
    cases he : e.isRun with
    | false =>
      -- the name would have to begin with the literal
      have hes : ∀ f ∈ (e :: es).head?, f.isRun = false := by
        rintro f ⟨⟩
        exact he
      apply iff_of_false
      · intro hm
        exact hc (head?_literals_of_mem hes hm)
      · intro ht
        exact Bool.false_ne_true (he.symm.trans ht.1)
    | true =>
      rw [literals_cons_run he] at hc ⊢
      rw [languageOf_cons, Takes, and_iff_right he, Language.mem_mul]
      constructor
      · rintro ⟨text, ht, rest, hr, hm⟩
        rcases List.append_eq_cons_iff.1 hm with ⟨rfl, rfl⟩ | ⟨text, rfl, hl⟩
        · exact absurd (head?_literals_of_mem (head?_not_isRun h he) hr) hc
        · -- the literals after the run leave no more than one character to it
          have hrest := (literals_sublist hr).length_le
          have hlen := congrArg List.length hl
          rw [List.length_append] at hlen
          rwa [List.eq_nil_of_length_eq_zero (by omega : text.length = 0)] at ht
      · intro hm
        exact ⟨[c], hm, literals es, literals_mem_languageOf es, rfl⟩

theorem insert_mem_iff (h : Normal fs) (hfront : ∀ e ∈ front.getLast?, e.isRun = false)
    (hl : (literals front).getLast? ≠ some c) (hr : (literals fs).head? ≠ some c) :
    literals front ++ c :: literals fs ∈ languageOf d (front ++ fs) ↔ Takes d c fs := by
  rw [languageOf_append, ← cons_literals_mem_iff h hr]
  constructor
  · intro hm
    obtain ⟨x, hx, y, hy, hxy⟩ := Language.mem_mul.1 hm
    have hx' := (literals_sublist hx).length_le
    have hy' := (literals_sublist hy).length_le
    have hlen := congrArg List.length hxy
    rw [List.length_append, List.length_append, List.length_cons] at hlen
    rcases Nat.lt_or_eq_of_le hx' with hlt | heq
    · -- the character falls to the elements in front, and there is no run at their end
      have hy'' : literals fs = y := (literals_sublist hy).eq_of_length_le (by omega)
      rw [← hy'', ← List.concat_append, List.concat_eq_append] at hxy
      rw [List.append_cancel_right hxy] at hx
      exact absurd (getLast?_literals_of_mem hfront hx) hl
    · have hx'' : literals front = x := (literals_sublist hx).eq_of_length heq
      rw [← hx''] at hxy
      rwa [← List.append_cancel_left hxy]
  · intro hm
    exact Language.append_mem_mul (literals_mem_languageOf front) hm

theorem eq_of_mem_language_iff (he : e.isRun = true) (hf : f.isRun = true)
    (h : [d] ∈ e.language d ↔ [d] ∈ f.language d) : e = f := by
  cases e with
  | literal c => contradiction
  | localRun =>
    cases f with
    | literal c => contradiction
    | localRun => rfl
    | freeRun => simp at h
  | freeRun =>
    cases f with
    | literal c => contradiction
    | localRun => simp at h
    | freeRun => rfl

theorem exists_other_char (l m : Option Char) (d : Char) :
    ∃ c, l ≠ some c ∧ m ≠ some c ∧ c ≠ d := by
  by_contra h
  have hall : ∀ c, l = some c ∨ m = some c ∨ c = d := by grind
  -- three characters cannot be four
  have := hall 'w'
  have := hall 'x'
  have := hall 'y'
  have := hall 'z'
  grind

theorem head?_eq_of_not_isRun (h : ∀ e ∈ es.head?, e.isRun = false) :
    es.head? = (literals es).head?.map literal := by
  cases es with
  | nil => rfl
  | cons e es =>
    obtain ⟨l, rfl⟩ := exists_literal (h e rfl)
    rfl

section Equal

variable (hd : d ∉ literals (front ++ es))
  (h : languageOf d (front ++ es) = languageOf d (front ++ fs))

include h

theorem literals_eq_of_languageOf_append_eq : literals es = literals fs := by
  have := literals_eq_of_languageOf_eq h
  rwa [literals_append, literals_append, List.append_cancel_left_eq] at this

variable (hes : Normal (front ++ es)) (hfs : Normal (front ++ fs))

include hd hes hfs

theorem head?_eq_of_isRun (he : e ∈ es.head?) (hrun : e.isRun = true) : fs.head? = some e := by
  have hlits := literals_eq_of_languageOf_append_eq h
  obtain ⟨-, hnormal, hseam⟩ := List.isChain_append.1 hes
  have hfront : ∀ f ∈ front.getLast?, f.isRun = false := by
    intro f hf
    simpa [hrun] using hseam f hf e he
  have htakes : ∀ c, (literals front).getLast? ≠ some c → (literals fs).head? ≠ some c →
      (Takes d c es ↔ Takes d c fs) := by
    intro c hl hr
    rw [← insert_mem_iff hnormal hfront hl (hlits ▸ hr), h, hlits]
    exact insert_mem_iff (List.isChain_append.1 hfs).2.1 hfront hl hr
  obtain ⟨es, rfl⟩ := List.head?_eq_some_iff.1 he
  obtain ⟨c, hl, hr, hc⟩ := exists_other_char (literals front).getLast? (literals fs).head? d
  have hother := (htakes c hl hr).1 ⟨hrun, singleton_mem_language hrun hc⟩
  cases fs with
  | nil => exact hother.elim
  | cons f fs =>
    rw [literals_append, List.mem_append, not_or] at hd
    have hdelim := htakes d (fun hl => hd.1 (List.mem_of_getLast? hl))
      (fun hr => hd.2 (hlits ▸ List.mem_of_head? hr))
    rw [Takes, Takes, and_iff_right hrun, and_iff_right hother.1] at hdelim
    rw [List.head?_cons, eq_of_mem_language_iff hrun hother.1 hdelim]

theorem head?_eq_of_languageOf_eq : es.head? = fs.head? := by
  have hd' : d ∉ literals (front ++ fs) := literals_eq_of_languageOf_eq h ▸ hd
  by_cases he : ∃ e ∈ es.head?, e.isRun = true
  · obtain ⟨e, he, hrun⟩ := he
    rw [head?_eq_of_isRun hd h hes hfs he hrun]
    exact he
  · by_cases hf : ∃ f ∈ fs.head?, f.isRun = true
    · obtain ⟨f, hf, hrun⟩ := hf
      rw [head?_eq_of_isRun hd' h.symm hfs hes hf hrun]
      exact hf.symm
    · rw [head?_eq_of_not_isRun (by simpa using he), head?_eq_of_not_isRun (by simpa using hf),
        literals_eq_of_languageOf_append_eq h]

end Equal

theorem Normal.eq_of_languageOf_eq (hes : Normal (front ++ es)) (hfs : Normal (front ++ fs))
    (hd : d ∉ literals (front ++ es))
    (h : languageOf d (front ++ es) = languageOf d (front ++ fs)) : es = fs := by
  have hhead := head?_eq_of_languageOf_eq hd h hes hfs
  induction es generalizing front fs with
  | nil => exact (List.head?_eq_none_iff.1 hhead.symm).symm
  | cons e es ih =>
    obtain ⟨fs, rfl⟩ := List.head?_eq_some_iff.1 hhead.symm
    rw [List.append_cons] at hes hfs hd h
    rw [List.append_cons front e fs] at h
    rw [ih hes hfs hd h (head?_eq_of_languageOf_eq hd h hes hfs)]

end Element

namespace Pattern

variable {a b : String} {d : Char}

theorem literals_map_ofChar (cs : List Char) :
    Element.literals (cs.map Element.ofChar) = cs.filter fun c => !isWildcard c := by
  induction cs with
  | nil => rfl
  | cons c cs ih =>
    cases hc : isWildcard c with
    | true =>
      rw [List.map_cons, Element.literals_cons_run ((isRun_ofChar c).trans hc),
        List.filter_cons_of_neg (by simp [hc]), ih]
    | false =>
      rw [List.map_cons, ofChar_of_not_isWildcard hc, Element.literals_cons_literal,
        List.filter_cons_of_pos (by simp [hc]), ih]

theorem literals_compile (e : String) (d : Char) :
    Element.literals (compile e d).elements = e.toList.filter fun c => !isWildcard c :=
  (Element.literals_collapse _).trans (literals_map_ofChar _)

theorem normal_compile (e : String) (d : Char) : Element.Normal (compile e d).elements :=
  Element.normal_collapse _

theorem language_eq_of_accepts_eq {p q : Pattern} (h : ∀ name, p.accepts name = q.accepts name) :
    p.language = q.language := by
  ext name
  have := h (String.ofList name)
  rwa [Bool.eq_iff_iff, accepts_iff_mem_language, accepts_iff_mem_language,
    String.toList_ofList] at this

theorem compile_eq_of_language_eq (hd : isWildcard d = true ∨ d ∉ a.toList)
    (h : (compile a d).language = (compile b d).language) : compile a d = compile b d := by
  have hlit : d ∉ Element.literals (compile a d).elements := by
    rw [literals_compile, List.mem_filter]
    rintro ⟨hmem, hwild⟩
    rcases hd with hd | hd
    · simp [hd] at hwild
    · exact hd hmem
  have ha : Element.Normal ([] ++ (compile a d).elements) := normal_compile a d
  have helements : (compile a d).elements = (compile b d).elements :=
    ha.eq_of_languageOf_eq (normal_compile b d) hlit h
  rw [compile, compile, mk.injEq]
  exact ⟨helements, rfl⟩

/--
Two compiled expressions are the same pattern if and only if they accept the same names, as long as
the delimiter is not a literal of either.
-/
theorem compile_eq_iff (a b : String) (d : Char) :
    (compile a d = compile b d →
        ∀ name, (compile a d).accepts name = (compile b d).accepts name) ∧
      (isWildcard d = true ∨ d ∉ a.toList ∧ d ∉ b.toList →
        (compile a d = compile b d ↔
          ∀ name, (compile a d).accepts name = (compile b d).accepts name)) := by
  have hsame : compile a d = compile b d →
      ∀ name, (compile a d).accepts name = (compile b d).accepts name := by
    intro h name
    rw [h]
  refine ⟨hsame, ?_⟩
  intro hd
  refine ⟨hsame, ?_⟩
  intro h
  exact compile_eq_of_language_eq (hd.imp_right And.left) (language_eq_of_accepts_eq h)

theorem compile_eq_iff_runs :
    let a := "a%*b"
    let b := "a*%b"
    let c := "a%b"
    ('.' ∉ a.toList ∧ '.' ∉ b.toList ∧ '.' ∉ c.toList ∧ isWildcard '%' = true) ∧
      (∀ name, (compile a '.').accepts name = (compile b '.').accepts name) ∧
      (¬ ∀ name, (compile a '.').accepts name = (compile c '.').accepts name) ∧
      ¬ ∀ name, (compile a '%').accepts name = (compile c '%').accepts name := by
  intro a b c
  have ha : '.' ∉ a.toList := by decide
  have hb : '.' ∉ b.toList := by decide
  have hc : '.' ∉ c.toList := by decide
  refine ⟨⟨ha, hb, hc, rfl⟩, ?_, ?_, ?_⟩
  · exact (compile_eq_iff a b '.').1 (by decide)
  · rw [← (compile_eq_iff a c '.').2 (.inr ⟨ha, hc⟩)]
    decide
  · rw [← (compile_eq_iff a c '%').2 (.inl rfl)]
    decide

end Pattern

end MailboxSearch
