import Mathlib.Computability.Language
import Mathlib.Order.CompletePartialOrder
import MailboxSearch.Pattern.Basic

namespace MailboxSearch

namespace Element

def language (d : Char) : Element → Language Char
  | .literal c => {[c]}
  | .localRun => {text | d ∉ text}
  | .freeRun => ⊤

def languageOf (d : Char) (es : List Element) : Language Char :=
  (es.map (language d)).prod

variable {d c : Char} {e last : Element} {es : List Element} {text : List Char}

@[simp] theorem mem_language_literal : text ∈ (literal c).language d ↔ text = [c] := Iff.rfl

@[simp] theorem mem_language_localRun : text ∈ localRun.language d ↔ d ∉ text := Iff.rfl

@[simp] theorem mem_language_freeRun : text ∈ freeRun.language d ↔ True := Iff.rfl

@[simp] theorem languageOf_nil : languageOf d [] = 1 := rfl

@[simp] theorem languageOf_cons : languageOf d (e :: es) = e.language d * languageOf d es :=
  List.prod_cons

theorem languageOf_append {fs : List Element} :
    languageOf d (es ++ fs) = languageOf d es * languageOf d fs := by
  simp only [languageOf, List.map_append, List.prod_append]

theorem languageOf_concat : languageOf d (es ++ [e]) = languageOf d es * e.language d := by
  rw [languageOf_append, languageOf_cons, languageOf_nil, mul_one]

theorem concat_mem_language (h : e.isRun = true) :
    text ++ [c] ∈ e.language d ↔ text ∈ e.language d ∧ [c] ∈ e.language d := by
  cases e with
  | literal l => contradiction
  | localRun => simp
  | freeRun => simp

theorem nil_mem_language (h : e.isRun = true) : [] ∈ e.language d := by
  cases e with
  | literal l => contradiction
  | localRun => simp
  | freeRun => simp

theorem singleton_mem_language (h : e.isRun = true) (hc : c ≠ d) : [c] ∈ e.language d := by
  cases e with
  | literal l => contradiction
  | localRun => simpa using hc.symm
  | freeRun => simp

theorem language_mul_localRun (h : last.isRun = true) :
    last.language d * localRun.language d = last.language d := by
  ext text
  rw [Language.mem_mul]
  constructor
  · rintro ⟨x, hx, y, hy, rfl⟩
    cases last with
    | literal c => contradiction
    | localRun => simpa using And.intro hx hy
    | freeRun => trivial
  · intro ht
    exact ⟨text, ht, [], by simp, List.append_nil text⟩

theorem language_mul_freeRun (h : last.isRun = true) :
    last.language d * freeRun.language d = freeRun.language d := by
  ext text
  rw [Language.mem_mul]
  constructor
  · intro _
    trivial
  · intro _
    exact ⟨[], nil_mem_language h, text, trivial, rfl⟩

theorem languageOf_push (es : List Element) (e : Element) :
    languageOf d (push es e).reverse = languageOf d es.reverse * e.language d := by
  fun_cases push es e with
  | case1 last es h =>
    rw [List.reverse_cons, languageOf_concat, mul_assoc, language_mul_localRun h]
  | case2 last es h => rw [List.reverse_cons, languageOf_concat]
  | case3 last es h =>
    rw [List.reverse_cons, List.reverse_cons, languageOf_concat, languageOf_concat, mul_assoc,
      language_mul_freeRun h]
  | case4 last es h => rw [List.reverse_cons, languageOf_concat]
  | case5 => rw [List.reverse_cons, languageOf_concat]

theorem languageOf_foldl_push (es fs : List Element) :
    languageOf d (fs.foldl push es).reverse = languageOf d es.reverse * languageOf d fs := by
  induction fs generalizing es with
  | nil => rw [List.foldl_nil, languageOf_nil, mul_one]
  | cons f fs ih => rw [List.foldl_cons, ih, languageOf_push, languageOf_cons, mul_assoc]

@[simp] theorem languageOf_collapse (es : List Element) :
    languageOf d (collapse es) = languageOf d es := by
  rw [collapse, languageOf_foldl_push, List.reverse_nil, languageOf_nil, one_mul]

theorem map_widen_push (es : List Element) (e : Element) :
    (push es e).map widen = push (es.map widen) e.widen := by
  cases es with
  | nil => cases e <;> rfl
  | cons last es =>
    cases e with
    | literal c => rfl
    | localRun => cases last <;> rfl
    | freeRun => cases last <;> rfl

theorem map_widen_foldl_push (es fs : List Element) :
    (fs.foldl push es).map widen = (fs.map widen).foldl push (es.map widen) := by
  induction fs generalizing es with
  | nil => rfl
  | cons f fs ih => rw [List.foldl_cons, ih, map_widen_push, List.map_cons, List.foldl_cons]

theorem map_widen_collapse (es : List Element) :
    (collapse es).map widen = collapse (es.map widen) := by
  rw [collapse, List.map_reverse, map_widen_foldl_push]
  rfl

theorem language_le_widen (d d' : Char) (e : Element) : e.language d ≤ e.widen.language d' := by
  cases e with
  | literal c => exact le_rfl
  | localRun => exact le_top
  | freeRun => exact le_rfl

theorem languageOf_le_widen (d d' : Char) (es : List Element) :
    languageOf d es ≤ languageOf d' (es.map widen) := by
  induction es with
  | nil => exact le_rfl
  | cons e es ih =>
    rw [List.map_cons, languageOf_cons, languageOf_cons]
    exact mul_le_mul' (language_le_widen d d' e) ih

end Element

namespace Pattern

def language (p : Pattern) : Language Char :=
  Element.languageOf p.delimiter p.elements

/-- The names that an expression stands for under a delimiter. -/
@[irreducible] def spelled (d : Char) (expression : List Char) : Language Char :=
  Element.languageOf d (expression.map Element.ofChar)

/-- The names that are like an expression: its wildcards stand for any characters at all. -/
@[irreducible] def likened (expression : List Char) : Language Char :=
  Element.languageOf localWildcard ((expression.map Element.ofChar).map Element.widen)

@[simp] theorem language_compile (e : String) (d : Char) :
    (compile e d).language = spelled d e.toList := by
  rw [spelled]
  exact Element.languageOf_collapse _

@[simp] theorem language_like (e : String) : (like e).language = likened e.toList := by
  rw [likened, ← Element.languageOf_collapse, ← Element.map_widen_collapse]
  rfl

variable {d c : Char} {a b name text : List Char}

@[simp] theorem spelled_nil : spelled d [] = 1 := by
  rw [spelled, List.map_nil, Element.languageOf_nil]

@[simp] theorem likened_nil : likened [] = 1 := by
  rw [likened, List.map_nil, List.map_nil, Element.languageOf_nil]

theorem spelled_cons : spelled d (c :: a) = (Element.ofChar c).language d * spelled d a := by
  rw [spelled, spelled, List.map_cons, Element.languageOf_cons]

theorem likened_cons :
    likened (c :: a) = (Element.ofChar c).widen.language localWildcard * likened a := by
  rw [likened, likened, List.map_cons, List.map_cons, Element.languageOf_cons]

theorem spelled_append : spelled d (a ++ b) = spelled d a * spelled d b := by
  simp only [spelled, List.map_append, Element.languageOf_append]

theorem likened_append : likened (a ++ b) = likened a * likened b := by
  simp only [likened, List.map_append, Element.languageOf_append]

theorem spelled_le_likened : spelled d a ≤ likened a := by
  rw [spelled, likened]
  exact Element.languageOf_le_widen d localWildcard _

/-- What one character of an expression, as it is written, can stand for. -/
def Piece (d c : Char) (text : List Char) : Prop :=
  if c = freeWildcard then True
  else if c = localWildcard then d ∉ text
  else text = [c]

theorem mem_language_ofChar : text ∈ (Element.ofChar c).language d ↔ Piece d c text := by
  by_cases hl : c = localWildcard
  · rw [hl]
    exact Iff.rfl
  · by_cases hf : c = freeWildcard
    · rw [hf]
      exact Iff.rfl
    · rw [Element.ofChar, Piece, if_neg hl, if_neg hf, if_neg hf, if_neg hl]
      exact Iff.rfl

theorem mem_spelled_iff :
    name ∈ spelled d a ↔ ∃ pieces, pieces.flatten = name ∧ List.Forall₂ (Piece d) a pieces := by
  induction a generalizing name with
  | nil =>
    rw [spelled_nil, Language.mem_one]
    constructor
    · intro h
      exact ⟨[], h.symm, .nil⟩
    · intro ⟨pieces, hn, h⟩
      cases h
      exact hn.symm
  | cons c a ih =>
    rw [spelled_cons, Language.mem_mul]
    constructor
    · rintro ⟨text, ht, rest, hr, rfl⟩
      obtain ⟨pieces, rfl, hp⟩ := ih.1 hr
      exact ⟨text :: pieces, rfl, .cons (mem_language_ofChar.1 ht) hp⟩
    · rintro ⟨pieces, rfl, h⟩
      cases h with
      | cons ht hp => exact ⟨_, mem_language_ofChar.2 ht, _, ih.2 ⟨_, rfl, hp⟩, rfl⟩

theorem ofChar_of_not_isWildcard (h : isWildcard c = false) : Element.ofChar c = .literal c := by
  simp only [isWildcard, Bool.or_eq_false_iff, beq_eq_false_iff_ne] at h
  rw [Element.ofChar, if_neg h.1, if_neg h.2]

theorem singleton_mem_language_widen (c : Char) : [c] ∈ (Element.ofChar c).widen.language d := by
  rw [Element.ofChar]
  split
  · trivial
  · split
    · trivial
    · rfl

theorem mem_likened_self (a : List Char) : a ∈ likened a := by
  induction a with
  | nil => rw [likened_nil, Language.mem_one]
  | cons c a ih =>
    rw [likened_cons]
    exact Language.append_mem_mul (singleton_mem_language_widen c) ih

theorem nil_mem_likened_localWildcard : [] ∈ likened [localWildcard] := by
  rw [likened_cons, likened_nil, mul_one]
  trivial

theorem takeWhile_prefix_of_mem_likened (h : name ∈ likened a) :
    a.takeWhile (fun c => !isWildcard c) <+: name := by
  induction a generalizing name with
  | nil => exact List.nil_prefix
  | cons c a ih =>
    cases hc : isWildcard c with
    | true =>
      rw [List.takeWhile_cons_of_neg (by simp [hc])]
      exact List.nil_prefix
    | false =>
      rw [likened_cons, ofChar_of_not_isWildcard hc] at h
      obtain ⟨text, rfl, rest, hr, rfl⟩ := Language.mem_mul.1 h
      rw [List.takeWhile_cons_of_pos (by simp [hc])]
      exact (List.cons_prefix_cons).2 ⟨rfl, ih hr⟩

theorem isRun_ofChar (c : Char) : (Element.ofChar c).isRun = isWildcard c := by
  rw [Element.ofChar, isWildcard]
  split
  · next h => simp [h, Element.isRun]
  · split
    · next h => simp [h, Element.isRun]
    · next hl hf => simp [hl, hf, Element.isRun]

theorem singleton_mem_language_ofChar (hd : d ≠ localWildcard) (c : Char) :
    [c] ∈ (Element.ofChar c).language d := by
  rw [Element.ofChar]
  split
  · next h => simpa [h] using hd
  · split
    · trivial
    · rfl

theorem mem_spelled_self (hd : d ≠ localWildcard) (a : List Char) : a ∈ spelled d a := by
  induction a with
  | nil => rw [spelled_nil, Language.mem_one]
  | cons c a ih =>
    rw [spelled_cons]
    exact Language.append_mem_mul (singleton_mem_language_ofChar hd c) ih

theorem mem_spelled_cons_literal (hc : isWildcard c = false) :
    text ∈ spelled d (c :: a) ↔ ∃ rest ∈ spelled d a, text = c :: rest := by
  rw [spelled_cons, ofChar_of_not_isWildcard hc, Language.mem_mul]
  constructor
  · rintro ⟨x, rfl, rest, hr, rfl⟩
    exact ⟨rest, hr, rfl⟩
  · rintro ⟨rest, hr, rfl⟩
    exact ⟨[c], rfl, rest, hr, rfl⟩

theorem mem_spelled_append_cons (hc : isWildcard c = false) :
    text ∈ spelled d (a ++ c :: b) ↔ ∃ x ∈ spelled d a, ∃ y ∈ spelled d b, text = x ++ c :: y := by
  rw [spelled_append, Language.mem_mul]
  constructor
  · rintro ⟨x, hx, z, hz, rfl⟩
    obtain ⟨y, hy, rfl⟩ := (mem_spelled_cons_literal hc).1 hz
    exact ⟨x, hx, y, hy, rfl⟩
  · rintro ⟨x, hx, y, hy, rfl⟩
    exact ⟨x, hx, c :: y, (mem_spelled_cons_literal hc).2 ⟨y, hy, rfl⟩, rfl⟩

theorem not_isWildcard_of_not_isWild {e : String} (h : isWild e = false) :
    ∀ c ∈ e.toList, isWildcard c = false := by
  intro c hc
  exact Bool.eq_false_of_not_eq_true (List.any_eq_false.1 h c hc)

theorem mem_spelled_iff_eq (h : ∀ c ∈ a, isWildcard c = false) : text ∈ spelled d a ↔ text = a := by
  induction a generalizing text with
  | nil => rw [spelled_nil, Language.mem_one]
  | cons c a ih =>
    have hc := h c List.mem_cons_self
    have ha : ∀ x ∈ a, isWildcard x = false := fun x hx => h x (List.mem_cons_of_mem c hx)
    rw [mem_spelled_cons_literal hc]
    constructor
    · rintro ⟨rest, hr, rfl⟩
      rw [(ih ha).1 hr]
    · intro ht
      exact ⟨a, (ih ha).2 rfl, ht⟩

theorem filter_mem_spelled (d : Char) (a : List Char) :
    a.filter (fun c => !isWildcard c) ∈ spelled d a := by
  induction a with
  | nil => rw [List.filter_nil, spelled_nil, Language.mem_one]
  | cons c a ih =>
    cases hc : isWildcard c with
    | true =>
      rw [List.filter_cons_of_neg (by simp [hc]), spelled_cons]
      have hnil := Element.nil_mem_language (d := d) ((isRun_ofChar c).trans hc)
      exact Language.append_mem_mul hnil ih
    | false =>
      rw [List.filter_cons_of_pos (by simp [hc])]
      exact (mem_spelled_cons_literal hc).2 ⟨_, ih, rfl⟩

theorem exists_mem_spelled (d : Char) (a : List Char) : ∃ text, text ∈ spelled d a :=
  ⟨_, filter_mem_spelled d a⟩

end Pattern

end MailboxSearch
