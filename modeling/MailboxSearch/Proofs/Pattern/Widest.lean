import MailboxSearch.Proofs.Pattern.Scan

namespace MailboxSearch

namespace Element

variable {d d' : Char} {e : Element} {es : List Element} {text : List Char}

theorem mem_language_of_widen (hd : d ∉ text) (h : text ∈ e.widen.language d') :
    text ∈ e.language d := by
  cases e with
  | literal c => exact h
  | localRun => exact hd
  | freeRun => trivial

theorem mem_languageOf_of_widen (hd : d ∉ text) (h : text ∈ languageOf d' (es.map widen)) :
    text ∈ languageOf d es := by
  induction es generalizing text with
  | nil => exact h
  | cons e es ih =>
    rw [List.map_cons, languageOf_cons] at h
    obtain ⟨x, hx, y, hy, rfl⟩ := Language.mem_mul.1 h
    rw [List.mem_append, not_or] at hd
    rw [languageOf_cons]
    exact Language.append_mem_mul (mem_language_of_widen hd.1 hx) (ih hd.2 hy)

end Element

namespace Pattern

def freed (expression : String) : String :=
  expression.map fun c => if c = localWildcard then freeWildcard else c

variable {d : Char} {e name : String} {a text : List Char}

theorem mem_spelled_of_likened (hd : d ∉ text) (h : text ∈ likened a) : text ∈ spelled d a := by
  rw [likened] at h
  rw [spelled]
  exact Element.mem_languageOf_of_widen hd h

theorem accepts_like_of_accepts_compile (h : (compile e d).accepts name = true) :
    (like e).accepts name = true := by
  rw [accepts_compile_iff] at h
  rw [accepts_like_iff]
  exact spelled_le_likened h

theorem accepts_compile_of_accepts_like (hd : d ∉ name.toList)
    (h : (like e).accepts name = true) : (compile e d).accepts name = true := by
  rw [accepts_like_iff] at h
  rw [accepts_compile_iff]
  exact mem_spelled_of_likened hd h

theorem ofChar_freed (c : Char) :
    Element.ofChar (if c = localWildcard then freeWildcard else c) = (Element.ofChar c).widen := by
  split
  · next h =>
    rw [h]
    rfl
  · next h =>
    rw [Element.ofChar, if_neg h]
    split <;> rfl

theorem like_eq_compile_freed (e : String) : like e = compile (freed e) localWildcard := by
  have hmap : (e.toList.map Element.ofChar).map Element.widen =
      (freed e).toList.map Element.ofChar := by
    rw [freed, String.toList_map, List.map_map, List.map_map]
    exact List.map_congr_left fun c _ => (ofChar_freed c).symm
  rw [like, compile, compile, mk.injEq]
  refine ⟨?_, rfl⟩
  rw [Element.ofExpression, Element.ofExpression, Element.map_widen_collapse, hmap]

/--
Whatever an expression stands for under some delimiter is like it. A name that does not hold a
delimiter is like it only if the expression stands for it under that one. To read an expression so
is to read it with a free wildcard for each local one.
-/
theorem accepts_like_widest (e name : String) :
    (∀ d, (compile e d).accepts name = true → (like e).accepts name = true) ∧
      (∀ d, d ∉ name.toList → (compile e d).accepts name = (like e).accepts name) ∧
      like e = compile (freed e) localWildcard := by
  refine ⟨fun d => accepts_like_of_accepts_compile, ?_, like_eq_compile_freed e⟩
  intro d hd
  rw [Bool.eq_iff_iff]
  exact ⟨accepts_like_of_accepts_compile, accepts_compile_of_accepts_like hd⟩

theorem accepts_like_widest_wild :
    let e := "a%b"
    let name := "a%b"
    ((compile e '*').accepts name = true ∧ '*' ∉ name.toList ∧ freed e = "a*b") ∧
      (like e).accepts name = true ∧
      (compile e '*').accepts name = (like e).accepts name ∧
      (compile e '%').accepts name ≠ (like e).accepts name ∧
      like e = compile "a*b" '%' := by
  intro e name
  have ha : (compile e '*').accepts name = true := by decide +kernel
  have hd : '*' ∉ name.toList := by decide
  have he : freed e = "a*b" := by decide +kernel
  obtain ⟨hall, hfree, hlike⟩ := accepts_like_widest e name
  exact ⟨⟨ha, hd, he⟩, hall '*' ha, hfree '*' hd, by decide +kernel, he ▸ hlike⟩

end Pattern

end MailboxSearch
