import MailboxSearch.Proofs.Pattern.Normal
import MailboxSearch.Proofs.Pattern.Widest

namespace MailboxSearch

namespace Element

variable {e f : Element} {es fs : List Element}

theorem mem_push (h : f ∈ push es e) : f ∈ es ∨ f = e := by
  fun_cases push es e with
  | case1 last es hl => simpa [push, hl] using Or.inl h
  | case2 last es hl => simpa [push, hl, or_comm] using h
  | case3 last es hl =>
    -- the last element is lost to the new run
    rw [push, if_pos hl, List.mem_cons] at h
    exact h.symm.imp_left (List.mem_cons_of_mem last)
  | case4 last es hl => simpa [push, hl, or_comm] using h
  | case5 => simpa [push, or_comm] using h

theorem mem_foldl_push (h : f ∈ fs.foldl push es) : f ∈ es ∨ f ∈ fs := by
  induction fs generalizing es with
  | nil => exact .inl h
  | cons e fs ih =>
    rcases ih h with hes | hfs
    · exact (mem_push hes).imp_right fun he => List.mem_cons.2 (.inl he)
    · exact .inr (List.mem_cons_of_mem e hfs)

theorem mem_of_mem_collapse (h : f ∈ collapse es) : f ∈ es :=
  (mem_foldl_push (List.mem_reverse.1 h)).resolve_left List.not_mem_nil

theorem push_of_normal (h : Normal (e :: es)) : push es e = e :: es := by
  fun_cases push es e with
  | case1 last es hl => exact absurd (head?_not_isRun h rfl last rfl) (by simp [hl])
  | case2 last es hl => rfl
  | case3 last es hl => exact absurd (head?_not_isRun h rfl last rfl) (by simp [hl])
  | case4 last es hl => rfl
  | case5 => rfl

theorem foldl_push_of_normal (h : Normal (es.reverse ++ fs)) :
    fs.foldl push es = fs.reverse ++ es := by
  induction fs generalizing es with
  | nil => rfl
  | cons f fs ih =>
    rw [List.append_cons, ← List.reverse_cons] at h
    -- the chain up to `f`, read from its end
    have hf : Normal (f :: es) :=
      (List.isChain_reverse.1 h.left_of_append).imp fun _ _ h => h.symm
    rw [List.foldl_cons, push_of_normal hf, ih h, List.reverse_cons, List.append_assoc,
      List.singleton_append]

theorem collapse_of_normal (h : Normal es) : collapse es = es := by
  have hnil : Normal ([].reverse ++ es) := h
  rw [collapse, foldl_push_of_normal hnil, List.append_nil, List.reverse_reverse]

theorem toChar_ofChar (c : Char) : (ofChar c).toChar = c := by
  rw [ofChar]
  split
  · next h => exact h.symm
  · split
    · next h => exact h.symm
    · rfl

theorem widen_widen (e : Element) : e.widen.widen = e.widen := by
  cases e <;> rfl

end Element

namespace Pattern

def Separated (text : String) : Prop :=
  text.toList.IsChain fun a b => isWildcard a = false ∨ isWildcard b = false

/-- What makes a text the normal form of an expression under a delimiter. -/
structure NormalForm (e : String) (d : Char) (text : String) : Prop where
  separated : Separated text
  literals : text.toList.filter (fun c => !isWildcard c) = e.toList.filter fun c => !isWildcard c
  compile_eq : compile text d = compile e d

variable {e text : String} {d : Char}

theorem separated_iff_normal :
    Separated text ↔ Element.Normal (text.toList.map Element.ofChar) := by
  rw [Separated, Element.Normal, List.isChain_map]
  simp only [isRun_ofChar]

theorem ofChar_toChar_of_mem {f : Element} (h : f ∈ (compile e d).elements) :
    Element.ofChar f.toChar = f := by
  obtain ⟨c, -, rfl⟩ := List.mem_map.1 (Element.mem_of_mem_collapse h)
  rw [Element.toChar_ofChar]

theorem map_ofChar_render (e : String) (d : Char) :
    (compile e d).render.toList.map Element.ofChar = (compile e d).elements := by
  rw [render, String.toList_ofList, List.map_map]
  calc
    (compile e d).elements.map (Element.ofChar ∘ Element.toChar) =
        (compile e d).elements.map id :=
      List.map_congr_left fun _ hf => ofChar_toChar_of_mem hf
    _ = (compile e d).elements := List.map_id _

theorem separated_render (e : String) (d : Char) : Separated (compile e d).render := by
  rw [separated_iff_normal, map_ofChar_render]
  exact normal_compile e d

theorem compile_render (e : String) (d : Char) : compile (compile e d).render d = compile e d := by
  rw [compile, Element.ofExpression, map_ofChar_render,
    Element.collapse_of_normal (normal_compile e d)]
  rfl

theorem render_compile_of_separated (h : Separated text) : (compile text d).render = text := by
  have helements : (compile text d).elements = text.toList.map Element.ofChar :=
    Element.collapse_of_normal (separated_iff_normal.1 h)
  have hid : Element.toChar ∘ Element.ofChar = id := funext Element.toChar_ofChar
  rw [render, helements, List.map_map, hid, List.map_id, String.ofList_toList]

theorem filter_of_compile_eq (h : compile text d = compile e d) :
    text.toList.filter (fun c => !isWildcard c) = e.toList.filter fun c => !isWildcard c := by
  rw [← literals_compile text d, h, literals_compile]

theorem compile_render_like (e : String) : compile (like e).render localWildcard = like e := by
  rw [like_eq_compile_freed, compile_render]

theorem like_render_like (e : String) : like (like e).render = like e := by
  have hwiden : (like e).elements.map Element.widen = (like e).elements := by
    rw [like, List.map_map]
    exact List.map_congr_left fun f _ => f.widen_widen
  rw [like, compile_render_like, hwiden]

/--
The text of a compiled expression is the one normal form that the expression has, so two expressions
come to the same pattern just if they come to the same text. The text of the pattern that backends
go by can be read either way.
-/
theorem normalForm_iff (e : String) (d : Char) :
    (∀ text, NormalForm e d text ↔ text = (compile e d).render) ∧
      (∀ e', compile e d = compile e' d ↔ (compile e d).render = (compile e' d).render) ∧
      like (like e).render = like e ∧ compile (like e).render localWildcard = like e := by
  refine ⟨?_, ?_, like_render_like e, compile_render_like e⟩
  · intro text
    constructor
    · intro h
      rw [← h.compile_eq, render_compile_of_separated h.separated]
    · rintro rfl
      have h := compile_render e d
      exact ⟨separated_render e d, filter_of_compile_eq h, h⟩
  · intro e'
    constructor
    · intro h
      rw [h]
    · intro h
      rw [← compile_render e d, h, compile_render]

example : (compile "a%*%b%%" '.').render = "a*b%" := by decide

end Pattern

end MailboxSearch
