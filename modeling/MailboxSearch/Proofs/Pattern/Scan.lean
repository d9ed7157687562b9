import MailboxSearch.Pattern.Scan
import MailboxSearch.Proofs.Pattern.Language

namespace MailboxSearch

namespace Element

variable {d c l : Char} {e : Element} {i j : Nat}

theorem exists_literal (h : e.isRun = false) : ∃ l, e = literal l := by
  cases e with
  | literal l => exact ⟨l, rfl⟩
  | localRun => contradiction
  | freeRun => contradiction

theorem move_literal : (literal l).move d c i = some j ↔ l = c ∧ i + 1 = j := by
  simp [move]

theorem move_run (h : e.isRun = true) : e.move d c i = some j ↔ [c] ∈ e.language d ∧ i = j := by
  cases e with
  | literal l => contradiction
  | localRun => simp [move, eq_comm (a := c)]
  | freeRun => simp [move]

end Element

namespace Pattern

section Buffers

variable {b : Array Bool} {is : List Nat} {es : List Element} {e : Element} {i j k : Nat}

theorem getD_setIfInBounds_self (h : i < b.size) :
    (b.setIfInBounds i true).getD i false = true := by
  rw [Array.getD_eq_getD_getElem?, Array.getElem?_setIfInBounds_self_of_lt h, Option.getD_some]

theorem getD_setIfInBounds_ne (h : i ≠ j) :
    (b.setIfInBounds i true).getD j false = b.getD j false := by
  rw [Array.getD_eq_getD_getElem?, Array.getElem?_setIfInBounds_ne h, Array.getD_eq_getD_getElem?]

@[simp] theorem size_mark : (mark b is).size = b.size := by
  induction is generalizing b with
  | nil => rfl
  | cons i is ih =>
    change (mark (b.setIfInBounds i true) is).size = b.size
    rw [ih, Array.size_setIfInBounds]

theorem getD_mark (hj : j < b.size) :
    (mark b is).getD j false = true ↔ b.getD j false = true ∨ j ∈ is := by
  induction is generalizing b with
  | nil => simp [mark]
  | cons i is ih =>
    change (mark (b.setIfInBounds i true) is).getD j false = true ↔ _
    rw [ih (by simpa using hj), List.mem_cons]
    by_cases hij : i = j
    · rw [hij, getD_setIfInBounds_self hj]
      simp
    · rw [getD_setIfInBounds_ne hij]
      simp [Ne.symm hij]

@[simp] theorem size_passOn : (passOn b (e, i)).size = b.size := by
  rw [passOn]
  split
  · exact Array.size_setIfInBounds
  · rfl

theorem getD_passOn_of_ne (h : i + 1 ≠ j) : (passOn b (e, i)).getD j false = b.getD j false := by
  rw [passOn]
  split
  · exact getD_setIfInBounds_ne h
  · rfl

theorem getD_passOn_succ (h : i + 1 < b.size) :
    (passOn b (e, i)).getD (i + 1) false =
      (b.getD (i + 1) false || (b.getD i false && e.isRun)) := by
  rw [passOn]
  split
  · next hp => rw [getD_setIfInBounds_self h, hp, Bool.or_true]
  · next hp => rw [Bool.eq_false_of_not_eq_true hp, Bool.or_false]

theorem size_foldl_passOn {ps : List (Element × Nat)} : (ps.foldl passOn b).size = b.size := by
  induction ps generalizing b with
  | nil => rfl
  | cons p ps ih => rw [List.foldl_cons, ih, size_passOn]

theorem getD_foldl_passOn_of_le (h : j ≤ k) :
    ((es.zipIdx k).foldl passOn b).getD j false = b.getD j false := by
  induction es generalizing b k with
  | nil => rfl
  | cons e es ih =>
    rw [List.zipIdx_cons, List.foldl_cons, ih (by omega), getD_passOn_of_ne (by omega)]

theorem getD_foldl_passOn_succ (he : es[i]? = some e) (h : k + i + 1 < b.size) :
    ((es.zipIdx k).foldl passOn b).getD (k + i + 1) false =
      (b.getD (k + i + 1) false ||
        (((es.zipIdx k).foldl passOn b).getD (k + i) false && e.isRun)) := by
  induction es generalizing b k i with
  | nil => contradiction
  | cons f es ih =>
    rw [List.zipIdx_cons, List.foldl_cons]
    cases i with
    | zero =>
      cases he
      simp only [Nat.add_zero] at h ⊢
      rw [getD_foldl_passOn_of_le le_rfl, getD_foldl_passOn_of_le (Nat.le_add_right k 1),
        getD_passOn_succ h, getD_passOn_of_ne (by omega)]
    | succ i =>
      have hk : k + (i + 1) = k + 1 + i := by omega
      rw [hk] at h ⊢
      rw [ih he (by rwa [size_passOn]), getD_passOn_of_ne (by omega)]

end Buffers

def runAt (p : Pattern) (i : Nat) : Bool :=
  p.elements[i]?.any Element.isRun

/-- How many elements a live position answers for: those before it, and the run that it waits in. -/
def settled (p : Pattern) (i : Nat) : Nat :=
  if p.runAt i then i + 1 else i

def Reaches (p : Pattern) (text : List Char) (i : Nat) : Prop :=
  text ∈ Element.languageOf p.delimiter (p.elements.take i)

def Live (p : Pattern) (text : List Char) (i : Nat) : Prop :=
  p.Reaches text (p.settled i)

def Marks (p : Pattern) (b : Array Bool) (text : List Char) : Prop :=
  ∀ i ≤ p.elements.length, (b.getD i false = true ↔ p.Live text i)

def Follows (p : Pattern) (P : Nat → Prop) : Nat → Prop
  | 0 => False
  | i + 1 => p.runAt i = true ∧ P i

variable {p : Pattern} {b live : Array Bool} {e : Element}
variable {c l : Char} {text : List Char} {i j : Nat}

theorem runAt_of_getElem? (he : p.elements[i]? = some e) : p.runAt i = e.isRun := by
  rw [runAt, he, Option.any_some]

theorem exists_of_runAt (h : p.runAt i = true) : ∃ e, p.elements[i]? = some e ∧ e.isRun = true :=
  (Option.any_eq_true _ _).1 h

theorem exists_literal_of_not_runAt (h : p.runAt i = false) (hi : i < p.elements.length) :
    ∃ l, p.elements[i]? = some (.literal l) := by
  have he := List.getElem?_eq_getElem hi
  obtain ⟨l, hl⟩ := Element.exists_literal ((runAt_of_getElem? he).symm.trans h)
  exact ⟨l, hl ▸ he⟩

theorem runAt_length : p.runAt p.elements.length = false := by
  rw [runAt, List.getElem?_eq_none le_rfl, Option.any_none]

theorem live_of_runAt (h : p.runAt i = true) : p.Live text i ↔ p.Reaches text (i + 1) := by
  rw [Live, settled, if_pos h]

theorem live_of_not_runAt (h : p.runAt i = false) : p.Live text i ↔ p.Reaches text i := by
  rw [Live, settled, h]
  rfl

theorem reaches_zero : p.Reaches text 0 ↔ text = [] := Iff.rfl

theorem reaches_succ (he : p.elements[i]? = some e) :
    p.Reaches text (i + 1) ↔
      text ∈ Element.languageOf p.delimiter (p.elements.take i) * e.language p.delimiter := by
  rw [Reaches, List.take_add_one, he, Option.toList_some, Element.languageOf_concat]

theorem reaches_length : p.Reaches text p.elements.length ↔ text ∈ p.language := by
  rw [Reaches, List.take_length]
  rfl

theorem reaches_concat_literal (he : p.elements[i]? = some (.literal l)) :
    p.Reaches (text ++ [c]) (i + 1) ↔ l = c ∧ p.Reaches text i := by
  rw [reaches_succ he, Language.mem_mul]
  constructor
  · rintro ⟨x, hx, y, rfl, hxy⟩
    obtain ⟨rfl, hc⟩ := List.append_inj' hxy rfl
    exact ⟨List.singleton_inj.1 hc, hx⟩
  · rintro ⟨rfl, hx⟩
    exact ⟨text, hx, [l], rfl, rfl⟩

theorem not_reaches_nil_literal (he : p.elements[i]? = some (.literal l)) :
    ¬ p.Reaches [] (i + 1) := by
  rw [reaches_succ he, Language.mem_mul]
  rintro ⟨x, _, y, rfl, hxy⟩
  exact List.append_ne_nil_of_right_ne_nil x (List.cons_ne_nil l []) hxy

theorem reaches_concat_run (he : p.elements[i]? = some e) (hr : e.isRun = true) :
    p.Reaches (text ++ [c]) (i + 1) ↔
      p.Reaches (text ++ [c]) i ∨ p.Reaches text (i + 1) ∧ [c] ∈ e.language p.delimiter := by
  rw [reaches_succ he, reaches_succ he, Language.mem_mul, Language.mem_mul]
  constructor
  · rintro ⟨x, hx, y, hy, hxy⟩
    cases List.eq_nil_or_concat' y with
    | inl hn =>
      rw [hn, List.append_nil] at hxy
      exact .inl (hxy ▸ hx)
    | inr hn =>
      obtain ⟨z, a, rfl⟩ := hn
      rw [← List.append_assoc] at hxy
      obtain ⟨rfl, ha⟩ := List.append_inj' hxy rfl
      rw [List.singleton_inj.1 ha, Element.concat_mem_language hr] at hy
      exact .inr ⟨⟨x, hx, z, hy.1, rfl⟩, hy.2⟩
  · rintro (hx | ⟨⟨x, hx, y, hy, rfl⟩, hc⟩)
    · exact ⟨_, hx, [], Element.nil_mem_language hr, List.append_nil _⟩
    · have hyc := (Element.concat_mem_language hr).2 ⟨hy, hc⟩
      exact ⟨x, hx, y ++ [c], hyc, (List.append_assoc x y [c]).symm⟩

theorem reaches_nil_run (he : p.elements[i]? = some e) (h : p.Reaches [] (i + 1)) :
    p.Reaches [] i := by
  obtain ⟨x, hx, y, _, hxy⟩ := Language.mem_mul.1 ((reaches_succ he).1 h)
  rwa [(List.append_eq_nil_iff.1 hxy).1] at hx

theorem live_of_reaches (h : p.Reaches text i) : p.Live text i := by
  cases hr : p.runAt i with
  | false => exact (live_of_not_runAt hr).2 h
  | true =>
    obtain ⟨e, he, hr'⟩ := exists_of_runAt hr
    rw [live_of_runAt hr, reaches_succ he, Language.mem_mul]
    exact ⟨text, h, [], Element.nil_mem_language hr', List.append_nil text⟩

theorem size_close : (p.close b).size = b.size :=
  size_foldl_passOn

theorem getD_close (hb : b.size = p.elements.length + 1) (hj : j ≤ p.elements.length) :
    (p.close b).getD j false = true ↔
      b.getD j false = true ∨ p.Follows (fun i => (p.close b).getD i false = true) j := by
  cases j with
  | zero =>
    rw [close, getD_foldl_passOn_of_le le_rfl]
    exact (or_false _).symm.to_iff
  | succ i =>
    have he := List.getElem?_eq_getElem (Nat.lt_of_succ_le hj)
    have h := getD_foldl_passOn_succ (k := 0) (b := b) he (by omega)
    rw [Nat.zero_add] at h
    rw [close, h, Bool.or_eq_true, Bool.and_eq_true, ← runAt_of_getElem? he, and_comm]
    exact Iff.rfl

theorem marks_close (hb : b.size = p.elements.length + 1)
    (h : ∀ j ≤ p.elements.length,
      p.Live text j ↔ b.getD j false = true ∨ p.Follows (p.Live text) j) :
    p.Marks (p.close b) text := by
  intro j
  induction j with
  | zero =>
    intro hj
    rw [getD_close hb hj, h 0 hj]
    exact Iff.rfl
  | succ i ih =>
    intro hj
    rw [getD_close hb hj, h (i + 1) hj]
    exact or_congr_right (and_congr_right fun _ => ih (Nat.le_of_succ_le hj))

theorem live_of_follows (h : p.Follows (p.Live text) j) : p.Live text j := by
  cases j with
  | zero => exact h.elim
  | succ i => exact live_of_reaches ((live_of_runAt h.1).1 h.2)

theorem live_nil_iff (hj : j ≤ p.elements.length) :
    p.Live [] j ↔ j = 0 ∨ p.Follows (p.Live []) j := by
  constructor
  · intro h
    have hreach : p.Reaches [] j := by
      cases hr : p.runAt j with
      | false => exact (live_of_not_runAt hr).1 h
      | true =>
        obtain ⟨e, he, _⟩ := exists_of_runAt hr
        exact reaches_nil_run he ((live_of_runAt hr).1 h)
    cases j with
    | zero => exact .inl rfl
    | succ i =>
      right
      cases hr : p.runAt i with
      | true => exact ⟨hr, (live_of_runAt hr).2 hreach⟩
      | false =>
        obtain ⟨l, hl⟩ := exists_literal_of_not_runAt hr hj
        exact absurd hreach (not_reaches_nil_literal hl)
  · rintro (rfl | h)
    · exact live_of_reaches (reaches_zero.2 rfl)
    · exact live_of_follows h

theorem mem_moves :
    j ∈ p.moves live c ↔
      ∃ i e, p.elements[i]? = some e ∧ live.getD i false = true ∧
        e.move p.delimiter c i = some j := by
  rw [moves, List.mem_filterMap]
  constructor
  · rintro ⟨⟨e, i⟩, hm, h⟩
    dsimp only at h
    split at h
    · next hl => exact ⟨i, e, List.mk_mem_zipIdx_iff_getElem?.1 hm, hl, h⟩
    · contradiction
  · rintro ⟨i, e, he, hl, h⟩
    exact ⟨(e, i), List.mk_mem_zipIdx_iff_getElem?.2 he, by simpa only [hl, if_true] using h⟩

theorem live_of_move (he : p.elements[i]? = some e) (hl : p.Live text i)
    (hm : e.move p.delimiter c i = some j) : p.Live (text ++ [c]) j := by
  cases hr : e.isRun with
  | false =>
    obtain ⟨l, rfl⟩ := Element.exists_literal hr
    obtain ⟨rfl, rfl⟩ := Element.move_literal.1 hm
    rw [live_of_not_runAt (runAt_of_getElem? he)] at hl
    exact live_of_reaches ((reaches_concat_literal he).2 ⟨rfl, hl⟩)
  | true =>
    obtain ⟨hc, rfl⟩ := (Element.move_run hr).1 hm
    have hi : p.runAt i = true := (runAt_of_getElem? he).trans hr
    rw [live_of_runAt hi] at hl ⊢
    exact (reaches_concat_run he hr).2 (.inr ⟨hl, hc⟩)

theorem waits_of_live_concat (h : p.Live (text ++ [c]) j) :
    p.Reaches (text ++ [c]) j ∨
      ∃ e, p.elements[j]? = some e ∧ e.isRun = true ∧ p.Live text j ∧
        [c] ∈ e.language p.delimiter := by
  cases hr : p.runAt j with
  | false => exact .inl ((live_of_not_runAt hr).1 h)
  | true =>
    obtain ⟨e, he, hr'⟩ := exists_of_runAt hr
    rw [live_of_runAt hr, reaches_concat_run he hr', ← live_of_runAt hr] at h
    exact h.imp_right fun hl => ⟨e, he, hr', hl⟩

theorem arrives_of_reaches_concat (h : p.Reaches (text ++ [c]) j) (hj : j ≤ p.elements.length) :
    (∃ i, i + 1 = j ∧ p.elements[i]? = some (.literal c) ∧ p.Live text i) ∨
      p.Follows (p.Live (text ++ [c])) j := by
  cases j with
  | zero => simp [reaches_zero] at h
  | succ i =>
    cases hr : p.runAt i with
    | true => exact .inr ⟨hr, (live_of_runAt hr).2 h⟩
    | false =>
      obtain ⟨l, hl⟩ := exists_literal_of_not_runAt hr hj
      obtain ⟨rfl, hbefore⟩ := (reaches_concat_literal hl).1 h
      exact .inl ⟨i, rfl, hl, (live_of_not_runAt hr).2 hbefore⟩

theorem live_concat_iff (h : p.Marks live text) (hj : j ≤ p.elements.length) :
    p.Live (text ++ [c]) j ↔ j ∈ p.moves live c ∨ p.Follows (p.Live (text ++ [c])) j := by
  constructor
  · intro hlive
    -- the last character went into a run that was live before, or into the elements before `j`
    rcases waits_of_live_concat hlive with hreach | ⟨e, he, hr, hl, hc⟩
    · rcases arrives_of_reaches_concat hreach hj with ⟨i, hi, he, hl⟩ | hf
      · have hlive := (h i (by omega)).2 hl
        exact .inl (mem_moves.2 ⟨i, _, he, hlive, Element.move_literal.2 ⟨rfl, hi⟩⟩)
      · exact .inr hf
    · exact .inl (mem_moves.2 ⟨j, e, he, (h j hj).2 hl, (Element.move_run hr).2 ⟨hc, rfl⟩⟩)
  · rintro (hm | hf)
    · obtain ⟨i, e, he, hl, hm⟩ := mem_moves.1 hm
      have hi := (List.getElem?_eq_some_iff.1 he).1
      exact live_of_move he ((h i hi.le).1 hl) hm
    · exact live_of_follows hf

structure Scan.Holds (p : Pattern) (text : List Char) (s : Scan) : Prop where
  size : s.live.size = p.elements.length + 1
  spare : s.spare = Array.replicate (p.elements.length + 1) false
  live : p.Marks s.live text

theorem getD_blank (n : Nat) : (Array.replicate n false).getD i false = false := by
  rw [Array.getD_eq_getD_getElem?, Array.getElem?_replicate]
  split <;> rfl

theorem marks_close_mark {is : List Nat}
    (h : ∀ j ≤ p.elements.length, p.Live text j ↔ j ∈ is ∨ p.Follows (p.Live text) j) :
    p.Marks (p.close (mark (Array.replicate (p.elements.length + 1) false) is)) text := by
  apply marks_close
  · rw [size_mark, Array.size_replicate]
  · intro j hj
    have hlt : j < (Array.replicate (p.elements.length + 1) false).size := by
      rw [Array.size_replicate]
      exact Nat.lt_succ_of_le hj
    rw [h j hj, getD_mark hlt, getD_blank]
    simp

theorem holds_start : Scan.Holds p [] p.start where
  size := by rw [start, size_close, size_mark, Array.size_replicate]
  spare := rfl
  live := marks_close_mark fun j hj => by rw [live_nil_iff hj, List.mem_singleton]

theorem Scan.Holds.advance {s t : Scan} (h : s.Holds p text) (ht : p.advance s c = some t) :
    t.Holds p (text ++ [c]) := by
  rw [Pattern.advance] at ht
  split at ht
  · contradiction
  · next is _ =>
    cases ht
    rw [h.spare]
    exact {
      size := by rw [size_close, size_mark, Array.size_replicate]
      spare := by rw [Array.map_const', h.size]
      live := marks_close_mark fun j hj => live_concat_iff h.live hj }

theorem moves_blank {n : Nat} : p.moves (Array.replicate n false) c = [] := by
  apply List.eq_nil_iff_forall_not_mem.2
  intro j hj
  obtain ⟨i, e, _, hl, _⟩ := mem_moves.1 hj
  rw [getD_blank] at hl
  contradiction

theorem not_live_concat (h : p.Marks live text) (hm : p.moves live c = [])
    (hj : j ≤ p.elements.length) : ¬ p.Live (text ++ [c]) j := by
  induction j with
  | zero =>
    rw [live_concat_iff h hj, hm]
    rintro (hm | hf)
    · exact List.not_mem_nil hm
    · exact hf
  | succ i ih =>
    rw [live_concat_iff h hj, hm]
    rintro (hm | hf)
    · exact List.not_mem_nil hm
    · exact ih (Nat.le_of_succ_le hj) hf.2

theorem not_live_append (h : ∀ j ≤ p.elements.length, ¬ p.Live text j) (rest : List Char) :
    ∀ j ≤ p.elements.length, ¬ p.Live (text ++ rest) j := by
  induction rest generalizing text with
  | nil => rwa [List.append_nil]
  | cons c rest ih =>
    rw [← List.concat_append, List.concat_eq_append]
    -- a blank buffer tells of a text that leaves no position live
    have hblank : p.Marks (Array.replicate (p.elements.length + 1) false) text := by
      intro j hj
      rw [getD_blank]
      simp [h j hj]
    exact ih fun j => not_live_concat hblank moves_blank

theorem Scan.Holds.not_live_of_advance {s : Scan} (h : s.Holds p text)
    (ht : p.advance s c = none) (rest : List Char) :
    ∀ j ≤ p.elements.length, ¬ p.Live (text ++ c :: rest) j := by
  rw [← List.concat_append, List.concat_eq_append]
  apply not_live_append
  intro j
  apply not_live_concat h.live
  rw [Pattern.advance] at ht
  split at ht
  · assumption
  · contradiction

theorem Scan.Holds.foldlM {s : Scan} (h : s.Holds p text) (rest : List Char) :
    match rest.foldlM p.advance s with
    | none => ∀ j ≤ p.elements.length, ¬ p.Live (text ++ rest) j
    | some t => t.Holds p (text ++ rest) := by
  induction rest generalizing s text with
  | nil => rwa [List.append_nil]
  | cons c rest ih =>
    rw [List.foldlM_cons]
    cases ht : p.advance s c with
    | none => exact h.not_live_of_advance ht rest
    | some t =>
      have h' := ih (h.advance ht)
      rwa [List.append_assoc, List.singleton_append] at h'

theorem holds_scan (p : Pattern) (text : List Char) :
    match p.scan text with
    | none => ∀ j ≤ p.elements.length, ¬ p.Live text j
    | some s => s.Holds p text :=
  holds_start.foldlM text

theorem live_length : p.Live text p.elements.length ↔ text ∈ p.language := by
  rw [live_of_not_runAt runAt_length, reaches_length]

theorem accepts_iff_mem_language (p : Pattern) (name : String) :
    p.accepts name = true ↔ name.toList ∈ p.language := by
  have h := holds_scan p name.toList
  rw [accepts, ← live_length]
  cases hs : p.scan name.toList with
  | none =>
    rw [hs] at h
    exact iff_of_false Bool.false_ne_true (h _ le_rfl)
  | some s =>
    rw [hs] at h
    exact h.live _ le_rfl

theorem accepts_compile_iff (e : String) (d : Char) (name : String) :
    (compile e d).accepts name = true ↔ name.toList ∈ spelled d e.toList := by
  rw [accepts_iff_mem_language, language_compile]

theorem accepts_like_iff (e : String) (name : String) :
    (like e).accepts name = true ↔ name.toList ∈ likened e.toList := by
  rw [accepts_iff_mem_language, language_like]

theorem literalPrefix_prefix_of_accepts {e name : String} (h : (like e).accepts name = true) :
    (literalPrefix e).toList <+: name.toList := by
  rw [literalPrefix, String.toList_ofList]
  exact takeWhile_prefix_of_mem_likened ((accepts_like_iff e name).1 h)

/--
A compiled expression accepts a name if and only if the name falls into consecutive pieces, one for
each character of the expression as it was written: any text for `*`, a text without the delimiter
for `%`, the character itself otherwise.
-/
theorem accepts_compile_iff_pieces (e : String) (d : Char) (name : String) :
    (compile e d).accepts name = true ↔
      ∃ pieces, pieces.flatten = name.toList ∧ List.Forall₂ (Piece d) e.toList pieces := by
  rw [accepts_compile_iff, mem_spelled_iff]

end Pattern

end MailboxSearch
