import MailboxSearch.Proofs.Toml.Quoted
import MailboxSearch.Toml.Token

namespace MailboxSearch.Toml

namespace Token

variable {c : Char} {cs rest : List Char} {t : Token} {name : String}

def isWord (name : String) : Bool :=
  name != "" && name.toList.all isBare

theorem ofChars?_of_next? (h : next? c cs = some (t, rest)) :
    ofChars? (c :: cs) = (ofChars? rest).map (t :: ·) := by
  rw [ofChars?]
  split
  · next h' =>
    rw [h] at h'
    contradiction
  · next h' =>
    rw [h] at h'
    cases h'
    rfl

theorem takeWhile_eq_nil_of_head? {p : Char → Bool} (h : rest.head?.any p = false) :
    rest.takeWhile p = [] := by
  cases rest with
  | nil => rfl
  | cons c cs => exact List.takeWhile_cons_of_neg (Bool.eq_false_iff.1 h)

theorem dropWhile_eq_self_of_head? {p : Char → Bool} (h : rest.head?.any p = false) :
    rest.dropWhile p = rest := by
  cases rest with
  | nil => rfl
  | cons c cs => exact List.dropWhile_cons_of_neg (Bool.eq_false_iff.1 h)

theorem isBlank_of_isBare (h : isBare c = true) : Quoted.isBlank c = false := by
  apply Bool.eq_false_iff.2
  intro hb
  rw [Quoted.isBlank, Bool.or_eq_true, beq_iff_eq, beq_iff_eq] at hb
  rcases hb with rfl | rfl <;> exact absurd h (by decide)

theorem ofChars?_word (hw : isWord name = true) (hr : rest.head?.any isBare = false) :
    ofChars? (name.toList ++ rest) = (ofChars? rest).map (.bare name :: ·) := by
  obtain ⟨hne, hall⟩ := Bool.and_eq_true_iff.1 hw
  rw [← String.ofList_toList (s := name)]
  cases hcs : name.toList with
  | nil => simp [String.toList_eq_nil_iff.1 hcs] at hne
  | cons c cs =>
    rw [hcs, List.all_cons, Bool.and_eq_true, List.all_eq_true] at hall
    rw [String.toList_ofList, List.cons_append]
    apply ofChars?_of_next?
    unfold next?
    rw [if_neg (by simp [isBlank_of_isBare hall.1]), if_pos hall.1,
      List.takeWhile_append_of_pos hall.2, List.dropWhile_append_of_pos hall.2,
      takeWhile_eq_nil_of_head? hr, dropWhile_eq_self_of_head? hr, List.append_nil]

theorem ofChars?_space (hr : rest.head?.any Quoted.isBlank = false) :
    ofChars? (' ' :: rest) = (ofChars? rest).map (.blank " " :: ·) := by
  apply ofChars?_of_next?
  unfold next?
  rw [if_pos (by decide), takeWhile_eq_nil_of_head? hr, dropWhile_eq_self_of_head? hr]

theorem next?_quote (h : ∀ more, cs ≠ '"' :: '"' :: more) :
    next? '"' cs = quotedOf false (Quoted.basic cs) := by
  unfold next?
  rw [if_neg (by decide), if_neg (by decide), if_neg (by decide), if_pos (by decide)]
  split
  · next more => exact absurd rfl (h more)
  · rfl

theorem ofChars?_quoted (text : List Char) (hr : rest.head? ≠ some '"') :
    ofChars? ('"' :: (text.flatMap Quoted.escape ++ '"' :: rest)) =
      (ofChars? rest).map (.quoted (String.ofList text) false :: ·) := by
  apply ofChars?_of_next?
  rw [next?_quote, Quoted.basic_flatMap_escape]
  · rfl
  · -- an empty text closes with its second mark, and any other begins with no mark
    intro more h
    cases text with
    | nil =>
      rw [List.flatMap_nil, List.nil_append, List.cons_inj_right] at h
      exact hr (by rw [h]; rfl)
    | cons c text =>
      obtain ⟨d, cs, hc, hd⟩ := Quoted.exists_escape_eq_cons c
      rw [List.flatMap_cons, hc] at h
      exact hd (List.cons.inj h).1

theorem ofChars?_newline (rest : List Char) :
    ofChars? ('\n' :: rest) = (ofChars? rest).map (.newline :: ·) :=
  ofChars?_of_next? rfl

theorem ofChars?_leftBracket (rest : List Char) :
    ofChars? ('[' :: rest) = (ofChars? rest).map (.leftBracket :: ·) :=
  ofChars?_of_next? rfl

theorem ofChars?_rightBracket (rest : List Char) :
    ofChars? (']' :: rest) = (ofChars? rest).map (.rightBracket :: ·) :=
  ofChars?_of_next? rfl

theorem ofChars?_key (hw : isWord name = true) (hr : rest.head?.any Quoted.isBlank = false) :
    ofChars? (name.toList ++ ' ' :: '=' :: ' ' :: rest) =
      (ofChars? rest).map ([.bare name, .blank " ", .equals, .blank " "] ++ ·) := by
  have hequals : ofChars? ('=' :: ' ' :: rest) = (ofChars? (' ' :: rest)).map (.equals :: ·) :=
    ofChars?_of_next? rfl
  rw [ofChars?_word hw rfl, ofChars?_space rfl, hequals, ofChars?_space hr]
  simp only [Option.map_map]
  rfl

theorem not_mem_of_isWord (hw : isWord name = true) (hc : isBare c = false) :
    c ∉ name.toList := by
  intro hm
  rw [isWord, Bool.and_eq_true, List.all_eq_true] at hw
  exact Bool.false_ne_true (hc.symm.trans (hw.2 c hm))

theorem foldLineEnds_of_not_mem (h : '\r' ∉ cs) : foldLineEnds cs = cs := by
  fun_induction foldLineEnds cs with
  | case1 => rfl
  | case2 cs ih => simp at h
  | case3 c cs _ ih => rw [ih fun hm => h (List.mem_cons_of_mem c hm)]

theorem dropByteOrderMark_of_head? (h : cs.head? ≠ some '\ufeff') :
    dropByteOrderMark cs = cs := by
  unfold dropByteOrderMark
  split
  · exact absurd rfl h
  · rfl

end Token

end MailboxSearch.Toml
