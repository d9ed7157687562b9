import MailboxSearch.Toml.Quoted

namespace MailboxSearch.Toml.Quoted

variable {c : Char} {digits rest : List Char}

theorem basic_unicode (hlen : digits.length = 4) (hc : hexChar? digits = some c) :
    basic ('\\' :: 'u' :: digits ++ rest) = Scanned.push c (basic rest) := by
  match digits, hlen with
  | [a, b, d, e], _ =>
    change basic ('\\' :: 'u' :: a :: b :: d :: e :: rest) = _
    rw [basic, hc]
    rfl

theorem basic_textChar (hq : c ≠ '"') (hb : c ≠ '\\') (ht : isTextChar c = true) :
    basic (c :: rest) = Scanned.push c (basic rest) := by
  rw [basic.eq_def]
  split <;> simp_all

theorem hexChar?_upperHex : ∀ n < 128,
    let digits := List.replicate (4 - (upperHex n).length) '0' ++ upperHex n
    digits.length = 4 ∧ hexChar? digits = some (Char.ofNat n) ∧ '\r' ∉ digits := by
  decide +kernel

theorem toNat_lt_of_isControl (h : (c < ' ' || c == '\x7f') = true) : c.toNat < 128 := by
  rw [Bool.or_eq_true, decide_eq_true_eq, beq_iff_eq] at h
  rcases h with h | rfl
  · exact Nat.lt_trans (UInt32.lt_iff_toNat_lt.1 h) (by decide)
  · decide

theorem basic_escape (c : Char) (rest : List Char) :
    basic (escape c ++ rest) = Scanned.push c (basic rest) := by
  fun_cases escape c with
  | case8 _ _ _ _ _ _ _ _ h =>
    obtain ⟨hlen, hc, -⟩ := hexChar?_upperHex c.toNat (toNat_lt_of_isControl h)
    rw [Char.ofNat_toNat] at hc
    exact basic_unicode hlen hc
  | case9 _ _ _ _ _ _ hq hb h =>
    have ht : isTextChar c = true := by
      simp only [Bool.or_eq_true, not_or, decide_eq_true_eq, Char.not_lt, beq_iff_eq] at h
      simp [isTextChar, h]
    exact basic_textChar hq hb ht
  | _ => rfl

theorem basic_flatMap_escape (text rest : List Char) :
    basic (text.flatMap escape ++ '"' :: rest) = some (text, rest) := by
  induction text with
  | nil => rfl
  | cons c text ih =>
    rw [List.flatMap_cons, List.append_assoc, basic_escape, ih]
    rfl

theorem exists_escape_eq_cons (c : Char) : ∃ d cs, escape c = d :: cs ∧ d ≠ '"' := by
  fun_cases escape c with
  | case9 _ _ _ _ _ _ hq _ _ => exact ⟨c, [], rfl, hq⟩
  | _ => exact ⟨'\\', _, rfl, by decide⟩

theorem not_mem_escape (c : Char) : '\r' ∉ escape c := by
  fun_cases escape c with
  | case8 _ _ _ _ _ _ _ _ h =>
    obtain ⟨-, -, hr⟩ := hexChar?_upperHex c.toNat (toNat_lt_of_isControl h)
    rw [List.cons_append, List.cons_append]
    simpa only [List.mem_cons, not_or] using ⟨by decide, by decide, hr⟩
  | case9 _ _ _ _ _ hr _ _ _ => simpa using Ne.symm hr
  | _ => decide

end MailboxSearch.Toml.Quoted
