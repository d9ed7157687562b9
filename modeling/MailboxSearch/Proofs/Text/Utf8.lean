import Mathlib.Data.List.Infix
import Mathlib.Data.String.Basic

namespace MailboxSearch.Utf8

def encode (text : List Char) : List UInt8 :=
  text.flatMap String.utf8EncodeChar

def isContinuation (b : UInt8) : Bool :=
  b &&& 0xC0 == 0x80

def digits : Nat → Nat → List UInt8
  | 0, _ => []
  | k + 1, v => UInt8.ofNat (v / 64 ^ k % 64 + 0x80) :: digits k v

/-- The forms of the character with the number `v`: its first byte, and how many bytes follow. -/
inductive Form (v : Nat) : Nat → Nat → Prop
  | one (h : v < 0x80) : Form v v 0
  | two (h : 0x80 ≤ v) (h' : v < 0x800) : Form v (v / 64 + 0xC0) 1
  | three (h : 0x800 ≤ v) (h' : v < 0x10000) : Form v (v / 64 ^ 2 + 0xE0) 2
  | four (h : 0x10000 ≤ v) (h' : v < 0x110000) : Form v (v / 64 ^ 3 + 0xF0) 3

variable {c d : Char} {v w k k' lead lead' : Nat} {a b : List Char} {x y : List UInt8}

theorem toNat_lt (c : Char) : c.toNat < 0x110000 := by
  cases c.valid with
  | inl h => exact Nat.lt_trans h (by decide)
  | inr h => exact h.2

theorem exists_form (c : Char) :
    ∃ lead k, Form c.toNat lead k ∧
      String.utf8EncodeChar c = UInt8.ofNat lead :: digits k c.toNat := by
  have hc := toNat_lt c
  rw [String.utf8EncodeChar, Char.toNat_val]
  generalize c.toNat = v at *
  -- the remainders that the highest digits are taken to change nothing
  by_cases h₁ : v ≤ 0x7F
  · exact ⟨_, _, .one (by omega), by simp [h₁, digits]⟩
  · by_cases h₂ : v ≤ 0x7FF
    · have htop : v / 64 < 32 := by omega
      exact ⟨_, _, .two (by omega) (by omega), by simp [h₁, h₂, digits, Nat.mod_eq_of_lt htop]⟩
    · by_cases h₃ : v ≤ 0xFFFF
      · have htop : v / 4096 < 16 := by omega
        exact ⟨_, _, .three (by omega) (by omega),
          by simp [h₁, h₂, h₃, digits, Nat.mod_eq_of_lt htop]⟩
      · have htop : v / 262144 < 8 := by omega
        exact ⟨_, _, .four (by omega) (by omega),
          by simp [h₁, h₂, h₃, digits, Nat.mod_eq_of_lt htop]⟩

theorem Form.lead_lt (h : Form v lead k) : lead < 256 := by
  cases h <;> omega

theorem Form.lt_of_lt (hv : Form v lead k) (hw : Form w lead' k') (h : v < w) :
    lead < lead' ∨ lead = lead' ∧ k = k' ∧ v % 64 ^ k < w % 64 ^ k := by
  cases hv <;> cases hw <;> omega

theorem isContinuation_ofNat_iff :
    isContinuation (UInt8.ofNat v) = true ↔ 0x80 ≤ v % 256 ∧ v % 256 < 0xC0 := by
  have hall : ∀ b : Fin 256,
      isContinuation (UInt8.ofFin b) = true ↔ 0x80 ≤ b.val ∧ b.val < 0xC0 := by
    decide +kernel
  exact hall ⟨v % 256, Nat.mod_lt v (by decide)⟩

theorem Form.not_isContinuation (h : Form v lead k) :
    isContinuation (UInt8.ofNat lead) = false := by
  rw [Bool.eq_false_iff, ne_eq, isContinuation_ofNat_iff, Nat.mod_eq_of_lt h.lead_lt]
  cases h <;> omega

theorem isContinuation_of_mem_digits {b : UInt8} (h : b ∈ digits k v) :
    isContinuation b = true := by
  induction k with
  | zero => contradiction
  | succ k ih =>
    cases List.mem_cons.1 h with
    | inl h =>
      rw [h, isContinuation_ofNat_iff]
      omega
    | inr h => exact ih h

theorem exists_utf8EncodeChar_eq_cons (c : Char) :
    ∃ b bytes, String.utf8EncodeChar c = b :: bytes ∧ isContinuation b = false ∧
      ∀ b' ∈ bytes, isContinuation b' = true := by
  obtain ⟨lead, k, hform, hc⟩ := exists_form c
  exact ⟨_, _, hc, hform.not_isContinuation, fun _ => isContinuation_of_mem_digits⟩

@[simp] theorem encode_nil : encode [] = [] := rfl

theorem encode_cons (c : Char) (a : List Char) :
    encode (c :: a) = String.utf8EncodeChar c ++ encode a :=
  List.flatMap_cons

@[simp] theorem encode_append (a b : List Char) : encode (a ++ b) = encode a ++ encode b :=
  List.flatMap_append

theorem length_encode_singleton (c : Char) : (encode [c]).length = c.utf8Size := by
  rw [encode_cons, encode_nil, List.append_nil, String.length_utf8EncodeChar]

@[simp] theorem encode_eq_nil_iff : encode a = [] ↔ a = [] := by
  cases a with
  | nil => simp
  | cons c a =>
    obtain ⟨first, bytes, hc, -⟩ := exists_utf8EncodeChar_eq_cons c
    simp [encode_cons, hc]

theorem isEmpty_encode (a : List Char) : (encode a).isEmpty = a.isEmpty := by
  rw [Bool.eq_iff_iff, List.isEmpty_iff, List.isEmpty_iff, encode_eq_nil_iff]

theorem compare_cons_eq_lt_iff {b b' : UInt8} :
    compare (b :: x) (b' :: y) = .lt ↔ b < b' ∨ b = b' ∧ compare x y = .lt := by
  rw [List.compare_cons_cons, Ordering.then_eq_lt, Std.compare_eq_lt,
    Std.LawfulEqOrd.compare_eq_iff_eq]

theorem ofNat_lt_ofNat_iff (hv : v < 256) (hw : w < 256) :
    UInt8.ofNat v < UInt8.ofNat w ↔ v < w := by
  rw [UInt8.lt_iff_toNat_lt, UInt8.toNat_ofNat', UInt8.toNat_ofNat', Nat.mod_eq_of_lt hv,
    Nat.mod_eq_of_lt hw]

theorem compare_digits (h : v % 64 ^ k < w % 64 ^ k) :
    compare (digits k v ++ x) (digits k w ++ y) = .lt := by
  induction k with
  | zero => simp [Nat.mod_one] at h
  | succ k ih =>
    rw [Nat.mod_pow_succ, Nat.mod_pow_succ] at h
    rw [digits, digits, List.cons_append, List.cons_append, compare_cons_eq_lt_iff,
      ofNat_lt_ofNat_iff (by omega) (by omega)]
    rcases Nat.lt_trichotomy (v / 64 ^ k % 64) (w / 64 ^ k % 64) with hd | hd | hd
    · exact .inl (by omega)
    · rw [hd] at h ⊢
      exact .inr ⟨rfl, ih (by omega)⟩
    · -- a larger digit weighs more than all that follow
      have hw := Nat.mod_lt w (Nat.pow_pos (by decide) : 0 < 64 ^ k)
      have hmul : 64 ^ k * (w / 64 ^ k % 64 + 1) ≤ 64 ^ k * (v / 64 ^ k % 64) :=
        Nat.mul_le_mul_left _ hd
      rw [Nat.mul_add_one] at hmul
      omega

theorem compare_utf8EncodeChar (h : c < d) :
    compare (String.utf8EncodeChar c ++ x) (String.utf8EncodeChar d ++ y) = .lt := by
  obtain ⟨lead, k, hv, hc⟩ := exists_form c
  obtain ⟨lead', k', hw, hd⟩ := exists_form d
  rw [hc, hd, List.cons_append, List.cons_append, compare_cons_eq_lt_iff,
    ofNat_lt_ofNat_iff hv.lead_lt hw.lead_lt]
  rcases hv.lt_of_lt hw h with hlt | ⟨rfl, rfl, hlt⟩
  · exact .inl hlt
  · exact .inr ⟨rfl, compare_digits hlt⟩

theorem compare_append_left (x y y' : List UInt8) :
    compare (x ++ y) (x ++ y') = compare y y' := by
  induction x with
  | nil => rfl
  | cons b x ih =>
    rw [List.cons_append, List.cons_append, List.compare_cons_cons, ih, Std.compare_self]
    rfl

theorem compare_encode_of_lt (h : a < b) : compare (encode a) (encode b) = .lt := by
  induction h with
  | nil =>
    rw [encode_nil, encode_cons]
    obtain ⟨b, bytes, hc, -⟩ := exists_utf8EncodeChar_eq_cons _
    rw [hc]
    rfl
  | cons _ ih => rw [encode_cons, encode_cons, compare_append_left, ih]
  | rel h => exact compare_utf8EncodeChar h

theorem compare_encode (s t : String) :
    compare (encode s.toList) (encode t.toList) = compare s t := by
  cases h : compare s t with
  | lt => exact compare_encode_of_lt (String.lt_iff_toList_lt.1 (Std.LawfulLTCmp.eq_lt_iff_lt.1 h))
  | eq =>
    rw [Std.LawfulEqOrd.eq_of_compare h]
    exact Std.compare_self
  | gt =>
    rw [Std.OrientedOrd.eq_swap, Ordering.swap_eq_gt]
    exact compare_encode_of_lt (String.lt_iff_toList_lt.1 (Std.LawfulLTCmp.eq_gt_iff_gt.1 h))

theorem utf8EncodeChar_append_ne (h : c < d) :
    String.utf8EncodeChar c ++ x ≠ String.utf8EncodeChar d ++ y := by
  intro heq
  have hlt := compare_utf8EncodeChar (x := x) (y := y) h
  rw [heq, Std.compare_self] at hlt
  contradiction

theorem utf8EncodeChar_append_inj :
    String.utf8EncodeChar c ++ x = String.utf8EncodeChar d ++ y ↔ c = d ∧ x = y := by
  constructor
  · intro h
    rcases lt_trichotomy c d with hlt | rfl | hlt
    · exact absurd h (utf8EncodeChar_append_ne hlt)
    · exact ⟨rfl, List.append_cancel_left h⟩
    · exact absurd h.symm (utf8EncodeChar_append_ne hlt)
  · rintro ⟨rfl, rfl⟩
    rfl

theorem encode_eq_append_iff :
    encode b = encode a ++ x ↔ ∃ rest, b = a ++ rest ∧ encode rest = x := by
  induction a generalizing b with
  | nil => simp
  | cons c a ih =>
    cases b with
    | nil =>
      obtain ⟨first, bytes, hc, -⟩ := exists_utf8EncodeChar_eq_cons c
      simp [encode_cons, hc]
    | cons d b =>
      rw [encode_cons, encode_cons, List.append_assoc, utf8EncodeChar_append_inj, ih]
      simp [eq_comm, and_assoc]

theorem encode_prefix_iff : encode a <+: encode b ↔ a <+: b := by
  constructor
  · intro ⟨x, hx⟩
    obtain ⟨rest, rfl, -⟩ := encode_eq_append_iff.1 hx.symm
    exact List.prefix_append a rest
  · rintro ⟨rest, rfl⟩
    rw [encode_append]
    exact List.prefix_append _ _

theorem encode_inj : encode a = encode b ↔ a = b := by
  constructor
  · intro h
    obtain ⟨rest, rfl, hrest⟩ := encode_eq_append_iff.1 (h.trans (List.append_nil _).symm)
    rw [encode_eq_nil_iff.1 hrest, List.append_nil]
  · intro h
    rw [h]

end MailboxSearch.Utf8
