import MailboxSearch.Proofs.Text.Utf8

namespace MailboxSearch.Utf8

inductive BadIndex
  | belowZero
  | beyondEnd
  | insideCharacter
  deriving DecidableEq

def isBoundary (bytes : List UInt8) (i : Nat) : Bool :=
  i == 0 || i == bytes.length || bytes[i]?.any fun b => !isContinuation b

def cut (bytes : List UInt8) (i : Nat) : Except BadIndex (List UInt8 × List UInt8) :=
  if bytes.length < i then .error .beyondEnd
  else if isBoundary bytes i then .ok (bytes.splitAt i)
  else .error .insideCharacter

def sliceTo (bytes : List UInt8) (i : Nat) : Except BadIndex (List UInt8) :=
  Prod.fst <$> cut bytes i

def sliceFrom (bytes : List UInt8) (i : Nat) : Except BadIndex (List UInt8) :=
  Prod.snd <$> cut bytes i

def before (m n : Nat) : Except BadIndex Nat :=
  if n ≤ m then .ok (m - n) else .error .belowZero

def find? (f : Char → Bool) : List UInt8 → Option Nat
  | [] => none
  | b :: bytes =>
    match (b :: bytes).toByteArray.utf8DecodeChar? 0 with
    | none => none
    | some c =>
      if f c then some 0 else (find? f (bytes.drop (c.utf8Size - 1))).map (c.utf8Size + ·)
termination_by bytes => bytes.length
decreasing_by
  rw [List.length_drop, List.length_cons]
  omega

/-- Whether an index cuts a stored text in two texts. -/
structure CutsAt (text : List Char) (i : Nat) (front back : List Char) : Prop where
  le_length : i ≤ (encode text).length
  isBoundary : isBoundary (encode text) i = true
  cut_eq : cut (encode text) i = .ok (encode front, encode back)

variable {i j : Nat} {x y : List UInt8} {text front back a b : List Char} {c : Char}

theorem isBoundary_iff {bytes : List UInt8} :
    isBoundary bytes i = true ↔
      i = 0 ∨ i = bytes.length ∨ ∃ b, bytes[i]? = some b ∧ isContinuation b = false := by
  simp [isBoundary, or_assoc, Option.any_eq_true]

theorem isBoundary_append_encode (x : List UInt8) (a : List Char) :
    isBoundary (x ++ encode a) x.length = true := by
  rw [isBoundary_iff]
  cases a with
  | nil => exact .inr (.inl (by simp))
  | cons c a =>
    obtain ⟨first, bytes, hc, hfirst, -⟩ := exists_utf8EncodeChar_eq_cons c
    exact .inr (.inr ⟨first, by simp [encode_cons, hc], hfirst⟩)

theorem isBoundary_of_append (h : isBoundary (x ++ y) (x.length + j) = true) :
    isBoundary y j = true := by
  rw [isBoundary_iff] at h ⊢
  rcases h with h | h | ⟨b, hb, hf⟩
  · exact .inl (by omega)
  · rw [List.length_append] at h
    exact .inr (.inl (by omega))
  · rw [List.getElem?_append_right (by omega), Nat.add_sub_cancel_left] at hb
    exact .inr (.inr ⟨b, hb, hf⟩)

theorem length_le_of_isBoundary (h : isBoundary (String.utf8EncodeChar c ++ y) i = true)
    (hi : i ≠ 0) : (String.utf8EncodeChar c).length ≤ i := by
  by_contra hlt
  rw [isBoundary_iff] at h
  obtain ⟨first, bytes, hc, -, hbytes⟩ := exists_utf8EncodeChar_eq_cons c
  rcases h with h | h | ⟨b, hb, hf⟩
  · exact hi h
  · rw [List.length_append] at h
    omega
  · rw [List.getElem?_append_left (by omega), hc] at hb
    obtain ⟨j, rfl⟩ := Nat.exists_eq_add_one_of_ne_zero hi
    rw [List.getElem?_cons_succ] at hb
    rw [hbytes b (List.mem_of_getElem? hb)] at hf
    contradiction

theorem isBoundary_encode_iff :
    isBoundary (encode text) i = true ↔
      ∃ front back, text = front ++ back ∧ (encode front).length = i := by
  constructor
  · intro h
    induction text generalizing i with
    | nil =>
      have hi : i = 0 := by simpa [isBoundary_iff] using h
      exact ⟨[], [], rfl, hi.symm⟩
    | cons c text ih =>
      by_cases hi : i = 0
      · exact ⟨[], c :: text, rfl, by simp [hi]⟩
      · rw [encode_cons] at h
        obtain ⟨j, rfl⟩ := Nat.exists_eq_add_of_le (length_le_of_isBoundary h hi)
        obtain ⟨front, back, rfl, rfl⟩ := ih (isBoundary_of_append h)
        exact ⟨c :: front, back, rfl, by rw [encode_cons, List.length_append]⟩
  · rintro ⟨front, back, rfl, rfl⟩
    rw [encode_append]
    exact isBoundary_append_encode _ back

example : cut (encode ['a', 'é']) 2 = .error .insideCharacter := by decide

theorem encode_eq_append_encode_iff :
    encode b = x ++ encode a ↔ ∃ front, b = front ++ a ∧ encode front = x := by
  constructor
  · intro h
    have hx := isBoundary_append_encode x a
    rw [← h] at hx
    obtain ⟨front, back, rfl, hlength⟩ := isBoundary_encode_iff.1 hx
    rw [encode_append] at h
    obtain ⟨hfront, hback⟩ := List.append_inj h hlength
    rw [encode_inj.1 hback]
    exact ⟨front, rfl, hfront⟩
  · rintro ⟨front, rfl, rfl⟩
    exact encode_append front a

theorem encode_suffix_iff : encode a <:+ encode b ↔ a <:+ b := by
  constructor
  · intro ⟨x, hx⟩
    obtain ⟨front, rfl, -⟩ := encode_eq_append_encode_iff.1 hx.symm
    exact List.suffix_append front a
  · rintro ⟨front, rfl⟩
    rw [encode_append]
    exact List.suffix_append _ _

theorem cutsAt_append (front back : List Char) :
    CutsAt (front ++ back) (encode front).length front back := by
  have hle : (encode front).length ≤ (encode (front ++ back)).length := by
    rw [encode_append, List.length_append]
    exact Nat.le_add_right _ _
  have hb := isBoundary_encode_iff.2 ⟨front, back, rfl, rfl⟩
  refine ⟨hle, hb, ?_⟩
  rw [cut, if_neg (Nat.not_lt_of_ge hle), if_pos hb, encode_append, List.splitAt_eq,
    List.take_left, List.drop_left]

theorem CutsAt.sliceTo_eq (h : CutsAt text i front back) :
    sliceTo (encode text) i = .ok (encode front) := by
  rw [sliceTo, h.cut_eq]
  rfl

theorem CutsAt.sliceFrom_eq (h : CutsAt text i front back) :
    sliceFrom (encode text) i = .ok (encode back) := by
  rw [sliceFrom, h.cut_eq]
  rfl

theorem find?_encode_cons (f : Char → Bool) (c : Char) (text : List Char) :
    find? f (encode (c :: text)) =
      if f c then some 0 else (find? f (encode text)).map (c.utf8Size + ·) := by
  obtain ⟨first, bytes, hc, -⟩ := exists_utf8EncodeChar_eq_cons c
  have hdecode : (encode (c :: text)).toByteArray.utf8DecodeChar? 0 = some c := by
    rw [encode_cons, List.toByteArray_append]
    exact ByteArray.utf8DecodeChar?_utf8EncodeChar_append
  have hbytes : bytes.length = c.utf8Size - 1 := by
    rw [← String.length_utf8EncodeChar, hc]
    rfl
  rw [encode_cons, hc, List.cons_append] at hdecode ⊢
  rw [find?, hdecode]
  simp only
  rw [← hbytes, List.drop_left]

theorem find?_encode (f : Char → Bool) (text : List Char) :
    find? f (encode text) =
      if text.any f then some (encode (text.takeWhile fun c => !f c)).length else none := by
  induction text with
  | nil => simp [find?]
  | cons c text ih =>
    rw [find?_encode_cons, ih, List.any_cons]
    cases hc : f c with
    | true => simp [hc]
    | false =>
      rw [List.takeWhile_cons_of_pos (by simp [hc]), encode_cons, List.length_append,
        String.length_utf8EncodeChar]
      cases text.any f <;> rfl

end MailboxSearch.Utf8
