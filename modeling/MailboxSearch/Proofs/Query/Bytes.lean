import MailboxSearch.Proofs.Pattern.Start
import MailboxSearch.Proofs.Query.Joint
import MailboxSearch.Proofs.Text.Slice

namespace MailboxSearch

open Utf8

namespace Query

def baseBytes (q : Query) : List UInt8 :=
  encode q.baseName

def expressionBytes (q : Query) : List UInt8 :=
  encode q.expressionText

def delimiterBytes (q : Query) : List UInt8 :=
  encode [q.delimiter]

/-- Whether the delimiter comes twice at the joint, so that one of the two is cut off. -/
def doubled (q : Query) : Bool :=
  q.delimiterBytes.isSuffixOf q.baseBytes && q.delimiterBytes.isPrefixOf q.expressionBytes

def combinedBytes (q : Query) : Except BadIndex (List UInt8) :=
  let base := q.baseBytes
  let expression := q.expressionBytes
  let d := q.delimiterBytes
  if base.isEmpty then .ok expression
  else if expression.isEmpty then .ok base
  else
    match d.isSuffixOf base, d.isPrefixOf expression with
    | true, true => do
      let branch ← sliceFrom expression q.delimiter.utf8Size
      return base ++ branch
    | true, false => .ok (base ++ expression)
    | false, true => .ok (base ++ expression)
    | false, false => .ok (base ++ d ++ expression)

def relativeBytes (q : Query) (name : List UInt8) : Except BadIndex (Option (List UInt8)) :=
  let base := q.baseBytes
  let d := q.delimiterBytes
  if base.isEmpty then .ok (some name)
  else
    match d.isSuffixOf base, d.isPrefixOf q.expressionBytes with
    | false, false =>
      .ok <| (name.dropPrefix? base).bind fun rest =>
        if q.expressionBytes.isEmpty then some rest else rest.dropPrefix? d
    | true, false => .ok (name.dropPrefix? base)
    | false, true => .ok (name.dropPrefix? base)
    | true, true => do
      let i ← before base.length q.delimiter.utf8Size
      let root ← sliceTo base i
      return name.dropPrefix? root

end Query

def Pattern.prefixBytes (expression : List UInt8) : Except BadIndex (List UInt8) :=
  match find? isWildcard expression with
  | some i => sliceTo expression i
  | none => .ok expression

namespace Query

variable {q : Query} {start text : List Char} {i : Nat}

theorem isSuffixOf_baseBytes (q : Query) :
    q.delimiterBytes.isSuffixOf q.baseBytes = trails q.delimiter q.baseName := by
  rw [Bool.eq_iff_iff, List.isSuffixOf_iff_suffix, delimiterBytes, baseBytes, encode_suffix_iff,
    trails_iff]
  exact exists_congr fun front => eq_comm

theorem isPrefixOf_expressionBytes (q : Query) :
    q.delimiterBytes.isPrefixOf q.expressionBytes = leads q.delimiter q.expressionText := by
  rw [Bool.eq_iff_iff, List.isPrefixOf_iff_prefix, delimiterBytes, expressionBytes,
    encode_prefix_iff, leads_iff]
  exact exists_congr fun rest => eq_comm

theorem doubled_iff :
    q.doubled = true ↔
      trails q.delimiter q.baseName = true ∧ leads q.delimiter q.expressionText = true := by
  rw [doubled, isSuffixOf_baseBytes, isPrefixOf_expressionBytes, Bool.and_eq_true]

theorem isEmpty_baseBytes (q : Query) : q.baseBytes.isEmpty = q.baseName.isEmpty :=
  isEmpty_encode q.baseName

theorem isEmpty_expressionBytes (q : Query) :
    q.expressionBytes.isEmpty = q.expressionText.isEmpty :=
  isEmpty_encode q.expressionText

theorem dropPrefix?_encode (start text : List Char) :
    (encode text).dropPrefix? (encode start) = (after start text).map encode := by
  ext bytes
  simp [List.dropPrefix?_eq_some_iff, after_eq_some_iff, encode_eq_append_iff]

theorem cutsAt_expressionText (h : leads q.delimiter q.expressionText = true) :
    CutsAt q.expressionText q.delimiter.utf8Size [q.delimiter] (q.expressionText.drop 1) := by
  obtain ⟨rest, hrest⟩ := leads_iff.1 h
  rw [hrest, ← length_encode_singleton]
  exact cutsAt_append [q.delimiter] rest

theorem exists_cutsAt_baseName (h : trails q.delimiter q.baseName = true) :
    ∃ i, before q.baseBytes.length q.delimiter.utf8Size = .ok i ∧
      CutsAt q.baseName i q.baseName.dropLast [q.delimiter] := by
  obtain ⟨front, hfront⟩ := trails_iff.1 h
  have hlength : q.baseBytes.length = (encode front).length + q.delimiter.utf8Size := by
    rw [baseBytes, hfront, encode_append, List.length_append, length_encode_singleton]
  refine ⟨(encode front).length, ?_, ?_⟩
  · rw [before, hlength, if_pos (Nat.le_add_left _ _), Nat.add_sub_cancel]
  · rw [hfront, List.dropLast_concat]
    exact cutsAt_append front [q.delimiter]

theorem combinedBytes_eq (q : Query) : q.combinedBytes = .ok (encode q.combinedName.toList) := by
  rw [combinedBytes, combinedName, String.toList_ofList]
  simp only [isEmpty_baseBytes, isEmpty_expressionBytes, isSuffixOf_baseBytes,
    isPrefixOf_expressionBytes]
  split
  · rfl
  split
  · rfl
  cases trails q.delimiter q.baseName with
  | true =>
    cases hl : leads q.delimiter q.expressionText with
    | true =>
      have hslice : sliceFrom q.expressionBytes q.delimiter.utf8Size =
          .ok (encode (q.expressionText.drop 1)) := (cutsAt_expressionText hl).sliceFrom_eq
      rw [hslice, encode_append]
      rfl
    | false =>
      rw [encode_append]
      rfl
  | false =>
    cases leads q.delimiter q.expressionText with
    | true =>
      rw [encode_append]
      rfl
    | false =>
      rw [← List.singleton_append, encode_append, encode_append, ← List.append_assoc]
      rfl

theorem relativeBytes_eq (q : Query) (name : String) :
    q.relativeBytes (encode name.toList) =
      .ok ((q.relativeName name).map fun rest => encode rest.toList) := by
  have hmap (rest : Option (List Char)) :
      (rest.map String.ofList).map (fun rest => encode rest.toList) = rest.map encode := by
    simp [Function.comp_def]
  have hbase : (encode name.toList).dropPrefix? q.baseBytes =
      (after q.baseName name.toList).map encode := dropPrefix?_encode _ _
  rw [relativeBytes, relativeName]
  simp only [isEmpty_baseBytes, isEmpty_expressionBytes, isSuffixOf_baseBytes,
    isPrefixOf_expressionBytes]
  split
  · rfl
  rw [hmap]
  cases ht : trails q.delimiter q.baseName with
  | true =>
    cases leads q.delimiter q.expressionText with
    | true =>
      obtain ⟨i, hi, hcut⟩ := exists_cutsAt_baseName ht
      have hslice : sliceTo q.baseBytes i = .ok (encode q.baseName.dropLast) := hcut.sliceTo_eq
      simp only [hi, ← dropPrefix?_encode]
      change (sliceTo q.baseBytes i >>= _) = _
      rw [hslice]
      rfl
    | false => rw [hbase]
  | false =>
    cases leads q.delimiter q.expressionText with
    | true => rw [hbase]
    | false =>
      rw [hbase]
      cases after q.baseName name.toList with
      | none => rfl
      | some rest =>
        simp only [Option.map_some, Option.bind_some]
        split
        · rfl
        · rw [← dropPrefix?_encode]
          rfl

end Query

theorem Pattern.cutsAt_of_find? {e : String} {i : Nat}
    (h : find? isWildcard (encode e.toList) = some i) :
    CutsAt e.toList i (e.toList.takeWhile fun c => !isWildcard c)
      (e.toList.dropWhile fun c => !isWildcard c) := by
  rw [find?_encode] at h
  split at h
  · obtain rfl := Option.some.inj h
    have hcut := cutsAt_append (e.toList.takeWhile fun c => !isWildcard c)
      (e.toList.dropWhile fun c => !isWildcard c)
    rwa [List.takeWhile_append_dropWhile] at hcut
  · contradiction

theorem Pattern.prefixBytes_eq (e : String) :
    prefixBytes (encode e.toList) = .ok (encode (literalPrefix e).toList) := by
  rw [prefixBytes, literalPrefix, String.toList_ofList]
  cases h : find? isWildcard (encode e.toList) with
  | some i => exact (cutsAt_of_find? h).sliceTo_eq
  | none =>
    have hwild : isWild e = false := by simpa [find?_encode, isWild] using h
    rw [takeWhile_of_not_isWild hwild]

namespace Query

/--
Where texts are stored, one delimiter that comes twice is cut off the expression or off the base
name, and an expression is cut before its first wildcard. Whenever such a cut is made its index is
inside the text and between two characters, and the text comes apart there. So nothing ever fails,
and the joined name, the rest of a name and the text before the first wildcard come out as the bytes
of what they are.
-/
theorem bytes_exact (q : Query) (name e : String) :
    (q.doubled = true →
      CutsAt q.expressionText q.delimiter.utf8Size [q.delimiter] (q.expressionText.drop 1)) ∧
    (q.doubled = true → ∃ i, before q.baseBytes.length q.delimiter.utf8Size = .ok i ∧
      CutsAt q.baseName i q.baseName.dropLast [q.delimiter]) ∧
    (∀ i, find? Pattern.isWildcard (encode e.toList) = some i →
      CutsAt e.toList i (e.toList.takeWhile fun c => !Pattern.isWildcard c)
        (e.toList.dropWhile fun c => !Pattern.isWildcard c)) ∧
    q.combinedBytes = .ok (encode q.combinedName.toList) ∧
    q.relativeBytes (encode name.toList) =
      .ok ((q.relativeName name).map fun rest => encode rest.toList) ∧
    Pattern.prefixBytes (encode e.toList) = .ok (encode (Pattern.literalPrefix e).toList) := by
  refine ⟨?_, ?_, fun i => Pattern.cutsAt_of_find?, q.combinedBytes_eq, q.relativeBytes_eq name,
    Pattern.prefixBytes_eq e⟩
  · intro h
    exact cutsAt_expressionText (doubled_iff.1 h).2
  · intro h
    exact exists_cutsAt_baseName (doubled_iff.1 h).1

theorem bytes_exact_arrow :
    let q : Query :=
      { base := { name := some "é→" }, expression := some "→%", delimiter := '→' }
    q.doubled = true ∧ CutsAt q.expressionText 3 ['→'] ['%'] ∧
      before q.baseBytes.length 3 = .ok 2 ∧ CutsAt q.baseName 2 ['é'] ['→'] ∧
      find? Pattern.isWildcard (encode "→%".toList) = some 3 ∧
      CutsAt "→%".toList 3 ['→'] ['%'] ∧
      q.combinedBytes = .ok [0xC3, 0xA9, 0xE2, 0x86, 0x92, 0x25] ∧
      q.relativeBytes (encode "é→b".toList) = .ok (some (encode "→b".toList)) ∧
      Pattern.prefixBytes (encode "→%".toList) = .ok [0xE2, 0x86, 0x92] := by
  intro q
  have hd : q.doubled = true := by decide
  have hfind : find? Pattern.isWildcard (encode "→%".toList) = some 3 := by
    rw [find?_encode]
    decide
  obtain ⟨hexpression, hbase, hwild, hcombined, hrelative, hprefix⟩ :=
    bytes_exact q "é→b" "→%"
  have hwidth : q.delimiter.utf8Size = 3 := by decide
  have hback : q.expressionText.drop 1 = ['%'] := by decide
  have hfront : q.baseName.dropLast = ['é'] := by decide
  rw [hwidth, hback] at hexpression
  rw [hwidth, hfront] at hbase
  obtain ⟨i, hi, hcut⟩ := hbase hd
  have hindex : before q.baseBytes.length 3 = .ok 2 := by decide
  obtain rfl : i = 2 := Except.ok.inj (hi.symm.trans hindex)
  refine ⟨hd, hexpression hd, hindex, hcut, hfind, hwild 3 hfind, hcombined.trans ?_,
    hrelative.trans ?_, hprefix.trans ?_⟩
  · decide
  · decide
  · decide

end Query

end MailboxSearch
