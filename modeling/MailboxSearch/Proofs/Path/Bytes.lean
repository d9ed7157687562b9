import MailboxSearch.Proofs.Path.Order
import MailboxSearch.Proofs.Text.Utf8

namespace MailboxSearch.Path

inductive PartBefore : Option String → Option String → Prop
  | absent (b : String) : PartBefore none (some b)
  | text {a b : String} (h : List.Lex (· < ·) a.toList b.toList) : PartBefore (some a) (some b)

inductive Before (p q : Path) : Prop
  | space (h : PartBefore p.space q.space)
  | owner (hs : p.space = q.space) (h : PartBefore p.owner q.owner)
  | name (hs : p.space = q.space) (ho : p.owner = q.owner) (h : PartBefore p.name q.name)

/-- Whether a comparison puts all paths in one row, and tells all of them apart. -/
structure Ranks (cmp : Path → Path → Ordering) : Prop where
  eq_iff : ∀ p q, cmp p q = .eq ↔ p = q
  swap : ∀ p q, cmp q p = (cmp p q).swap
  antisymm : ∀ p q, (cmp p q).isLE = true → (cmp q p).isLE = true → p = q
  trans : ∀ p q r, (cmp p q).isLE = true → (cmp q r).isLE = true → (cmp p r).isLE = true
  total : ∀ p q, (cmp p q).isLE = true ∨ (cmp q p).isLE = true

def stored (part : Option String) : Option (List UInt8) :=
  part.map fun text => Utf8.encode text.toList

def compareStored : Path → Path → Ordering :=
  compareLex
    (compareLex (compareOn fun p => stored p.space) (compareOn fun p => stored p.owner))
    (compareOn fun p => stored p.name)

variable {p q : Path} {ps qs sorted : List Path} {a b : Option String}

theorem compareParts_eq_lt_iff : compareParts a b = .lt ↔ PartBefore a b := by
  cases a with
  | none =>
    cases b with
    | none =>
      constructor <;> intro h <;> cases h
    | some b => exact iff_of_true rfl (.absent b)
  | some a =>
    cases b with
    | none =>
      constructor <;> intro h <;> cases h
    | some b =>
      rw [compareParts, Std.LawfulLTCmp.eq_lt_iff_lt]
      constructor
      · exact .text
      · intro h
        cases h with
        | text h => exact h

theorem compareParts_eq_eq_iff : compareParts a b = .eq ↔ a = b := by
  rw [compareParts_eq_compare, Std.LawfulEqOrd.compare_eq_iff_eq]

theorem compare_eq_lt_iff : compare p q = .lt ↔ Before p q := by
  simp only [compare, Ordering.then_eq_lt, Ordering.then_eq_eq, compareParts_eq_lt_iff,
    compareParts_eq_eq_iff]
  constructor
  · rintro ((h | ⟨hs, h⟩) | ⟨⟨hs, ho⟩, h⟩)
    · exact .space h
    · exact .owner hs h
    · exact .name hs ho h
  · rintro (h | ⟨hs, h⟩ | ⟨hs, ho, h⟩)
    · exact .inl (.inl h)
    · exact .inl (.inr ⟨hs, h⟩)
    · exact .inr ⟨⟨hs, ho⟩, h⟩

theorem ranks_compare : Ranks compare where
  eq_iff _ _ := compare_eq_eq_iff
  swap _ _ := Std.OrientedCmp.eq_swap
  antisymm _ _ h h' := compare_eq_eq_iff.1 (Std.OrientedCmp.isLE_antisymm h h')
  trans _ _ _ := Std.TransCmp.isLE_trans
  total p q := by
    have hswap : compare q p = (compare p q).swap := Std.OrientedCmp.eq_swap
    rw [hswap]
    cases compare p q with
    | lt => exact .inl rfl
    | eq => exact .inl rfl
    | gt => exact .inr rfl

theorem compare_stored (a b : Option String) :
    Ord.compare (stored a) (stored b) = Ord.compare a b := by
  cases a with
  | none => cases b <;> rfl
  | some a =>
    cases b with
    | none => rfl
    | some b => exact Utf8.compare_encode a b

theorem compareStored_eq_compare : compareStored = compare := by
  rw [compare_eq_lex]
  funext p q
  simp only [compareStored, compareLex, compareOn, compare_stored]

theorem dedup_eq_arrange (h : sorted.Perm ps)
    (hs : sorted.Pairwise fun p q => (compare p q).isLE = true) : dedup sorted = arrange ps := by
  apply (ascending_dedup hs).eq_of_mem_iff (ascending_arrange ps)
  intro p
  rw [mem_dedup, mem_arrange, h.mem_iff]

/--
The order of paths goes by namespace, then owner, then name, an absent part first. It is total and
tells any two paths apart, and to compare the stored bytes comes to the same. Whoever sorts paths by
it, in whatever way, and drops equal neighbours is left with the one ascending list of the paths that
are there.
-/
theorem order_canonical :
    (∀ p q, compare p q = .lt ↔ Before p q) ∧ Ranks compare ∧
    (∀ s t : String, Ord.compare (Utf8.encode s.toList) (Utf8.encode t.toList) =
      Ord.compare s t) ∧
    compareStored = compare ∧
    ∀ ps qs : List Path, (∀ p, p ∈ ps ↔ p ∈ qs) →
      Ascending (arrange ps) ∧ (∀ p, p ∈ arrange ps ↔ p ∈ ps) ∧ arrange qs = arrange ps ∧
      ∀ sorted : List Path, sorted.Perm qs →
        (sorted.Pairwise fun p q => (compare p q).isLE = true) → dedup sorted = arrange ps := by
  refine ⟨fun p q => compare_eq_lt_iff, ranks_compare, Utf8.compare_encode,
    compareStored_eq_compare, ?_⟩
  intro ps qs h
  have harrange : arrange qs = arrange ps := arrange_congr fun p => (h p).symm
  refine ⟨ascending_arrange ps, fun p => mem_arrange, harrange, ?_⟩
  intro sorted hperm hs
  rw [dedup_eq_arrange hperm hs, harrange]

theorem order_canonical_wide :
    let ps : List Path := [{ name := some "😀" }, {}, { name := some "\uffff" }, {}]
    let qs : List Path :=
      [{ name := some "😀" }, { name := some "\uffff" }, {}, { name := some "😀" }]
    let sorted : List Path :=
      [{}, { name := some "\uffff" }, { name := some "😀" }, { name := some "😀" }]
    (∀ p, p ∈ ps ↔ p ∈ qs) ∧ sorted.Perm qs ∧
      (sorted.Pairwise fun p q => (compare p q).isLE = true) ∧
      dedup sorted = arrange ps ∧
      arrange ps = [{}, { name := some "\uffff" }, { name := some "😀" }] := by
  intro ps qs sorted
  have hmem : ∀ p, p ∈ ps ↔ p ∈ qs := by
    intro p
    simp [ps, qs]
    tauto
  have hperm : sorted.Perm qs := by decide
  have hs : sorted.Pairwise fun p q => (compare p q).isLE = true := by decide
  obtain ⟨-, -, -, -, harrange⟩ := order_canonical
  have hdedup := (harrange ps qs hmem).2.2.2 sorted hperm hs
  refine ⟨hmem, hperm, hs, hdedup, ?_⟩
  rw [← hdedup]
  decide

end MailboxSearch.Path
