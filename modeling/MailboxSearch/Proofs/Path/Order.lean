import Mathlib.Data.List.Sort
import MailboxSearch.Path.Order

namespace MailboxSearch.Path

theorem compareParts_eq_compare (a b : Option String) : compareParts a b = Ord.compare a b := by
  cases a with
  | none => cases b <;> rfl
  | some a => cases b <;> rfl

theorem compare_eq_lex :
    compare =
      compareLex (compareLex (compareOn Path.space) (compareOn Path.owner))
        (compareOn Path.name) := by
  funext p q
  simp only [compare, compareParts_eq_compare]
  rfl

instance : Std.TransCmp compare := by
  rw [compare_eq_lex]
  infer_instance

theorem compare_eq_eq_iff {p q : Path} : compare p q = .eq ↔ p = q := by
  simp only [compare, compareParts_eq_compare, Ordering.then_eq_eq,
    Std.LawfulEqOrd.compare_eq_iff_eq]
  cases p
  cases q
  simp [and_assoc]

instance : Std.LawfulEqCmp compare where
  eq_of_compare := compare_eq_eq_iff.1

variable {p q : Path} {ps qs : List Path}

theorem compare_self (p : Path) : compare p p = .eq :=
  Std.ReflCmp.compare_self

theorem ne_of_lt (h : compare p q = .lt) : p ≠ q := by
  rintro rfl
  rw [compare_self] at h
  contradiction

theorem lt_or_eq_of_isLE (h : (compare p q).isLE = true) : compare p q = .lt ∨ p = q := by
  cases hc : compare p q with
  | lt => exact .inl rfl
  | eq => exact .inr (compare_eq_eq_iff.1 hc)
  | gt =>
    rw [hc] at h
    contradiction

theorem Ascending.eq_of_mem_iff (hp : Ascending ps) (hq : Ascending qs)
    (h : ∀ p, p ∈ ps ↔ p ∈ qs) : ps = qs := by
  have : Std.Irrefl fun p q => compare p q = .lt := ⟨fun p h => ne_of_lt h rfl⟩
  have : Std.Antisymm fun p q => compare p q = .lt := ⟨fun p q h h' =>
    absurd h' (Std.OrientedCmp.not_lt_of_lt h)⟩
  exact List.Pairwise.eq_of_mem_iff hp hq h

theorem Ascending.nodup (h : Ascending ps) : ps.Nodup :=
  h.imp ne_of_lt

theorem mem_sort : p ∈ sort ps ↔ p ∈ ps :=
  List.mem_mergeSort

theorem pairwise_sort (ps : List Path) :
    (sort ps).Pairwise fun p q => (compare p q).isLE = true := by
  apply List.pairwise_mergeSort
  · intro a b c
    exact Std.TransCmp.isLE_trans
  · intro a b
    cases h : compare a b with
    | lt => rfl
    | eq => rfl
    | gt => rw [Std.OrientedCmp.gt_iff_lt.1 h]; rfl

@[simp] theorem mem_dedup : p ∈ dedup ps ↔ p ∈ ps := by
  fun_induction dedup ps with
  | case1 => rfl
  | case2 q => rfl
  | case3 a qs ih => simpa using ih
  | case4 a q qs h ih => rw [List.mem_cons, List.mem_cons, ih]

theorem ascending_dedup (h : ps.Pairwise fun p q => (compare p q).isLE = true) :
    Ascending (dedup ps) := by
  fun_induction dedup ps with
  | case1 => exact .nil
  | case2 p => exact List.pairwise_singleton _ p
  | case3 p qs ih => exact ih h.of_cons
  | case4 p q qs hne ih =>
    have hq := h.of_cons
    have hle := List.rel_of_pairwise_cons h List.mem_cons_self
    have hpq : compare p q = .lt := (lt_or_eq_of_isLE hle).resolve_right hne
    apply List.pairwise_cons.2 ⟨?_, ih hq⟩
    intro x hx
    cases List.mem_cons.1 (mem_dedup.1 hx) with
    | inl hxq => rwa [hxq]
    | inr hxs => exact Std.TransCmp.lt_of_lt_of_isLE hpq (List.rel_of_pairwise_cons hq hxs)

theorem mem_arrange : p ∈ arrange ps ↔ p ∈ ps := by
  rw [arrange, mem_dedup, mem_sort]

theorem ascending_arrange (ps : List Path) : Ascending (arrange ps) :=
  ascending_dedup (pairwise_sort ps)

theorem arrange_congr (h : ∀ p, p ∈ ps ↔ p ∈ qs) : arrange ps = arrange qs := by
  apply (ascending_arrange ps).eq_of_mem_iff (ascending_arrange qs)
  intro p
  rw [mem_arrange, mem_arrange, h p]

theorem filter_arrange (f : Path → Bool) (ps : List Path) :
    (arrange ps).filter f = arrange (ps.filter f) := by
  apply Ascending.eq_of_mem_iff ((ascending_arrange ps).filter f) (ascending_arrange _)
  intro p
  simp only [List.mem_filter, mem_arrange]

theorem arrange_filter_sublist {f g : Path → Bool} (h : ∀ p, f p = true → g p = true)
    (ps : List Path) : (arrange (ps.filter f)).Sublist (arrange (ps.filter g)) := by
  rw [← filter_arrange, ← filter_arrange]
  exact List.monotone_filter_right _ fun p => Bool.le_iff_imp.2 (h p)

end MailboxSearch.Path
