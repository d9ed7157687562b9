import Mathlib.Data.List.Dedup
import MailboxSearch.Inventory
import MailboxSearch.Proofs.Path.Order
import MailboxSearch.Proofs.Pattern.Scan

namespace MailboxSearch.Inventory

variable {p x : Path} {qs : List Path} {inv : Inventory}

theorem place_cases (p : Path) (h : Path.Ascending qs) :
    (p ∈ qs ∧ place p qs = (false, qs)) ∨
      ∃ before after, qs = before ++ after ∧ place p qs = (true, before ++ p :: after) ∧
        (∀ q ∈ before, Path.compare q p = .lt) ∧ ∀ q ∈ after, Path.compare p q = .lt := by
  induction qs with
  | nil => exact .inr ⟨[], [], rfl, rfl, List.forall_mem_nil _, List.forall_mem_nil _⟩
  | cons q qs ih =>
    cases hc : Path.compare p q with
    | lt =>
      have hafter : ∀ x ∈ qs, Path.compare p x = .lt := fun x hx =>
        Std.TransCmp.lt_trans hc (List.rel_of_pairwise_cons h hx)
      exact .inr ⟨[], q :: qs, rfl, by simp [place, hc], List.forall_mem_nil _,
        List.forall_mem_cons.2 ⟨hc, hafter⟩⟩
    | eq =>
      rw [Path.compare_eq_eq_iff.1 hc]
      exact .inl ⟨List.mem_cons_self, by simp [place, Path.compare_self]⟩
    | gt =>
      -- `p` comes behind `q`, so it is settled among the others
      rcases ih h.of_cons with ⟨hp, he⟩ | ⟨before, after, rfl, he, hbefore, hafter⟩
      · exact .inl ⟨List.mem_cons_of_mem q hp, by simp [place, hc, he]⟩
      · refine .inr ⟨q :: before, after, rfl, by simp [place, hc, he], ?_, hafter⟩
        exact List.forall_mem_cons.2 ⟨Std.OrientedCmp.gt_iff_lt.1 hc, hbefore⟩

theorem mem_place (h : Path.Ascending qs) : x ∈ (place p qs).2 ↔ x = p ∨ x ∈ qs := by
  rcases place_cases p h with ⟨hp, he⟩ | ⟨before, after, rfl, he, -, -⟩
  · rw [he]
    exact (or_iff_right_of_imp fun hx => hx ▸ hp).symm
  · simp only [he, List.mem_append, List.mem_cons]
    exact or_left_comm

theorem ascending_place (h : Path.Ascending qs) : Path.Ascending (place p qs).2 := by
  rcases place_cases p h with ⟨-, he⟩ | ⟨before, after, rfl, he, hbefore, hafter⟩
  · rwa [he]
  · rw [he]
    obtain ⟨hb, ha, hba⟩ := List.pairwise_append.1 h
    apply List.pairwise_append.2 ⟨hb, List.pairwise_cons.2 ⟨hafter, ha⟩, ?_⟩
    intro x hx
    exact List.forall_mem_cons.2 ⟨hbefore x hx, hba x hx⟩

theorem fst_place_iff (h : Path.Ascending qs) : (place p qs).1 = true ↔ p ∉ qs := by
  rcases place_cases p h with ⟨hp, he⟩ | ⟨before, after, rfl, he, hbefore, hafter⟩
  · simp [he, hp]
  · have hpb : p ∉ before := fun hp => Path.ne_of_lt (hbefore p hp) rfl
    have hpa : p ∉ after := fun hp => Path.ne_of_lt (hafter p hp) rfl
    simp [he, hpb, hpa]

theorem length_place (h : Path.Ascending qs) :
    (place p qs).2.length = qs.length + (place p qs).1.toNat := by
  rcases place_cases p h with ⟨-, he⟩ | ⟨before, after, rfl, he, -, -⟩
  · simp [he]
  · simp [he, Nat.add_assoc]

theorem snd_place_of_not_fst (h : Path.Ascending qs) (hf : (place p qs).1 = false) :
    (place p qs).2 = qs := by
  rcases place_cases p h with ⟨-, he⟩ | ⟨before, after, -, he, -, -⟩
  · rw [he]
  · rw [he] at hf
    contradiction

/-- What an inventory that was given `ps` looks like. -/
structure Holds (inv : Inventory) (ps : List Path) : Prop where
  ascending : Path.Ascending inv.paths
  mem_iff : ∀ p, p ∈ inv.paths ↔ p ∈ ps

theorem holds_nil : Holds {} [] where
  ascending := .nil
  mem_iff _ := Iff.rfl

theorem Holds.eq {inv' : Inventory} {ps ps' : List Path} (h : inv.Holds ps) (h' : inv'.Holds ps')
    (hps : ∀ p, p ∈ ps ↔ p ∈ ps') : inv = inv' := by
  apply congrArg Inventory.mk
  apply h.ascending.eq_of_mem_iff h'.ascending
  intro p
  rw [h.mem_iff, h'.mem_iff, hps p]

theorem Holds.size_eq {ps : List Path} (h : inv.Holds ps) : inv.size = ps.dedup.length := by
  apply List.Perm.length_eq
  apply (List.perm_ext_iff_of_nodup h.ascending.nodup ps.nodup_dedup).2
  intro p
  rw [h.mem_iff, List.mem_dedup]

theorem Holds.fst_insert_iff {ps : List Path} (h : inv.Holds ps) :
    (inv.insert p).1 = true ↔ p ∉ ps := by
  rw [← h.mem_iff]
  exact fst_place_iff h.ascending

theorem Holds.size_insert_iff {ps : List Path} (h : inv.Holds ps) :
    (inv.insert p).1 = true ↔ (inv.insert p).2.size = inv.size + 1 := by
  have hsize : (inv.insert p).2.size = inv.size + (inv.insert p).1.toNat :=
    length_place h.ascending
  rw [hsize]
  cases (inv.insert p).1 <;> simp

theorem Holds.insert_of_not_fst {ps : List Path} (h : inv.Holds ps)
    (hf : (inv.insert p).1 = false) : (inv.insert p).2 = inv :=
  congrArg Inventory.mk (snd_place_of_not_fst h.ascending hf)

theorem Holds.insert {ps : List Path} (h : inv.Holds ps) (p : Path) :
    (inv.insert p).2.Holds (ps ++ [p]) where
  ascending := ascending_place h.ascending
  mem_iff x := by
    change x ∈ (place p inv.paths).2 ↔ _
    rw [mem_place h.ascending, h.mem_iff x, List.mem_append, List.mem_singleton, or_comm]

theorem Holds.insertAll {ps : List Path} (h : inv.Holds ps) (qs : List Path) :
    (inv.insertAll qs).Holds (ps ++ qs) := by
  induction qs generalizing inv ps with
  | nil => rwa [List.append_nil]
  | cons q qs ih =>
    have h' := ih (h.insert q)
    rwa [List.append_assoc, List.singleton_append] at h'

theorem holds_ofList (ps : List Path) : (ofList ps).Holds ps :=
  holds_nil.insertAll ps

inductive Operation
  | clear
  | fill (paths : List Path)
  | insert (path : Path)

def apply (inv : Inventory) : Operation → Inventory
  | .clear => {}
  | .fill ps => ofList ps
  | .insert p => (inv.insert p).2

def run (operations : List Operation) : Inventory :=
  operations.foldl apply {}

def give (ps : List Path) : Operation → List Path
  | .clear => []
  | .fill qs => qs
  | .insert p => ps ++ [p]

def given (operations : List Operation) : List Path :=
  operations.foldl give []

theorem Holds.apply {ps : List Path} (h : inv.Holds ps) (operation : Operation) :
    (inv.apply operation).Holds (give ps operation) := by
  cases operation with
  | clear => exact holds_nil
  | fill qs => exact holds_ofList qs
  | insert p => exact h.insert p

theorem Holds.foldl {ps : List Path} (h : inv.Holds ps) (operations : List Operation) :
    (operations.foldl Inventory.apply inv).Holds (operations.foldl give ps) := by
  induction operations generalizing inv ps with
  | nil => exact h
  | cons operation operations ih => exact ih (h.apply operation)

theorem holds_run (operations : List Operation) : (run operations).Holds (given operations) :=
  holds_nil.foldl operations

theorem outcome_backend (inv : Inventory) (like : Path) :
    (inv.backend like).outcome = .ok (inv.find like) := rfl

theorem find_eq_filter (inv : Inventory) (like : Path) :
    inv.find like =
      inv.paths.filter fun p => (Pattern.like like.nameText).accepts p.nameText := by
  rw [find]
  apply List.filter_congr
  intro p _
  rw [Bool.eq_iff_iff, Bool.and_eq_true, List.isPrefixOf_iff_prefix]
  exact and_iff_right_of_imp Pattern.literalPrefix_prefix_of_accepts

theorem mem_find {like : Path} :
    p ∈ inv.find like ↔ p ∈ inv.paths ∧ (Pattern.like like.nameText).accepts p.nameText = true := by
  rw [find_eq_filter, List.mem_filter]

/--
After any history an inventory holds the paths given since it last started over, each once and in
order, so it depends on nothing but which paths those are. It tells a new path from one that it
holds, and takes the new one only. A look-up, which has no way to change the inventory, finds what
is like the name and nothing less.
-/
theorem run_exact (operations : List Operation) :
    let inv := run operations
    Path.Ascending inv.paths ∧ (∀ p, p ∈ inv.paths ↔ p ∈ given operations) ∧
    (∀ operations', (∀ p, p ∈ given operations' ↔ p ∈ given operations) →
      run operations' = inv) ∧
    inv.size = (given operations).dedup.length ∧
    (∀ p, ((inv.insert p).1 = true ↔ p ∉ given operations) ∧
      ((inv.insert p).1 = true ↔ (inv.insert p).2.size = inv.size + 1) ∧
      ((inv.insert p).1 = false → (inv.insert p).2 = inv)) ∧
    ∀ like, (inv.backend like).outcome =
      .ok (inv.paths.filter fun p => (Pattern.like like.nameText).accepts p.nameText) := by
  intro inv
  have h : inv.Holds (given operations) := holds_run operations
  refine ⟨h.ascending, h.mem_iff, ?_, h.size_eq, ?_, ?_⟩
  · intro operations' hgiven
    exact (holds_run operations').eq h hgiven
  · intro p
    exact ⟨h.fst_insert_iff, h.size_insert_iff, h.insert_of_not_fst⟩
  · intro like
    rw [outcome_backend, find_eq_filter]

theorem run_exact_unnamed :
    let operations : List Operation :=
      [.insert { name := some "b" }, .fill [{ name := some "" }, {}], .insert { name := some "" }]
    let operations' : List Operation := [.insert {}, .insert { name := some "" }, .insert {}]
    let inv := run operations
    (∀ p, p ∈ given operations' ↔ p ∈ given operations) ∧ run operations' = inv ∧
      inv.size = 2 ∧ (inv.insert {}).1 = false ∧ (inv.insert {}).2 = inv ∧
      (inv.backend { name := some "%" }).outcome = .ok [{}, { name := some "" }] := by
  intro operations operations' inv
  have hgiven : ∀ p, p ∈ given operations' ↔ p ∈ given operations := by
    intro p
    simp [operations, operations', given, give]
    tauto
  have hnot : (inv.insert {}).1 = false := by decide
  obtain ⟨-, -, hrun, hsize, hinsert, hfind⟩ := run_exact operations
  refine ⟨hgiven, hrun operations' hgiven, hsize.trans (by decide), hnot, (hinsert {}).2.2 hnot, ?_⟩
  rw [hfind]
  decide +kernel

end MailboxSearch.Inventory
