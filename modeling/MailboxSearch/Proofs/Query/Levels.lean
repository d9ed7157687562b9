import MailboxSearch.Proofs.Listing

namespace MailboxSearch

namespace Pattern

def level (d : Char) : Nat → List Char
  | 0 => [localWildcard]
  | k + 1 => localWildcard :: d :: level d k

variable {d : Char} {text : List Char} {k : Nat}

theorem mem_spelled_localWildcard :
    text ∈ spelled d [localWildcard] ↔ d ∉ text := by
  rw [spelled_cons, spelled_nil, mul_one]
  exact Iff.rfl

theorem mem_spelled_everything : text ∈ spelled d Builder.everything.toList := by
  change text ∈ spelled d [freeWildcard]
  rw [spelled_cons, spelled_nil, mul_one]
  trivial

theorem mem_spelled_level (hd : isWildcard d = false) :
    text ∈ spelled d (level d k) ↔ text.count d = k := by
  induction k generalizing text with
  | zero => rw [level, mem_spelled_localWildcard, List.count_eq_zero]
  | succ k ih =>
    rw [level, ← List.singleton_append, mem_spelled_append_cons hd]
    simp only [mem_spelled_localWildcard, ih]
    constructor
    · rintro ⟨x, hx, rest, hr, rfl⟩
      rw [List.count_append, List.count_cons_self, List.count_eq_zero.2 hx, hr, Nat.zero_add]
    · intro hc
      -- the first delimiter ends the first level
      have hmem : d ∈ text := List.count_pos_iff.1 (hc ▸ Nat.succ_pos k)
      obtain ⟨x, rest, rfl, hx⟩ := List.eq_append_cons_of_mem hmem
      rw [List.count_append, List.count_cons_self, List.count_eq_zero.2 hx] at hc
      exact ⟨x, hx, rest, by omega, rfl⟩

end Pattern

namespace Query

def asking (q : Query) (expression : String) : Query :=
  { q with expression := some expression }

def deep (q : Query) : Query :=
  q.asking Builder.everything

def shallow (q : Query) (k : Nat) : Query :=
  q.asking (String.ofList (Pattern.level q.delimiter k))

/-- The number of delimiters in a name relative to the base. -/
def depth? (q : Query) (p : Path) : Option Nat :=
  (q.deep.relativeName p.nameText).map fun name => name.toList.count q.delimiter

variable {q : Query} {p : Path} {k : Nat}

theorem leads_cons_wildcard {d c : Char} {text : List Char} (hd : Pattern.isWildcard d = false)
    (hc : Pattern.isWildcard c = true) : leads d (c :: text) = false := by
  have hne : c ≠ d := by
    rintro rfl
    exact Bool.false_ne_true (hd.symm.trans hc)
  simpa [leads] using hne

theorem stem_asking_congr {e e' : String}
    (hl : leads q.delimiter e.toList = leads q.delimiter e'.toList)
    (hn : e.toList.isEmpty = e'.toList.isEmpty) : (q.asking e).stem = (q.asking e').stem := by
  simp only [stem, asking, baseName, expressionText, Option.getD_some, hl, hn]
  rfl

theorem isPathMatch_asking_iff {e : String} :
    (q.asking e).isPathMatch p = true ↔
      q.inScope p = true ∧
        ∃ rest ∈ Pattern.spelled q.delimiter e.toList,
          p.nameText.toList = (q.asking e).stem ++ rest :=
  isPathMatch_iff_of_isSome rfl

theorem isPathMatch_deep_iff :
    q.deep.isPathMatch p = true ↔
      q.inScope p = true ∧ ∃ rest, p.nameText.toList = q.deep.stem ++ rest := by
  rw [deep, isPathMatch_asking_iff]
  simp only [Pattern.mem_spelled_everything, true_and]

theorem depth?_eq_some_iff :
    q.depth? p = some k ↔
      ∃ rest, p.nameText.toList = q.deep.stem ++ rest ∧ rest.count q.delimiter = k := by
  rw [depth?, Option.map_eq_some_iff]
  constructor
  · rintro ⟨rest, hr, hk⟩
    exact ⟨rest.toList, relativeName_eq_some_iff.1 hr, hk⟩
  · rintro ⟨rest, hr, hk⟩
    rw [← String.toList_ofList (l := rest)] at hr hk
    exact ⟨String.ofList rest, relativeName_eq_some_iff.2 hr, hk⟩

section Shallow

variable (hd : Pattern.isWildcard q.delimiter = false)

include hd

theorem stem_shallow (k : Nat) : (q.shallow k).stem = q.deep.stem := by
  -- both expressions begin with a wildcard, which is no delimiter
  apply stem_asking_congr
  · rw [Builder.everything, String.toList_ofList, String.toList_ofList,
      leads_cons_wildcard hd rfl]
    cases k <;> exact leads_cons_wildcard hd rfl
  · rw [Builder.everything, String.toList_ofList, String.toList_ofList]
    cases k <;> rfl

theorem isPathMatch_shallow_iff :
    (q.shallow k).isPathMatch p = true ↔ q.deep.isPathMatch p = true ∧ q.depth? p = some k := by
  rw [isPathMatch_deep_iff, depth?_eq_some_iff, shallow, isPathMatch_asking_iff, ← shallow,
    stem_shallow hd, String.toList_ofList]
  simp only [Pattern.mem_spelled_level hd]
  constructor
  · rintro ⟨hscope, rest, hk, hn⟩
    exact ⟨⟨hscope, rest, hn⟩, rest, hn, hk⟩
  · rintro ⟨⟨hscope, -⟩, rest, hn, hk⟩
    exact ⟨hscope, rest, hk, hn⟩

/--
What is found below a base at any depth is what is found at one depth after the other, and each
mailbox at just one: at the number of delimiters in its name relative to the base.
-/
theorem list_levels (stored : List Path) :
    ∃ (found : List Path) (foundAt : Nat → List Path),
      (q.deep.list (Inventory.ofList stored).backend).outcome = .ok found ∧
      (∀ k, ((q.shallow k).list (Inventory.ofList stored).backend).outcome = .ok (foundAt k)) ∧
      (∀ p, p ∈ found ↔ ∃ k, p ∈ foundAt k) ∧
      (∀ j k, j ≠ k → (foundAt j).Disjoint (foundAt k)) ∧
      ∀ k, foundAt k = found.filter fun p => q.depth? p = some k := by
  refine ⟨_, _, outcome_list_ofList _ _, fun k => outcome_list_ofList _ _, ?_, ?_, ?_⟩
  · intro p
    simp only [Path.mem_arrange, List.mem_filter, isPathMatch_shallow_iff hd]
    constructor
    · rintro ⟨hp, hm⟩
      obtain ⟨-, rest, hn⟩ := isPathMatch_deep_iff.1 hm
      exact ⟨_, hp, hm, depth?_eq_some_iff.2 ⟨rest, hn, rfl⟩⟩
    · rintro ⟨k, hp, hm, -⟩
      exact ⟨hp, hm⟩
  · intro j k hjk p hj hk
    simp only [Path.mem_arrange, List.mem_filter, isPathMatch_shallow_iff hd] at hj hk
    exact hjk (Option.some_inj.1 (hj.2.2.symm.trans hk.2.2))
  · intro k
    rw [Path.filter_arrange, List.filter_filter]
    congr 2
    funext p
    rw [Bool.eq_iff_iff, isPathMatch_shallow_iff hd, Bool.and_eq_true, decide_eq_true_eq, and_comm]

end Shallow

theorem list_levels_nested :
    let q : Query := { base := { name := some "a" }, expression := none, delimiter := '.' }
    let p : Path := { name := some "a.b.c" }
    Pattern.isWildcard q.delimiter = false ∧ q.depth? p = some 1 ∧
      ∃ (found : List Path) (foundAt : Nat → List Path),
        (q.deep.list (Inventory.ofList [p, {}, p]).backend).outcome = .ok found ∧
        (∀ k, ((q.shallow k).list (Inventory.ofList [p, {}, p]).backend).outcome =
          .ok (foundAt k)) ∧
        (∀ p, p ∈ found ↔ ∃ k, p ∈ foundAt k) ∧
        (∀ j k, j ≠ k → (foundAt j).Disjoint (foundAt k)) ∧
        ∀ k, foundAt k = found.filter fun p => q.depth? p = some k := by
  intro q p
  have hd : Pattern.isWildcard q.delimiter = false := by decide
  exact ⟨hd, by decide +kernel, list_levels hd [p, {}, p]⟩

end Query

end MailboxSearch
