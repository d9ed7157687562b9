import MailboxSearch.Proofs.Inventory
import MailboxSearch.Proofs.Query.Prefilter

namespace MailboxSearch

namespace Backend

/-- What a backend may answer: no path that it does not store, and all that are like the name. -/
structure MayAnswer (stored : List Path) (like : Path) (answer : List Path) : Prop where
  stored_of_mem : ∀ p ∈ answer, p ∈ stored
  mem_of_like : ∀ p ∈ stored,
    (Pattern.like like.nameText).accepts p.nameText = true → p ∈ answer

variable {stored answer : List Path} {like : Path}

theorem mayAnswer_of_all (h : ∀ p, p ∈ answer ↔ p ∈ stored) :
    MayAnswer stored like answer where
  stored_of_mem p := (h p).1
  mem_of_like p hp _ := (h p).2 hp

theorem mayAnswer_of_starting
    (h : ∀ p, p ∈ answer ↔
      p ∈ stored ∧ (Pattern.literalPrefix like.nameText).toList <+: p.nameText.toList) :
    MayAnswer stored like answer where
  stored_of_mem p hp := ((h p).1 hp).1
  mem_of_like p hp hl := (h p).2 ⟨hp, Pattern.literalPrefix_prefix_of_accepts hl⟩

theorem mayAnswer_find (stored : List Path) (like : Path) :
    MayAnswer stored like ((Inventory.ofList stored).find like) where
  stored_of_mem p hp :=
    ((Inventory.holds_ofList stored).mem_iff p).1 (Inventory.mem_find.1 hp).1
  mem_of_like p hp hl :=
    Inventory.mem_find.2 ⟨((Inventory.holds_ofList stored).mem_iff p).2 hp, hl⟩

end Backend

namespace Query

variable {q : Query} {p : Path} {backend : Backend} {stored answer answer' : List Path}

theorem outcome_list (q : Query) (backend : Backend) :
    (q.list backend).outcome =
      (backend q.pathLike).outcome.map fun answer =>
        Path.arrange (answer.filter q.isPathMatch) := by
  rw [list, Logged.outcome_bind]
  cases (backend q.pathLike).outcome <;> rfl

theorem outcome_list_of_ok (h : (backend q.pathLike).outcome = .ok answer) :
    (q.list backend).outcome = .ok (Path.arrange (answer.filter q.isPathMatch)) := by
  rw [outcome_list, h]
  rfl

theorem mem_found :
    p ∈ Path.arrange (answer.filter q.isPathMatch) ↔ p ∈ answer ∧ q.isPathMatch p = true := by
  rw [Path.mem_arrange, List.mem_filter]

theorem found_congr (h : ∀ p, q.isPathMatch p = true → (p ∈ answer ↔ p ∈ answer')) :
    Path.arrange (answer.filter q.isPathMatch) = Path.arrange (answer'.filter q.isPathMatch) := by
  apply Path.arrange_congr
  intro p
  rw [List.mem_filter, List.mem_filter]
  exact and_congr_left (h p)

theorem mem_answer_iff (h : Backend.MayAnswer stored q.pathLike answer)
    (hp : q.isPathMatch p = true) : p ∈ answer ↔ p ∈ stored := by
  constructor
  · exact h.stored_of_mem p
  · intro hs
    exact h.mem_of_like p hs (accepts_like_pathLike hp)

theorem found_eq_of_mayAnswer (h : Backend.MayAnswer stored q.pathLike answer)
    (h' : Backend.MayAnswer stored q.pathLike answer') :
    Path.arrange (answer.filter q.isPathMatch) = Path.arrange (answer'.filter q.isPathMatch) :=
  found_congr fun _ hp => (mem_answer_iff h hp).trans (mem_answer_iff h' hp).symm

theorem outcome_list_of_mayAnswer (ho : (backend q.pathLike).outcome = .ok answer)
    (h : Backend.MayAnswer stored q.pathLike answer) :
    (q.list backend).outcome = (q.list (Inventory.ofList stored).backend).outcome := by
  rw [outcome_list_of_ok ho, outcome_list_of_ok (Inventory.outcome_backend _ _),
    found_eq_of_mayAnswer h (Backend.mayAnswer_find stored q.pathLike)]

theorem found_ofList (q : Query) (stored : List Path) :
    Path.arrange (((Inventory.ofList stored).find q.pathLike).filter q.isPathMatch) =
      Path.arrange (stored.filter q.isPathMatch) :=
  found_eq_of_mayAnswer (Backend.mayAnswer_find stored _)
    (Backend.mayAnswer_of_all fun _ => Iff.rfl)

theorem outcome_list_ofList (q : Query) (stored : List Path) :
    (q.list (Inventory.ofList stored).backend).outcome =
      .ok (Path.arrange (stored.filter q.isPathMatch)) := by
  rw [outcome_list_of_ok (Inventory.outcome_backend _ _), found_ofList]

theorem records_list_ofList (q : Query) (stored : List Path) :
    (q.list (Inventory.ofList stored).backend).records =
      [Inventory.answered q.pathLike ((Inventory.ofList stored).find q.pathLike).length
          (Inventory.ofList stored).size,
        q.searched ((Inventory.ofList stored).find q.pathLike).length
          (Path.arrange (stored.filter q.isPathMatch)).length] := by
  rw [← found_ofList]
  rfl

theorem outcome_list_congr {q' : Query} (hlike : q.pathLike = q'.pathLike)
    (hmatch : ∀ p, q.isPathMatch p = q'.isPathMatch p) (backend : Backend) :
    (q.list backend).outcome = (q'.list backend).outcome := by
  rw [outcome_list, outcome_list, hlike, funext hmatch]

theorem forall_mem_found_iff {P : Path → Prop} :
    (∀ (backend : Backend) found, (q.list backend).outcome = .ok found → ∀ p ∈ found, P p) ↔
      ∀ p, q.isPathMatch p = true → P p := by
  constructor
  · intro h p hp
    -- a backend that has nothing but `p`
    have ho : (q.list fun _ => pure [p]).outcome = _ := outcome_list_of_ok rfl
    exact h _ _ ho p (mem_found.2 ⟨List.mem_singleton_self p, hp⟩)
  · intro h backend found ho p hp
    cases hb : (backend q.pathLike).outcome with
    | error e =>
      rw [outcome_list, hb] at ho
      contradiction
    | ok answer =>
      rw [outcome_list_of_ok hb] at ho
      cases ho
      exact h p (mem_found.1 hp).2

/--
A search in an inventory always succeeds. Whatever the inventory went through, it finds, each once
and in order, the paths given since it last started over that the query asks for.
-/
theorem list_run (operations : List Inventory.Operation) (q : Query) :
    ∃ found, (q.list (Inventory.run operations).backend).outcome = .ok found ∧
      Path.Ascending found ∧
      ∀ p, p ∈ found ↔ p ∈ Inventory.given operations ∧ q.isPathMatch p = true := by
  refine ⟨_, outcome_list_of_ok (Inventory.outcome_backend _ _), Path.ascending_arrange _, ?_⟩
  intro p
  rw [mem_found]
  apply and_congr_left
  intro hp
  rw [Inventory.mem_find, (Inventory.holds_run operations).mem_iff]
  exact and_iff_left (accepts_like_pathLike hp)

/--
A search depends on its backend for nothing but the stored paths that match. Any answer that covers
what is like the requested name serves as well as an inventory does, so a look-up by the literal
prefix will do, and so will no look-up at all. Of any answer whatever the matching candidates are
found, each once and in order, and a failure is passed on.
-/
theorem list_of_backend (q : Query) (backend : Backend) :
    (∀ stored answer, (backend q.pathLike).outcome = .ok answer →
      Backend.MayAnswer stored q.pathLike answer →
      (q.list backend).outcome = (q.list (Inventory.ofList stored).backend).outcome) ∧
    (∀ stored answer, (backend q.pathLike).outcome = .ok answer →
      ((∀ p, p ∈ answer ↔ p ∈ stored) ∨
        ∀ p, p ∈ answer ↔
          p ∈ stored ∧
            (Pattern.literalPrefix q.pathLike.nameText).toList <+: p.nameText.toList) →
      (q.list backend).outcome = (q.list (Inventory.ofList stored).backend).outcome) ∧
    (∀ answer, (backend q.pathLike).outcome = .ok answer →
      ∃ found, (q.list backend).outcome = .ok found ∧ Path.Ascending found ∧
        (∀ p, p ∈ found ↔ p ∈ answer ∧ q.isPathMatch p = true) ∧
        ∀ (other : Backend) answer', (other q.pathLike).outcome = .ok answer' →
          (∀ p, q.isPathMatch p = true → (p ∈ answer ↔ p ∈ answer')) →
            (q.list other).outcome = .ok found) ∧
    (∀ e, (backend q.pathLike).outcome = .error e → (q.list backend).outcome = .error e) := by
  refine ⟨?_, ?_, ?_, ?_⟩
  · intro stored answer ho h
    exact outcome_list_of_mayAnswer ho h
  · intro stored answer ho h
    cases h with
    | inl hall => exact outcome_list_of_mayAnswer ho (Backend.mayAnswer_of_all hall)
    | inr hstart => exact outcome_list_of_mayAnswer ho (Backend.mayAnswer_of_starting hstart)
  · intro answer ho
    refine ⟨_, outcome_list_of_ok ho, Path.ascending_arrange _, fun p => mem_found, ?_⟩
    intro other answer' ho' h
    rw [outcome_list_of_ok ho', found_congr h]
  · intro e he
    rw [outcome_list, he]
    rfl

theorem list_of_backend_shuffled :
    let q : Query := { base := { name := some "a" }, expression := some "*", delimiter := '.' }
    let stored : List Path :=
      [{ name := some "a.b" }, { name := some "b" }, { name := some "a.a" }, {}]
    let answer : List Path :=
      [{ name := some "a.b" }, { name := some "a.a" }, {}, { name := some "a.b" }]
    Backend.MayAnswer stored q.pathLike answer ∧
      (q.list fun _ => pure answer).outcome = (q.list (Inventory.ofList stored).backend).outcome ∧
      (q.list fun _ => pure stored).outcome = (q.list (Inventory.ofList stored).backend).outcome ∧
      (q.list fun _ => pure answer).outcome = (q.list fun _ => pure answer.reverse).outcome ∧
      (q.list fun _ => Logged.ofExcept (.error .toml)).outcome = .error .toml := by
  intro q stored answer
  have h : Backend.MayAnswer stored q.pathLike answer := ⟨by decide +kernel, by decide +kernel⟩
  refine ⟨h, ?_, ?_, ?_, ?_⟩
  · exact (list_of_backend q _).1 stored answer rfl h
  · exact (list_of_backend q _).2.1 stored stored rfl (.inl fun _ => Iff.rfl)
  · have hfound := (list_of_backend q fun _ => pure answer).2.2.1 answer rfl
    obtain ⟨found, ho, -, -, hother⟩ := hfound
    rw [ho, hother (fun _ => pure answer.reverse) answer.reverse rfl]
    intro p _
    exact List.mem_reverse.symm
  · exact (list_of_backend q _).2.2.2 .toml rfl

end Query

end MailboxSearch
