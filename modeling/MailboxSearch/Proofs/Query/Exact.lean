import MailboxSearch.Proofs.Pattern.Start
import MailboxSearch.Proofs.Query.Joint

namespace MailboxSearch.Query

def names (q : Query) (space owner : Option String) : Set String :=
  {name | q.isPathMatch { space, owner, name := some name } = true}

variable {q : Query} {p : Path} {space owner : Option String} {e name : String}

theorem isWild_eq (he : q.expression = some e) : q.isWild = Pattern.isWild e := by
  rw [isWild, he, Option.any_some]

theorem not_isWildcard_of_mem_expressionText (h : q.isWild = false) :
    ∀ c ∈ q.expressionText, Pattern.isWildcard c = false := by
  cases he : q.expression with
  | none => simp [expressionText, he]
  | some e =>
    rw [expressionText_eq he]
    exact Pattern.not_isWildcard_of_not_isWild ((isWild_eq he).symm.trans h)

theorem isPathMatch_iff_eq_combinedName (he : q.expression.isSome = true) (h : q.isWild = false) :
    q.isPathMatch p = true ↔ q.inScope p = true ∧ p.nameText = q.combinedName := by
  rw [isPathMatch_iff_of_isSome he, ← String.toList_inj, toList_combinedName]
  simp only [Pattern.mem_spelled_iff_eq (not_isWildcard_of_mem_expressionText h), exists_eq_left]

theorem names_eq_image (he : q.expression = some e) (hscope : q.inScope { space, owner } = true) :
    q.names space owner =
      (String.ofList q.stem ++ ·) '' (Pattern.compile e q.delimiter).names := by
  ext name
  have hmatch : name ∈ q.names space owner ↔ _ := isPathMatch_iff_of_isSome (by rw [he]; rfl)
  have hscope' : q.inScope { space, owner, name := some name } = true := hscope
  rw [hmatch, and_iff_right hscope', expressionText_eq he, Set.mem_image]
  simp only [Pattern.mem_names, Pattern.language_compile]
  constructor
  · rintro ⟨rest, hr, hn⟩
    refine ⟨String.ofList rest, by rwa [String.toList_ofList], ?_⟩
    rw [← String.ofList_append, ← hn]
    exact String.ofList_toList
  · rintro ⟨rest, hr, rfl⟩
    refine ⟨rest.toList, hr, ?_⟩
    rw [Path.nameText, Option.getD_some, String.toList_append, String.toList_ofList]

theorem nontrivial_names_of_isWild (he : q.expression.isSome = true) (h : q.isWild = true)
    (hscope : q.inScope { space, owner } = true) : (q.names space owner).Nontrivial := by
  obtain ⟨e, he⟩ := Option.isSome_iff_exists.1 he
  rw [isWild_eq he] at h
  rw [names_eq_image he hscope]
  apply Set.Nontrivial.image
  · exact Pattern.nontrivial_names (Pattern.language_compile e q.delimiter).ge h
  · exact fun x y hxy => (String.append_right_inj _).1 hxy

/--
A query whose expression has no wildcards asks for the combined name and no other. One with a
wildcard asks for more than one name, in every namespace and of every owner that are in its scope.
-/
theorem isPathMatch_exact (he : q.expression.isSome = true) :
    (q.isWild = false →
      ∀ p, q.isPathMatch p = true ↔ q.inScope p = true ∧ p.nameText = q.combinedName) ∧
    (q.isWild = true →
      ∀ space owner, q.inScope { space, owner } = true → (q.names space owner).Nontrivial) := by
  constructor
  · intro h p
    exact isPathMatch_iff_eq_combinedName he h
  · intro h space owner
    exact nontrivial_names_of_isWild he h

theorem isPathMatch_exact_percent :
    let q : Query := { base := { name := some "a*" }, expression := some "b", delimiter := '%' }
    let r : Query := { base := { name := some "a*" }, expression := some "%b", delimiter := '%' }
    (q.expression.isSome = true ∧ q.isWild = false ∧ q.combinedName = "a*%b" ∧
      r.expression.isSome = true ∧ r.isWild = true ∧ r.inScope { owner := some "al" } = true) ∧
    (∀ p, q.isPathMatch p = true ↔ q.inScope p = true ∧ p.nameText = q.combinedName) ∧
    (r.names none (some "al")).Nontrivial := by
  intro q r
  have hq : q.isWild = false := by decide
  have hr : r.isWild = true := by decide
  have hscope : r.inScope { owner := some "al" } = true := by decide
  exact ⟨⟨rfl, hq, by decide, rfl, hr, hscope⟩, (isPathMatch_exact rfl).1 hq,
    (isPathMatch_exact rfl).2 hr none (some "al") hscope⟩

end MailboxSearch.Query
