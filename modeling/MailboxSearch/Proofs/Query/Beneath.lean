import MailboxSearch.Proofs.Listing

namespace MailboxSearch.Query

def root (q : Query) : List Char :=
  if trails q.delimiter q.baseName then q.baseName.dropLast else q.baseName

def branch (q : Query) : List Char :=
  if leads q.delimiter q.expressionText then q.expressionText.drop 1 else q.expressionText

/-- Whether the delimiter that the expression starts with is a wildcard to its pattern. -/
def wildJoint (q : Query) : Bool :=
  Pattern.isWildcard q.delimiter && leads q.delimiter q.expressionText

def Beneath (q : Query) (p : Path) : Prop :=
  q.root ++ [q.delimiter] <+: p.nameText.toList

instance (q : Query) (p : Path) : Decidable (q.Beneath p) :=
  inferInstanceAs (Decidable (_ <+: _))

def named (q : Query) (name : List Char) : Path :=
  { q.base with name := some (String.ofList name) }

variable {q : Query} {p : Path}

theorem baseName_of_trails (h : trails q.delimiter q.baseName = true) :
    q.baseName = q.root ++ [q.delimiter] := by
  obtain ⟨front, hf⟩ := trails_iff.1 h
  rw [root, if_pos h, hf, List.dropLast_concat]

theorem root_of_not_trails (h : trails q.delimiter q.baseName = false) : q.root = q.baseName := by
  simp [root, h]

theorem expressionText_of_leads (h : leads q.delimiter q.expressionText = true) :
    q.expressionText = q.delimiter :: q.branch := by
  obtain ⟨back, hk⟩ := leads_iff.1 h
  rw [branch, if_pos h, hk, List.drop_one, List.tail_cons]

theorem branch_of_not_leads (h : leads q.delimiter q.expressionText = false) :
    q.branch = q.expressionText := by
  simp [branch, h]

theorem stem_of_leads (hb : q.baseName ≠ []) (h : leads q.delimiter q.expressionText = true) :
    q.stem = q.root := by
  rw [stem, if_neg (by simpa using hb), h]
  cases ht : trails q.delimiter q.baseName with
  | true => rw [baseName_of_trails ht, List.dropLast_concat]
  | false => rw [root_of_not_trails ht]

theorem stem_of_not_leads (hb : q.baseName ≠ []) (he : q.expressionText ≠ [])
    (h : leads q.delimiter q.expressionText = false) : q.stem = q.root ++ [q.delimiter] := by
  rw [stem, if_neg (by simpa using hb), h]
  cases ht : trails q.delimiter q.baseName with
  | true => exact baseName_of_trails ht
  | false => simp [he, root_of_not_trails ht]

theorem toList_combinedName_eq_root (hb : q.baseName ≠ []) (he : q.expressionText ≠ []) :
    q.combinedName.toList = q.root ++ q.delimiter :: q.branch := by
  rw [toList_combinedName]
  cases h : leads q.delimiter q.expressionText with
  | true => rw [stem_of_leads hb h, expressionText_of_leads h]
  | false =>
    rw [stem_of_not_leads hb he h, branch_of_not_leads h, List.append_assoc, List.singleton_append]

/--
What is joined to the expression in front is what is stripped off a name, and a base name and an
expression that are both there meet at one delimiter.
-/
theorem exists_stem_combinedName (q : Query) :
    (∃ front : String, q.combinedName = front ++ q.expression.getD "" ∧
      ∀ name rest : String, q.relativeName name = some rest ↔ name = front ++ rest) ∧
    (q.baseName ≠ [] → q.expressionText ≠ [] →
      q.combinedName.toList = q.root ++ q.delimiter :: q.branch) := by
  refine ⟨⟨String.ofList q.stem, ?_, ?_⟩, toList_combinedName_eq_root⟩
  · apply String.toList_injective
    rw [toList_combinedName, String.toList_append, String.toList_ofList, expressionText]
  · intro name rest
    rw [relativeName_eq_some_iff, ← String.toList_inj, String.toList_append, String.toList_ofList]

theorem exists_stem_combinedName_delimiters :
    let q : Query := { base := { name := some "→→" }, expression := some "→", delimiter := '→' }
    q.baseName ≠ [] ∧ q.expressionText ≠ [] ∧
      q.combinedName.toList = q.root ++ '→' :: q.branch ∧ q.combinedName = "→→" ∧
      ∃ front : String, q.combinedName = front ++ "→" ∧
        ∀ name rest : String, q.relativeName name = some rest ↔ name = front ++ rest := by
  intro q
  have hb : q.baseName ≠ [] := by decide
  have he : q.expressionText ≠ [] := by decide
  have h := exists_stem_combinedName q
  exact ⟨hb, he, h.2 hb he, by decide, h.1⟩

theorem isPathMatch_iff_root (hb : q.baseName ≠ []) (he : q.expressionText ≠ [])
    (hw : q.wildJoint = false) :
    q.isPathMatch p = true ↔
      q.inScope p = true ∧
        ∃ rest ∈ Pattern.spelled q.delimiter q.branch,
          p.nameText.toList = q.root ++ q.delimiter :: rest := by
  rw [isPathMatch_iff_of_isSome (isSome_expression he)]
  apply and_congr_right
  intro _
  cases h : leads q.delimiter q.expressionText with
  | true =>
    -- the delimiter is no wildcard, so the pattern insists on it
    have hd : Pattern.isWildcard q.delimiter = false := by simpa [wildJoint, h] using hw
    rw [stem_of_leads hb h, expressionText_of_leads h]
    simp only [Pattern.mem_spelled_cons_literal hd]
    constructor
    · rintro ⟨_, ⟨rest, hr, rfl⟩, hn⟩
      exact ⟨rest, hr, hn⟩
    · rintro ⟨rest, hr, hn⟩
      exact ⟨_, ⟨rest, hr, rfl⟩, hn⟩
  | false =>
    simp only [stem_of_not_leads hb he h, branch_of_not_leads h, List.append_assoc,
      List.singleton_append]

theorem beneath_of_isPathMatch (hb : q.baseName ≠ []) (he : q.expressionText ≠ [])
    (hw : q.wildJoint = false) (hp : q.isPathMatch p = true) : q.Beneath p := by
  obtain ⟨-, rest, -, hn⟩ := (isPathMatch_iff_root hb he hw).1 hp
  exact ⟨rest, by rw [hn, List.append_assoc, List.singleton_append]⟩

theorem toList_nameText_named (q : Query) (name : List Char) :
    (q.named name).nameText.toList = name :=
  String.toList_ofList

theorem inScope_named (q : Query) (name : List Char) : q.inScope (q.named name) = true := by
  cases h : q.base.owner <;> simp [inScope, named, h]

theorem exists_isPathMatch_not_beneath (hb : q.baseName ≠ []) (he : q.expressionText ≠ [])
    (hw : q.wildJoint = true) : ∃ p, q.isPathMatch p = true ∧ ¬ q.Beneath p := by
  obtain ⟨hd, hl⟩ := Bool.and_eq_true_iff.1 hw
  have hx : 'x' ≠ q.delimiter := by
    intro h
    rw [← h] at hd
    contradiction
  have hrun := Element.singleton_mem_language ((Pattern.isRun_ofChar _).trans hd) hx
  obtain ⟨text, htext⟩ := Pattern.exists_mem_spelled q.delimiter q.branch
  -- the wildcard takes the `x`, and the branch what comes after it
  have hs : 'x' :: text ∈ Pattern.spelled q.delimiter q.expressionText := by
    rw [expressionText_of_leads hl, Pattern.spelled_cons]
    exact Language.append_mem_mul hrun htext
  refine ⟨q.named (q.root ++ 'x' :: text), ?_, ?_⟩
  · rw [isPathMatch_iff_of_isSome (isSome_expression he), stem_of_leads hb hl]
    exact ⟨inScope_named q _, _, hs, toList_nameText_named q _⟩
  · rw [Beneath, toList_nameText_named, List.prefix_append_right_inj, List.cons_prefix_cons]
    exact fun h => hx h.1.symm

/--
A query with a base name and an expression finds nothing that is not beneath its root, over any
backend, unless its expression starts with a delimiter that is a wildcard; then it asks for more.
-/
theorem beneath_iff_wildJoint (hb : q.baseName ≠ []) (he : q.expressionText ≠ []) :
    ((∀ p, q.isPathMatch p = true → q.Beneath p) ↔ q.wildJoint = false) ∧
      ((∀ (backend : Backend) found, (q.list backend).outcome = .ok found →
        ∀ p ∈ found, q.Beneath p) ↔ q.wildJoint = false) := by
  have h : (∀ p, q.isPathMatch p = true → q.Beneath p) ↔ q.wildJoint = false := by
    constructor
    · intro hall
      apply Bool.eq_false_of_not_eq_true
      intro hw
      obtain ⟨p, hp, hbeside⟩ := exists_isPathMatch_not_beneath hb he hw
      exact hbeside (hall p hp)
    · intro hw p
      exact beneath_of_isPathMatch hb he hw
  exact ⟨h, forall_mem_found_iff.trans h⟩

theorem beneath_iff_wildJoint_dotted :
    let q : Query := { base := { name := some "a*." }, expression := some ".%", delimiter := '.' }
    let p : Path := { name := some "a*.b" }
    q.baseName ≠ [] ∧ q.expressionText ≠ [] ∧ q.wildJoint = false ∧
      q.isPathMatch p = true ∧ q.Beneath p ∧
      ∀ (backend : Backend) found, (q.list backend).outcome = .ok found →
        ∀ p ∈ found, q.Beneath p := by
  intro q p
  have hb : q.baseName ≠ [] := by decide
  have he : q.expressionText ≠ [] := by decide
  have hw : q.wildJoint = false := by decide
  have hp : q.isPathMatch p = true := by decide +kernel
  have h := beneath_iff_wildJoint hb he
  exact ⟨hb, he, hw, hp, h.1.2 hw p hp, h.2.2 hw⟩

/-- With `%` for the delimiter, what `%s` asks for beneath `n` includes a neighbour of `n`. -/
theorem not_beneath_neighbour :
    ¬ ∀ (q : Query) (p : Path), q.baseName ≠ [] → q.expressionText ≠ [] →
      q.isPathMatch p = true → q.Beneath p := by
  intro h
  let q : Query := { base := { name := some "n" }, expression := some "%s", delimiter := '%' }
  have hb : q.Beneath { name := some "nxs" } :=
    h q _ (by decide) (by decide) (by decide +kernel)
  exact absurd hb (by decide)

/--
Whether a name lies at the base of a query and is there what the expression stands for. If either
side of the joint is empty, the name is what the other stands for.
-/
def LiesAtBase (q : Query) (name : List Char) : Prop :=
  q.expression.isSome = true ∧
    if q.baseName = [] then name ∈ Pattern.spelled q.delimiter q.expressionText
    else if q.expressionText = [] then name = q.baseName
    else ∃ rest ∈ Pattern.spelled q.delimiter q.branch, name = q.root ++ q.delimiter :: rest

theorem stem_of_baseName_nil (hb : q.baseName = []) : q.stem = [] := by
  rw [stem, hb]
  rfl

theorem stem_of_expressionText_nil (he : q.expressionText = []) : q.stem = q.baseName := by
  by_cases hb : q.baseName = []
  · rw [stem_of_baseName_nil hb, hb]
  · rw [stem, if_neg (by simpa using hb), he, leads_nil]
    cases trails q.delimiter q.baseName <;> rfl

theorem isSome_of_isPathMatch (h : q.isPathMatch p = true) : q.expression.isSome = true := by
  obtain ⟨-, e, -, he, -⟩ := isPathMatch_iff.1 h
  rw [he]
  rfl

theorem isPathMatch_iff_liesAtBase (h : q.baseName = [] ∨ q.wildJoint = false) :
    q.isPathMatch p = true ↔ q.inScope p = true ∧ q.LiesAtBase p.nameText.toList := by
  by_cases hs : q.expression.isSome = true
  · rw [LiesAtBase, and_iff_right hs]
    by_cases hb : q.baseName = []
    · rw [if_pos hb, isPathMatch_iff_of_isSome hs, stem_of_baseName_nil hb]
      simp only [List.nil_append, exists_eq_right']
    · rw [if_neg hb]
      by_cases he : q.expressionText = []
      · rw [if_pos he, isPathMatch_iff_of_isSome hs, stem_of_expressionText_nil he, he]
        simp [Language.mem_one]
      · rw [if_neg he, isPathMatch_iff_root hb he (h.resolve_left hb)]
  · constructor
    · intro hp
      exact absurd (isSome_of_isPathMatch hp) hs
    · intro hp
      exact absurd hp.2.1 hs

structure Parted (d : Char) (name expression : String) : Prop where
  name_ne : name ≠ ""
  expression_ne : expression ≠ ""
  not_trails : trails d name.toList = false
  not_leads : leads d expression.toList = false

/--
The query for a base name and an expression with the delimiter between them written behind the name,
before the expression, in both places or in neither.
-/
def written (space owner : Option String) (d : Char) (name expression : String)
    (behind before : Bool) : Query where
  base := { space, owner, name := some (if behind then name.push d else name) }
  expression := some (if before then String.ofList (d :: expression.toList) else expression)
  delimiter := d

section Written

variable {space owner : Option String} {d : Char} {name expression : String}

theorem baseName_written (behind before : Bool) :
    (written space owner d name expression behind before).baseName =
      if behind then name.toList ++ [d] else name.toList := by
  cases behind with
  | true => exact String.toList_push d
  | false => rfl

theorem expressionText_written (behind before : Bool) :
    (written space owner d name expression behind before).expressionText =
      if before then d :: expression.toList else expression.toList := by
  cases before with
  | true => exact String.toList_ofList
  | false => rfl

variable (h : Parted d name expression) (behind before : Bool)

include h

theorem Parted.baseName_ne_nil :
    (written space owner d name expression behind before).baseName ≠ [] := by
  rw [baseName_written]
  cases behind <;> simp [h.name_ne]

theorem Parted.expressionText_ne_nil :
    (written space owner d name expression behind before).expressionText ≠ [] := by
  rw [expressionText_written]
  cases before <;> simp [h.expression_ne]

theorem Parted.root_written :
    (written space owner d name expression behind before).root = name.toList := by
  rw [root, baseName_written]
  cases behind with
  | true =>
    have ht : trails d (name.toList ++ [d]) = true := trails_iff.2 ⟨name.toList, rfl⟩
    rw [if_pos rfl]
    exact (if_pos ht).trans List.dropLast_concat
  | false => exact if_neg (by simp [written, h.not_trails])

theorem Parted.branch_written :
    (written space owner d name expression behind before).branch = expression.toList := by
  rw [branch, expressionText_written]
  cases before with
  | true =>
    have hl : leads d (d :: expression.toList) = true := leads_iff.2 ⟨expression.toList, rfl⟩
    rw [if_pos rfl]
    exact if_pos hl
  | false => exact if_neg (by simp [written, h.not_leads])

theorem Parted.toList_combinedName_written :
    (written space owner d name expression behind before).combinedName.toList =
      name.toList ++ d :: expression.toList := by
  rw [toList_combinedName_eq_root (h.baseName_ne_nil behind before)
    (h.expressionText_ne_nil behind before), h.root_written, h.branch_written]
  rfl

theorem Parted.isPathMatch_written_iff (hd : Pattern.isWildcard d = false) (p : Path) :
    (written space owner d name expression behind before).isPathMatch p = true ↔
      (written space owner d name expression false false).inScope p = true ∧
        ∃ rest ∈ Pattern.spelled d expression.toList,
          p.nameText.toList = name.toList ++ d :: rest := by
  rw [isPathMatch_iff_root (h.baseName_ne_nil behind before) (h.expressionText_ne_nil behind before)
    (by simp [wildJoint, written, hd]), h.root_written, h.branch_written]
  rfl

/--
It does not matter where the delimiter between a base name and an expression is written. Behind the
one, before the other, in both places or in neither: the combined name is the same, so is what a
backend is asked for, and so are the paths that match and those that are found.
-/
theorem written_congr (hd : Pattern.isWildcard d = false) (behind' before' : Bool) :
    let q := written space owner d name expression behind before
    let q' := written space owner d name expression behind' before'
    q.combinedName = q'.combinedName ∧ q.pathLike = q'.pathLike ∧
      (∀ p, q.isPathMatch p = q'.isPathMatch p) ∧
      ∀ backend, (q.list backend).outcome = (q'.list backend).outcome := by
  intro q q'
  have hname : q.combinedName = q'.combinedName := by
    apply String.toList_injective
    rw [h.toList_combinedName_written, h.toList_combinedName_written]
  have hlike : q.pathLike = q'.pathLike := by
    rw [pathLike, hname]
    rfl
  have hmatch : ∀ p, q.isPathMatch p = q'.isPathMatch p := by
    intro p
    rw [Bool.eq_iff_iff, h.isPathMatch_written_iff _ _ hd, h.isPathMatch_written_iff _ _ hd]
  exact ⟨hname, hlike, hmatch, outcome_list_congr hlike hmatch⟩

end Written

theorem written_congr_dotted :
    let q := written (some "#private") none '.' "a*.b" "%c"
    let p : Path := { space := some "#private", owner := some "al", name := some "a*.b.xc" }
    Parted '.' "a*.b" "%c" ∧ Pattern.isWildcard '.' = false ∧
      (q true true).base ≠ (q false true).base ∧
      (q true true).isPathMatch p = true ∧ (q false true).isPathMatch p = true ∧
      ∀ backend, ((q true true).list backend).outcome = ((q false true).list backend).outcome := by
  intro q p
  have h : Parted '.' "a*.b" "%c" := ⟨by decide, by decide, by decide, by decide⟩
  have hp : (q true true).isPathMatch p = true := by decide +kernel
  have hcongr :=
    @written_congr (some "#private") none '.' "a*.b" "%c" h true true (by decide) false true
  exact ⟨h, by decide, by decide, hp, (hcongr.2.2.1 p).symm.trans hp, hcongr.2.2.2⟩

end MailboxSearch.Query
