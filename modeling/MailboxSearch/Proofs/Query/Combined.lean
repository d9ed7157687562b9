import MailboxSearch.Proofs.Query.Joint

namespace MailboxSearch.Query

variable {q : Query} {p : Path} {c : Char}

theorem mem_stem (h : c ∈ q.stem) : c ∈ q.baseName ∨ c = q.delimiter := by
  rw [stem] at h
  split at h
  · contradiction
  · split at h
    · exact .inl (List.mem_of_mem_dropLast h)
    · exact .inl h
    · exact .inl h
    · split at h
      · exact .inl h
      · exact (List.mem_append.1 h).imp_right List.eq_of_mem_singleton

theorem not_isWildcard_of_mem_stem (hd : Pattern.isWildcard q.delimiter = false)
    (hb : Pattern.isWild q.base.nameText = false) : ∀ c ∈ q.stem, Pattern.isWildcard c = false := by
  intro c hc
  cases mem_stem hc with
  | inl h => exact Pattern.not_isWildcard_of_not_isWild hb c h
  | inr h => rwa [h]

theorem accepts_combinedName_iff (q : Query) (name : String) :
    (Pattern.compile q.combinedName q.delimiter).accepts name = true ↔
      name.toList ∈
        Pattern.spelled q.delimiter q.stem * Pattern.spelled q.delimiter q.expressionText := by
  rw [Pattern.accepts_compile_iff, toList_combinedName, Pattern.spelled_append]

theorem accepts_combinedName_of_isPathMatch (hd : q.delimiter ≠ Pattern.localWildcard)
    (h : q.isPathMatch p = true) :
    (Pattern.compile q.combinedName q.delimiter).accepts p.nameText = true := by
  obtain ⟨rest, hs, hn⟩ := exists_rest_of_isPathMatch h
  rw [accepts_combinedName_iff, hn]
  exact Language.append_mem_mul (Pattern.mem_spelled_self hd q.stem) hs

theorem isPathMatch_of_accepts_combinedName (he : q.expression.isSome = true)
    (hd : Pattern.isWildcard q.delimiter = false) (hb : Pattern.isWild q.base.nameText = false)
    (hscope : q.inScope p = true)
    (h : (Pattern.compile q.combinedName q.delimiter).accepts p.nameText = true) :
    q.isPathMatch p = true := by
  obtain ⟨front, hf, rest, hr, hn⟩ := Language.mem_mul.1 ((accepts_combinedName_iff q _).1 h)
  -- without wildcards the stem leaves no choice of what comes before the rest
  have hstem : front = q.stem :=
    (Pattern.mem_spelled_iff_eq (not_isWildcard_of_mem_stem hd hb)).1 hf
  rw [isPathMatch_iff_of_isSome he]
  exact ⟨hscope, rest, hr, by rw [← hn, hstem]⟩

/--
A path that a query with an expression asks for is in scope, and the combined name, read as one
expression, accepts its name. If the base name has no wildcards it asks for all such paths.
-/
theorem isPathMatch_combinedName (he : q.expression.isSome = true)
    (hd : Pattern.isWildcard q.delimiter = false) (p : Path) :
    (q.isPathMatch p = true →
      q.inScope p = true ∧
        (Pattern.compile q.combinedName q.delimiter).accepts p.nameText = true) ∧
    (Pattern.isWild q.base.nameText = false →
      (q.isPathMatch p = true ↔
        q.inScope p = true ∧
          (Pattern.compile q.combinedName q.delimiter).accepts p.nameText = true)) := by
  have hlocal : q.delimiter ≠ Pattern.localWildcard := by
    intro h
    rw [h] at hd
    contradiction
  have hwhole : q.isPathMatch p = true →
      q.inScope p = true ∧
        (Pattern.compile q.combinedName q.delimiter).accepts p.nameText = true := by
    intro h
    exact ⟨(isPathMatch_iff.1 h).1, accepts_combinedName_of_isPathMatch hlocal h⟩
  refine ⟨hwhole, ?_⟩
  intro hb
  refine ⟨hwhole, ?_⟩
  intro ⟨hscope, h⟩
  exact isPathMatch_of_accepts_combinedName he hd hb hscope h

theorem isPathMatch_combinedName_dotted :
    let q : Query := { base := { name := some "a." }, expression := some ".%", delimiter := '.' }
    let r : Query := { base := { name := some "a*" }, expression := some "%b", delimiter := '.' }
    let p : Path := { name := some "a.b" }
    let w : Path := { name := some "a*.xb" }
    (q.expression.isSome = true ∧ r.expression.isSome = true ∧ Pattern.isWildcard '.' = false ∧
      Pattern.isWild q.base.nameText = false ∧ r.isPathMatch w = true) ∧
    (q.isPathMatch p = true ↔
      q.inScope p = true ∧ (Pattern.compile q.combinedName '.').accepts p.nameText = true) ∧
    (Pattern.compile r.combinedName '.').accepts w.nameText = true := by
  intro q r p w
  have hb : Pattern.isWild q.base.nameText = false := by decide +kernel
  have hw : r.isPathMatch w = true := by decide +kernel
  have hq := (isPathMatch_combinedName (q := q) rfl (by decide) p).2 hb
  have hr := (isPathMatch_combinedName (q := r) rfl (by decide) w).1 hw
  exact ⟨⟨rfl, rfl, by decide, hb, hw⟩, hq, hr.2⟩

example :
    let q : Query := { base := { name := some "a*" }, expression := some "b", delimiter := '.' }
    let p : Path := { name := some "ax.b" }
    (Pattern.compile q.combinedName '.').accepts p.nameText = true ∧ q.isPathMatch p = false := by
  decide +kernel

end MailboxSearch.Query
