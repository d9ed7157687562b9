import MailboxSearch.Proofs.Query.Joint

namespace MailboxSearch.Query

variable {q : Query} {p : Path}

theorem toList_nameText_pathLike (q : Query) :
    q.pathLike.nameText.toList = q.stem ++ (q.expressionText ++ [Pattern.localWildcard]) := by
  rw [Path.nameText, pathLike, Option.getD_some, String.toList_push, toList_combinedName,
    List.append_assoc]

theorem mem_likened_pathLike (h : q.isPathMatch p = true) :
    p.nameText.toList ∈ Pattern.likened q.pathLike.nameText.toList := by
  obtain ⟨rest, hs, hn⟩ := exists_rest_of_isPathMatch h
  rw [toList_nameText_pathLike, Pattern.likened_append, Pattern.likened_append, hn]
  -- the stem stands in the name as it is written, its wildcards included
  apply Language.append_mem_mul (Pattern.mem_likened_self q.stem)
  -- the wildcard at the end of the request has nothing left to stand for
  rw [← List.append_nil rest]
  apply Language.append_mem_mul (Pattern.spelled_le_likened hs)
  exact Pattern.nil_mem_likened_localWildcard

theorem accepts_like_pathLike (h : q.isPathMatch p = true) :
    (Pattern.like q.pathLike.nameText).accepts p.nameText = true :=
  (Pattern.accepts_like_iff _ _).2 (mem_likened_pathLike h)

/--
No path that a query asks for is lost to a backend, whether that looks for the names like the one it
is given or only for those that start as it does.
-/
theorem prefilter_of_isPathMatch (h : q.isPathMatch p = true) :
    (Pattern.literalPrefix q.pathLike.nameText).toList <+: p.nameText.toList ∧
      (Pattern.like q.pathLike.nameText).accepts p.nameText = true :=
  ⟨Pattern.literalPrefix_prefix_of_accepts (accepts_like_pathLike h), accepts_like_pathLike h⟩

theorem prefilter_of_isPathMatch_wild :
    let q : Query := { base := { name := some "a*" }, expression := some "%b", delimiter := '%' }
    let p : Path := { name := some "a*xb" }
    q.isPathMatch p = true ∧
      (Pattern.literalPrefix q.pathLike.nameText).toList <+: p.nameText.toList ∧
      (Pattern.like q.pathLike.nameText).accepts p.nameText = true :=
  ⟨by decide +kernel, prefilter_of_isPathMatch (by decide +kernel)⟩

end MailboxSearch.Query
