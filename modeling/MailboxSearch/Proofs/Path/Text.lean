import Mathlib.Data.List.Nodup
import MailboxSearch.Path.Basic

namespace MailboxSearch.Path

/-- Whether the first two colons that are printed are those between the parts. -/
structure ColonFree (p : Path) : Prop where
  space : ':' ∉ (p.space.getD "").toList
  owner : ':' ∉ (p.owner.getD "").toList

def filled (p : Path) : Path where
  space := some (p.space.getD "")
  owner := some (p.owner.getD "")
  name := some (p.name.getD "")

/--
Whether no two paths, of those without misleading colons, differ only in that one lacks what the
other has empty.
-/
def Legible (ps : List Path) : Prop :=
  ∀ p ∈ ps, ∀ q ∈ ps, p.ColonFree → q.ColonFree → p.filled = q.filled → p = q

def PrintedApart (ps : List Path) : Prop :=
  ps.Pairwise fun p q => p.ColonFree → q.ColonFree → p.render ≠ q.render

variable {p q : Path} {ps qs : List Path}

theorem append_cons_inj {c : Char} {a b x y : List Char} (ha : c ∉ a) (hb : c ∉ b) :
    a ++ c :: x = b ++ c :: y ↔ a = b ∧ x = y := by
  constructor
  · intro h
    have hsplit := congrArg (List.splitOn c) h
    rw [List.splitOn_append_cons_self_of_not_mem ha,
      List.splitOn_append_cons_self_of_not_mem hb] at hsplit
    have hab := (List.cons.inj hsplit).1
    rw [hab, List.append_cancel_left_eq] at h
    exact ⟨hab, (List.cons.inj h).2⟩
  · rintro ⟨rfl, rfl⟩
    rfl

theorem toList_render (p : Path) :
    p.render.toList =
      (p.space.getD "").toList ++
        ':' :: ((p.owner.getD "").toList ++ ':' :: (p.name.getD "").toList) := by
  simp [render]

theorem render_eq_iff (hp : p.ColonFree) (hq : q.ColonFree) :
    p.render = q.render ↔ p.filled = q.filled := by
  rw [← String.toList_inj, toList_render, toList_render, append_cons_inj hp.space hq.space,
    append_cons_inj hp.owner hq.owner]
  simp [filled, String.toList_inj]

example : render { owner := some "a:b", name := some "c" } =
    render { owner := some "a", name := some "b:c" } := by decide

theorem Legible.printedApart (h : Legible ps) (hqs : ∀ p ∈ qs, p ∈ ps) (hn : qs.Nodup) :
    PrintedApart qs := by
  apply hn.imp_of_mem
  intro p q hp hq hne hcp hcq hr
  exact hne (h p (hqs p hp) q (hqs q hq) hcp hcq ((render_eq_iff hcp hcq).1 hr))

theorem PrintedApart.nodup_map_render (h : PrintedApart ps) (hc : ∀ p ∈ ps, p.ColonFree) :
    (ps.map render).Nodup := by
  apply List.pairwise_map.2
  apply h.imp_of_mem
  intro p q hp hq hne
  exact hne (hc p hp) (hc q hq)

end MailboxSearch.Path
