import MailboxSearch.Proofs.Query.Beneath
import MailboxSearch.Proofs.Query.Builder
import MailboxSearch.Proofs.Query.Levels

namespace MailboxSearch

namespace Pattern

def Loosened (c c' : Char) : Prop :=
  c' = c ∨ c = localWildcard ∧ c' = freeWildcard

variable {d w : Char} {a b : List Char}

theorem language_le_of_loosened {c c' : Char} (h : Loosened c c') :
    (Element.ofChar c).language d ≤ (Element.ofChar c').language d := by
  rcases h with rfl | ⟨rfl, rfl⟩
  · exact le_rfl
  · exact le_top

theorem spelled_le_of_loosened (h : List.Forall₂ Loosened a b) : spelled d a ≤ spelled d b := by
  induction h with
  | nil => exact le_rfl
  | cons hc _ ih =>
    rw [spelled_cons, spelled_cons]
    exact mul_le_mul' (language_le_of_loosened hc) ih

theorem spelled_le_concat (hw : isWildcard w = true) : spelled d a ≤ spelled d (a ++ [w]) := by
  intro text ht
  have hnil : [] ∈ spelled d [w] := by
    rw [spelled_cons, spelled_nil, mul_one]
    exact Element.nil_mem_language ((isRun_ofChar w).trans hw)
  rw [spelled_append, ← List.append_nil text]
  exact Language.append_mem_mul ht hnil

end Pattern

namespace Query

/-- How an expression asks for more than another. -/
inductive Wider (e : String) : String → Prop
  | loosened {e' : String} (h : List.Forall₂ Pattern.Loosened e.toList e'.toList) : Wider e e'
  | extended {w : Char} (h : Pattern.isWildcard w = true) : Wider e (e.push w)
  | everything : Wider e Builder.everything

variable {q : Query} {p : Path} {d : Char} {a b : List Char} {e e' : String}

theorem leads_congr_of_loosened (hd : Pattern.isWildcard d = false)
    (h : List.Forall₂ Pattern.Loosened a b) : leads d a = leads d b := by
  cases h with
  | nil => rfl
  | cons hc _ =>
    rcases hc with rfl | ⟨rfl, rfl⟩
    · rfl
    · rw [leads_cons_wildcard hd rfl, leads_cons_wildcard hd rfl]

theorem isEmpty_congr_of_loosened (h : List.Forall₂ Pattern.Loosened a b) :
    a.isEmpty = b.isEmpty := by
  cases h <;> rfl

theorem leads_append (h : a ≠ []) : leads d (a ++ b) = leads d a := by
  rw [leads, leads, List.head?_append_of_ne_nil _ h]

theorem stem_asking_of_loosened (hd : Pattern.isWildcard q.delimiter = false)
    (h : List.Forall₂ Pattern.Loosened e.toList e'.toList) :
    (q.asking e).stem = (q.asking e').stem :=
  stem_asking_congr (leads_congr_of_loosened hd h) (isEmpty_congr_of_loosened h)

theorem stem_asking_push (he : e ≠ "") (w : Char) :
    (q.asking e).stem = (q.asking (e.push w)).stem := by
  have hne : e.toList ≠ [] := by simpa using he
  apply stem_asking_congr
  · rw [String.toList_push, leads_append hne]
  · rw [String.toList_push, List.isEmpty_eq_false_iff.2 hne, List.isEmpty_eq_false_iff.2 (by simp)]

theorem isPathMatch_asking_mono (hstem : (q.asking e).stem = (q.asking e').stem)
    (hle : Pattern.spelled q.delimiter e.toList ≤ Pattern.spelled q.delimiter e'.toList)
    (h : (q.asking e).isPathMatch p = true) : (q.asking e').isPathMatch p = true := by
  obtain ⟨hscope, rest, hr, hn⟩ := isPathMatch_asking_iff.1 h
  exact isPathMatch_asking_iff.2 ⟨hscope, rest, hle hr, hstem ▸ hn⟩

theorem expressionText_deep (q : Query) : q.deep.expressionText = [Pattern.freeWildcard] :=
  String.toList_ofList

section

variable (hd : Pattern.isWildcard q.delimiter = false) (he : e ≠ "")

include hd

theorem wildJoint_asking (e : String) : (q.asking e).wildJoint = false := by
  simp [wildJoint, asking, hd]

theorem branch_deep : q.deep.branch = Builder.everything.toList := by
  apply branch_of_not_leads
  rw [expressionText_deep]
  exact leads_cons_wildcard hd rfl

include he

theorem isPathMatch_deep_of_asking (h : (q.asking e).isPathMatch p = true) :
    q.deep.isPathMatch p = true := by
  have hscope := (isPathMatch_asking_iff.1 h).1
  by_cases hb : q.baseName = []
  · have hstem : q.deep.stem = [] := stem_of_baseName_nil hb
    rw [isPathMatch_deep_iff, hstem]
    exact ⟨hscope, _, rfl⟩
  · -- beneath a base name both go on from the same root, over a delimiter
    have hbase : (q.asking e).baseName ≠ [] := hb
    have htext : (q.asking e).expressionText ≠ [] := by simpa [asking, expressionText] using he
    obtain ⟨-, rest, -, hn⟩ := (isPathMatch_iff_root hbase htext (wildJoint_asking hd e)).1 h
    have hdeep : q.deep.baseName ≠ [] := hb
    have hall : q.deep.expressionText ≠ [] := by simp [expressionText_deep]
    rw [isPathMatch_iff_root hdeep hall (wildJoint_asking hd _), branch_deep hd]
    exact ⟨hscope, rest, Pattern.mem_spelled_everything, hn⟩

theorem isPathMatch_asking_of_wider (hw : Wider e e') (h : (q.asking e).isPathMatch p = true) :
    (q.asking e').isPathMatch p = true := by
  cases hw with
  | loosened hl =>
    have hle := Pattern.spelled_le_of_loosened hl (d := q.delimiter)
    exact isPathMatch_asking_mono (stem_asking_of_loosened hd hl) hle h
  | @extended w hw =>
    apply isPathMatch_asking_mono (stem_asking_push he w) _ h
    rw [String.toList_push]
    exact Pattern.spelled_le_concat hw
  | everything => exact isPathMatch_deep_of_asking hd he h

end

end Query

namespace Builder

variable {b : Builder} {s : Setting} {e e' : String} {q : Query}

theorem set_of_expression (h : s.expression? = some e) :
    b.set s = { b with expression := some e } := by
  cases s with
  | expression text => cases h; rfl
  | matchesAll => cases h; rfl
  | base | username | privateMailboxes | session => contradiction

theorem sourceExpression_some (e : String) (source : BaseSource) :
    sourceExpression (some e) source = some e := by
  cases source <;> rfl

theorem resolve_asking (h : ({ b with expression := some e } : Builder).resolve = .ok q)
    (e' : String) :
    ({ b with expression := some e' } : Builder).resolve = .ok (q.asking e') := by
  obtain ⟨hs, source, hsource⟩ := resolve_eq_ok_iff.1 ⟨q, h⟩
  obtain ⟨session, hs⟩ := Option.isSome_iff_exists.1 hs
  rw [resolve_of_session hsource hs, Except.ok.injEq] at h
  have hsource' : ({ b with expression := some e' } : Builder).baseSource = .ok source := hsource
  rw [resolve_of_session hsource' hs, ← h, sourceExpression_some]
  rfl

/--
A search for a wider expression, set in place of another that is not empty, finds whatever the other
finds. The base and the session may come from anywhere, but the delimiter must be no wildcard.
-/
theorem list_wider (hq : (b.set (.expression e)).build.outcome = .ok q)
    (hd : Pattern.isWildcard q.delimiter = false) (he : e ≠ "") (hs : s.expression? = some e')
    (hw : Query.Wider e e') (stored : List Path) :
    (b.set s).build.outcome = .ok (q.asking e') ∧
      ∃ found foundWide,
        (q.list (Inventory.ofList stored).backend).outcome = .ok found ∧
        ((q.asking e').list (Inventory.ofList stored).backend).outcome = .ok foundWide ∧
        found.Sublist foundWide := by
  rw [outcome_build, set_of_expression rfl] at hq
  rw [outcome_build, set_of_expression hs]
  refine ⟨resolve_asking hq e', _, _, Query.outcome_list_ofList _ _,
    Query.outcome_list_ofList _ _, ?_⟩
  have hself : q = q.asking e := Except.ok.inj (hq.symm.trans (resolve_asking hq e))
  apply Path.arrange_filter_sublist
  intro p hp
  rw [hself] at hp
  exact Query.isPathMatch_asking_of_wider hd he hw hp

theorem list_wider_leading :
    let b : Builder := { base := some { name := some "a." }, session := some { delimiter := '.' } }
    let q : Query := { base := { name := some "a." }, expression := some ".%b", delimiter := '.' }
    let stored : List Path := [{ name := some "a.xb" }, { name := some "a.x.b" }, {}]
    (b.set (.expression ".%b")).build.outcome = .ok q ∧ Pattern.isWildcard q.delimiter = false ∧
      Query.Wider ".%b" ".*b" ∧ Query.Wider ".%b" everything ∧
      (∃ found foundWide,
        (q.list (Inventory.ofList stored).backend).outcome = .ok found ∧
        ((q.asking ".*b").list (Inventory.ofList stored).backend).outcome = .ok foundWide ∧
        found.Sublist foundWide) ∧
      (b.set .matchesAll).build.outcome = .ok q.deep ∧
      ∃ found foundWide,
        (q.list (Inventory.ofList stored).backend).outcome = .ok found ∧
        (q.deep.list (Inventory.ofList stored).backend).outcome = .ok foundWide ∧
        found.Sublist foundWide := by
  intro b q stored
  have hq : (b.set (.expression ".%b")).build.outcome = .ok q := rfl
  have hd : Pattern.isWildcard q.delimiter = false := by decide
  have hloose : Query.Wider ".%b" ".*b" :=
    .loosened (.cons (.inl rfl) (.cons (.inr ⟨rfl, rfl⟩) (.cons (.inl rfl) .nil)))
  have hfree := list_wider (s := .expression ".*b") hq hd (by decide) rfl hloose stored
  have hall := list_wider (s := .matchesAll) hq hd (by decide) rfl .everything stored
  exact ⟨hq, hd, hloose, .everything, hfree.2, hall⟩

example :
    let q : Query := { base := { name := some "a" }, expression := none, delimiter := '.' }
    let p : Path := { name := some "a.b" }
    (q.asking ".b").isPathMatch p = true ∧ (q.asking "*.b").isPathMatch p = false ∧
      (q.asking "").isPathMatch q.base = true ∧ (q.asking "%").isPathMatch q.base = false := by
  decide +kernel

end Builder

end MailboxSearch
