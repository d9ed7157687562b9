import MailboxSearch.Proofs.Pattern.Scan

namespace MailboxSearch.Pattern

def segments (d : Char) (text : String) : List String :=
  (text.toList.splitOn d).map String.ofList

variable {d c : Char} {a b text : List Char}

theorem accepts_iff_of_language_eq_mul {p q r : Pattern} (h : r.language = p.language * q.language)
    (name : String) :
    r.accepts name = true ↔
      ∃ x y : String, x ++ y = name ∧ p.accepts x = true ∧ q.accepts y = true := by
  simp only [accepts_iff_mem_language]
  rw [h, Language.mem_mul]
  constructor
  · rintro ⟨x, hx, y, hy, hn⟩
    rw [← String.toList_ofList (l := x)] at hx
    rw [← String.toList_ofList (l := y)] at hy
    refine ⟨String.ofList x, String.ofList y, ?_, hx, hy⟩
    rw [← String.ofList_append, hn, String.ofList_toList]
  · rintro ⟨x, y, rfl, hx, hy⟩
    exact ⟨x.toList, hx, y.toList, hy, String.toList_append.symm⟩

theorem language_compile_append (a b : String) (d : Char) :
    (compile (a ++ b) d).language = (compile a d).language * (compile b d).language := by
  simp only [language_compile, String.toList_append, spelled_append]

theorem language_like_append (a b : String) :
    (like (a ++ b)).language = (like a).language * (like b).language := by
  simp only [language_like, String.toList_append, likened_append]

/--
One expression behind another accepts the names that are one behind another, each accepted by its
expression. The same goes for the names that they are like.
-/
theorem accepts_append_iff (a b : String) (d : Char) (name : String) :
    ((compile (a ++ b) d).accepts name = true ↔
      ∃ x y : String, x ++ y = name ∧
        (compile a d).accepts x = true ∧ (compile b d).accepts y = true) ∧
    ((like (a ++ b)).accepts name = true ↔
      ∃ x y : String, x ++ y = name ∧ (like a).accepts x = true ∧ (like b).accepts y = true) :=
  ⟨accepts_iff_of_language_eq_mul (language_compile_append a b d) name,
    accepts_iff_of_language_eq_mul (language_like_append a b) name⟩

example :
    (compile ("a%" ++ "*b") '.').elements = [.literal 'a', .freeRun, .literal 'b'] ∧
      (compile "a%" '.').elements = [.literal 'a', .localRun] := by
  decide

theorem count_of_piece (hd : d ≠ localWildcard) (hc : c ≠ freeWildcard) (h : Piece d c text) :
    text.count d = [c].count d := by
  rw [Piece, if_neg hc] at h
  split at h
  · next hl => rw [List.count_eq_zero.2 h, List.count_eq_zero.2 (by simpa [hl] using hd)]
  · rw [h]

theorem count_of_mem_spelled (hd : d ≠ localWildcard) (ha : freeWildcard ∉ a)
    (h : text ∈ spelled d a) : text.count d = a.count d := by
  induction a generalizing text with
  | nil =>
    rw [spelled_nil, Language.mem_one] at h
    rw [h]
  | cons c a ih =>
    rw [List.mem_cons, not_or] at ha
    rw [spelled_cons] at h
    obtain ⟨x, hx, y, hy, rfl⟩ := Language.mem_mul.1 h
    have hc := count_of_piece hd (Ne.symm ha.1) (mem_language_ofChar.1 hx)
    rw [List.count_append, hc, ih ha.2 hy, ← List.count_append, List.singleton_append]

theorem not_mem_of_mem_spelled (hd : d ≠ localWildcard) (ha : freeWildcard ∉ a) (hda : d ∉ a)
    (h : text ∈ spelled d a) : d ∉ text := by
  rw [← List.count_eq_zero, count_of_mem_spelled hd ha h, List.count_eq_zero]
  exact hda

theorem intercalate_mem_spelled (hd : d ≠ localWildcard) {as texts : List (List Char)}
    (h : List.Forall₂ (fun a text => text ∈ spelled d a) as texts) :
    [d].intercalate texts ∈ spelled d ([d].intercalate as) := by
  induction h with
  | nil => exact mem_spelled_self hd _
  | cons ha has ih =>
    cases has with
    | nil => simpa using ha
    | cons hb hbs =>
      rw [List.intercalate_cons_cons, List.intercalate_cons_cons, spelled_append, spelled_append]
      exact Language.append_mem_mul (Language.append_mem_mul ha (mem_spelled_self hd [d])) ih

theorem forall₂_splitOn_of_mem_spelled (hd : d ≠ localWildcard) (ha : freeWildcard ∉ a)
    (h : text ∈ spelled d a) :
    List.Forall₂ (fun a text => text ∈ spelled d a) (a.splitOn d) (text.splitOn d) := by
  induction hk : a.count d generalizing a text with
  | zero =>
    have hda := List.count_eq_zero.1 hk
    have hdt := not_mem_of_mem_spelled hd ha hda h
    rw [List.splitOn_eq_singleton hda, List.splitOn_eq_singleton hdt]
    exact .cons h .nil
  | succ k ih =>
    have hmem : d ∈ a := List.count_pos_iff.1 (hk ▸ Nat.succ_pos k)
    have hw : isWildcard d = false := by
      simpa [isWildcard, hd] using ne_of_mem_of_not_mem hmem ha
    -- the first delimiter of the expression stands for the first one of the name
    obtain ⟨s, rest, rfl, hs⟩ := List.eq_append_cons_of_mem hmem
    rw [List.mem_append, List.mem_cons, not_or, not_or] at ha
    rw [List.count_append, List.count_cons_self, List.count_eq_zero.2 hs, Nat.zero_add] at hk
    obtain ⟨x, hx, y, hy, rfl⟩ := (mem_spelled_append_cons hw).1 h
    have hdx := not_mem_of_mem_spelled hd ha.1 hs hx
    rw [List.splitOn_append_cons_self_of_not_mem hs, List.splitOn_append_cons_self_of_not_mem hdx]
    exact .cons hx (ih ha.2.2 hy (Nat.succ_inj.1 hk))

theorem mem_spelled_iff_forall₂_splitOn (hd : d ≠ localWildcard) (ha : freeWildcard ∉ a) :
    text ∈ spelled d a ↔
      List.Forall₂ (fun a text => text ∈ spelled d a) (a.splitOn d) (text.splitOn d) := by
  constructor
  · exact forall₂_splitOn_of_mem_spelled hd ha
  · intro h
    have := intercalate_mem_spelled hd h
    rwa [List.intercalate_splitOn, List.intercalate_splitOn] at this

/--
An expression without free wildcards accepts a name if and only if both have equally many segments
and each segment of the expression accepts the segment of the name in its place. So a name that it
accepts has as many delimiters as it has.
-/
theorem accepts_compile_iff_segments {e : String} (hd : d ≠ localWildcard)
    (he : freeWildcard ∉ e.toList) (name : String) :
    ((compile e d).accepts name = true ↔
      List.Forall₂ (fun s t => (compile s d).accepts t = true) (segments d e)
        (segments d name)) ∧
    ((compile e d).accepts name = true → name.toList.count d = e.toList.count d) := by
  simp only [accepts_compile_iff]
  constructor
  · rw [mem_spelled_iff_forall₂_splitOn hd he, segments, segments, List.forall₂_map_left_iff,
      List.forall₂_map_right_iff]
    simp only [String.toList_ofList]
  · exact count_of_mem_spelled hd he

theorem accepts_compile_iff_segments_two :
    let e := "%a%.%b%"
    ('.' ≠ localWildcard ∧ freeWildcard ∉ e.toList ∧ segments '.' e = ["%a%", "%b%"] ∧
      segments '.' "xaay.b" = ["xaay", "b"]) ∧
    (compile e '.').accepts "xaay.b" = true ∧ (compile e '.').accepts "xa.ay.b" = false := by
  intro e
  have hd : '.' ≠ localWildcard := by decide
  have he : freeWildcard ∉ e.toList := by decide
  have hs : segments '.' e = ["%a%", "%b%"] := by decide
  have ht : segments '.' "xaay.b" = ["xaay", "b"] := by decide
  refine ⟨⟨hd, he, hs, ht⟩, ?_, ?_⟩
  · apply (accepts_compile_iff_segments hd he "xaay.b").1.2
    rw [hs, ht]
    exact .cons (by decide +kernel) (.cons (by decide +kernel) .nil)
  · apply Bool.eq_false_of_not_eq_true
    intro h
    -- one delimiter too many
    exact absurd ((accepts_compile_iff_segments hd he "xa.ay.b").2 h) (by decide)

end MailboxSearch.Pattern
