import Mathlib.Logic.Equiv.Basic
import MailboxSearch.Proofs.Query.Builder
import MailboxSearch.Proofs.Query.Joint

namespace MailboxSearch

/-- An exchange of characters that leaves the wildcards as they are. -/
structure Renaming where
  perm : Equiv.Perm Char
  perm_localWildcard : perm Pattern.localWildcard = Pattern.localWildcard
  perm_freeWildcard : perm Pattern.freeWildcard = Pattern.freeWildcard

namespace Renaming

instance : CoeFun Renaming fun _ => Char → Char := ⟨fun f => f.perm⟩

def text (f : Renaming) (t : String) : String :=
  String.ofList (t.toList.map f)

def path (f : Renaming) (p : Path) : Path :=
  { p with name := p.name.map f.text }

def session (f : Renaming) (s : Session) : Session :=
  { s with delimiter := f s.delimiter }

def query (f : Renaming) (q : Query) : Query where
  base := f.path q.base
  expression := q.expression.map f.text
  delimiter := f q.delimiter

def setting (f : Renaming) : Setting → Setting
  | .base p => .base (f.path p)
  | .username user => .username user
  | .privateMailboxes => .privateMailboxes
  | .expression e => .expression (f.text e)
  | .matchesAll => .matchesAll
  | .session s => .session (f.session s)

def source (f : Renaming) : BaseSource → BaseSource
  | .given p => .given (f.path p)
  | .privateMailboxes user => .privateMailboxes user
  | .sessionUser => .sessionUser

def builder (f : Renaming) (b : Builder) : Builder :=
  { b with
    base := b.base.map f.path
    expression := b.expression.map f.text
    session := b.session.map f.session }

variable (f : Renaming) {c d : Char} {a start name : List Char}

@[simp] theorem toList_text (t : String) : (f.text t).toList = t.toList.map f :=
  String.toList_ofList

theorem text_ofList (t : List Char) : f.text (String.ofList t) = String.ofList (t.map f) := by
  rw [text, String.toList_ofList]

theorem apply_eq_iff : f c = f d ↔ c = d :=
  f.perm.injective.eq_iff

theorem apply_eq_localWildcard_iff : f c = Pattern.localWildcard ↔ c = Pattern.localWildcard :=
  f.perm.injective.eq_iff' f.perm_localWildcard

theorem apply_eq_freeWildcard_iff : f c = Pattern.freeWildcard ↔ c = Pattern.freeWildcard :=
  f.perm.injective.eq_iff' f.perm_freeWildcard

theorem piece_map_iff : Pattern.Piece (f d) (f c) (a.map f) ↔ Pattern.Piece d c a := by
  have hd : f d ∈ a.map f ↔ d ∈ a := List.mem_map_of_injective f.perm.injective
  have hc : a.map f = [f c] ↔ a = [c] := by
    rw [← List.map_singleton, (List.map_injective_iff.2 f.perm.injective).eq_iff]
  simp only [Pattern.Piece, f.apply_eq_freeWildcard_iff, f.apply_eq_localWildcard_iff, hd, hc]

theorem language_ofChar :
    (Element.ofChar (f c)).language (f d) = Language.map f ((Element.ofChar c).language d) := by
  ext t
  -- every text is a renamed one
  obtain ⟨u, rfl⟩ := List.map_surjective_iff.2 f.perm.surjective t
  rw [Pattern.mem_language_ofChar, piece_map_iff, ← Pattern.mem_language_ofChar]
  exact ((List.map_injective_iff.2 f.perm.injective).mem_set_image).symm

theorem spelled_map :
    Pattern.spelled (f d) (a.map f) = Language.map f (Pattern.spelled d a) := by
  induction a with
  | nil => rw [List.map_nil, Pattern.spelled_nil, Pattern.spelled_nil, map_one]
  | cons c a ih =>
    rw [List.map_cons, Pattern.spelled_cons, Pattern.spelled_cons, map_mul, language_ofChar, ih]

theorem map_mem_spelled_iff :
    name.map f ∈ Pattern.spelled (f d) (a.map f) ↔ name ∈ Pattern.spelled d a := by
  rw [spelled_map]
  exact (List.map_injective_iff.2 f.perm.injective).mem_set_image

theorem accepts_text (e : String) (d : Char) (name : String) :
    (Pattern.compile (f.text e) (f d)).accepts (f.text name) =
      (Pattern.compile e d).accepts name := by
  rw [Bool.eq_iff_iff, Pattern.accepts_compile_iff, Pattern.accepts_compile_iff, toList_text,
    toList_text, map_mem_spelled_iff]

theorem leads_map : Query.leads (f d) (a.map f) = Query.leads d a := by
  rw [Query.leads, Query.leads, List.head?_map]
  cases a.head? <;> simp [f.apply_eq_iff]

theorem trails_map : Query.trails (f d) (a.map f) = Query.trails d a := by
  rw [Query.trails, Query.trails, List.getLast?_map]
  cases a.getLast? <;> simp [f.apply_eq_iff]

theorem after_map :
    Query.after (start.map f) (name.map f) = (Query.after start name).map (List.map f) := by
  have h : start.map f <+: name.map f ↔ start <+: name :=
    List.prefix_map_iff_of_injective f.perm.injective
  simp only [Query.after, List.isPrefixOf_iff_prefix, h, List.length_map]
  split
  · rw [Option.map_some, List.map_drop]
  · rfl

variable (q : Query) (p : Path)

theorem nameText_path : (f.path p).nameText = f.text p.nameText := by
  cases h : p.name <;> simp [Path.nameText, path, h, text]

theorem baseName_query : (f.query q).baseName = q.baseName.map f := by
  rw [Query.baseName, Query.baseName, query, nameText_path, toList_text]

theorem expressionText_query : (f.query q).expressionText = q.expressionText.map f := by
  cases h : q.expression <;> simp [Query.expressionText, query, h]

theorem stem_query : (f.query q).stem = q.stem.map f := by
  have hd : (f.query q).delimiter = f q.delimiter := rfl
  simp only [Query.stem, baseName_query, expressionText_query, hd, trails_map, leads_map,
    List.isEmpty_map]
  split
  · rfl
  · cases Query.trails q.delimiter q.baseName with
    | true => cases Query.leads q.delimiter q.expressionText <;> simp
    | false =>
      cases Query.leads q.delimiter q.expressionText with
      | true => rfl
      | false => by_cases he : q.expressionText = [] <;> simp [he]

theorem relativeName_query (name : String) :
    (f.query q).relativeName (f.text name) = (q.relativeName name).map f.text := by
  rw [Query.relativeName_eq, Query.relativeName_eq, stem_query, toList_text, after_map,
    Option.map_map, Option.map_map]
  congr 1
  funext t
  exact (f.text_ofList t).symm

theorem isExpressionMatch_query (name : String) :
    (f.query q).isExpressionMatch (f.text name) = q.isExpressionMatch name := by
  cases h : q.expression with
  | none => simp [Query.isExpressionMatch, Query.pattern, query, h]
  | some e => simpa [Query.isExpressionMatch, Query.pattern, query, h] using f.accepts_text e _ name

theorem inScope_query : (f.query q).inScope (f.path p) = q.inScope p := rfl

theorem isPathMatch_query : (f.query q).isPathMatch (f.path p) = q.isPathMatch p := by
  have hmatch : (fun name => (f.query q).isExpressionMatch (f.text name)) = q.isExpressionMatch :=
    funext (f.isExpressionMatch_query q)
  rw [Query.isPathMatch, Query.isPathMatch, inScope_query, nameText_path, relativeName_query,
    Option.any_map, hmatch]

theorem text_everything : f.text Builder.everything = Builder.everything := by
  rw [Builder.everything, text_ofList, List.map_singleton, f.perm_freeWildcard]

theorem set_setting (b : Builder) (s : Setting) :
    (f.builder b).set (f.setting s) = f.builder (b.set s) := by
  cases s <;> simp [Builder.set, builder, setting, text_everything]

theorem setAll_map (b : Builder) (settings : List Setting) :
    (f.builder b).setAll (settings.map f.setting) = f.builder (b.setAll settings) := by
  induction settings generalizing b with
  | nil => rfl
  | cons s settings ih =>
    change ((f.builder b).set (f.setting s)).setAll _ = f.builder ((b.set s).setAll settings)
    rw [set_setting, ih]

theorem baseSource_builder (b : Builder) :
    (f.builder b).baseSource = b.baseSource.map f.source := by
  obtain ⟨base, username, privateMailboxes, expression, session⟩ := b
  cases base <;> cases username <;> cases privateMailboxes <;> rfl

theorem sourcePath_source (s : Session) (source : BaseSource) :
    Builder.sourcePath (f.session s) (f.source source) = f.path (Builder.sourcePath s source) := by
  cases source <;> rfl

theorem sourceExpression_source (e : Option String) (source : BaseSource) :
    Builder.sourceExpression (e.map f.text) (f.source source) =
      (Builder.sourceExpression e source).map f.text := by
  cases source with
  | given base => rfl
  | privateMailboxes user => cases e <;> simp [Builder.sourceExpression, source, text_everything]
  | sessionUser => rfl

theorem resolve_builder (b : Builder) : (f.builder b).resolve = b.resolve.map f.query := by
  have hsource := f.baseSource_builder b
  cases h : b.baseSource with
  | error e =>
    rw [h] at hsource
    rw [Builder.resolve_of_error h, Builder.resolve_of_error hsource]
    rfl
  | ok source =>
    rw [h] at hsource
    cases hs : b.session with
    | none =>
      have hs' : (f.builder b).session = none := by simp [builder, hs]
      rw [Builder.resolve_of_missing h hs, Builder.resolve_of_missing hsource hs']
      rfl
    | some session =>
      have hs' : (f.builder b).session = some (f.session session) := by simp [builder, hs]
      rw [Builder.resolve_of_session h hs, Builder.resolve_of_session hsource hs',
        sourcePath_source]
      simp only [builder, sourceExpression_source]
      rfl

/--
A renaming goes through a search unnoticed: renamed settings build the renamed query or fail as the
others do, a query matches a path if and only if the renamed query matches the renamed path, and so
do a compiled expression and a name.
-/
theorem search_renamed :
    (∀ settings : List Setting,
      (({} : Builder).setAll (settings.map f.setting)).build.outcome =
        (({} : Builder).setAll settings).build.outcome.map f.query) ∧
    (∀ (q : Query) (p : Path), (f.query q).isPathMatch (f.path p) = q.isPathMatch p) ∧
    (∀ (e : String) (d : Char) (name : String),
      (Pattern.compile (f.text e) (f d)).accepts (f.text name) =
        (Pattern.compile e d).accepts name) := by
  refine ⟨?_, f.isPathMatch_query, f.accepts_text⟩
  intro settings
  rw [Builder.outcome_build, Builder.outcome_build, ← resolve_builder, ← setAll_map]
  rfl

theorem search_renamed_exchanged :
    let f : Renaming := ⟨Equiv.swap '.' '日' * Equiv.swap '\\' 'b', by decide, by decide⟩
    let q : Query := { base := { name := some "a*." }, expression := some "%\\", delimiter := '.' }
    let p : Path := { name := some "a*.x\\" }
    f.query q = { base := { name := some "a*日" }, expression := some "%b", delimiter := '日' } ∧
      f.path p = { name := some "a*日xb" } ∧ q.isPathMatch p = true ∧
      (f.query q).isPathMatch (f.path p) = true := by
  intro f q p
  have hp : q.isPathMatch p = true := by decide +kernel
  exact ⟨by decide +kernel, by decide +kernel, hp, (f.search_renamed.2.1 q p).trans hp⟩

end Renaming

end MailboxSearch
