import MailboxSearch.Config.Format
import MailboxSearch.Proofs.Toml.Written

namespace MailboxSearch

open Toml

theorem readToml_eq_ok {α : Type} {read : Value → Option α} {text : String} {v : Value} {a : α}
    (hv : parse? text = some v) (ha : read v = some a) : readToml read text = .ok a := by
  rw [readToml, hv, Option.bind_some, ha]

namespace Path

def entries (p : Path) : Entries :=
  Entries.ofOptional "namespace" p.space ++
    (Entries.ofOptional "owner" p.owner ++ Entries.ofOptional "name" p.name)

theorem written_toToml (p : Path) : Written p.toToml.toList (p.entries.map Line.ofField) := by
  rw [toToml, String.toList_append, String.toList_append, List.append_assoc, entries,
    List.map_append, List.map_append]
  exact (Written.optional rfl _).append ((Written.optional rfl _).append (Written.optional rfl _))

theorem ofValue?_entries (p : Path) (opening : Opening) :
    ofValue? (.table opening p.entries) = some p := by
  obtain ⟨space, owner, name⟩ := p
  cases space <;> cases owner <;> cases name <;> rfl

theorem ofToml_toToml (p : Path) : ofToml p.toToml = .ok p :=
  readToml_eq_ok p.written_toToml.parse?_fields (p.ofValue?_entries _)

end Path

namespace Session

def entries (s : Session) : Entries :=
  Entries.ofOptional "user" s.user ++ [("delimiter", .string (String.singleton s.delimiter))]

theorem written_toToml (s : Session) : Written s.toToml.toList (s.entries.map Line.ofField) := by
  have hword : Token.isWord "delimiter" = true := rfl
  rw [toToml, String.toList_append, entries, List.map_append]
  exact (Written.optional rfl _).append (Written.field hword _)

theorem ofValue?_entries (s : Session) (opening : Opening) :
    ofValue? (.table opening s.entries) = some s := by
  obtain ⟨user, delimiter⟩ := s
  have hchar : (Value.string (String.singleton delimiter)).char? = some delimiter := by
    simp [Value.char?]
  have hfields : (Value.table opening (entries { user, delimiter })).fields? ["user", "delimiter"] =
      some [user.map .string, some (.string (String.singleton delimiter))] := by
    cases user <;> rfl
  rw [ofValue?, hfields]
  cases user <;> simp [optional?, withDefault?, hchar, Value.string?]

theorem ofToml_toToml (s : Session) : ofToml s.toToml = .ok s :=
  readToml_eq_ok s.written_toToml.parse?_fields (s.ofValue?_entries _)

end Session

namespace Roster

def item (p : Path) : Section where
  header := ["mailbox"]
  isItem := true
  entries := p.entries

theorem written_item (p : Path) :
    Written ("[[mailbox]]\n" ++ p.toToml).toList (Section.lines (item p)) := by
  have hword : Token.isWord "mailbox" = true := rfl
  rw [String.toList_append]
  exact (Written.item hword).append p.written_toToml

theorem written_items (p : Path) (ps : List Path) :
    Written ("\n".intercalate ((p :: ps).map fun p => "[[mailbox]]\n" ++ p.toToml)).toList
      (((p :: ps).map item).flatMap Section.lines) := by
  induction ps generalizing p with
  | nil => simpa using written_item p
  | cons q ps ih =>
    rw [List.map_cons, List.map_cons, String.intercalate_cons_cons, String.toList_append,
      String.toList_append, List.append_assoc, List.map_cons, List.flatMap_cons]
    exact (written_item p).append (Written.newline.append (ih q))

theorem ofSections?_items (p : Path) (ps : List Path) :
    Entries.ofSections? ({} :: (p :: ps).map item) =
      some [("mailbox", .tables ((p :: ps).map fun p => .table .declared p.entries))] := by
  have hfirst : Entries.insertAll ({} :: (p :: ps).map item) .implied [] =
      Entries.insertAll (ps.map item) .declared
        [("mailbox", .tables [.table .declared p.entries])] := rfl
  have hitems :=
    Entries.insertAll_items "mailbox" (ps.map Path.entries) [.table .declared p.entries]
  rw [List.map_map, List.map_map] at hitems
  rw [Entries.ofSections?, hfirst]
  exact congrArg (Option.map Prod.snd) hitems

theorem mapM_ofValue? (ps : List Path) :
    (ps.map fun p => Value.table .declared p.entries).mapM Path.ofValue? = some ps := by
  induction ps with
  | nil => rfl
  | cons p ps ih =>
    rw [List.map_cons, List.mapM_cons, p.ofValue?_entries, ih]
    rfl

theorem ofToml_toToml (r : Roster) : ofToml r.toToml = .ok r := by
  obtain ⟨mailboxes⟩ := r
  cases mailboxes with
  | nil =>
    have hword : Token.isWord "mailbox" = true := rfl
    have hlines : Written (toToml { mailboxes := [] }).toList
        ([("mailbox", Value.array [])].map Line.ofField) := Written.noItems hword
    exact readToml_eq_ok hlines.parse?_fields rfl
  | cons p ps =>
    have hlines : Written (toToml { mailboxes := p :: ps }).toList
        ([].map Line.ofField ++ ((p :: ps).map item).flatMap Section.lines) := written_items p ps
    have hv := hlines.parse?_eq
    rw [ofSections?_items] at hv
    apply readToml_eq_ok hv
    have hfields : (Value.table .declared [("mailbox", .tables
        ((p :: ps).map fun p => .table .declared p.entries))]).fields? ["mailbox"] =
        some [some (.tables ((p :: ps).map fun p => .table .declared p.entries))] := rfl
    simp only [ofValue?, hfields, withDefault?, Value.list?, mapM_ofValue?, Option.bind_eq_bind,
      Option.bind_some]
    rfl

end Roster

namespace Config

def sections (c : Config) : List Section :=
  [{ header := ["session"], entries := c.session.entries },
    { header := ["inventory"], entries := [("path", .string c.inventory)] }]

theorem written_toToml (c : Config) :
    Written c.toToml.toList (c.sections.flatMap Section.lines) := by
  have hsession : Token.isWord "session" = true := rfl
  have hinventory : Token.isWord "inventory" = true := rfl
  have hpath : Token.isWord "path" = true := rfl
  have htext : c.toToml.toList =
      ("[" ++ "session" ++ "]\n").toList ++ c.session.toToml.toList ++
        ('\n' :: (("[" ++ "inventory" ++ "]\n").toList ++
          (writeField "path" c.inventory).toList)) := by
    simp [toToml]
  rw [htext]
  exact ((Written.header hsession).append c.session.written_toToml).append
    (Written.newline.append ((Written.header hinventory).append (Written.field hpath c.inventory)))

theorem ofSections?_sections (c : Config) :
    Entries.ofSections? ({} :: c.sections) =
      some [("session", .table .declared c.session.entries),
        ("inventory", .table .declared [("path", .string c.inventory)])] := rfl

theorem ofToml_toToml (c : Config) : ofToml c.toToml = .ok c := by
  have hlines : Written c.toToml.toList ([].map Line.ofField ++ c.sections.flatMap Section.lines) :=
    c.written_toToml
  have hv := hlines.parse?_eq
  rw [ofSections?_sections] at hv
  apply readToml_eq_ok hv
  have hfields : (Value.table .declared [("session", .table .declared c.session.entries),
      ("inventory", .table .declared [("path", .string c.inventory)])]).fields?
        ["session", "inventory"] =
      some [some (.table .declared c.session.entries),
        some (.table .declared [("path", .string c.inventory)])] := rfl
  simp only [ofValue?, hfields, withDefault?, Session.ofValue?_entries, Option.bind_eq_bind,
    Option.bind_some]
  rfl

end Config

/--
Paths, sessions, rosters and configurations of any texts are read as they were written: absent
fields are absent, empty texts are there, and mailboxes keep their order and their repetitions.
-/
theorem forall_ofToml_toToml :
    (∀ p : Path, Path.ofToml p.toToml = .ok p) ∧
      (∀ s : Session, Session.ofToml s.toToml = .ok s) ∧
      (∀ r : Roster, Roster.ofToml r.toToml = .ok r) ∧
      ∀ c : Config, Config.ofToml c.toToml = .ok c :=
  ⟨Path.ofToml_toToml, Session.ofToml_toToml, Roster.ofToml_toToml, Config.ofToml_toToml⟩

end MailboxSearch
