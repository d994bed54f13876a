import SqlBuilder.Proofs.Sql.Placement
import SqlBuilder.Proofs.Sql.Quoting
import SqlBuilder.Proofs.Sql.Resolution
/-!
Qualifiers beside the entries of from-lists. An entry is referred to by its alias, or else by its name as it
is written in the from-list, which is piece by piece between its dots. A qualifier is one identifier, dots and
all, and so the two spellings part where an entry without an alias has a dot in its name.
-/
namespace SqlBuilder

namespace Sql

variable {d : Dialect}

-- A name with a dot is taken apart as the name of a table, and is not as an identifier.
theorem ident_ne_tableName {name : String} (h : '.' ∈ name.toList) : ident d name ≠ tableName d name := by
  obtain ⟨first, rest, hn, hf⟩ := List.eq_append_cons_of_mem h
  obtain ⟨second, others, hr⟩ := List.exists_cons_of_ne_nil (List.splitOn_ne_nil '.' rest)
  have h := ident_ne_intercalate d name (String.ofList first) (String.ofList second) (others.map String.ofList)
  rw [tableName_eq, hn, List.splitOn_append_cons_self_of_not_mem hf, hr]
  simpa [Function.comp_def] using h

theorem ident_eq_tableName_iff {name : String} : ident d name = tableName d name ↔ '.' ∉ name.toList := by
  constructor
  case mp => exact fun h hdot => ident_ne_tableName hdot h
  case mpr =>
    intro h
    rw [tableName_eq, List.splitOn_eq_singleton h]
    simp

namespace TableRef

-- What a from-list writes of an entry in front of what it is referred to by.
def lead (d : Dialect) (t : TableRef) : String :=
  match t.alias? with
  | some _ => tableName d t.name ++ " as "
  | none => ""

-- What an entry of a from-list is referred to by, as it is written there.
def reference (d : Dialect) (t : TableRef) : String :=
  match t.alias? with
  | some given => ident d given
  | none => tableName d t.name

variable {t : TableRef}

theorem text_eq (d : Dialect) (t : TableRef) : t.text d = t.lead d ++ t.reference d := by
  obtain ⟨n, alias?⟩ := t
  cases alias? <;> simp [text, aliasText, lead, reference, String.append_assoc]

-- The visible name as one identifier is what the entry is referred to by, if no dot of the table's name is in it.
theorem ident_visible_eq_iff :
    ident d t.visible = t.reference d ↔ (t.alias? = none → '.' ∉ t.name.toList) := by
  obtain ⟨n, alias?⟩ := t
  cases alias?
  case none => simpa [visible, reference] using ident_eq_tableName_iff
  case some given => simp [visible, reference]

end TableRef

namespace Query

variable {q : Query} {s : Statement}

theorem begins_of_compile (h : q.compile d = .ok s) : q.Begins := by
  have hf := fault_notMem_parts h
  cases q
  case select q => trivial
  case insert q => exact fun hr => hf .emptyInsert (by simp [parts, Insert.parts, hr])
  case update q => exact fun hs => hf .emptyUpdate (by simp [parts, Update.parts, hs])
  case delete q => trivial

theorem places_entry (h : q.compile d = .ok s) {t : TableRef} {before after : List Part}
    (hp : q.parts d = before ++ t.parts ++ after) : s.Places d before (t.text d) after := by
  obtain ⟨-, rfl⟩ := eq_of_compile h
  obtain ⟨hv, ht⟩ := (t.writes d []).text_eq
  simp only [Part.allPieces] at hv ht
  simp [Statement.Places, pieces, hp, Part.allPieces, Piece.numbered_append, hv, ht, Nat.add_comm 1,
    String.append_assoc]

-- How a column is written that belongs to an entry of a from-list, and how the entry is.
structure Qualifies (d : Dialect) (q : Query) (s : Statement) (before : List Part) (scopes : List Scope)
    (c : Column) (after : List Part) (e : Entry) (qualifier? : Option String) : Prop where
  -- the first entry of the table in the innermost from-list that has any
  owner : (Scope.owners scopes c.table).head? = some e
  column : s.Places d before (c.under d qualifier?) after
  entry : ∃ before after, q.parts d = before ++ e.table.parts ++ after ∧
    s.Places d before (e.table.lead d ++ e.table.reference d) after
  visible : ∀ qualifier ∈ qualifier?, qualifier = e.table.visible
  alike : ∀ qualifier ∈ qualifier?, ident d qualifier = e.table.reference d ↔
    (e.table.alias? = none → '.' ∉ e.table.name.toList)

-- Every column of a table that it sees is written bare or under the visible name of the table's innermost
-- entry. That is what the from-list lets the entry be referred to by where the entry has an alias, or no
-- dot in its name, and nowhere else.
theorem qualifiers_spelled (h : q.compile d = .ok s) :
    (∀ r, Refers q.scopes q.columns q.levels r → .column r.1 r.2 ∈ q.parts d) ∧
    ∀ before scopes c after, q.parts d = before ++ .column scopes c :: after →
      (∃ t ∈ scopes.flatten, t.name = c.table) →
      ∃ e qualifier?, q.Qualifies d s before scopes c after e qualifier? := by
  have hf := fault_notMem_parts h
  refine ⟨fun r hr => (q.column_mem_parts hf).mpr hr, ?_⟩
  rintro before scopes c after hp ⟨t, ht, hn⟩
  have hne : Scope.owners scopes c.table ≠ [] := Scope.innermost_ne_nil ht (by simpa using hn)
  obtain ⟨e, es, he⟩ := List.exists_cons_of_ne_nil hne
  have hm : .column scopes c ∈ q.parts d := hp ▸ List.mem_append_right _ List.mem_cons_self
  have hseen := List.mem_cons.mp (mem_visibilities ((q.column_mem_parts hf).mp hm))
  have hentry := (Scope.mem_of_mem_innermost (he ▸ List.mem_cons_self)).1
  have hb := begins_of_compile h
  obtain ⟨before', after', hp'⟩ := infix_entry (d := d) hb (hseen.imp_right List.mem_map.mp) hentry
  have howner : (Scope.owners scopes c.table).head? = some e := by rw [he, List.head?_cons]
  have hvisible (v : String) (hv : Scope.qualifier? c.table false scopes = some v) : v = e.table.visible :=
    Scope.eq_visible_of_qualifier? hv howner
  exact ⟨e, Scope.qualifier? c.table false scopes, {
    owner := howner
    column := places_of_compile h hp rfl
    entry := ⟨before', after', hp'.symm, e.table.text_eq d ▸ places_entry h hp'.symm⟩
    visible := hvisible
    alike := fun v hv => hvisible v hv ▸ TableRef.ident_visible_eq_iff }⟩

-- The column of the aliased outer table is under the alias, and so is the table.
theorem visits_qualifiers :
    let scopes : List Scope := [[⟨"visit", none⟩], [⟨"person", some "p"⟩, ⟨"pet", none⟩]]
    let e : Entry := ⟨1, ⟨"person", some "p"⟩⟩
    visits.compile .postgres = .ok visitsStatement ∧
    ∃ before after qualifier?,
      visits.parts .postgres = before ++ .column scopes ⟨"person", "id"⟩ :: after ∧
      visits.Qualifies .postgres visitsStatement before scopes ⟨"person", "id"⟩ after e qualifier? ∧
      ∀ qualifier ∈ qualifier?, ident .postgres qualifier = "\"p\"" := by
  intro scopes e
  have h : visits.compile .postgres = .ok visitsStatement := by decide +kernel
  have ⟨hmem, hwritten⟩ := qualifiers_spelled h
  have hr : Refers visits.scopes visits.columns visits.levels (scopes, ⟨"person", "id"⟩) := by
    decide +kernel
  obtain ⟨before, after, hp⟩ := List.append_of_mem (hmem _ hr)
  obtain ⟨e', qualifier?, hq⟩ := hwritten _ _ _ _ hp ⟨⟨"person", some "p"⟩, by decide, rfl⟩
  have hown : (Scope.owners scopes "person").head? = some e := by decide
  cases hown.symm.trans hq.owner
  refine ⟨h, before, after, qualifier?, hp, hq, fun v hv => ?_⟩
  exact (hq.alike v hv).mpr (by decide)

-- A select over a joined table with a dot in its name.
def scheduled : Query := .select {
  ctes := []
  distinct := false
  whole := false
  selections := [⟨.column ⟨"app.ev\"ents", "kind"⟩, none⟩]
  table := ⟨"pet", none⟩
  joins := [⟨⟨"app.ev\"ents", none⟩, [⟨.and, .compare (.column ⟨"pet", "id"⟩) .eq (.operand (.column ⟨"app.ev\"ents", "id"⟩))⟩]⟩]
  filter := []
  groups := []
  order := []
  page := {} }

def scheduledStatement : Statement where
  sql := "select \"app.ev\"\"ents\".\"kind\" from \"pet\" inner join \"app\".\"ev\"\"ents\" on \"pet\".\"id\" = \"app.ev\"\"ents\".\"id\""
  params := []
  kind := .select

-- The qualifier is not what the joined table is referred to by.
theorem scheduled_qualifier_ne_reference :
    let scopes : List Scope := [[⟨"pet", none⟩, ⟨"app.ev\"ents", none⟩]]
    let c : Column := ⟨"app.ev\"ents", "kind"⟩
    let e : Entry := ⟨0, ⟨"app.ev\"ents", none⟩⟩
    scheduled.compile .postgres = .ok scheduledStatement ∧
    Scope.owners scopes c.table = [e] ∧
    ∃ before after qualifier,
      scheduled.parts .postgres = before ++ .column scopes c :: after ∧
      scheduledStatement.Places .postgres before (c.under .postgres (some qualifier)) after ∧
      ident .postgres qualifier ≠ e.table.reference .postgres := by
  intro scopes c e
  have h : scheduled.compile .postgres = .ok scheduledStatement := by decide +kernel
  refine ⟨h, by decide, [.text "select "], _, c.table, rfl, ?_, by decide +kernel⟩
  exact places_of_compile (p := .column scopes c) h rfl rfl

end Query

end Sql

end SqlBuilder
