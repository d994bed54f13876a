import SqlBuilder.Proofs.Sql.Qualifier
/-!
What the columns that a select is ordered by stand for. A database reads a bare name in `order by` as the output
name of a selection before it reads it as a column, and a column is written as a bare name where its table is
alone in its from-list and has no alias. A selection that goes by the name of the column is sorted by instead.
-/
namespace SqlBuilder.Sql

namespace Select

variable {d : Dialect} {q : Select} {text : String} {c : Column}

-- The selections that the text of an order names.
def named (d : Dialect) (q : Select) (text : String) : List Selection :=
  q.selections.filter fun selection => selection.outputName?.map (ident d) = some text

-- What is sorted by where a column is written as a text: selections come before columns.
def sortedBy (d : Dialect) (q : Select) (text : String) (c : Column) : List Operand :=
  match q.named d text with
  | [] => [.column c]
  | found => found.map Selection.operand

theorem mem_named_ident {selection : Selection} {name : String} : selection ∈ q.named d (ident d name) ↔
    selection ∈ q.selections ∧ selection.outputName? = some name := by
  simp only [named, List.mem_filter, decide_eq_true_eq]
  rw [← Option.map_some, (Option.map_injective (ident_injective d)).eq_iff]

theorem eq_column_of_mem_sortedBy_iff :
    (∀ o ∈ q.sortedBy d text c, o = .column c) ↔
      ∀ selection ∈ q.named d text, selection.operand = .column c := by
  unfold sortedBy
  split
  case h_1 hn => simp [hn]
  case h_2 => exact List.forall_mem_map

end Select

namespace Scope

variable {table : String} {s : Scope} {outer : List Scope}

theorem qualifier?_eq_none_iff : qualifier? table false (s :: outer) = none ↔ s = [⟨table, none⟩] := by
  constructor
  case mp =>
    intro h
    obtain ⟨-, rest, he⟩ := eq_of_qualifier?_eq_none h
    exact (List.cons.inj he).1
  case mpr =>
    rintro rfl
    simp [qualifier?, qualifies]

end Scope

variable {d : Dialect} {l : Level} {c : Column} {name : String}

-- A column is a bare name where its table is alone, and then it is its own name.
theorem Level.text_eq_ident_iff :
    c.text d l.scopes = ident d name ↔ name = c.name ∧ l.query.fromList = [⟨c.table, none⟩] := by
  have hbare : Scope.qualifier? c.table false (l.query.fromList :: l.outer) = none ↔ _ := Scope.qualifier?_eq_none_iff
  rw [← hbare, Column.text, Level.scopes]
  cases Scope.qualifier? c.table false (l.query.fromList :: l.outer)
  case none => simpa using ⟨fun h => (ident_injective d h).symm, fun h => h ▸ rfl⟩
  case some qualifier =>
    have h := ident_ne_intercalate d name qualifier c.name []
    simpa [String.append_assoc] using h.symm

theorem Level.named_text_of_ne (h : l.query.fromList ≠ [⟨c.table, none⟩]) :
    l.query.named d (c.text d l.scopes) = [] := by
  rw [Select.named, List.filter_eq_nil_iff]
  intro selection _ hs
  obtain ⟨name, -, hn⟩ := Option.map_eq_some_iff.mp (of_decide_eq_true hs)
  exact h (Level.text_eq_ident_iff.mp hn.symm).2

theorem Level.infix_order (d : Dialect) (l : Level) :
    Part.listClause " order by " (l.query.order.map (Order.parts d l.scopes)) <:+: l.parts d := by
  obtain ⟨outer, ctes, distinct, whole, selections, table, joins, filter, groups, order, page⟩ := l
  refine List.infix_append_of_infix_right (List.infix_cons ?_)
  refine List.infix_append_of_infix_right (List.infix_cons ?_)
  exact List.infix_append_of_infix_left List.infix_append_right

-- The output name of a selection is that of the column when it is given as an alias or when the columns of two
-- tables are named alike.
theorem Selection.alike {selection : Selection} (h : selection.outputName? = some c.name)
    (hne : selection.operand ≠ .column c) :
    selection.alias? = some c.name ∨ ∃ table ≠ c.table, selection = ⟨.column ⟨table, c.name⟩, none⟩ := by
  obtain ⟨operand, alias?⟩ := selection
  cases alias?
  case some given => exact .inl h
  case none =>
    cases operand
    case raw => cases h
    case column other =>
      obtain ⟨table, name⟩ := other
      obtain rfl : name = c.name := Option.some.inj h
      exact .inr ⟨table, fun ht => hne (ht ▸ rfl), rfl⟩

namespace Query

variable {q : Query} {s : Statement}

-- How a column that a select is ordered by is written, and what a database sorts by there.
structure Orders (d : Dialect) (q : Query) (s : Statement) (l : Level) (c : Column) (direction : Direction) : Prop where
  written : ∃ before after,
    q.parts d = before ++ .column l.scopes c :: .text (" " ++ direction.text) :: after ∧
    s.Places d before (c.text d l.scopes) (.text (" " ++ direction.text) :: after)
  bare : ∀ name, c.text d l.scopes = ident d name ↔ name = c.name ∧ l.query.fromList = [⟨c.table, none⟩]
  -- the column is what is sorted by, unless it is bare and another selection goes by its name
  sorted : (∀ o ∈ l.query.sortedBy d (c.text d l.scopes) c, o = .column c) ↔
    (l.query.fromList = [⟨c.table, none⟩] →
      ∀ selection ∈ l.query.selections, selection.outputName? = some c.name → selection.operand = .column c)
  alike : ∀ selection ∈ l.query.selections, selection.outputName? = some c.name →
    selection.operand ≠ .column c →
    selection.alias? = some c.name ∨ ∃ table ≠ c.table, selection = ⟨.column ⟨table, c.name⟩, none⟩

theorem infix_order (h : q.compile d = .ok s) (hl : l ∈ q.levels) :
    Part.listClause " order by " (l.query.order.map (Order.parts d l.scopes)) <:+: q.parts d :=
  (l.infix_order d).trans (infix_parts (begins_of_compile h) hl)

-- Every column that a select of the query is ordered by is what it is sorted by, but for a bare one with a
-- selection of its name that is not the column.
theorem orders_sort (h : q.compile d = .ok s) : ∀ l ∈ q.levels,
    Part.listClause " order by " (l.query.order.map (Order.parts d l.scopes)) <:+: q.parts d ∧
    ∀ c direction, .operand (.column c) direction ∈ l.query.order → q.Orders d s l c direction := by
  intro l hl
  refine ⟨infix_order h hl, fun c direction ho => ?_⟩
  have hi : Order.parts d l.scopes (.operand (.column c) direction) <:+: q.parts d :=
    (Part.infix_listClause _ _ (List.mem_map_of_mem ho)).trans (infix_order h hl)
  obtain ⟨before, after, hp⟩ := hi
  have hp : q.parts d = before ++ .column l.scopes c :: .text (" " ++ direction.text) :: after := by
    rw [← hp]
    simp [Order.parts, Operand.parts]
  exact {
    written := ⟨before, after, hp, places_of_compile h hp rfl⟩
    bare := fun name => Level.text_eq_ident_iff
    sorted := by
      rw [Select.eq_column_of_mem_sortedBy_iff]
      by_cases hf : l.query.fromList = [⟨c.table, none⟩]
      case pos =>
        have ht : c.text d l.scopes = ident d c.name := Level.text_eq_ident_iff.mpr ⟨rfl, hf⟩
        simp [ht, hf, Select.mem_named_ident]
      case neg => simp [Level.named_text_of_ne hf, hf]
    alike := fun selection _ => Selection.alike }

-- A select of first names as last names, ordered by last names.
def renamed (given? : Option String) : Query := .select (select given?)
where
  select (given? : Option String) : Select := {
    ctes := []
    distinct := false
    whole := false
    selections := [⟨.column ⟨"person", "first_name"⟩, some "last_name"⟩]
    table := ⟨"person", given?⟩
    joins := []
    filter := []
    groups := []
    order := [.operand (.column ⟨"person", "last_name"⟩) .asc]
    page := {} }

def aliasedStatement : Statement where
  sql := "select \"p\".\"first_name\" as \"last_name\" from \"person\" as \"p\" order by \"p\".\"last_name\" asc"
  params := []
  kind := .select

def renamedStatement : Statement where
  sql := "select \"first_name\" as \"last_name\" from \"person\" order by \"last_name\" asc"
  params := []
  kind := .select

-- The column is under the alias of its table, and not what the selection is named.
theorem aliased_sorts_by_column :
    (renamed (some "p")).compile .postgres = .ok aliasedStatement ∧
    ∀ o ∈ (renamed.select (some "p")).sortedBy .postgres "\"p\".\"last_name\"" ⟨"person", "last_name"⟩,
      o = .column ⟨"person", "last_name"⟩ := by
  have h : (renamed (some "p")).compile .postgres = .ok aliasedStatement := by decide +kernel
  obtain ⟨-, ho⟩ := orders_sort h ⟨[], renamed.select (some "p")⟩ List.mem_cons_self
  have hs := (ho ⟨"person", "last_name"⟩ .asc List.mem_cons_self).sorted
  exact ⟨h, hs.mpr fun hf => absurd hf (by decide)⟩

-- Without an alias the table's column is taken for the selection, and first names are sorted by.
theorem renamed_sorts_by_selection :
    let c : Column := ⟨"person", "last_name"⟩
    let selection : Selection := ⟨.column ⟨"person", "first_name"⟩, some "last_name"⟩
    (renamed none).compile .postgres = .ok renamedStatement ∧
    .operand (.column c) .asc ∈ (renamed.select none).order ∧
    selection ∈ (renamed.select none).selections ∧
    c.text .postgres [(renamed.select none).fromList] = ident .postgres "last_name" ∧
    selection.outputName? = some "last_name" ∧ selection.operand ≠ .column c := by
  intro c selection
  have h : (renamed none).compile .postgres = .ok renamedStatement := by decide +kernel
  exact ⟨h, List.mem_cons_self, List.mem_cons_self, by decide +kernel, rfl, by simp [selection, c]⟩

end Query

end SqlBuilder.Sql
