import SqlBuilder.Proofs.Sql.Placement
/-!
Closed selects. More from-lists around a select change what it writes only where one of its columns belongs
to them, and so a select all of whose columns belong to from-lists of its own is written everywhere as it is
written alone, under other numbers.
-/
namespace SqlBuilder.Sql

variable {d : Dialect} {scopes : List Scope}

-- The same part with more from-lists around it.
def Part.within (outer : List Scope) : Part → Part
  | text s => text s
  | name part => name part
  | column scopes c => column (scopes ++ outer) c
  | raw r => raw r
  | value v => value v
  | fault e => fault e

@[simp] theorem Part.keeps_within (outer : List Scope) : Keeps (within outer) :=
  ⟨fun _ => rfl, fun _ => rfl⟩

section

variable (outer : List Scope)

theorem Operand.parts_append (scopes : List Scope) :
    Operand.parts (scopes ++ outer) = fun o => (o.parts scopes).map (Part.within outer) := by
  funext o
  cases o <;> rfl

theorem Selection.parts_append (scopes : List Scope) :
    Selection.parts (scopes ++ outer) = fun s => (s.parts scopes).map (Part.within outer) := by
  funext s
  simp [parts, Operand.parts_append]

theorem Order.parts_append (scopes : List Scope) :
    Order.parts d (scopes ++ outer) = fun o => (o.parts d scopes).map (Part.within outer) := by
  funext o
  cases o <;> simp [parts, Operand.parts_append, Part.within]

theorem selectionParts_append (scopes : List Scope) (whole : Bool) (table : TableRef)
    (selections : List Selection) : selectionParts (scopes ++ outer) whole table selections =
      (selectionParts scopes whole table selections).map (Part.within outer) := by
  unfold selectionParts
  split
  case isTrue => split <;> rfl
  case isFalse => simp [Function.comp_def, Selection.parts_append]

theorem map_orderParts (selections : List Selection) (order : List Order) :
    (orderParts selections order).map (Part.within outer) = orderParts selections order := by
  unfold orderParts
  cases unselected? selections order <;> rfl

mutual

theorem Expr.parts_append (scopes : List Scope) :
    (e : Expr) → e.parts d (scopes ++ outer) = (e.parts d scopes).map (Part.within outer)
  | .operand o => by simp only [Expr.parts, Operand.parts_append]
  | .value v => rfl
  | .subquery q => by simp [Expr.parts, q.parts_append scopes, Part.within]

theorem Expr.partsEach_append (scopes : List Scope) : (es : List Expr) →
    Expr.partsEach d (scopes ++ outer) es = (Expr.partsEach d scopes es).map (List.map (Part.within outer))
  | [] => rfl
  | e :: es => by
    simp only [Expr.partsEach, e.parts_append scopes, Expr.partsEach_append scopes es, List.map_cons]

theorem Condition.parts_append (scopes : List Scope) :
    (c : Condition) → c.parts d (scopes ++ outer) = (c.parts d scopes).map (Part.within outer)
  | .compare left op right => by
    simp [Condition.parts, Operand.parts_append, right.parts_append scopes, Part.within]
  | .isNull left negated => by simp [Condition.parts, Operand.parts_append, Part.within]
  | .between left negated low high => by
    simp [Condition.parts, Operand.parts_append, low.parts_append scopes, high.parts_append scopes, Part.within]
  | .member left negated values => by
    simp only [Condition.parts]
    split
    case isTrue => rfl
    case isFalse => simp [Operand.parts_append, Expr.partsEach_append scopes values, Part.within]
  | .memberOf left negated q => by
    simp [Condition.parts, Operand.parts_append, q.parts_append scopes, Part.within]
  | .exists negated q => by simp [Condition.parts, q.parts_append scopes, Part.within]
  | .group clauses => by simp [Condition.parts, Clause.partsEach_append scopes clauses, Part.within]
  | .raw r => rfl

theorem Clause.partsEach_append (scopes : List Scope) : (cs : List Clause) →
    Clause.partsEach d (scopes ++ outer) cs =
      (Clause.partsEach d scopes cs).map fun led => (led.1, led.2.map (Part.within outer))
  | [] => rfl
  | ⟨_, condition⟩ :: rest => by
    simp only [Clause.partsEach, condition.parts_append scopes, Clause.partsEach_append scopes rest,
      List.map_cons]

theorem Join.partsAll_append (scopes : List Scope) : (js : List Join) →
    Join.partsAll d (scopes ++ outer) js = (Join.partsAll d scopes js).map (Part.within outer)
  | [] => rfl
  | ⟨_, on⟩ :: rest => by
    simp [Join.partsAll, Clause.partsEach_append scopes on, Join.partsAll_append scopes rest, Part.within]

theorem Cte.partsEach_append (scopes : List Scope) : (cs : List Cte) →
    Cte.partsEach d (scopes ++ outer) cs = (Cte.partsEach d scopes cs).map (List.map (Part.within outer))
  | [] => rfl
  | ⟨_, _, body⟩ :: rest => by
    simp [Cte.partsEach, body.parts_append scopes, Cte.partsEach_append scopes rest, Part.within]

theorem Select.parts_append (scopes : List Scope) :
    (q : Select) → q.parts d (scopes ++ outer) = (q.parts d scopes).map (Part.within outer)
  | ⟨ctes, distinct, whole, selections, table, joins, filter, groups, order, page⟩ => by
    let own : Scope := table :: joins.map Join.table
    have hc := Cte.partsEach_append scopes ctes
    have hj := Join.partsAll_append (own :: scopes) joins
    have hf := Clause.partsEach_append (own :: scopes) filter
    have hs := selectionParts_append outer (own :: scopes) whole table selections
    have hg := Operand.parts_append outer (own :: scopes)
    have ho := Order.parts_append (d := d) outer (own :: scopes)
    rw [List.cons_append] at hj hf hs hg ho
    simp only [Select.parts, own, hc, hj, hf, hs, hg, ho]
    simp [map_orderParts, Part.within, Function.comp_def]

end

end

namespace Scope

variable {table : String} {outer : List Scope}

-- The from-lists around those that have the table are never asked.
theorem qualifier?_append {t : TableRef} (ht : t ∈ scopes.flatten) (outside : Bool) :
    qualifier? t.name outside (scopes ++ outer) = qualifier? t.name outside scopes := by
  induction scopes generalizing outside with
  | nil => cases ht
  | cons s rest ih =>
    rw [List.cons_append, qualifier?, qualifier?]
    cases hf : s.find? (·.name = t.name)
    case some entry => rfl
    case none =>
      have hs : t ∉ s := fun hs => by simpa using List.find?_eq_none.mp hf t hs
      have hr : t ∈ rest.flatten := (List.mem_append.mp ht).resolve_left hs
      exact ih hr true

end Scope

theorem Column.text_append {c : Column} (h : ∃ t ∈ scopes.flatten, t.name = c.table) (outer : List Scope) :
    c.text d (scopes ++ outer) = c.text d scopes := by
  obtain ⟨t, ht, hc⟩ := h
  rw [text, text, ← hc, Scope.qualifier?_append ht]

namespace Select

-- Whether all columns in a select, at any depth, belong to from-lists inside of it that they see.
def Closed (q : Select) : Prop :=
  ∀ l ∈ q.levels [], ∀ c ∈ l.query.columns, ∃ t ∈ l.scopes.flatten, t.name = c.table

instance (q : Select) : Decidable q.Closed :=
  inferInstanceAs (Decidable
    (∀ l ∈ q.levels [], ∀ c ∈ l.query.columns, ∃ t ∈ l.scopes.flatten, t.name = c.table))

variable {q : Select}

-- The pieces of a closed select are the same wherever it stands.
theorem allPieces_of_closed (h : q.Closed) (outer : List Scope) :
    Part.allPieces d (q.parts d outer) = (Query.select q).pieces d := by
  have hp (p : Part) (hp : p ∈ q.parts d []) : (p.within outer).pieces d = p.pieces d := by
    cases p
    case column scopes c =>
      obtain ⟨l, hl, rfl, hc⟩ := (q.column_mem_parts d []).mp hp
      rw [Part.within, Part.pieces, Part.pieces, Column.text_append (h l hl c hc)]
    all_goals rfl
  have ho : q.parts d outer = (q.parts d []).map (Part.within outer) := q.parts_append outer []
  rw [ho, Part.allPieces, List.flatMap_map, Query.pieces, Query.parts, Part.allPieces]
  exact List.flatMap_congr hp

-- A closed select writes its pieces into every draft.
theorem write_of_closed (h : q.Closed) (draft : Draft) :
    q.write d draft = Writer.put d ((Query.select q).pieces d) draft := by
  rw [q.writes d draft.scopes draft rfl, allPieces_of_closed h]

end Select

-- The text of a query in which `n` numbers are given out before its first value gets one.
def Query.textAfter (d : Dialect) (n : Nat) (q : Query) : String := Piece.numbered d (n + 1) (q.pieces d)

namespace Select

-- Whether a select is written into a draft as it is compiled alone.
structure WrittenInto (d : Dialect) (q : Select) (draft : Draft) : Prop where
  -- its values get the numbers that follow those of the draft
  written : ∀ s, (Query.select q).compile d = .ok s → s.sql = (Query.select q).textAfter d 0 ∧
    q.write d draft = .ok () { draft with
      sql := draft.sql ++ (Query.select q).textAfter d draft.placeholders
      params := draft.params ++ s.params
      placeholders := draft.placeholders + s.params.length }
  stopped : ∀ e, (Query.select q).compile d = .error e ↔
    ∃ after, q.write d draft = .error () after ∧ after.fault? = some e

-- Whether a query writes a select, between what it writes before and after it, as the select is compiled
-- alone.
structure WrittenBetween (d : Dialect) (q : Select) (whole : Query) (before after : List Part) : Prop where
  -- its values get the numbers that follow those of the values before it
  written : ∀ s, whole.compile d = .ok s → ∃ s', (Query.select q).compile d = .ok s' ∧
    s'.sql = (Query.select q).textAfter d 0 ∧
    s.sql = Piece.numbered d 1 (Part.allPieces d before) ++
      (Query.select q).textAfter d (Piece.values (Part.allPieces d before)).length ++
      Piece.numbered d ((Piece.values (Part.allPieces d before)).length + s'.params.length + 1)
        (Part.allPieces d after) ∧
    s.params = Piece.values (Part.allPieces d before) ++ s'.params ++ Piece.values (Part.allPieces d after)
  -- what is wrong with it is met where it stands
  stopped : ∀ e, (Query.select q).compile d = .error e →
    Piece.firstFault? (Part.allPieces d before) = none → whole.compile d = .error e
  passed : ∀ s', (Query.select q).compile d = .ok s' → Piece.firstFault? (Part.allPieces d before) = none →
    ∀ e, whole.compile d = .error e ↔ Piece.firstFault? (Part.allPieces d after) = some e

variable {q : Select}

theorem writtenInto_of_closed (h : q.Closed) (draft : Draft) : q.WrittenInto d draft where
  written s hs := by
    obtain ⟨hf, rfl⟩ := Query.eq_of_compile hs
    refine ⟨rfl, ?_⟩
    rw [write_of_closed h, Writer.put, hf]
    rfl
  stopped e := by
    rw [write_of_closed h, Writer.put, Query.compile_eq]
    cases hf : Piece.firstFault? ((Query.select q).pieces d) <;> simp [Draft.halt]

theorem writtenBetween_of_closed (h : q.Closed) {whole : Query} {outer : List Scope} {before after : List Part}
    (hp : whole.parts d = before ++ q.parts d outer ++ after) : q.WrittenBetween d whole before after := by
  have hw : whole.pieces d =
      Part.allPieces d before ++ (Query.select q).pieces d ++ Part.allPieces d after := by
    rw [Query.pieces, hp, ← allPieces_of_closed h outer]
    simp [Part.allPieces]
  have hf : Piece.firstFault? (whole.pieces d) = ((Piece.firstFault? (Part.allPieces d before)).or
      (Piece.firstFault? ((Query.select q).pieces d))).or (Piece.firstFault? (Part.allPieces d after)) := by
    rw [hw, Piece.firstFault?_append, Piece.firstFault?_append]
  refine ⟨fun s hs => ?written, fun e he hb => ?stopped, fun s' hs' hb e => ?passed⟩
  case written =>
    obtain ⟨hn, rfl⟩ := Query.eq_of_compile hs
    rw [hf, Option.or_eq_none_iff, Option.or_eq_none_iff] at hn
    refine ⟨_, by rw [Query.compile_eq, hn.1.2], rfl, ?_, ?_⟩
    · simp [hw, Piece.numbered_append, Query.textAfter, String.append_assoc, Nat.add_comm, Nat.add_assoc]
    · simp [hw]
  case stopped =>
    rw [Query.compile_eq] at he ⊢
    cases hq : Piece.firstFault? ((Query.select q).pieces d)
    case none => simp [hq] at he
    case some e' => simpa [hf, hb, hq] using he
  case passed =>
    obtain ⟨hq, -⟩ := Query.eq_of_compile hs'
    rw [Query.compile_eq, hf, hb, hq]
    cases Piece.firstFault? (Part.allPieces d after) <;> simp

-- A closed select is written in every place as it is compiled alone: into any draft, whatever stands there
-- and whatever from-lists are around, and as a part of any query.
theorem closed_written_alike (h : q.Closed) (d : Dialect) :
    (∀ draft, q.WrittenInto d draft) ∧
    ∀ (whole : Query) (outer : List Scope), whole.Begins → ⟨outer, q⟩ ∈ whole.levels →
      ∃ before after, whole.parts d = before ++ q.parts d outer ++ after ∧
        q.WrittenBetween d whole before after := by
  refine ⟨writtenInto_of_closed h, fun whole outer hb hl => ?_⟩
  obtain ⟨before, after, hp⟩ := Query.infix_parts (d := d) hb hl
  exact ⟨before, after, hp.symm, writtenBetween_of_closed h hp.symm⟩

-- A subquery over a table that is also among the tables around it, behind two parameters.
theorem crowded_names_alike :
    let names := Query.crowded.namesOf .null
    let around : List Scope := [[⟨"person", some "p"⟩, ⟨"pet", none⟩]]
    let draft : Draft := { sql := "(", params := [.string "Rex", .i32 1], placeholders := 2, scopes := around }
    names.Closed ∧
    (Query.select names).compile .postgres =
      .ok ⟨"select \"name\" from \"pet\" where \"name\" != $1", [.null], .select⟩ ∧
    names.write .postgres draft = .ok () { draft with
      sql := "(select \"name\" from \"pet\" where \"name\" != $3"
      params := [.string "Rex", .i32 1, .null]
      placeholders := 3 } ∧
    ∃ before after, Query.crowded.parts .postgres = before ++ names.parts .postgres around ++ after ∧
      names.WrittenBetween .postgres Query.crowded before after := by
  intro names around draft
  have hc : names.Closed := by decide +kernel
  have ha : (Query.select names).compile .postgres =
      .ok ⟨"select \"name\" from \"pet\" where \"name\" != $1", [.null], .select⟩ := by decide +kernel
  have hl : ⟨around, names⟩ ∈ Query.crowded.levels := .tail _ (.tail _ (.head _))
  have ⟨hinto, hbetween⟩ := closed_written_alike hc .postgres
  have ht : draft.sql ++ (Query.select names).textAfter .postgres draft.placeholders =
      "(select \"name\" from \"pet\" where \"name\" != $3" := by decide +kernel
  have hw := ((hinto draft).written _ ha).2
  rw [ht] at hw
  exact ⟨hc, ha, hw, hbetween Query.crowded around trivial hl⟩

end Select

end SqlBuilder.Sql
