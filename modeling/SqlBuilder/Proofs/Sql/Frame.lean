import Mathlib.Tactic.Choose
import SqlBuilder.Proofs.Sql.Flattening
/-!
Writing any part of the query syntax adds to the end of a draft and leaves its scopes as they are, also where the
writing stops. What is added is determined by the part, the number of placeholders and the scopes.
-/
namespace SqlBuilder.Sql

open Writer (Writes)

-- All that is written as a whole, down to single words.
inductive Node where
  | text (s : String)
  | name (part : String)
  | comparison (op : Comparison)
  | conjunction (c : Conjunction)
  | direction (o : Direction)
  | value (v : Value)
  | operand (o : Operand)
  | selection (s : Selection)
  | selections (whole : Bool) (table : TableRef) (selections : List Selection)
  | table (t : TableRef)
  | order (o : Order)
  | expr (e : Expr)
  | condition (c : Condition)
  | conditions (cs : List Clause)
  | join (j : Join)
  | cte (c : Cte)
  | page (p : Page)
  | assignment (column : String) (e : Expr)
  | cell (row : Assignments) (column : String)
  | row (columns : List String) (row : Assignments)
  | verb (q : Insert)
  | rows (q : Insert)
  | conflict (q : Insert)
  | query (q : Query)
  | list (separator : String) (nodes : List Node)

mutual

def Node.write (d : Dialect) : Node → Writer
  | .text s => Writer.text s
  | .name part => Writer.text (ident d part)
  | .comparison op => Writer.text (op.text d)
  | .conjunction c => Writer.text c.text
  | .direction o => Writer.text o.text
  | .value v => Writer.param d v
  | .operand o => o.write d
  | .selection s => s.write d
  | .selections whole t ss => writeSelections d whole t ss
  | .table t => Writer.text (t.text d)
  | .order o => o.write d
  | .expr e => e.write d
  | .condition c => c.write d
  | .conditions cs => Writer.joined (Clause.writers d cs)
  | .join j => j.write d
  | .cte c => c.write d
  | .page p => Writer.text (pageText d p)
  | .assignment column e => writeSet d column e
  | .cell as column => writeCell d as column
  | .row columns as => writeRow d columns as
  | .verb q => q.writeVerb d
  | .rows q => q.writeRows d
  | .conflict q => Writer.text (q.conflictText d)
  | .query q => q.write d
  | .list separator nodes => Writer.separated separator (Node.writers d nodes)

def Node.writers (d : Dialect) : List Node → List Writer
  | [] => []
  | node :: nodes => node.write d :: Node.writers d nodes

end

-- What is added to a draft, and why nothing follows it.
structure Addition where
  text : String
  values : List Value
  fault? : Option Error

namespace Addition

def after (a : Addition) (draft : Draft) : Draft where
  sql := draft.sql ++ a.text
  params := draft.params ++ a.values
  placeholders := draft.placeholders + a.values.length
  scopes := draft.scopes
  fault? := a.fault?.or draft.fault?

-- How writing ends that adds this to a draft.
def onto (a : Addition) (draft : Draft) : EStateM.Result Unit Draft Unit :=
  match a.fault? with
  | none => .ok () (a.after draft)
  | some _ => .error () (a.after draft)

end Addition

-- The drafts that writing comes to from an empty one. Nodes are written, to their end or up to a fault, and scopes are
-- opened and closed around them.
inductive Reached (d : Dialect) : Draft → Prop
  | fresh : Reached d {}
  | written {draft after : Draft} (node : Node) : Reached d draft → node.write d draft = .ok () after → Reached d after
  | stopped {draft after : Draft} (node : Node) : Reached d draft → node.write d draft = .error () after →
    Reached d after
  | opened {draft : Draft} (s : Scope) : Reached d draft → Reached d { draft with scopes := s :: draft.scopes }
  | closed {draft : Draft} : Reached d draft → Reached d { draft with scopes := draft.scopes.tail }

variable {d : Dialect} {scopes : List Scope} {draft after : Draft} {w : Writer} {a : Addition} {ps : List Piece}

-- The first fault ends what pieces add to a draft with `n` placeholders.
def Piece.addition (d : Dialect) (n : Nat) (ps : List Piece) : Addition where
  text := numbered d (n + 1) (beforeFault ps)
  values := values (beforeFault ps)
  fault? := firstFault? ps

theorem Piece.beforeFault_of_none (h : firstFault? ps = none) : beforeFault ps = ps :=
  List.takeWhile_eq_self_iff.mpr (isNone_fault? h)

theorem Writer.put_eq_onto : put d ps draft = (Piece.addition d draft.placeholders ps).onto draft := by
  rw [put, Addition.onto, Addition.after, Piece.addition]
  cases hf : Piece.firstFault? ps with
  | none => simp [Draft.extend, Piece.beforeFault_of_none hf]
  | some e => simp [Draft.halt, Draft.extend]

theorem Writer.exists_addition (h : ∀ scopes, ∃ ps, Writes d scopes w ps) :
    ∃ added : Nat → List Scope → Addition, ∀ draft, w draft = (added draft.placeholders draft.scopes).onto draft := by
  choose ps hps using h
  exact ⟨fun n scopes => Piece.addition d n (Part.allPieces d (ps scopes)),
    fun draft => (hps draft.scopes draft rfl).trans Writer.put_eq_onto⟩

theorem Writer.Writes.exists_map {α : Type} {f : α → Writer} (h : ∀ x, ∃ ps, Writes d scopes (f x) ps) (xs : List α) :
    ∃ pss, List.Forall₂ (Writes d scopes) (xs.map f) pss := by
  choose g hg using h
  exact ⟨xs.map g, map hg xs⟩

variable (d scopes)

theorem Join.exists_writes (j : Join) : ∃ ps, Writes d scopes (j.write d) ps := by
  obtain ⟨table, on⟩ := j
  have ht := (Writes.text " inner join ").append (table.writes d scopes)
  rw [Join.write]
  exact ⟨_, ht.bind (Writes.clause " on " "" (Clause.writes_each d scopes on))⟩

theorem Cte.exists_writes (c : Cte) : ∃ ps, Writes d scopes (c.write d) ps := by
  obtain ⟨ps, _, h, -⟩ := List.forall₂_cons_left_iff.mp (Cte.writes_each d scopes [c])
  exact ⟨ps, h⟩

namespace Insert

theorem exists_cell_writes (row : Assignments) (column : String) :
    ∃ ps, Writes d scopes (writeCell d row column) ps := by
  unfold writeCell
  cases row.get? column with
  | none => exact ⟨_, Writes.text _⟩
  | some e => exact ⟨_, e.writes d scopes⟩

theorem exists_row_writes (columns : List String) (row : Assignments) :
    ∃ ps, Writes d scopes (writeRow d columns row) ps := by
  obtain ⟨pss, h⟩ := Writes.exists_map (exists_cell_writes d scopes row) columns
  exact ⟨_, ((Writes.separated ", " h).bind (Writes.text ")")).lead "("⟩

theorem exists_defaults_writes (rows : List Assignments) : ∃ ps, Writes d scopes (writeDefaults d rows) ps := by
  unfold writeDefaults
  split
  · exact ⟨_, Writes.text _⟩
  · exact ⟨_, Writes.text _⟩
  · exact ⟨_, Writes.fault _⟩

theorem exists_rows_writes (q : Insert) : ∃ ps, Writes d scopes (q.writeRows d) ps := by
  obtain ⟨pss, h⟩ := Writes.exists_map (exists_row_writes d scopes q.columns) q.rows
  unfold writeRows
  split
  · exact exists_defaults_writes d scopes q.rows
  · exact ⟨_, (Writes.separated ", " h).lead _⟩

theorem exists_verb_writes (q : Insert) : ∃ ps, Writes d scopes (q.writeVerb d) ps := by
  unfold writeVerb
  split
  · exact ⟨_, Writes.fault _⟩
  · exact ⟨_, Writes.text _⟩

theorem exists_writes (q : Insert) : ∃ ps, Writes d scopes (q.write d) ps := by
  have hc := Writes.listClause "with " " " (Cte.writes_each d scopes q.ctes)
  obtain ⟨_, hv⟩ := q.exists_verb_writes d scopes
  obtain ⟨_, hr⟩ := q.exists_rows_writes d scopes
  unfold Insert.write
  split
  · exact ⟨_, Writes.fault _⟩
  · exact ⟨_, hc.bind (hv.bind ((hr.bind (Writes.text _)).lead _))⟩

end Insert

theorem Update.exists_writes (q : Update) : ∃ ps, Writes d scopes (q.write d) ps := by
  have hc := Writes.listClause "with " " " (Cte.writes_each d scopes q.ctes)
  have hs := Writes.separated ", " (Writes.map (writeSet_writes d ([q.table] :: scopes)) q.sets)
  have hf := Writes.clause " where " "" (Clause.writes_each d ([q.table] :: scopes) q.filter)
  unfold Update.write
  split
  · exact ⟨_, Writes.fault _⟩
  · exact ⟨_, hc.bind ((hs.bind hf).lead _).inScope⟩

theorem Delete.exists_writes (q : Delete) : ∃ ps, Writes d scopes (q.write d) ps := by
  have hc := Writes.listClause "with " " " (Cte.writes_each d scopes q.ctes)
  have hf := Writes.clause " where " "" (Clause.writes_each d ([q.table] :: scopes) q.filter)
  exact ⟨_, hc.bind (hf.lead _).inScope⟩

theorem Query.exists_writes (q : Query) : ∃ ps, Writes d scopes (q.write d) ps := by
  cases q with
  | select q => exact ⟨_, q.writes d scopes⟩
  | insert q => exact q.exists_writes d scopes
  | update q => exact q.exists_writes d scopes
  | delete q => exact q.exists_writes d scopes

-- What is left of the induction over the syntax, which `Select.writes` and its kin have for all that can be nested.
mutual

theorem Node.exists_writes (d : Dialect) (scopes : List Scope) :
    (node : Node) → ∃ ps, Writes d scopes (node.write d) ps
  | .text _ => ⟨_, Writes.text _⟩
  | .name _ => ⟨_, Writes.text _⟩
  | .comparison _ => ⟨_, Writes.text _⟩
  | .conjunction _ => ⟨_, Writes.text _⟩
  | .direction _ => ⟨_, Writes.text _⟩
  | .table _ => ⟨_, Writes.text _⟩
  | .page _ => ⟨_, Writes.text _⟩
  | .conflict _ => ⟨_, Writes.text _⟩
  | .value v => ⟨_, Writes.value v⟩
  | .operand o => ⟨_, o.writes d scopes⟩
  | .selection s => ⟨_, s.writes d scopes⟩
  | .selections whole t ss => ⟨_, selectionParts_writes d scopes whole t ss⟩
  | .order o => ⟨_, o.writes d scopes⟩
  | .expr e => ⟨_, e.writes d scopes⟩
  | .condition c => ⟨_, c.writes d scopes⟩
  | .conditions cs => ⟨_, Writes.joined (Clause.writes_each d scopes cs)⟩
  | .join j => j.exists_writes d scopes
  | .cte c => c.exists_writes d scopes
  | .assignment column e => ⟨_, writeSet_writes d scopes (column, e)⟩
  | .cell as column => Insert.exists_cell_writes d scopes as column
  | .row columns as => Insert.exists_row_writes d scopes columns as
  | .verb q => q.exists_verb_writes d scopes
  | .rows q => q.exists_rows_writes d scopes
  | .query q => q.exists_writes d scopes
  | .list separator nodes =>
    have ⟨_, h⟩ := Node.exists_writes_each d scopes nodes
    ⟨_, Writes.separated separator h⟩

theorem Node.exists_writes_each (d : Dialect) (scopes : List Scope) :
    (nodes : List Node) → ∃ pss, List.Forall₂ (Writes d scopes) (Node.writers d nodes) pss
  | [] => ⟨[], .nil⟩
  | node :: nodes =>
    have ⟨ps, h⟩ := Node.exists_writes d scopes node
    have ⟨pss, hs⟩ := Node.exists_writes_each d scopes nodes
    ⟨ps :: pss, .cons h hs⟩

end

variable {d scopes}

namespace Addition

theorem eq_after (h : a.onto draft = .ok () after ∨ a.onto draft = .error () after) : after = a.after draft := by
  unfold onto at h
  split at h <;> simpa [eq_comm] using h

-- Each value that is added is counted.
theorem after_counted (h : draft.placeholders = draft.params.length) :
    (a.after draft).placeholders = (a.after draft).params.length := by
  simp [after, h]

end Addition

theorem Node.exists_addition (d : Dialect) (node : Node) : ∃ added : Nat → List Scope → Addition,
    ∀ draft, node.write d draft = (added draft.placeholders draft.scopes).onto draft :=
  Writer.exists_addition fun scopes => node.exists_writes d scopes

theorem Node.write_counted {node : Node} (h : node.write d draft = .ok () after ∨ node.write d draft = .error () after)
    (hd : draft.placeholders = draft.params.length) : after.placeholders = after.params.length := by
  obtain ⟨added, hadded⟩ := node.exists_addition d
  rw [hadded] at h
  rw [Addition.eq_after h]
  exact Addition.after_counted hd

theorem Reached.counted (h : Reached d draft) : draft.placeholders = draft.params.length := by
  induction h with
  | fresh => rfl
  | written node _ hw ih => exact Node.write_counted (.inl hw) ih
  | stopped node _ hw ih => exact Node.write_counted (.inr hw) ih
  | opened _ _ ih => exact ih
  | closed _ ih => exact ih

-- Writing is a frame: whatever stands in a draft, a node adds to its end what the placeholders and scopes determine,
-- and where drafts begin empty there is one placeholder for each parameter.
theorem writing_frames (d : Dialect) :
    (∀ node : Node, ∃ added : Nat → List Scope → Addition,
      ∀ draft, node.write d draft = (added draft.placeholders draft.scopes).onto draft) ∧
    ∀ draft, Reached d draft → draft.placeholders = draft.params.length :=
  ⟨fun node => node.exists_addition d, fun _ => Reached.counted⟩

-- An update whose subquery has too few binds, so that its writing stops inside two scopes of its own.
def stopping : Node := .query (.update {
  ctes := []
  table := ⟨"person", none⟩
  sets := [("age", .value (.i32 30)), ("pets", .subquery (petsOf ⟨"owner = ? and tag = ?", [.i32 1]⟩))]
  filter := [] })
where
  petsOf (r : Raw) : Select := {
    ctes := []
    distinct := false
    whole := false
    selections := []
    table := ⟨"pet", none⟩
    joins := []
    filter := [⟨.and, .raw r⟩]
    groups := []
    order := []
    page := {} }

theorem stopping_counted : ∃ draft after, Reached .mysql draft ∧ stopping.write .mysql draft = .error () after ∧
    draft.params = [.null] ∧ draft.scopes = [[⟨"person", some "p"⟩]] ∧ after.scopes = draft.scopes ∧
    after.placeholders = after.params.length := by
  obtain ⟨hframe, hcounted⟩ := writing_frames .mysql
  obtain ⟨added, hadded⟩ := hframe stopping
  let draft : Draft := { sql := "?", params := [.null], placeholders := 1, scopes := [[⟨"person", some "p"⟩]] }
  have hvalue : (Node.value .null).write .mysql {} = .ok () { sql := "?", params := [.null], placeholders := 1 } := rfl
  have hreached : Reached .mysql draft := .opened [⟨"person", some "p"⟩] (.written (.value .null) .fresh hvalue)
  have hstop : (stopping.write .mysql).run' draft = none := by decide +kernel
  cases hw : stopping.write .mysql draft with
  | ok _ after =>
    delta EStateM.run' EStateM.run at hstop
    rw [hw] at hstop
    cases hstop
  | error _ after =>
    have hafter : after = (added draft.placeholders draft.scopes).after draft :=
      Addition.eq_after (.inr ((hadded draft).symm.trans hw))
    exact ⟨draft, after, hreached, hw, rfl, rfl, hafter ▸ rfl, hcounted after (.stopped stopping hreached hw)⟩

end SqlBuilder.Sql
