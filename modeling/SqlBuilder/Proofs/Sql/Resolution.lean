import SqlBuilder.Proofs.Sql.Flattening
import SqlBuilder.Proofs.Sql.Reference
/-!
What the name of a column means where it is written. By the scoping of SQL a qualifier is the visible name
of the innermost entry that has it, and a column without one belongs to the query's own from-list. The
columns of a query are written so that they mean columns of their own tables.
-/
namespace SqlBuilder.Sql

namespace TableRef

-- What an entry of a from-list is called in the query.
def visible (t : TableRef) : String := t.alias?.getD t.name

-- The alias of the first entry is neither the alias nor the table of the second.
def Apart (t u : TableRef) : Prop := ∀ a ∈ t.alias?, u.alias? ≠ some a ∧ u.name ≠ a

instance (t u : TableRef) : Decidable (t.Apart u) :=
  inferInstanceAs (Decidable (∀ a ∈ t.alias?, u.alias? ≠ some a ∧ u.name ≠ a))

theorem visible_ne {t u : TableRef} (htu : t.Apart u) (hut : u.Apart t) (hn : t.name ≠ u.name) :
    t.visible ≠ u.visible := by
  obtain ⟨n, a?⟩ := t
  obtain ⟨m, b?⟩ := u
  cases a? <;> cases b?
  case none.none => exact hn
  case none.some b => exact (hut b rfl).2
  case some.none a => exact fun h => (htu a rfl).2 h.symm
  case some.some a b =>
    have h := (htu a rfl).1
    exact fun hab => h (congrArg some hab.symm)

end TableRef

-- From-lists around a column, the innermost first, in which names are not ambiguous.
structure WellNamed (scopes : List Scope) : Prop where
  -- a from-list has a table once
  once : ∀ s ∈ scopes, (s.map TableRef.name).Nodup
  apart : scopes.flatten.Pairwise fun t u => t.Apart u ∧ u.Apart t

instance (scopes : List Scope) : Decidable (WellNamed scopes) :=
  decidable_of_iff ((∀ s ∈ scopes, (s.map TableRef.name).Nodup) ∧
    scopes.flatten.Pairwise fun t u => t.Apart u ∧ u.Apart t) ⟨fun h => ⟨h.1, h.2⟩, fun h => ⟨h.1, h.2⟩⟩

-- An entry of a from-list, and how many from-lists it is away.
structure Entry where
  depth : Nat
  table : TableRef
  deriving DecidableEq

namespace Scope

-- Of all entries with a property, those in the innermost from-list that has any.
def innermost (p : TableRef → Bool) : List Scope → List Entry
  | [] => []
  | s :: rest =>
    match s.filter p with
    | [] => (innermost p rest).map fun e => ⟨e.depth + 1, e.table⟩
    | found => found.map fun t => ⟨0, t⟩

-- The entries that a column written under a qualifier, or without one, may belong to.
def denoted (scopes : List Scope) : Option String → List Entry
  | some q => innermost (·.visible = q) scopes
  | none => (scopes.headD []).map fun t => ⟨0, t⟩

-- The entries that hold the columns of a table.
def owners (scopes : List Scope) (table : String) : List Entry := innermost (·.name = table) scopes

variable {p : TableRef → Bool} {s : Scope} {scopes rest : List Scope} {table : String} {outer : Bool}

theorem innermost_of_found {t : TableRef} (h : s.filter p = [t]) : innermost p (s :: rest) = [⟨0, t⟩] := by
  rw [innermost, h]
  rfl

theorem innermost_of_missing (h : s.filter p = []) :
    innermost p (s :: rest) = (innermost p rest).map fun e => ⟨e.depth + 1, e.table⟩ := by
  rw [innermost, h]

theorem mem_of_mem_innermost {e : Entry} (h : e ∈ innermost p scopes) :
    e.table ∈ scopes.flatten ∧ p e.table = true := by
  induction scopes generalizing e with
  | nil => cases h
  | cons s rest ih =>
    rw [innermost] at h
    split at h
    case h_1 =>
      obtain ⟨e, he, rfl⟩ := List.mem_map.mp h
      exact ⟨List.mem_append_right _ (ih he).1, (ih he).2⟩
    case h_2 =>
      obtain ⟨t, ht, rfl⟩ := List.mem_map.mp h
      have hs := List.mem_filter.mp ht
      exact ⟨List.mem_append_left _ hs.1, hs.2⟩

theorem innermost_ne_nil {t : TableRef} (ht : t ∈ scopes.flatten) (hp : p t = true) :
    innermost p scopes ≠ [] := by
  induction scopes with
  | nil => cases ht
  | cons s rest ih =>
    rw [innermost]
    cases hf : s.filter p
    case nil =>
      have hs : t ∉ s := fun hs => List.filter_eq_nil_iff.mp hf t hs hp
      have hr : t ∈ rest.flatten := (List.mem_append.mp ht).resolve_left hs
      simpa using ih hr
    case cons found => simp

end Scope

theorem filter_eq_singleton {f : TableRef → String} {s : Scope} (hn : (s.map f).Nodup) {t : TableRef}
    (ht : t ∈ s) : s.filter (f · = f t) = [t] := by
  induction s with
  | nil => cases ht
  | cons u s ih =>
    rw [List.map_cons, List.nodup_cons] at hn
    rcases List.mem_cons.mp ht with rfl | ht
    case inl =>
      have hs : s.filter (f · = f t) = [] := by
        rw [List.filter_eq_nil_iff]
        intro v hv hf
        exact hn.1 (List.mem_map.mpr ⟨v, hv, by simpa using hf⟩)
      simp [hs]
    case inr =>
      have hu : f u ≠ f t := fun h => hn.1 (List.mem_map.mpr ⟨t, ht, h.symm⟩)
      rw [List.filter_cons_of_neg (by simpa using hu)]
      exact ih hn.2 ht

namespace WellNamed

variable {s : Scope} {scopes rest : List Scope}

theorem split (h : WellNamed (s :: rest)) :
    (s.Pairwise fun t u => t.Apart u ∧ u.Apart t) ∧ WellNamed rest ∧
      ∀ t ∈ s, ∀ u ∈ rest.flatten, t.Apart u ∧ u.Apart t := by
  have ha := h.apart
  rw [List.flatten_cons, List.pairwise_append] at ha
  exact ⟨ha.1, ⟨fun s hs => h.once s (List.mem_cons_of_mem _ hs), ha.2.1⟩, ha.2.2⟩

-- The entries of a from-list differ by their visible names as they do by their tables.
theorem nodup_visible (h : WellNamed (s :: rest)) : (s.map TableRef.visible).Nodup := by
  have hn : s.Pairwise fun t u => t.name ≠ u.name := List.pairwise_map.mp (h.once s List.mem_cons_self)
  apply List.pairwise_map.mpr
  exact (hn.and h.split.1).imp fun ⟨hn, htu, hut⟩ => TableRef.visible_ne htu hut hn

-- The innermost entry of a table is one, and the one that its visible name denotes.
theorem owners_eq (h : WellNamed scopes) {t : TableRef} (ht : t ∈ scopes.flatten) :
    ∃ e, Scope.owners scopes t.name = [e] ∧ Scope.denoted scopes (some e.table.visible) = [e] := by
  induction scopes with
  | nil => cases ht
  | cons s rest ih =>
    by_cases hs : ∃ u ∈ s, u.name = t.name
    case pos =>
      obtain ⟨u, hu, hut⟩ := hs
      have hn := filter_eq_singleton (h.once s List.mem_cons_self) hu
      have hv := filter_eq_singleton h.nodup_visible hu
      exact ⟨⟨0, u⟩, hut ▸ Scope.innermost_of_found hn, Scope.innermost_of_found hv⟩
    case neg =>
      obtain ⟨-, hw, hcross⟩ := h.split
      have hr : t ∈ rest.flatten := by
        rcases List.mem_append.mp ht with ht | ht
        case inl => exact absurd ⟨t, ht, rfl⟩ hs
        case inr => exact ht
      obtain ⟨e, ho, hd⟩ := ih hw hr
      have he : e.table ∈ rest.flatten ∧ e.table.name = t.name := by
        have h := Scope.mem_of_mem_innermost (ho ▸ List.mem_singleton_self e)
        simpa using h
      -- no entry here is of the table, and so none goes by the name of its entry further out
      have hn : s.filter (·.name = t.name) = [] := by
        rw [List.filter_eq_nil_iff]
        exact fun u hu h => hs ⟨u, hu, by simpa using h⟩
      have hv : s.filter (·.visible = e.table.visible) = [] := by
        rw [List.filter_eq_nil_iff]
        intro u hu huv
        obtain ⟨hue, heu⟩ := hcross u hu e.table he.1
        have hne : u.name ≠ e.table.name := fun h => hs ⟨u, hu, h.trans he.2⟩
        exact TableRef.visible_ne hue heu hne (by simpa using huv)
      refine ⟨⟨e.depth + 1, e.table⟩, ?_, ?_⟩
      · rw [Scope.owners, Scope.innermost_of_missing hn, ← Scope.owners, ho, List.map_singleton]
      · rw [Scope.denoted, Scope.innermost_of_missing hv, ← Scope.denoted.eq_1, hd, List.map_singleton]

end WellNamed

namespace Scope

variable {table : String} {outer : Bool} {scopes : List Scope}

theorem owners_alone {rest : List Scope} :
    owners ([⟨table, none⟩] :: rest) table = [⟨0, ⟨table, none⟩⟩] :=
  innermost_of_found (by simp)

-- Columns are only bare where their table is the only one and has no alias.
theorem eq_of_qualifier?_eq_none (h : qualifier? table outer scopes = none) :
    outer = false ∧ ∃ rest, scopes = [⟨table, none⟩] :: rest := by
  induction scopes generalizing outer with
  | nil => cases h
  | cons s rest ih =>
    rw [qualifier?] at h
    cases hf : s.find? (·.name = table)
    case none =>
      rw [hf] at h
      exact Bool.noConfusion (ih h).1
    case some t =>
      rw [hf] at h
      obtain ⟨n, alias?⟩ := t
      cases alias?
      case some a => cases h
      case none =>
        have hq : s.qualifies = false ∧ outer = false := by simpa using h
        have ht : n = table := by simpa using List.find?_some hf
        have hl : s.length ≤ 1 := by
          have hn := hq.1
          simp only [qualifies, Bool.or_eq_false_iff, decide_eq_false_iff_not] at hn
          omega
        match s, hl with
        | [u], _ =>
          have hu : u = ⟨n, none⟩ := (List.mem_singleton.mp (List.mem_of_find?_eq_some hf)).symm
          exact ⟨hq.2, rest, by rw [hu, ht]⟩
        | [], _ => cases hf

-- Any qualifier is the visible name of the innermost entry of the table, the first if there are several.
theorem eq_visible_of_qualifier? {q : String} {e : Entry} (h : qualifier? table outer scopes = some q)
    (ho : (owners scopes table).head? = some e) : q = e.table.visible := by
  induction scopes generalizing outer e with
  | nil => cases ho
  | cons s rest ih =>
    rw [qualifier?, ← List.head?_filter] at h
    cases hf : s.filter (·.name = table)
    case nil =>
      rw [hf] at h
      rw [owners, innermost_of_missing hf, List.head?_map, Option.map_eq_some_iff] at ho
      obtain ⟨e, he, rfl⟩ := ho
      have hv := ih h he
      exact hv
    case cons t ts =>
      have ht : t.name = table := by
        have hm : t ∈ s.filter (·.name = table) := hf ▸ List.mem_cons_self
        simpa using (List.mem_filter.mp hm).2
      rw [hf] at h
      rw [owners, innermost, hf] at ho
      obtain rfl := Option.some.inj ho
      obtain ⟨n, alias?⟩ := t
      cases alias?
      case none =>
        have hq : table = q := by
          dsimp only [List.head?_cons] at h
          split at h
          case isTrue => exact Option.some.inj h
          case isFalse => cases h
        exact hq ▸ ht.symm
      case some a => exact (Option.some.inj h).symm

end Scope

-- What a column means where it is written with a qualifier, or without one, inside from-lists.
structure Column.Resolved (c : Column) (scopes : List Scope) (qualifier? : Option String) : Prop where
  -- the column belongs to the innermost entry of its table, if there is one
  own : ∀ t ∈ scopes.flatten, t.name = c.table →
    ∃ e, Scope.owners scopes c.table = [e] ∧ Scope.denoted scopes qualifier? = [e]
  -- columns of outer queries are qualified
  outer : ∀ e ∈ Scope.owners scopes c.table, 0 < e.depth → qualifier?.isSome
  bare : qualifier? = none → ∃ rest, scopes = [⟨c.table, none⟩] :: rest

theorem Column.resolved {scopes : List Scope} (h : WellNamed scopes) (c : Column) :
    c.Resolved scopes (Scope.qualifier? c.table false scopes) where
  own := by
    rintro t ht hc
    obtain ⟨e, ho, hd⟩ := h.owners_eq ht
    rw [hc] at ho
    cases hq : Scope.qualifier? c.table false scopes
    case none =>
      obtain ⟨-, rest, rfl⟩ := Scope.eq_of_qualifier?_eq_none hq
      exact ⟨_, Scope.owners_alone, rfl⟩
    case some q =>
      have hf : (Scope.owners scopes c.table).head? = some e := by rw [ho, List.head?_cons]
      obtain rfl := Scope.eq_visible_of_qualifier? hq hf
      exact ⟨e, ho, hd⟩
  outer := by
    intro e he hd
    cases hq : Scope.qualifier? c.table false scopes
    case none =>
      obtain ⟨-, rest, rfl⟩ := Scope.eq_of_qualifier?_eq_none hq
      rw [Scope.owners_alone, List.mem_singleton] at he
      subst he
      exact absurd hd (Nat.lt_irrefl 0)
    case some q => rfl
  bare hq := (Scope.eq_of_qualifier?_eq_none hq).2

-- A column under a qualifier or without one.
def Column.under (d : Dialect) (qualifier? : Option String) (c : Column) : String :=
  match qualifier? with
  | some q => ident d q ++ "." ++ ident d c.name
  | none => ident d c.name

-- Whether a statement consists of what is written before, of a text and of what is written after it.
def Statement.Places (s : Statement) (d : Dialect) (before : List Part) (text : String)
    (after : List Part) : Prop :=
  s.sql = Piece.numbered d 1 (Part.allPieces d before) ++ text ++
    Piece.numbered d (1 + (Piece.values (Part.allPieces d before)).length) (Part.allPieces d after)

theorem Level.owners_table {l : Level} (h : WellNamed l.scopes) :
    Scope.owners l.scopes l.query.table.name = [⟨0, l.query.table⟩] :=
  Scope.innermost_of_found (filter_eq_singleton (h.once l.query.fromList List.mem_cons_self) List.mem_cons_self)

namespace Query

variable {d : Dialect} {q : Query} {s : Statement}

-- The from-lists that columns of a query see, the innermost first: those of its selects at any depth, and
-- of the query itself.
def visibilities (q : Query) : List (List Scope) := q.scopes :: q.levels.map Level.scopes

theorem mem_visibilities {r : List Scope × Column} (h : Refers q.scopes q.columns q.levels r) :
    r.1 ∈ q.visibilities := by
  rcases h with ⟨h, -⟩ | ⟨l, hl, h, -⟩
  case inl => exact h ▸ List.mem_cons_self
  case inr => exact h ▸ List.mem_cons_of_mem _ (List.mem_map_of_mem hl)

theorem fault_notMem_parts (h : q.compile d = .ok s) : ∀ e, .fault e ∉ q.parts d := by
  intro e he
  have hf := Piece.firstFault?_eq_none_iff.mp (eq_of_compile h).1
  exact hf e (List.mem_flatMap.mpr ⟨_, he, List.mem_singleton_self _⟩)

theorem places_of_compile (h : q.compile d = .ok s) {before after : List Part} {p : Part}
    (hp : q.parts d = before ++ p :: after) {text : String} (ht : p.pieces d = [.text text]) :
    s.Places d before text after := by
  obtain ⟨-, rfl⟩ := eq_of_compile h
  simp [Statement.Places, pieces, hp, Part.allPieces, ht, Piece.numbered_append, Piece.numbered,
    String.append_assoc]

-- When names are not ambiguous, every column is written so that it means the innermost entry of its table
-- in the from-lists that it sees, and the star of a select means its first table.
theorem columns_resolve (h : q.compile d = .ok s) (hn : ∀ scopes ∈ q.visibilities, WellNamed scopes) :
    (∀ r, Refers q.scopes q.columns q.levels r → .column r.1 r.2 ∈ q.parts d) ∧
    (∀ before scopes c after, q.parts d = before ++ .column scopes c :: after →
      Refers q.scopes q.columns q.levels (scopes, c) ∧
      ∃ qualifier?, s.Places d before (c.under d qualifier?) after ∧ c.Resolved scopes qualifier?) ∧
    (∀ l ∈ q.levels, l.query.whole = true → l.query.selections = [] →
      ∃ before after qualifier?,
        q.parts d = before ++ .column l.scopes ⟨l.query.table.name, "*"⟩ :: after ∧
        s.Places d before (Column.under d qualifier? ⟨l.query.table.name, "*"⟩) after ∧
        Scope.denoted l.scopes qualifier? = [⟨0, l.query.table⟩]) := by
  have hf := fault_notMem_parts h
  refine ⟨fun r hr => (q.column_mem_parts hf).mpr hr, ?written, ?star⟩
  case written =>
    intro before scopes c after hp
    have hm : .column scopes c ∈ q.parts d := hp ▸ List.mem_append_right _ List.mem_cons_self
    have hr := (q.column_mem_parts hf).mp hm
    have hw := hn scopes (mem_visibilities hr)
    exact ⟨hr, _, places_of_compile h hp rfl, c.resolved hw⟩
  case star =>
    intro l hl hwhole hselections
    have hc : (⟨l.query.table.name, "*"⟩ : Column) ∈ l.query.columns := by
      simp [Select.columns, Select.selected, hwhole, hselections]
    have hm := (q.column_mem_parts hf).mpr (.inr ⟨l, hl, rfl, hc⟩)
    obtain ⟨before, after, hp⟩ := List.append_of_mem hm
    have hw := hn l.scopes (List.mem_cons_of_mem _ (List.mem_map_of_mem hl))
    have ho := l.owners_table hw
    obtain ⟨e, he, hd⟩ := (Column.resolved hw ⟨l.query.table.name, "*"⟩).own l.query.table
      (List.mem_append_left _ List.mem_cons_self) rfl
    cases ho.symm.trans he
    exact ⟨before, after, _, hp, places_of_compile h hp rfl, hd⟩

-- A subquery over one table that refers to both tables of the select around it, one of which has an alias.
def visits : Query := .select {
  ctes := []
  distinct := false
  whole := true
  selections := []
  table := ⟨"person", some "p"⟩
  joins := [⟨⟨"pet", none⟩, [⟨.and, .compare (.column ⟨"pet", "owner_id"⟩) .eq (.operand (.column ⟨"person", "id"⟩))⟩]⟩]
  filter := [⟨.and, .exists false visited⟩]
  groups := []
  order := []
  page := {} }
where
  visited : Select := {
    ctes := []
    distinct := false
    whole := false
    selections := [⟨.column ⟨"visit", "id"⟩, none⟩]
    table := ⟨"visit", none⟩
    joins := []
    filter := [
      ⟨.and, .compare (.column ⟨"visit", "pet_id"⟩) .eq (.operand (.column ⟨"pet", "id"⟩))⟩,
      ⟨.and, .compare (.column ⟨"visit", "payer_id"⟩) .notEq (.operand (.column ⟨"person", "id"⟩))⟩]
    groups := []
    order := []
    page := {} }

def visitsStatement : Statement where
  sql := "select \"p\".* from \"person\" as \"p\" inner join \"pet\" on \"pet\".\"owner_id\" = \"p\".\"id\" where exists (select \"id\" from \"visit\" where \"pet_id\" = \"pet\".\"id\" and \"payer_id\" != \"p\".\"id\")"
  params := []
  kind := .select

-- The last column belongs to the aliased table of the outer select.
theorem visits_resolve :
    let scopes : List Scope := [[⟨"visit", none⟩], [⟨"person", some "p"⟩, ⟨"pet", none⟩]]
    visits.compile .postgres = .ok visitsStatement ∧
    (∀ scopes ∈ visits.visibilities, WellNamed scopes) ∧
    ∃ before after qualifier?,
      visits.parts .postgres = before ++ .column scopes ⟨"person", "id"⟩ :: after ∧
      visitsStatement.Places .postgres before (Column.under .postgres qualifier? ⟨"person", "id"⟩) after ∧
      Scope.denoted scopes qualifier? = [⟨1, ⟨"person", some "p"⟩⟩] := by
  intro scopes
  have h : visits.compile .postgres = .ok visitsStatement := by decide +kernel
  have hn : ∀ scopes ∈ visits.visibilities, WellNamed scopes := by decide +kernel
  have ⟨hmem, hwritten, _⟩ := columns_resolve h hn
  have hr : Refers visits.scopes visits.columns visits.levels (scopes, ⟨"person", "id"⟩) := by
    decide +kernel
  obtain ⟨before, after, hp⟩ := List.append_of_mem (hmem _ hr)
  obtain ⟨-, qualifier?, hs, hc⟩ := hwritten _ _ _ _ hp
  obtain ⟨e, he, hd⟩ := hc.own ⟨"person", some "p"⟩ (by decide) rfl
  have hown : Scope.owners scopes "person" = [⟨1, ⟨"person", some "p"⟩⟩] := by decide
  cases hown.symm.trans he
  exact ⟨h, hn, before, after, qualifier?, hp, hs, hd⟩

end Query

end SqlBuilder.Sql
