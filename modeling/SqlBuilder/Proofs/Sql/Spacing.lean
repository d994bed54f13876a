import SqlBuilder.Proofs.Sql.Part
import SqlBuilder.Proofs.Text.Decimal
/-!
What stands between the names, columns, raw texts and values that a query writes. There are always words
between two names, columns or raw texts, and so no quotes touch that do not belong together. The words hold
no quotes and nothing that stands for a value, and none that follows a value begins with a digit.
-/
namespace SqlBuilder.Sql

-- A character that neither opens a quoted region nor stands for a value.
def isClean (c : Char) : Bool := !Raw.opensQuote c && c != '?' && c != '$'

theorem isClean_of_isDigit {c : Char} (h : Text.isDigit c = true) : isClean c = true := by
  by_contra hc
  simp only [isClean, Raw.opensQuote, Bool.and_eq_true, Bool.not_eq_true', Bool.or_eq_false_iff, bne_iff_ne,
    decide_eq_false_iff_not, ne_eq, not_and_or, not_not] at hc
  rcases hc with (((rfl | rfl) | rfl) | rfl) | rfl <;> exact absurd h (by decide)

def Clean (s : String) : Prop := ∀ c ∈ s.toList, isClean c = true

instance (s : String) : Decidable (Clean s) := decidable_of_iff (s.toList.all isClean) (by simp [Clean])

-- Characters that do not continue what stands in front of them, be it a region or a number.
def Apart (cs : List Char) : Prop := ∀ c ∈ cs.head?, Raw.opensQuote c = false ∧ Text.isDigit c = false

instance (cs : List Char) : Decidable (Apart cs) :=
  decidable_of_iff (cs.head?.all fun c => !Raw.opensQuote c && !Text.isDigit c) (by cases cs <;> simp [Apart])

-- Text without quotes and placeholders that what stands in front of it does not run on into.
def Plain (s : String) : Prop := Clean s ∧ Apart s.toList

instance (s : String) : Decidable (Plain s) := inferInstanceAs (Decidable (_ ∧ _))

-- Text that keeps apart what stands before it and behind it.
def Word (s : String) : Prop := s ≠ "" ∧ Plain s

instance (s : String) : Decidable (Word s) := inferInstanceAs (Decidable (_ ∧ _))

section

variable {s t : String}

theorem Clean.opensQuote (h : Clean s) : ∀ c ∈ s.toList, Raw.opensQuote c = false := by
  intro c hc
  have := h c hc
  simp_all [isClean]

theorem Clean.append (hs : Clean s) (ht : Clean t) : Clean (s ++ t) := by
  intro c hc
  rw [String.toList_append, List.mem_append] at hc
  exact hc.elim (hs c) (ht c)

theorem clean_decimal (n : Nat) : Clean (Text.decimal n) := by
  intro c hc
  rw [Text.decimal, String.toList_ofList] at hc
  exact isClean_of_isDigit (Text.isDigit_of_mem_digits hc)

theorem Apart.append {cs ds : List Char} (hc : Apart cs) (hd : Apart ds) : Apart (cs ++ ds) := by
  cases cs
  case nil => exact hd
  case cons c cs => exact hc

theorem Plain.append (hs : Plain s) (ht : Plain t) : Plain (s ++ t) :=
  ⟨hs.1.append ht.1, String.toList_append ▸ hs.2.append ht.2⟩

theorem Word.append (hs : Word s) (ht : Clean t) : Plain (s ++ t) := by
  refine ⟨hs.2.1.append ht, ?_⟩
  obtain ⟨c, cs, hc⟩ := List.exists_cons_of_ne_nil (mt String.toList_eq_nil_iff.mp hs.1)
  have ha := hs.2.2
  rw [hc] at ha
  rw [String.toList_append, hc]
  exact ha

theorem Plain.intercalate (hs : Plain s) :
    (ts : List String) → (∀ t ∈ ts, Plain t) → Plain (s.intercalate ts)
  | [], _ => (by decide : Plain "")
  | [t], h => by simpa using h t List.mem_cons_self
  | t :: u :: ts, h => by
    have ih := hs.intercalate (u :: ts) fun v hv => h v (List.mem_cons_of_mem _ hv)
    rw [String.intercalate_cons_cons, String.append_assoc]
    exact (h t List.mem_cons_self).append (hs.append ih)

end

-- What stands for a value opens no region and is no part of one.
theorem opensQuote_mark (d : Dialect) (n : Nat) : ∀ c ∈ (Piece.mark d n).toList, Raw.opensQuote c = false := by
  have hn : ∀ c ∈ n.repr.toList, Raw.opensQuote c = false :=
    (Text.decimal_eq_repr n ▸ clean_decimal n : Clean n.repr).opensQuote
  have hsign : ∀ c ∈ ['$', '?'], Raw.opensQuote c = false := by simp [Raw.opensQuote]
  intro c hc
  cases d
  case mysql => exact hsign c (by simp_all [Piece.mark])
  all_goals
    rw [Piece.mark, String.toList_append, List.mem_append] at hc
    exact hc.elim (fun h => hsign c (by simp_all)) (hn c)

theorem apart_mark_append (d : Dialect) (n : Nat) (rest : List Char) :
    Apart ((Piece.mark d n).toList ++ rest) := by
  intro c hc
  cases d <;> simp [Piece.mark] at hc <;> exact hc ▸ (by decide)

namespace Part

-- Whether names, columns and raw texts only stand behind words, and no text continues what stands in
-- front of it. `free` tells whether there is a word in front of the first part. What stands behind a fault
-- is never written.
def Spaced (free : Bool) : List Part → Prop
  | [] => True
  | text s :: ps => Clean s ∧ (free = true ∨ Apart s.toList) ∧ Spaced (free || s != "") ps
  | value _ :: ps => Spaced false ps
  | fault _ :: _ => True
  | name _ :: ps => free = true ∧ Spaced false ps
  | column _ _ :: ps => free = true ∧ Spaced false ps
  | raw _ :: ps => free = true ∧ Spaced false ps

namespace Spaced

variable {free : Bool} {ps qs : List Part} {s : String}

-- Parts that need no word in front of them may have one.
theorem loose (h : Spaced false ps) : Spaced free ps := by
  induction ps with
  | nil => trivial
  | cons p ps ih =>
    cases p
    case text s =>
      refine ⟨h.1, .inr (h.2.1.resolve_left Bool.false_ne_true), ?_⟩
      have hs := h.2.2
      cases free
      case false => exact hs
      case true =>
        cases hn : s != ""
        case false => exact ih (by simpa [hn] using hs)
        case true => simpa [hn] using hs
    case value v => exact h
    case fault e => trivial
    all_goals exact absurd h.1 Bool.false_ne_true

theorem append (hps : Spaced free ps) (hqs : Spaced false qs) : Spaced free (ps ++ qs) := by
  induction ps generalizing free with
  | nil => exact hqs.loose
  | cons p ps ih =>
    cases p
    case text s => exact ⟨hps.1, hps.2.1, ih hps.2.2⟩
    case value v => exact ih hps
    case fault e => trivial
    all_goals exact ⟨hps.1, ih hps.2⟩

theorem word (hs : Word s) (h : Spaced true ps) : Spaced free (text s :: ps) := by
  have hn : (s != "") = true := by simpa using hs.1
  refine ⟨hs.2.1, .inr hs.2.2, ?_⟩
  rwa [hn, Bool.or_true]

theorem plain (hs : Plain s) : Spaced free [text s] := ⟨hs.1, .inr hs.2, trivial⟩

theorem enclosed {before after : String} (hb : Word before) (h : Spaced true ps) (ha : Plain after) :
    Spaced free (text before :: (ps ++ [text after])) :=
  word hb (h.append (plain ha))

variable {leds : List (String × List Part)} {pss : List (List Part)}

theorem eachLed (h : ∀ led ∈ leds, Word led.1 ∧ Spaced true led.2) : Spaced free (eachLed leds) := by
  induction leds generalizing free with
  | nil => trivial
  | cons led leds ih =>
    have ⟨hw, hs⟩ := h led List.mem_cons_self
    exact word hw (hs.append (ih fun l hl => h l (List.mem_cons_of_mem _ hl)))

theorem joined (h : ∀ led ∈ leds, Word led.1 ∧ Spaced true led.2) : Spaced true (joined leds) := by
  cases leds
  case nil => trivial
  case cons led leds =>
    have hs := (h led List.mem_cons_self).2
    exact hs.append (eachLed fun l hl => h l (List.mem_cons_of_mem _ hl))

theorem led (hs : Word s) (h : ∀ ps ∈ pss, Spaced true ps) :
    ∀ led ∈ pss.map fun ps => (s, ps), Word led.1 ∧ Spaced true led.2 := by
  intro led hl
  obtain ⟨ps, hps, rfl⟩ := List.mem_map.mp hl
  exact ⟨hs, h ps hps⟩

theorem separated (hs : Word s) (h : ∀ ps ∈ pss, Spaced true ps) : Spaced true (separated s pss) :=
  joined (led hs h)

theorem clause {before after : String} (hb : Word before)
    (h : ∀ led ∈ leds, Word led.1 ∧ Spaced true led.2) (ha : Plain after) :
    Spaced free (clause before leds after) := by
  cases leds
  case nil => trivial
  case cons led leds => exact enclosed hb (joined h) ha

theorem listClause {before after : String} (hb : Word before) (h : ∀ ps ∈ pss, Spaced true ps)
    (ha : Plain after) : Spaced free (listClause before pss after) :=
  clause hb (led (by decide) h) ha

-- The parts of the members of a list.
theorem map {α : Type} {parts : α → List Part} (h : ∀ a, Spaced free (parts a)) (as : List α) :
    ∀ ps ∈ as.map parts, Spaced free ps := by
  intro ps hps
  obtain ⟨a, -, rfl⟩ := List.mem_map.mp hps
  exact h a

end Spaced

theorem name_spaced (part : String) : Spaced true [name part] := ⟨rfl, trivial⟩

theorem names_spaced (columns : List String) : Spaced true (names columns) :=
  .separated (by decide) (.map name_spaced columns)

theorem table_spaced (n : String) : Spaced true (table n) :=
  .separated (by decide) (.map (fun p => name_spaced (String.ofList p)) _)

theorem aliasing_spaced {free : Bool} (alias? : Option String) : Spaced free (aliasing alias?) := by
  cases alias?
  case none => trivial
  case some given => exact .word (by decide) (name_spaced given)

end Part

open SqlBuilder.Sql.Part (Spaced)

theorem TableRef.parts_spaced (t : TableRef) : Spaced true t.parts :=
  (Part.table_spaced t.name).append (Part.aliasing_spaced t.alias?)

variable (d : Dialect) (scopes : List Scope)

theorem Operand.parts_spaced (o : Operand) : Spaced true (o.parts scopes) := by
  cases o <;> exact ⟨rfl, trivial⟩

theorem Selection.parts_spaced (s : Selection) : Spaced true (s.parts scopes) :=
  (s.operand.parts_spaced scopes).append (Part.aliasing_spaced s.alias?)

theorem Direction.word_text (direction : Direction) : Word (" " ++ direction.text) := by
  cases direction <;> decide

theorem Conjunction.word_text (conjunction : Conjunction) : Word (" " ++ conjunction.text ++ " ") := by
  cases conjunction <;> decide

theorem Comparison.word_text (op : Comparison) : Word (" " ++ op.text d ++ " ") := by
  cases op <;> cases d <;> decide

theorem plain_pageText (p : Page) : Plain (pageText d p) := by
  have hl (n : Nat) : Plain (" limit " ++ Text.decimal n) := Word.append (by decide) (clean_decimal n)
  have ho (n : Nat) : Plain (" offset " ++ Text.decimal n) := Word.append (by decide) (clean_decimal n)
  obtain ⟨_ | limit, _ | offset⟩ := p
  case none.none => exact (by decide : Plain "")
  case some.none => exact hl _
  case some.some =>
    have h := (hl limit.toNat).append (ho offset.toNat)
    rwa [← String.append_assoc] at h
  case none.some =>
    cases d
    case postgres => exact ho _
    case mysql =>
      have h := (hl Page.maxCount).append (ho offset.toNat)
      rwa [← String.append_assoc] at h
    case sqlite => exact Word.append (by decide) (clean_decimal _)

theorem Order.parts_spaced (o : Order) : Spaced true (o.parts d scopes) := by
  cases o
  case operand o direction => exact (o.parts_spaced scopes).append (.plain direction.word_text.2)
  case output name direction => exact (Part.name_spaced name).append (.plain direction.word_text.2)
  case raw r => exact ⟨rfl, trivial⟩
  case random => exact .plain (by cases d <;> decide)

theorem selectionParts_spaced (whole : Bool) (table : TableRef) (selections : List Selection) :
    Spaced true (selectionParts scopes whole table selections) := by
  unfold selectionParts
  split
  case isTrue =>
    cases whole
    case false => exact .plain (by decide)
    case true => exact ⟨rfl, trivial⟩
  case isFalse => exact .separated (by decide) (.map (Selection.parts_spaced scopes) selections)

theorem orderParts_spaced (selections : List Selection) (order : List Order) :
    Spaced true (orderParts selections order) := by
  unfold orderParts
  split <;> trivial

mutual

theorem Expr.parts_spaced (d : Dialect) (scopes : List Scope) : (e : Expr) → Spaced true (e.parts d scopes)
  | .operand o => o.parts_spaced scopes
  | .value _ => trivial
  | .subquery q => .enclosed (by decide) (q.parts_spaced d scopes) (by decide)

theorem Expr.parts_spaced_each (d : Dialect) (scopes : List Scope) :
    (es : List Expr) → ∀ ps ∈ Expr.partsEach d scopes es, Spaced true ps
  | [], _, hps => nomatch hps
  | e :: es, ps, hps => by
    rcases List.mem_cons.mp hps with rfl | hps
    case inl => exact e.parts_spaced d scopes
    case inr => exact Expr.parts_spaced_each d scopes es ps hps

theorem Condition.parts_spaced (d : Dialect) (scopes : List Scope) :
    (c : Condition) → Spaced true (c.parts d scopes)
  | .compare left op right =>
    (left.parts_spaced scopes).append (.word (op.word_text d) (right.parts_spaced d scopes))
  | .isNull left negated => (left.parts_spaced scopes).append (.plain (by cases negated <;> decide))
  | .between left negated low high => by
    have hh : Spaced false (.text " and " :: high.parts d scopes) :=
      .word (by decide) (high.parts_spaced d scopes)
    have hl := (low.parts_spaced d scopes).append hh
    exact (left.parts_spaced scopes).append (.word (by cases negated <;> decide) hl)
  | .member left negated values => by
    unfold Condition.parts
    split
    -- the only text that begins with a digit stands behind a word
    case isTrue => exact ⟨by cases negated <;> decide, .inl rfl, trivial⟩
    case isFalse =>
      have hv := Spaced.separated (s := ", ") (by decide) (Expr.parts_spaced_each d scopes values)
      exact (left.parts_spaced scopes).append (.enclosed (by cases negated <;> decide) hv (by decide))
  | .memberOf left negated q =>
    (left.parts_spaced scopes).append
      (.enclosed (by cases negated <;> decide) (q.parts_spaced d scopes) (by decide))
  | .exists negated q =>
    .enclosed (by cases negated <;> decide) (q.parts_spaced d scopes) (by decide)
  | .group clauses =>
    .enclosed (by decide) (.joined (Clause.parts_spaced_each d scopes clauses)) (by decide)
  | .raw _ => ⟨rfl, trivial⟩

theorem Clause.parts_spaced_each (d : Dialect) (scopes : List Scope) :
    (cs : List Clause) → ∀ led ∈ Clause.partsEach d scopes cs, Word led.1 ∧ Spaced true led.2
  | [], _, hl => nomatch hl
  | ⟨conjunction, condition⟩ :: rest, led, hl => by
    rcases List.mem_cons.mp hl with rfl | hl
    case inl => exact ⟨conjunction.word_text, condition.parts_spaced d scopes⟩
    case inr => exact Clause.parts_spaced_each d scopes rest led hl

theorem Join.parts_spaced_all (d : Dialect) (scopes : List Scope) :
    (js : List Join) → Spaced false (Join.partsAll d scopes js)
  | [] => trivial
  | ⟨table, on⟩ :: rest => by
    have ho : Spaced false (Part.clause " on " (Clause.partsEach d scopes on)) :=
      .clause (by decide) (Clause.parts_spaced_each d scopes on) (by decide)
    exact .word (by decide) ((table.parts_spaced.append ho).append (Join.parts_spaced_all d scopes rest))

theorem Cte.parts_spaced_each (d : Dialect) (scopes : List Scope) :
    (cs : List Cte) → ∀ ps ∈ Cte.partsEach d scopes cs, Spaced true ps
  | [], _, hps => nomatch hps
  | ⟨name, columns, body⟩ :: rest, ps, hps => by
    rcases List.mem_cons.mp hps with rfl | hps
    case inl =>
      have hn := (Part.names_spaced columns).append
        (.enclosed (by decide : Word ") as (") (body.parts_spaced d scopes) (by decide : Plain ")"))
      exact (Part.table_spaced name).append (.word (by decide) hn)
    case inr => exact Cte.parts_spaced_each d scopes rest ps hps

theorem Select.parts_spaced (d : Dialect) (outer : List Scope) :
    (q : Select) → Spaced true (q.parts d outer)
  | ⟨ctes, distinct, whole, selections, table, joins, filter, groups, order, page⟩ => by
    let scopes := (table :: joins.map Join.table) :: outer
    have hc : Spaced false (Part.listClause "with " (Cte.partsEach d outer ctes) " ") :=
      .listClause (by decide) (Cte.parts_spaced_each d outer ctes) (by decide)
    have hf : Spaced false (Part.clause " where " (Clause.partsEach d scopes filter)) :=
      .clause (by decide) (Clause.parts_spaced_each d scopes filter) (by decide)
    have hg : Spaced false (Part.listClause " group by " (groups.map (Operand.parts scopes))) :=
      .listClause (by decide) (.map (Operand.parts_spaced scopes) groups) (by decide)
    have ho : Spaced false (Part.listClause " order by " (order.map (Order.parts d scopes))) :=
      .listClause (by decide) (.map (Order.parts_spaced d scopes) order) (by decide)
    have hj := (((Join.parts_spaced_all d scopes joins).append hf).append hg).append ho
    have ht := table.parts_spaced.append (hj.append (.plain (plain_pageText d page)))
    have hs := (selectionParts_spaced scopes whole table selections).append
      (.word (by decide : Word " from ") ht)
    have hv : Word (if distinct then "select distinct " else "select ") := by cases distinct <;> decide
    have h := (orderParts_spaced selections order).append (hc.append (.word hv hs))
    simpa only [Select.parts, List.append_assoc] using h

end

theorem Cte.with_spaced {free : Bool} (ctes : List Cte) :
    Spaced free (Part.listClause "with " (Cte.partsEach d scopes ctes) " ") :=
  .listClause (by decide) (Cte.parts_spaced_each d scopes ctes) (by decide)

theorem Clause.where_spaced {free : Bool} (filter : List Clause) :
    Spaced free (Part.clause " where " (Clause.partsEach d scopes filter)) :=
  .clause (by decide) (Clause.parts_spaced_each d scopes filter) (by decide)

namespace Insert

variable (q : Insert)

theorem cellParts_spaced (row : Assignments) (column : String) : Spaced true (cellParts d row column) := by
  unfold cellParts
  split
  · exact Expr.parts_spaced d [] _
  · exact .plain (by cases d <;> decide)

theorem rowParts_spaced (columns : List String) (row : Assignments) :
    Spaced true (rowParts d columns row) :=
  .enclosed (by decide) (.separated (by decide) (.map (cellParts_spaced d row) columns)) (by decide)

theorem defaultParts_spaced (rows : List Assignments) : Spaced true (defaultParts d rows) := by
  cases d
  case mysql =>
    have hu : ∀ t ∈ rows.map fun _ => "()", Plain t := by
      intro t ht
      obtain ⟨_, -, rfl⟩ := List.mem_map.mp ht
      decide
    exact .plain (.append (by decide) (.intercalate (by decide) _ hu))
  all_goals
    match rows with
    | [] => trivial
    | [_] => exact .plain (by decide)
    | _ :: _ :: _ => trivial

theorem rowsParts_spaced : Spaced true (q.rowsParts d) := by
  unfold rowsParts
  split
  case isTrue => exact defaultParts_spaced d q.rows
  case isFalse =>
    have hr : Spaced true (Part.separated ", " (q.rows.map (rowParts d (united q.rows)))) :=
      .separated (by decide) (.map (rowParts_spaced d (united q.rows)) q.rows)
    exact .word (by decide) ((Part.names_spaced (united q.rows)).append (.word (by decide) hr))

theorem verb_word : Word (q.verb d) := by
  unfold verb
  split
  case h_2 => split <;> decide
  case h_3 => split <;> decide
  all_goals decide

-- What follows the verb may begin with a name, and is never written when there is no verb.
theorem verbParts_spaced {ps : List Part} (h : Spaced true ps) : Spaced false (q.verbParts d ++ ps) := by
  unfold verbParts
  split
  case isTrue => trivial
  case isFalse => exact .word (q.verb_word d) h

theorem targetParts_spaced (target : List String) : Spaced false (targetParts target) := by
  cases target
  case nil => trivial
  case cons c cs => exact .enclosed (by decide) (Part.names_spaced (c :: cs)) (by decide)

theorem setParts_spaced (column : String) : Spaced true (setParts d column) := by
  have hc := Part.name_spaced column
  have hx := Part.name_spaced "excluded"
  cases d
  case mysql => exact hc.append (.enclosed (by decide) hc (by decide))
  all_goals exact hc.append (.word (by decide) (hx.append (.word (by decide) hc)))

theorem conflictParts_spaced : Spaced false (q.conflictParts d) := by
  have ht (target : List String) {ps : List Part} (h : Spaced false ps) :
      Spaced false (.text " on conflict" :: (targetParts target ++ ps)) :=
    .word (by decide) ((targetParts_spaced target).append h).loose
  have hs (sets : List String) : Spaced true (Part.separated ", " (sets.map (setParts d))) :=
    .separated (by decide) (.map (setParts_spaced d) sets)
  unfold conflictParts
  split
  case h_1 => split <;> first | exact .plain (by decide) | trivial
  case h_4 target _ _ => exact ht target (.plain (by decide))
  case h_5 sets _ => exact .word (by decide) (hs sets)
  case h_6 target sets _ _ => exact ht target (.word (by decide) (hs sets))
  all_goals trivial

theorem parts_spaced : Spaced true (q.parts d) := by
  unfold parts
  split
  case isTrue => trivial
  case isFalse =>
    have hc : Spaced true _ := Cte.with_spaced d [] q.ctes
    have hr : Spaced false (.text " " :: (q.rowsParts d ++ q.conflictParts d)) :=
      .word (by decide) ((q.rowsParts_spaced d).append (q.conflictParts_spaced d))
    have ht := (Part.table_spaced q.table).append hr
    simpa only [List.append_assoc] using hc.append (q.verbParts_spaced d ht)

end Insert

theorem Update.setParts_spaced (a : String × Expr) : Spaced true (setParts d scopes a) :=
  (Part.name_spaced a.1).append (.word (by decide) (a.2.parts_spaced d scopes))

theorem Update.parts_spaced (q : Update) : Spaced true (q.parts d) := by
  unfold parts
  split
  case isTrue => trivial
  case isFalse =>
    have hc : Spaced true _ := Cte.with_spaced d [] q.ctes
    have hf : Spaced false _ := Clause.where_spaced d [[q.table]] q.filter
    have hs : Spaced true (Part.separated ", " (q.sets.map (setParts d [[q.table]]))) :=
      .separated (by decide) (.map (setParts_spaced d [[q.table]]) q.sets)
    exact hc.append (.word (by decide) (q.table.parts_spaced.append (.word (by decide) (hs.append hf))))

theorem Delete.parts_spaced (q : Delete) : Spaced true (q.parts d) := by
  have hc : Spaced true _ := Cte.with_spaced d [] q.ctes
  have hf : Spaced false _ := Clause.where_spaced d [[q.table]] q.filter
  exact hc.append (.word (by decide) (q.table.parts_spaced.append hf))

theorem Query.parts_spaced (q : Query) : Spaced true (q.parts d) := by
  cases q
  case select q => exact q.parts_spaced d []
  case insert q => exact q.parts_spaced d
  case update q => exact q.parts_spaced d
  case delete q => exact q.parts_spaced d

end SqlBuilder.Sql
