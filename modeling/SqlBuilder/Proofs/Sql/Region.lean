import SqlBuilder.Proofs.Sql.Flattening
import SqlBuilder.Proofs.Sql.Spacing
/-!
Text taken apart into its quoted regions, by the rule that raw text is read with. Whatever names a
query is built with, each of them is the content of a region of its own in the text of the statement.
-/
namespace SqlBuilder.Sql

-- What stands between a quote and the next that is no escape, with its escapes undone.
structure Region where
  quote : Char
  content : List Char
  deriving DecidableEq

namespace Region

def add (r : Region) (c : Char) : Region := { r with content := r.content ++ [c] }

-- The regions of text read from inside one of them or from outside of any, none if the text ends
-- inside. Inside a region the closing character twice is an escape.
def all? : Option Region → List Char → Option (List Region)
  | none, [] => some []
  | some _, [] => none
  | none, c :: cs => if Raw.opensQuote c then all? (some ⟨c, []⟩) cs else all? none cs
  | some r, [c] => if c = r.quote then some [r] else none
  | some r, c :: c' :: cs =>
    if c = r.quote then
      if c' = r.quote then all? (some (r.add c)) cs else (all? none (c' :: cs)).map (r :: ·)
    else all? (some (r.add c)) (c' :: cs)

-- A region that has begun, read to its end, with the text behind it. None if it does not end.
def close? (r : Region) : List Char → Option (Region × List Char)
  | [] => none
  | [c] => if c = r.quote then some (r, []) else none
  | c :: c' :: cs =>
    if c = r.quote then
      if c' = r.quote then close? (r.add c) cs else some (r, c' :: cs)
    else close? (r.add c) (c' :: cs)

-- The region that text begins with, with the text behind it.
def first? : List Char → Option (Region × List Char)
  | [] => none
  | c :: cs => if Raw.opensQuote c then close? ⟨c, []⟩ cs else none

-- Text that can follow a region without being mistaken for a part of it.
def Follows (cs : List Char) : Prop := ∀ c ∈ cs.head?, Raw.opensQuote c = false

theorem Follows.head? {cs : List Char} {q : Char} (h : Follows cs) (hq : Raw.opensQuote q = true) :
    cs.head? ≠ some q := by
  intro hc
  have hn := h q hc
  rw [hq] at hn
  cases hn

variable {r : Region} {c : Char} {cs text rest : List Char} {rs : List Region}

theorem all?_opens (h : Raw.opensQuote c = true) : all? none (c :: cs) = all? (some ⟨c, []⟩) cs := by
  simp [all?, h]

theorem all?_outside (h : Raw.opensQuote c = false) : all? none (c :: cs) = all? none cs := by
  simp [all?, h]

theorem all?_inside (h : c ≠ r.quote) : all? (some r) (c :: cs) = all? (some (r.add c)) cs := by
  cases cs <;> simp [all?, h]

theorem all?_escape : all? (some r) (r.quote :: r.quote :: cs) = all? (some (r.add r.quote)) cs := by
  simp [all?]

theorem all?_closes (h : cs.head? ≠ some r.quote) :
    all? (some r) (r.quote :: cs) = (all? none cs).map (r :: ·) := by
  cases cs
  case nil => simp [all?]
  case cons c cs =>
    have hc : c ≠ r.quote := by simpa using h
    simp [all?, hc]

theorem all?_plain (h : ∀ c ∈ text, Raw.opensQuote c = false) : all? none (text ++ rest) = all? none rest := by
  induction text with
  | nil => rfl
  | cons c cs ih =>
    rw [List.cons_append, all?_outside (h c List.mem_cons_self)]
    exact ih fun c hc => h c (List.mem_cons_of_mem _ hc)

-- Text that has the regions `rs` whatever follows it.
def Reads (text : List Char) (rs : List Region) : Prop :=
  ∀ rest, Follows rest → all? none (text ++ rest) = (all? none rest).map (rs ++ ·)

theorem Reads.append {text text' : List Char} {rs rs' : List Region} (h : Reads text rs)
    (h' : Reads text' rs') (hf : ∀ rest, Follows rest → Follows (text' ++ rest)) :
    Reads (text ++ text') (rs ++ rs') := by
  intro rest hr
  rw [List.append_assoc, h _ (hf rest hr), h' rest hr, Option.map_map]
  congr 1
  funext
  simp

theorem all?_some (r : Region) (cs : List Char) :
    all? (some r) cs = (close? r cs).bind fun found => (all? none found.2).map (found.1 :: ·) := by
  fun_induction close? r cs with
  | case1 => rfl
  | case2 r => simp [all?]
  | case3 r c h => simp [all?, h]
  | case4 r cs ih => rw [all?_escape, ih]
  | case5 r c cs h => rw [all?_closes (by simpa using h)]; rfl
  | case6 r c c' cs h ih => rw [all?_inside h, ih]

theorem close?_inside (h : c ≠ r.quote) : close? r (c :: cs) = close? (r.add c) cs := by
  cases cs <;> simp [close?, h]

theorem close?_escape : close? r (r.quote :: r.quote :: cs) = close? (r.add r.quote) cs := by
  simp [close?]

theorem close?_closes (h : cs.head? ≠ some r.quote) : close? r (r.quote :: cs) = some (r, cs) := by
  cases cs
  case nil => simp [close?]
  case cons c cs =>
    have hc : c ≠ r.quote := by simpa using h
    simp [close?, hc]

-- The closing quote is the first that is not doubled.
theorem close?_doubled (q : Char) (content part : List Char) (h : rest.head? ≠ some q) :
    close? ⟨q, content⟩ (doubled q part ++ q :: rest) = some (⟨q, content ++ part⟩, rest) := by
  induction part generalizing content with
  | nil => simpa [doubled] using close?_closes (r := ⟨q, content⟩) h
  | cons c cs ih =>
    by_cases hc : c = q
    case pos =>
      subst hc
      simp only [doubled, if_true, List.cons_append]
      rw [close?_escape, add, ih, List.append_assoc, List.singleton_append]
    case neg =>
      simp only [doubled, if_neg hc, List.cons_append]
      rw [close?_inside hc, add, ih, List.append_assoc, List.singleton_append]

theorem opensQuote_quote (d : Dialect) : Raw.opensQuote d.quote = true := by
  cases d <;> decide

theorem reads_quoted (d : Dialect) (part : List Char) : Reads (quoted d.quote part) [⟨d.quote, part⟩] := by
  intro rest hr
  have hq := hr.head? (opensQuote_quote d)
  rw [quoted, List.cons_append, List.append_assoc, all?_opens (opensQuote_quote d), all?_some,
    List.singleton_append, close?_doubled d.quote [] part hq]
  rfl

-- The regions of one part of an identifier. The star stands bare.
def ofIdent (d : Dialect) (part : String) : List Region :=
  if part = "*" then [] else [⟨d.quote, part.toList⟩]

theorem reads_ident (d : Dialect) (part : String) : Reads (ident d part).toList (ofIdent d part) := by
  unfold ident ofIdent
  split
  case isTrue =>
    intro rest _
    have h : all? none ("*".toList ++ rest) = all? none rest := all?_plain (by decide : Clean "*").opensQuote
    simpa using h
  case isFalse =>
    rw [String.toList_ofList]
    exact reads_quoted d _

def ofColumn (d : Dialect) (scopes : List Scope) (c : Column) : List Region :=
  (Scope.qualifier? c.table false scopes).elim [] (ofIdent d) ++ ofIdent d c.name

theorem reads_column (d : Dialect) (scopes : List Scope) (c : Column) :
    Reads (c.text d scopes).toList (ofColumn d scopes c) := by
  unfold Column.text ofColumn
  cases Scope.qualifier? c.table false scopes
  case none => exact reads_ident d c.name
  case some q =>
    have hn : Reads ('.' :: (ident d c.name).toList) (ofIdent d c.name) := by
      intro rest hr
      rw [List.cons_append, all?_outside (by decide)]
      exact reads_ident d c.name rest hr
    have h := (reads_ident d q).append hn fun rest _ c hc => by
      simp only [List.cons_append, List.head?_cons, Option.mem_def, Option.some.injEq] at hc
      exact hc ▸ (by decide)
    simpa using h

end Region

namespace Raw

variable (d : Dialect) (r : Raw)

-- Raw text that ends outside its quotes.
def Closed : Prop := (Region.all? none r.sql.toList).isSome

instance : Decidable r.Closed := inferInstanceAs (Decidable (_ = true))

-- What is written of raw text from a mark on.
def written (n : Nat) (ms : List Mark) (vs : List Value) : List Char :=
  (Piece.numbered d n (pieces.go r ms vs)).toList

variable {d r} {n : Nat} {ms : List Mark} {vs : List Value} {c q : Char} {cs rest : List Char}

-- Whether there is a bind for each placeholder and none left over.
def Fits (r : Raw) (ms : List Mark) (vs : List Value) : Prop := ∀ e, .fault e ∉ pieces.go r ms vs

theorem written_nil : r.written d n [] [] = [] := by
  simp [written, pieces.go, Piece.numbered]

theorem written_char : r.written d n (.char c :: ms) vs = c :: r.written d n ms vs := by
  simp [written, pieces.go, Piece.numbered]

theorem written_hole {v : Value} :
    r.written d n (.hole :: ms) (v :: vs) = (Piece.mark d n).toList ++ r.written d (n + 1) ms vs := by
  simp [written, pieces.go, Piece.numbered]

theorem Fits.nil (h : r.Fits [] vs) : vs = [] := by
  cases vs
  case nil => rfl
  case cons v vs => exact absurd List.mem_cons_self (h (tooManyBinds r))

theorem Fits.char (h : r.Fits (.char c :: ms) vs) : r.Fits ms vs :=
  fun e he => h e (List.mem_cons_of_mem _ he)

theorem Fits.hole (h : r.Fits (.hole :: ms) vs) : ∃ v vs', vs = v :: vs' ∧ r.Fits ms vs' := by
  cases vs
  case nil => exact absurd List.mem_cons_self (h (tooFewBinds r))
  case cons v vs => exact ⟨v, vs, rfl, fun e he => h e (List.mem_cons_of_mem _ he)⟩

theorem marks_none_cons (c : Char) (cs : List Char) :
    ∃ m ms, marks none (c :: cs) = m :: ms ∧ (m = .hole ∨ m = .char c) := by
  cases cs
  case nil =>
    refine ⟨_, _, rfl, ?_⟩
    split <;> simp
  case cons c' cs =>
    simp only [marks]
    split
    case isTrue => exact ⟨_, _, rfl, .inr rfl⟩
    case isFalse =>
      split
      case isTrue => exact ⟨_, _, rfl, .inl rfl⟩
      case isFalse => exact ⟨_, _, rfl, .inr rfl⟩

theorem opensQuote_of_continuesOperator (h : continuesOperator c = true) : opensQuote c = false := by
  simp only [continuesOperator, Bool.or_eq_true, decide_eq_true_eq] at h
  rcases h with (rfl | rfl) | rfl <;> decide

-- What follows a closing quote still does not continue its region, be it a character or a placeholder.
theorem head?_written (hf : r.Fits (marks none (c :: cs)) vs) (hq : opensQuote q = true) (hc : c ≠ q) :
    (r.written d n (marks none (c :: cs)) vs ++ rest).head? ≠ some q := by
  obtain ⟨m, ms, hm, rfl | rfl⟩ := marks_none_cons c cs
  case inl =>
    rw [hm] at hf ⊢
    obtain ⟨v, vs, rfl, -⟩ := hf.hole
    rw [written_hole, List.append_assoc]
    exact Region.Follows.head? (fun c hc => (apart_mark_append d n _ c hc).1) hq
  case inr =>
    rw [hm, written_char]
    simpa using hc

-- The last character has nothing behind it in the raw text, but may have in the statement.
theorem all?_written_last {st : Option Region} (hst : ∀ g ∈ st, opensQuote g.quote = true)
    {rs : List Region} (h : Region.all? st [c] = some rs)
    (hf : r.Fits (marks (st.map Region.quote) [c]) vs) (hr : Region.Follows rest) :
    Region.all? st (r.written d n (marks (st.map Region.quote) [c]) vs ++ rest) =
      (Region.all? none rest).map (rs ++ ·) := by
  cases st
  case none =>
    by_cases hc : c = '?'
    case pos =>
      obtain ⟨v, vs, rfl, hn⟩ : ∃ v vs', vs = v :: vs' ∧ r.Fits [] vs' := Fits.hole (by simpa [marks, hc] using hf)
      cases hn.nil
      rw [hc, Region.all?_outside (by decide)] at h
      cases h
      simp [marks, hc, written_hole, written_nil, Region.all?_plain (opensQuote_mark d n)]
    case neg =>
      have hn : r.Fits [] vs := Fits.char (c := c) (by simpa [marks, hc] using hf)
      cases hn.nil
      cases ho : opensQuote c
      case true =>
        rw [Region.all?_opens ho] at h
        cases h
      case false =>
        rw [Region.all?_outside ho] at h
        cases h
        simp [marks, hc, written_char, written_nil, Region.all?_outside ho]
  case some g =>
    have hn : r.Fits [] vs := Fits.char (c := c) (by simpa [marks] using hf)
    cases hn.nil
    by_cases hc : c = g.quote
    case pos =>
      have hg : rest.head? ≠ some g.quote := hr.head? (hst g rfl)
      subst hc
      rw [Region.all?_closes (by simp)] at h
      cases h
      simp [marks, written_char, written_nil, Region.all?_closes hg]
    case neg =>
      rw [Region.all?_inside hc] at h
      cases h

-- Values are written outside of quotes only, and so the regions stay what they are.
theorem all?_written {st : Option Region} (hst : ∀ g ∈ st, opensQuote g.quote = true)
    {rs : List Region} (h : Region.all? st cs = some rs)
    (hf : r.Fits (marks (st.map Region.quote) cs) vs) (hr : Region.Follows rest) :
    Region.all? st (r.written d n (marks (st.map Region.quote) cs) vs ++ rest) =
      (Region.all? none rest).map (rs ++ ·) := by
  generalize hquote : st.map Region.quote = quote at hf ⊢
  fun_induction marks quote cs generalizing st rs vs n with
  | case1 quote =>
    cases hf.nil
    cases st
    case none =>
      cases h
      simp [written_nil]
    case some g => cases h
  | case2 quote c =>
    subst hquote
    exact all?_written_last hst h hf hr
  | case3 c c' cs q hc ih =>
    obtain ⟨g, rfl, rfl⟩ := Option.map_eq_some_iff.mp hquote
    obtain ⟨rfl, rfl⟩ := hc
    rw [Region.all?_escape] at h
    rw [written_char, written_char, List.cons_append, List.cons_append, Region.all?_escape]
    have hg := hst g rfl
    exact ih (by rintro _ ⟨⟩; exact hg) h rfl hf.char.char
  | case4 c c' cs q hc ih =>
    obtain ⟨g, rfl, rfl⟩ := Option.map_eq_some_iff.mp hquote
    have hg := hst g rfl
    rw [written_char, List.cons_append]
    by_cases hq : c = g.quote
    case pos =>
      subst hq
      have hc' : c' ≠ g.quote := fun hc' => hc ⟨rfl, hc'⟩
      rw [Region.all?_closes (by simpa using hc'), Option.map_eq_some_iff] at h
      obtain ⟨rs, h, rfl⟩ := h
      simp only [if_true] at hf ih ⊢
      rw [Region.all?_closes (head?_written hf.char hg hc'), ih (by simp) h rfl hf.char, Option.map_map]
      rfl
    case neg =>
      simp only [if_neg hq] at hf ih ⊢
      rw [Region.all?_inside hq] at h ⊢
      exact ih (by rintro _ ⟨⟩; exact hg) h rfl hf.char
  | case5 c c' cs hc ih =>
    cases Option.map_eq_none_iff.mp hquote
    obtain ⟨rfl, hc'⟩ := hc
    have ho := opensQuote_of_continuesOperator hc'
    rw [Region.all?_outside (by decide), Region.all?_outside ho] at h
    rw [written_char, written_char, List.cons_append, List.cons_append,
      Region.all?_outside (by decide), Region.all?_outside ho]
    exact ih hst h rfl hf.char.char
  | case6 c' cs hc ih =>
    cases Option.map_eq_none_iff.mp hquote
    obtain ⟨v, vs, rfl, hn⟩ := hf.hole
    rw [Region.all?_outside (by decide)] at h
    rw [written_hole, List.append_assoc, Region.all?_plain (opensQuote_mark d n)]
    exact ih hst h rfl hn
  | case7 c c' cs hc hq ih =>
    cases Option.map_eq_none_iff.mp hquote
    rw [written_char, List.cons_append]
    cases ho : opensQuote c
    case true =>
      simp only [ho, if_true] at hf ih ⊢
      rw [Region.all?_opens ho] at h ⊢
      exact ih (by rintro _ ⟨⟩; exact ho) h rfl hf.char
    case false =>
      rw [Region.all?_outside ho] at h ⊢
      simp only [ho] at hf ih ⊢
      exact ih (by simp) h rfl hf.char

end Raw

namespace Part

def raw? : Part → Option Raw
  | raw r => some r
  | _ => none

variable (d : Dialect)

-- The regions of a part's text.
def regions : Part → List Region
  | name part => Region.ofIdent d part
  | column scopes c => Region.ofColumn d scopes c
  | raw r => (Region.all? none r.sql.toList).getD []
  | _ => []

variable {d} {p : Part} {ps : List Part}

theorem numbered_allPieces_cons (n : Nat) :
    (Piece.numbered d n (allPieces d (p :: ps))).toList =
      (Piece.numbered d n (p.pieces d)).toList ++
        (Piece.numbered d (n + (Piece.values (p.pieces d)).length) (allPieces d ps)).toList := by
  have h : allPieces d (p :: ps) = p.pieces d ++ allPieces d ps := List.flatMap_cons
  rw [h, Piece.numbered_append, String.toList_append]

theorem numbered_text (n : Nat) (s : String) : Piece.numbered d n [.text s] = s := by
  simp [Piece.numbered]

theorem numbered_value (n : Nat) (v : Value) : Piece.numbered d n [.value v] = Piece.mark d n := by
  simp [Piece.numbered]

-- What needs no word in front of it continues neither a region nor a number.
theorem apart_of_spaced (hs : Spaced false ps) (hf : ∀ e, .fault e ∉ allPieces d ps) (n : Nat) :
    Apart (Piece.numbered d n (allPieces d ps)).toList := by
  induction ps generalizing n with
  | nil => exact fun c hc => nomatch hc
  | cons p ps ih =>
    have hf' : ∀ e, .fault e ∉ allPieces d ps := fun e he => hf e (List.mem_append_right _ he)
    rw [numbered_allPieces_cons]
    cases p
    case text s =>
      rw [pieces, numbered_text]
      obtain ⟨-, ha, hs⟩ := hs
      cases hl : s.toList
      case nil =>
        have he : (s != "") = false := by simpa using hl
        exact ih (by simpa [he] using hs) hf' _
      case cons c cs =>
        have ha := ha.resolve_left Bool.false_ne_true
        rw [hl] at ha
        exact ha
    case value v =>
      rw [pieces, numbered_value]
      exact apart_mark_append d n _
    case fault e => exact absurd List.mem_cons_self (hf e)
    all_goals exact absurd hs.1 Bool.false_ne_true

theorem follows_of_spaced (hs : Spaced false ps) (hf : ∀ e, .fault e ∉ allPieces d ps) (n : Nat) :
    Region.Follows (Piece.numbered d n (allPieces d ps)).toList :=
  fun c hc => (apart_of_spaced hs hf n c hc).1

theorem reads_raw {r : Raw} (hr : r.Closed) (hf : ∀ e, .fault e ∉ r.pieces) (n : Nat) :
    Region.Reads (Piece.numbered d n r.pieces).toList (regions d (raw r)) := by
  obtain ⟨rs, hrs⟩ := Option.isSome_iff_exists.mp hr
  intro rest hrest
  rw [r.pieces_eq] at hf ⊢
  rw [regions, hrs, Option.getD_some]
  exact Raw.all?_written (by simp) hrs hf hrest

theorem all?_numbered {free : Bool} (hs : Spaced free ps) (hf : ∀ e, .fault e ∉ allPieces d ps)
    (hr : ∀ r, .raw r ∈ ps → r.Closed) (n : Nat) :
    Region.all? none (Piece.numbered d n (allPieces d ps)).toList = some (ps.flatMap (regions d)) := by
  induction ps generalizing free n with
  | nil => rfl
  | cons p ps ih =>
    have hfp : ∀ e, .fault e ∉ p.pieces d := fun e he => hf e (List.mem_append_left _ he)
    have hfs : ∀ e, .fault e ∉ allPieces d ps := fun e he => hf e (List.mem_append_right _ he)
    have hrs : ∀ r, .raw r ∈ ps → r.Closed := fun r h => hr r (List.mem_cons_of_mem _ h)
    -- what is written behind names, columns and raw texts lets them end
    have hreads (hs : Spaced false ps) (h : Region.Reads (Piece.numbered d n (p.pieces d)).toList (p.regions d)) :
        Region.all? none (Piece.numbered d n (allPieces d (p :: ps))).toList =
          some (p.regions d ++ ps.flatMap (regions d)) := by
      rw [numbered_allPieces_cons, h _ (follows_of_spaced hs hfs _), ih hs hfs hrs, Option.map_some]
    rw [List.flatMap_cons]
    cases p
    case text s =>
      rw [numbered_allPieces_cons, pieces, numbered_text, Region.all?_plain hs.1.opensQuote]
      exact ih hs.2.2 hfs hrs _
    case value v =>
      rw [numbered_allPieces_cons, pieces, numbered_value, Region.all?_plain (opensQuote_mark d n)]
      exact ih hs hfs hrs _
    case fault e => exact absurd List.mem_cons_self (hfp e)
    case name part =>
      refine hreads hs.2 ?_
      rw [pieces, numbered_text]
      exact Region.reads_ident d part
    case column scopes c =>
      refine hreads hs.2 ?_
      rw [pieces, numbered_text]
      exact Region.reads_column d scopes c
    case raw r => exact hreads hs.2 (reads_raw (hr r List.mem_cons_self) hfp n)

end Part

namespace Query

-- The raw texts that a query writes, in order.
def raws (d : Dialect) (q : Query) : List Raw := (q.parts d).filterMap Part.raw?

-- The text of a statement ends outside its quotes when raw texts do, and the regions in it are those of
-- the raw texts and one for each part of an identifier, in the order in which they are written.
theorem regions_of_compile {d : Dialect} {q : Query} {s : Statement} (h : q.compile d = .ok s)
    (hr : ∀ r ∈ q.raws d, r.Closed) :
    s.sql = Piece.numbered d 1 (q.pieces d) ∧
      Region.all? none s.sql.toList = some ((q.parts d).flatMap (Part.regions d)) := by
  obtain ⟨hf, rfl⟩ := eq_of_compile h
  have hraw : ∀ r, .raw r ∈ q.parts d → r.Closed := fun r hm => hr r (List.mem_filterMap.mpr ⟨_, hm, rfl⟩)
  exact ⟨rfl, Part.all?_numbered (q.parts_spaced d) (Piece.firstFault?_eq_none_iff.mp hf) hraw 1⟩

-- Names that hold quotes, dots and placeholders, or nothing at all, beside raw text that ends in a quote.
def hostile : Query := .select {
  ctes := []
  distinct := false
  whole := true
  selections := []
  table := ⟨"a\".b", some "x\" or ? = '"⟩
  joins := [⟨⟨"", none⟩, [⟨.and, .compare (.column ⟨"", "?"⟩) .eq (.value .null)⟩]⟩]
  filter := [⟨.and, .raw ⟨"note <> ? || 'it''s `?'", [.null]⟩⟩]
  groups := []
  order := [.output "`" .asc]
  page := {} }

def hostileStatement : Statement where
  sql := "select \"x\"\" or ? = '\".* from \"a\"\"\".\"b\" as \"x\"\" or ? = '\" inner join \"\" on \"\".\"?\" = $1 where note <> $2 || 'it''s `?' order by \"`\" asc"
  params := [.null, .null]
  kind := .select

def hostileRegions : List Region :=
  [("x\" or ? = '", '"'), ("a\"", '"'), ("b", '"'), ("x\" or ? = '", '"'), ("", '"'), ("", '"'), ("?", '"'),
    ("it's `?", '\''), ("`", '"')].map fun (content, quote) => ⟨quote, content.toList⟩

theorem hostile_regions :
    hostile.compile .postgres = .ok hostileStatement ∧
    (∀ r ∈ hostile.raws .postgres, r.Closed) ∧
    Region.all? none hostileStatement.sql.toList = some hostileRegions := by
  have h : hostile.compile .postgres = .ok hostileStatement := by decide +kernel
  have hr : ∀ r ∈ hostile.raws .postgres, r.Closed := by decide +kernel
  have hs : Region.all? none hostileStatement.sql.toList =
    some ((hostile.parts .postgres).flatMap (Part.regions .postgres)) := (regions_of_compile h hr).2
  have hp : (hostile.parts .postgres).flatMap (Part.regions .postgres) = hostileRegions := by
    decide +kernel
  rw [hp] at hs
  exact ⟨h, hr, hs⟩

end Query

end SqlBuilder.Sql
