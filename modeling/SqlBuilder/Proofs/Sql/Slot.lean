import Mathlib.Data.List.Chain
import SqlBuilder.Proofs.Sql.Outside
import SqlBuilder.Proofs.Sql.Values
/-!
What a database takes for placeholders in the text of a statement, where it stands outside of quotes. These are
the marks that were written for values and nothing else.
-/
namespace SqlBuilder.Sql

-- The placeholder that begins at a character, with its number if the dialect has them numbered. The number is
-- read as far as the digits go.
def slot? (d : Dialect) (c : Char) (cs : List Char) : Option (Option Nat) :=
  match d with
  | .postgres => if c = '$' then (Text.natural? (cs.takeWhile Text.isDigit)).map some else none
  | .sqlite => if c = '?' then (Text.natural? (cs.takeWhile Text.isDigit)).map some else none
  | .mysql => if c = '?' then some none else none

def slots (d : Dialect) : List Char → List (Option Nat)
  | [] => []
  | c :: cs => (slot? d c cs).toList ++ slots d cs

-- The placeholders for `count` values of which the first has number `n`.
def meant (d : Dialect) (n count : Nat) : List (Option Nat) :=
  (List.range' n count).map fun i => if d = .mysql then none else some i

theorem meant_add (d : Dialect) (n k l : Nat) : meant d n (k + l) = meant d n k ++ meant d (n + k) l := by
  rw [meant, meant, meant, ← List.map_append, List.range'_append_1]

variable {d : Dialect} {quote : Option Char} {c q : Char} {cs ds rest : List Char} {n : Nat}

-- Text in which no placeholder is read, whatever it stands between.
structure Slotless (cs : List Char) : Prop where
  ends : ending none cs = none
  bare : ∀ c ∈ outside none cs, c ≠ '?' ∧ c ≠ '$'

theorem slot?_eq_none (h : c ≠ '?' ∧ c ≠ '$') : slot? d c cs = none := by
  cases d <;> simp [slot?, h.1, h.2]

theorem slots_append (h : ∀ c ∈ cs, c ≠ '?' ∧ c ≠ '$') : slots d (cs ++ rest) = slots d rest := by
  induction cs with
  | nil => rfl
  | cons c cs ih =>
    rw [List.cons_append, slots, slot?_eq_none (h c List.mem_cons_self)]
    exact ih fun c hc => h c (List.mem_cons_of_mem _ hc)

theorem Slotless.slots_eq (h : Slotless cs) :
    slots d (outside none (cs ++ rest)) = slots d (outside none rest) := by
  rw [outside_append, h.ends, slots_append h.bare]

theorem Slotless.append (hc : Slotless cs) (hd : Slotless ds) : Slotless (cs ++ ds) where
  ends := by rw [ending_append, hc.ends, hd.ends]
  bare := by
    rw [outside_append, hc.ends]
    exact fun c hm => (List.mem_append.mp hm).elim (hc.bare c) (hd.bare c)

theorem Clean.slotless {s : String} (h : Clean s) : Slotless s.toList where
  ends := ending_of_opensQuote_eq_false h.opensQuote
  bare := by
    rw [outside_of_opensQuote_eq_false h.opensQuote]
    intro c hc
    have := h c hc
    simp_all [isClean]

theorem opensQuote_ne (h : Raw.opensQuote q = true) : q ≠ '?' ∧ q ≠ '$' := by
  constructor <;> rintro rfl <;> simp [Raw.opensQuote] at h

theorem slotless_ident (d : Dialect) (part : String) : Slotless (ident d part).toList where
  ends := (outside_ident d part).1
  bare c hc := by
    rcases (outside_ident d part).2 c hc with rfl | rfl
    case inl => exact opensQuote_ne (Region.opensQuote_quote d)
    case inr => decide

theorem slotless_column (d : Dialect) (scopes : List Scope) (c : Column) :
    Slotless (c.text d scopes).toList := by
  unfold Column.text
  cases Scope.qualifier? c.table false scopes
  case none => exact slotless_ident d c.name
  case some q =>
    have h := ((slotless_ident d q).append (Clean.slotless (s := ".") (by decide))).append
      (slotless_ident d c.name)
    simpa using h

-- Text whose first character, if any, does not continue a number.
def NoDigit (cs : List Char) : Prop := ∀ c ∈ cs.head?, Text.isDigit c = false

theorem NoDigit.outside (h : NoDigit cs) : NoDigit (outside none cs) :=
  fun c hc => h c (head?_outside_none ▸ hc)

theorem NoDigit.takeWhile_eq_nil (h : NoDigit cs) : cs.takeWhile Text.isDigit = [] := by
  cases cs
  case nil => rfl
  case cons c cs => exact List.takeWhile_cons_of_neg (by simp [h c rfl])

-- A number is read as far as its digits go.
theorem natural?_takeWhile (hr : NoDigit rest) :
    Text.natural? ((Text.digits n ++ rest).takeWhile Text.isDigit) = some n := by
  rw [List.takeWhile_append_of_pos fun c hc => Text.isDigit_of_mem_digits hc, hr.takeWhile_eq_nil,
    List.append_nil, Text.natural?_digits]

theorem toList_mark (d : Dialect) (n : Nat) : (Piece.mark d n).toList =
    match d with
    | .postgres => '$' :: Text.digits n
    | .sqlite => '?' :: Text.digits n
    | .mysql => ['?'] := by
  cases d <;> simp [Piece.mark, Text.digits_eq_toDigits]

-- What stands for a value is read as its placeholder. On mysql it has no number that could go on.
theorem slots_mark (hr : d ≠ .mysql → NoDigit rest) :
    slots d ((Piece.mark d n).toList ++ rest) = (if d = .mysql then none else some n) :: slots d rest := by
  have hn : ∀ c ∈ Text.digits n, c ≠ '?' ∧ c ≠ '$' := fun c hc => by
    have := isClean_of_isDigit (Text.isDigit_of_mem_digits hc)
    simp_all [isClean]
  rw [toList_mark]
  cases d
  case mysql => rfl
  all_goals
    have hr := hr (by decide)
    simp [slots, slot?, natural?_takeWhile hr, slots_append hn]

-- A character that is no placeholder where it stands outside of quotes.
theorem slots_outside_cons (hq : ∀ q ∈ quote, Raw.opensQuote q = true)
    (hc : quote = none → c ≠ '?' ∧ c ≠ '$') :
    slots d (outside quote (c :: cs)) = slots d (outside (turn quote c) cs) := by
  cases quote
  case none => rw [outside_none_cons, slots, slot?_eq_none (hc rfl)]; rfl
  case some q =>
    by_cases h : c = q
    case pos =>
      subst h
      rw [outside_closes, turn_closes, slots, slot?_eq_none (opensQuote_ne (hq c rfl))]
      rfl
    case neg => rw [outside_inside h, turn_inside h]

-- A `?` that begins no number is read as a placeholder on mysql alone.
theorem slot?_question (hd : d ≠ .mysql) (h : d = .sqlite → NoDigit cs) : slot? d '?' cs = none := by
  cases d
  case postgres => rfl
  case mysql => exact absurd rfl hd
  case sqlite => simp [slot?, (h rfl).takeWhile_eq_nil, Text.natural?]

namespace Raw

-- A digit behind a placeholder would belong to its number.
def Mark.isDigit : Mark → Bool
  | .char c => Text.isDigit c
  | .hole => false

-- Whether a `?` is read as a placeholder where raw text has an operator, by the character behind it.
def misread (d : Dialect) (c : Char) : Bool :=
  match d with
  | .postgres => false
  | .sqlite => Text.isDigit c
  | .mysql => continuesOperator c

-- Raw text in which a database reads the placeholders that were meant. No digits follow them, and of the
-- operators there is none that is read as another placeholder.
structure Legible (d : Dialect) (r : Raw) : Prop where
  holes : d ≠ .mysql → (marks none r.sql.toList).IsChain fun m m' => ¬(m = .hole ∧ m'.isDigit = true)
  operators : (outside none r.sql.toList).IsChain fun c c' => ¬(c = '?' ∧ misread d c' = true)

instance (d : Dialect) (r : Raw) : Decidable (r.Legible d) :=
  decidable_of_iff (_ ∧ _) ⟨fun ⟨holes, operators⟩ => ⟨holes, operators⟩, fun h => ⟨h.holes, h.operators⟩⟩

variable {r : Raw} {vs : List Value} {ms : List Mark} {c' : Char}

theorem noDigit_written (hf : r.Fits ms vs) (hm : ∀ m ∈ ms.head?, m.isDigit = false) (hr : NoDigit rest) :
    NoDigit (r.written d n ms vs ++ rest) := by
  obtain _ | ⟨m, ms⟩ := ms
  · cases hf.nil
    rw [written_nil]
    exact hr
  · cases m
    case char c =>
      rw [written_char]
      rintro _ ⟨⟩
      exact hm _ rfl
    case hole =>
      obtain ⟨v, vs, rfl, -⟩ := hf.hole
      rw [written_hole, List.append_assoc]
      exact fun c hc => (apart_mark_append d n _ c hc).2

theorem isDigit_marks_none (h : NoDigit cs) : ∀ m ∈ (marks none cs).head?, m.isDigit = false := by
  cases cs
  case nil => simp [marks]
  case cons c cs =>
    obtain ⟨m, ms, hm, rfl | rfl⟩ := marks_none_cons c cs <;> rw [hm] <;> rintro _ ⟨⟩
    · rfl
    · exact h c rfl

-- An operator is read as no placeholder where it is legible.
theorem slots_operator (hc : continuesOperator c = true) (hread : misread d c = false)
    (hnext : c = '?' → d = .sqlite → NoDigit cs) :
    slots d (outside none ('?' :: c :: cs)) = slots d (outside none cs) := by
  have hmysql : d ≠ .mysql := by
    rintro rfl
    exact absurd hc (ne_true_of_eq_false hread)
  have hfirst (cs : List Char) : slot? d '?' (c :: cs) = none := slot?_question hmysql fun h => by
    rintro _ ⟨⟩
    simpa [h, misread] using hread
  have hsecond : slot? d c (outside none cs) = none := by
    by_cases hq : c = '?'
    case pos => exact hq ▸ slot?_question hmysql fun h => (hnext hq h).outside
    case neg =>
      refine slot?_eq_none ⟨hq, ?_⟩
      rintro rfl
      exact absurd hc (by decide)
  rw [outside_cons (by decide), outside_cons (opensQuote_of_continuesOperator hc), slots, slots, hfirst, hsecond]
  rfl

-- The last character has nothing behind it in the raw text, but may have in the statement.
theorem slots_written_last (hq : ∀ q ∈ quote, opensQuote q = true) (he : ending quote [c] = none)
    (hd : '$' ∉ outside quote [c]) (hf : r.Fits (marks quote [c]) vs) (hr : NoDigit rest) :
    slots d (outside quote (r.written d n (marks quote [c]) vs ++ rest)) =
      meant d n vs.length ++ slots d (outside none rest) := by
  rw [marks] at hf ⊢
  by_cases hc : quote = none ∧ c = '?'
  case pos =>
    rw [if_pos hc] at hf ⊢
    obtain ⟨rfl, -⟩ := hc
    obtain ⟨v, vs, rfl, hn⟩ := hf.hole
    cases hn.nil
    have h := slots_mark (n := n) (d := d) fun _ => hr.outside
    simpa [written_hole, written_nil, outside_mark, meant] using h
  case neg =>
    rw [if_neg hc] at hf ⊢
    cases hf.char.nil
    have hturn : turn quote c = none := he
    have hne : quote = none → c ≠ '?' ∧ c ≠ '$' := by
      rintro rfl
      exact ⟨fun h => hc ⟨rfl, h⟩, ne_of_notMem_outside hd⟩
    rw [written_char, written_nil, List.singleton_append, slots_outside_cons hq hne, hturn]
    rfl

-- The placeholders of legible raw text are read as those of its values, in their order, and nothing else is.
theorem slots_written (hq : ∀ q ∈ quote, opensQuote q = true) (he : ending quote cs = none)
    (hd : '$' ∉ outside quote cs)
    (hh : d ≠ .mysql → (marks quote cs).IsChain fun m m' => ¬(m = .hole ∧ m'.isDigit = true))
    (ho : (outside quote cs).IsChain fun c c' => ¬(c = '?' ∧ misread d c' = true))
    (hf : r.Fits (marks quote cs) vs) (hr : NoDigit rest) :
    slots d (outside quote (r.written d n (marks quote cs) vs ++ rest)) =
      meant d n vs.length ++ slots d (outside none rest) := by
  fun_induction marks quote cs generalizing vs n with
  | case1 quote =>
    cases hf.nil
    cases (he : quote = none)
    simp [written_nil, meant]
  | case2 quote c => exact slots_written_last hq he hd hf hr
  | case3 c c' cs q hc ih =>
    obtain ⟨rfl, rfl⟩ := hc
    have hquote := hq c' rfl
    rw [outside_escape hquote] at hd ho
    rw [ending_escape hquote] at he
    rw [written_char, written_char, List.cons_append, List.cons_append, slots_outside_cons hq (by simp),
      turn_closes, slots_outside_cons (by simp) fun _ => opensQuote_ne hquote, turn_self hquote]
    exact ih hq he (fun h => hd (by simp [h])) (fun h => (hh h).tail.tail) ho.tail.tail hf.char.char
  | case4 c c' cs q hc ih =>
    have hs := outside_suffix (some q) c (c' :: cs)
    rw [written_char, List.cons_append, slots_outside_cons hq (by simp)]
    exact ih (opensQuote_of_mem_turn hq) he (fun h => hd (hs.subset h)) (fun h => (hh h).tail)
      (ho.suffix hs) hf.char
  | case5 c c' cs hc ih =>
    obtain ⟨rfl, hc'⟩ := hc
    have hquote := opensQuote_of_continuesOperator hc'
    rw [outside_cons (by decide), outside_cons hquote] at hd ho
    rw [ending_cons, turn_of_opensQuote_eq_false (by decide), ending_cons,
      turn_of_opensQuote_eq_false hquote] at he
    obtain ⟨hread, ho⟩ := List.isChain_cons_cons.mp ho
    obtain ⟨hnext, ho⟩ := List.isChain_cons.mp ho
    have hdigit (hq : c' = '?') (h : d = .sqlite) : NoDigit cs := fun c hc => by
      simpa [hq, h, misread] using hnext c (by rwa [head?_outside_none])
    rw [written_char, written_char, List.cons_append, List.cons_append,
      slots_operator hc' (by simpa using hread) fun hq h =>
        noDigit_written hf.char.char (isDigit_marks_none (hdigit hq h)) hr]
    exact ih hq he (fun h => hd (by simp [h])) (fun h => (hh h).tail.tail) ho hf.char.char
  | case6 c' cs hc ih =>
    rw [outside_cons (by decide)] at hd ho
    obtain ⟨v, vs, rfl, hn⟩ := hf.hole
    have hnext (h : d ≠ .mysql) : NoDigit (r.written d (n + 1) (marks none (c' :: cs)) vs ++ rest) :=
      noDigit_written hn (fun m hm => by simpa using (List.isChain_cons.mp (hh h)).1 m hm) hr
    have htail := ih (n := n + 1) hq he (fun h => hd (by simp [h])) (fun h => (hh h).tail) ho.tail hn
    rw [written_hole, List.append_assoc, outside_mark, slots_mark fun h => (hnext h).outside, htail]
    rfl
  | case7 c c' cs hc hn ih =>
    have hs := outside_suffix none c (c' :: cs)
    rw [written_char, List.cons_append, slots_outside_cons hq fun _ => ⟨hn, ne_of_notMem_outside hd⟩]
    exact ih (opensQuote_of_mem_turn hq) he (fun h => hd (hs.subset h)) (fun h => (hh h).tail)
      (ho.suffix hs) hf.char

end Raw

namespace Part

variable {ps : List Part}

theorem slots_numbered {free : Bool} (hs : Spaced free ps) (hf : ∀ e, .fault e ∉ allPieces d ps)
    (hr : ∀ r, .raw r ∈ ps → r.Closed ∧ '$' ∉ outside none r.sql.toList ∧ r.Legible d) (n : Nat) :
    slots d (outside none (Piece.numbered d n (allPieces d ps)).toList) =
      meant d n (Piece.values (allPieces d ps)).length := by
  induction ps generalizing free n with
  | nil => rfl
  | cons p ps ih =>
    have hfp : ∀ e, .fault e ∉ p.pieces d := fun e he => hf e (List.mem_append_left _ he)
    have hfs : ∀ e, .fault e ∉ allPieces d ps := fun e he => hf e (List.mem_append_right _ he)
    have hrs := fun r h => hr r (List.mem_cons_of_mem _ h)
    have hall : allPieces d (p :: ps) = p.pieces d ++ allPieces d ps := List.flatMap_cons
    rw [numbered_allPieces_cons, hall, Piece.values_append, List.length_append, meant_add]
    -- what is read behind a value or raw text does not go on with its number
    have hnext (hs : Spaced false ps) (n : Nat) : NoDigit (Piece.numbered d n (allPieces d ps)).toList :=
      fun c hc => (apart_of_spaced hs hfs n c hc).2
    cases p
    case text s =>
      rw [pieces, numbered_text, hs.1.slotless.slots_eq]
      exact ih hs.2.2 hfs hrs n
    case name part =>
      rw [pieces, numbered_text, (slotless_ident d part).slots_eq]
      exact ih hs.2 hfs hrs n
    case column scopes c =>
      rw [pieces, numbered_text, (slotless_column d scopes c).slots_eq]
      exact ih hs.2 hfs hrs n
    case value v =>
      rw [pieces, numbered_value, outside_mark, slots_mark fun _ => (hnext hs _).outside, ih hs hfs hrs]
      rfl
    case fault e => exact absurd List.mem_cons_self (hfp e)
    case raw r =>
      obtain ⟨hclosed, hdollar, hlegible⟩ := hr r List.mem_cons_self
      have hends : ending none r.sql.toList = none := ending_of_isSome_all? none (by simp) hclosed
      have hpieces : pieces d (raw r) = Raw.pieces.go r (Raw.marks none r.sql.toList) r.binds := r.pieces_eq
      have hfits : r.Fits (Raw.marks none r.sql.toList) r.binds := fun e => hpieces ▸ hfp e
      have hvalues : Piece.values (pieces d (raw r)) = r.binds :=
        Raw.values_pieces (Piece.firstFault?_eq_none_iff.mpr hfp)
      have h := Raw.slots_written (n := n) (by simp) hends hdollar hlegible.holes hlegible.operators hfits
        (hnext hs.2 (n + r.binds.length))
      rw [hvalues, hpieces, ← ih hs.2 hfs hrs]
      exact h

end Part

namespace Query

-- Outside of its quoted regions, a database reads in the text of a statement one placeholder for each
-- parameter, in the order of their numbers, if raw texts end outside of their quotes and are legible to it.
theorem slots_of_compile {d : Dialect} {q : Query} {s : Statement} (h : q.compile d = .ok s)
    (hr : ∀ r ∈ q.raws d, r.Closed) (hd : ∀ r ∈ q.raws d, '$' ∉ outside none r.sql.toList)
    (hl : ∀ r ∈ q.raws d, r.Legible d) :
    slots d (outside none s.sql.toList) = meant d 1 s.params.length := by
  obtain ⟨hf, rfl⟩ := eq_of_compile h
  have hraw {r : Raw} (hm : .raw r ∈ q.parts d) : r ∈ q.raws d := List.mem_filterMap.mpr ⟨_, hm, rfl⟩
  exact Part.slots_numbered (q.parts_spaced d) (Piece.firstFault?_eq_none_iff.mp hf)
    (fun r hm => ⟨hr r (hraw hm), hd r (hraw hm), hl r (hraw hm)⟩) 1

-- Names and quoted text that look like placeholders, beside operators that do.
def asking : Query := .select {
  ctes := []
  distinct := false
  whole := true
  selections := []
  table := ⟨"pet", some "?1"⟩
  joins := []
  filter := [
    ⟨.and, .raw ⟨"tags ?| '\x7b?9\x7d' and note ?? '$5' || ?", [.bool true]⟩⟩,
    ⟨.or, .member (.column ⟨"pet", "$2"⟩) false [.value .null, .value (.i32 4)]⟩]
  groups := []
  order := []
  page := ⟨some 3, none⟩ }

def asked : Statement where
  sql := "select \"?1\".* from \"pet\" as \"?1\" where tags ?| '\x7b?9\x7d' and note ?? '$5' || $1 or \"?1\".\"$2\" in ($2, $3) limit 3"
  params := [.bool true, .null, .i32 4]
  kind := .select

theorem asked_slots :
    asking.compile .postgres = .ok asked ∧
    slots .postgres (outside none asked.sql.toList) = [some 1, some 2, some 3] := by
  have h : asking.compile .postgres = .ok asked := by decide +kernel
  exact ⟨h, slots_of_compile h (by decide +kernel) (by decide +kernel) (by decide +kernel)⟩

-- Whether a database reads other placeholders than those of the parameters, although raw texts end outside of
-- their quotes and hold no `$` there.
def Misread (d : Dialect) (q : Query) (s : Statement) : Prop :=
  q.compile d = .ok s ∧ (∀ r ∈ q.raws d, r.Closed ∧ '$' ∉ outside none r.sql.toList) ∧
    slots d (outside none s.sql.toList) ≠ meant d 1 s.params.length

instance (d : Dialect) (q : Query) (s : Statement) : Decidable (Misread d q s) :=
  inferInstanceAs (Decidable (_ ∧ _))

-- An operator is two placeholders to mysql, and a digit goes on with a number.
theorem illegible_misread :
    Misread .mysql (.delete ⟨[], ⟨"pet", none⟩, [⟨.and, .raw ⟨"tags ?? 'a'", []⟩⟩]⟩)
      ⟨"delete from `pet` where tags ?? 'a'", [], .delete⟩ ∧
    Misread .sqlite (.delete ⟨[], ⟨"pet", none⟩, [⟨.and, .raw ⟨"tags ??1", []⟩⟩]⟩)
      ⟨"delete from \"pet\" where tags ??1", [], .delete⟩ ∧
    Misread .postgres (.delete ⟨[], ⟨"pet", none⟩, [⟨.and, .raw ⟨"id = ?1", [.i32 7]⟩⟩]⟩)
      ⟨"delete from \"pet\" where id = $11", [.i32 7], .delete⟩ := by
  decide +kernel

end Query

end SqlBuilder.Sql
