import SqlBuilder.Proofs.Sql.Fault
import SqlBuilder.Proofs.Sql.Outside
import SqlBuilder.Proofs.Sql.Values
import SqlBuilder.Proofs.Text.Bytes
/-!
How raw text is read. A loop over its bytes copies the text between placeholders and never cuts a character in
two, and what it takes for placeholders are the question marks that stand free when the text is read character
by character.
-/
namespace SqlBuilder.Sql.Raw

open Text Writer

def isQuoteByte (b : UInt8) : Bool := b = '\''.toUInt8 || b = '"'.toUInt8 || b = '`'.toUInt8

def isOperatorByte (b : UInt8) : Bool := b = '?'.toUInt8 || b = '|'.toUInt8 || b = '&'.toUInt8

-- What a byte does, given the quote that the loop is inside of and the byte behind: the quote that the loop is
-- inside of next, with how many bytes it goes on past this one. None stands for a placeholder.
def advance (quote : Option UInt8) (byte : UInt8) (next? : Option UInt8) : Option (Option UInt8 × Nat) :=
  match quote with
  | some q =>
    if byte = q then if next? = some q then some (quote, 1) else some (none, 0)
    else some (quote, 0)
  | none =>
    if isQuoteByte byte then some (some byte, 0)
    else if byte = '?'.toUInt8 then if next?.any isOperatorByte then some (none, 1) else none
    else some (none, 0)

-- The loop from a byte on. The text from `start` on is not copied yet. None stands for a panic, when a slice
-- would begin or end inside of a character.
def scan (d : Dialect) (r : Raw) (quote : Option UInt8) (start index : Nat) (binds : List Value) :
    Option Writer :=
  if h : index < (bytes r.sql).length then
    match advance quote (bytes r.sql)[index] (bytes r.sql)[index + 1]? with
    | some (quote, more) => scan d r quote start (index + 1 + more) binds
    | none => do
      let span ← slice? r.sql start index
      match binds with
      | [] => some do
        text span
        stop (tooFewBinds r)
      | v :: vs =>
        let rest ← scan d r none (index + 1) (index + 1) vs
        some do
          text span
          param d v
          rest
  else do
    let last ← if start < (bytes r.sql).length then (slice? r.sql start (bytes r.sql).length).map text
      else some (pure ())
    some do
      last
      if binds.isEmpty then pure () else stop (tooManyBinds r)
termination_by (bytes r.sql).length - index

variable {d : Dialect} {r : Raw} {quote : Option Char} {c q : Char} {cs : List Char}

theorem isAscii_of_opensQuote (h : opensQuote q = true) : IsAscii q := by
  simp only [opensQuote, Bool.or_eq_true, decide_eq_true_eq] at h
  rcases h with (rfl | rfl) | rfl <;> decide

theorem isAscii_of_continuesOperator (h : continuesOperator c = true) : IsAscii c := by
  simp only [continuesOperator, Bool.or_eq_true, decide_eq_true_eq] at h
  rcases h with (rfl | rfl) | rfl <;> decide

theorem isQuoteByte_lead : isQuoteByte (lead c) = opensQuote c := by
  rw [isQuoteByte, opensQuote, decide_lead_eq (by decide), decide_lead_eq (by decide), decide_lead_eq (by decide)]

theorem isOperatorByte_lead : isOperatorByte (lead c) = continuesOperator c := by
  rw [isOperatorByte, continuesOperator, decide_lead_eq (by decide), decide_lead_eq (by decide),
    decide_lead_eq (by decide)]

-- What the first byte of a character does, told by the character and the one behind it.
theorem advance_lead (c : Char) (cs : List Char) (hq : ∀ q ∈ quote, opensQuote q = true) :
    advance (quote.map Char.toUInt8) (lead c) (cs.head?.map lead) =
      if quote = none ∧ c = '?' then
        if cs.head?.any continuesOperator then some (none, 1) else none
      else if quote = some c ∧ cs.head? = some c then some (quote.map Char.toUInt8, 1)
      else some ((turn quote c).map Char.toUInt8, 0) := by
  cases quote with
  | some q =>
    have ha := isAscii_of_opensQuote (hq q rfl)
    have hnext : cs.head?.map lead = some q.toUInt8 ↔ cs.head? = some q := by
      cases cs <;> simp [lead_eq_iff ha]
    by_cases hc : c = q
    · subst hc
      simp only [advance, Option.map_some, lead_eq_iff ha, hnext, turn]
      simp
    · simp [advance, lead_eq_iff ha, hc, turn, Ne.symm hc]
  | none =>
    have hany : (cs.head?.map lead).any isOperatorByte = cs.head?.any continuesOperator := by
      cases cs <;> simp [isOperatorByte_lead]
    have hquestion : lead c = '?'.toUInt8 ↔ c = '?' := lead_eq_iff (by decide)
    by_cases ho : opensQuote c = true
    · have hl : lead c = c.toUInt8 := (lead_eq_iff (isAscii_of_opensQuote ho)).mpr rfl
      have hquote : isQuoteByte c.toUInt8 = true := by rw [← hl, isQuoteByte_lead, ho]
      simp [advance, hquote, ho, turn, ne_question ho, hl]
    · simp [advance, isQuoteByte_lead, ho, turn, hany, hquestion]

-- A byte inside of a character that is not an ASCII character does nothing.
theorem advance_of_le (hq : ∀ q ∈ quote, opensQuote q = true) {b : UInt8} (hb : 128 ≤ b.toNat)
    (next? : Option UInt8) :
    advance (quote.map Char.toUInt8) b next? = some (quote.map Char.toUInt8, 0) := by
  have hn (a : Char) (ha : IsAscii a) : b ≠ a.toUInt8 := ne_toUInt8_of_le hb ha
  cases quote with
  | some q => simp [advance, hn q (isAscii_of_opensQuote (hq q rfl))]
  | none =>
    have hquote : isQuoteByte b = false := by
      simp [isQuoteByte, hn '\'' (by decide), hn '"' (by decide), hn '`' (by decide)]
    simp [advance, hquote, hn '?' (by decide)]

variable {start index more : Nat} {byte : UInt8} {from? to? : Option UInt8} {binds : List Value}

theorem scan_advance (hb : (bytes r.sql)[index]? = some byte)
    (h : advance from? byte (bytes r.sql)[index + 1]? = some (to?, more)) :
    scan d r from? start index binds = scan d r to? start (index + 1 + more) binds := by
  obtain ⟨hlt, rfl⟩ := List.getElem?_eq_some_iff.mp hb
  rw [scan, dif_pos hlt, h]

-- The loop passes over the bytes of a character that is not an ASCII character.
theorem scan_past (hq : ∀ q ∈ quote, opensQuote q = true) {bs rest : List UInt8}
    (hbs : ∀ b ∈ bs, 128 ≤ b.toNat) (hd : (bytes r.sql).drop index = bs ++ rest) :
    scan d r (quote.map Char.toUInt8) start index binds =
      scan d r (quote.map Char.toUInt8) start (index + bs.length) binds := by
  induction bs generalizing index with
  | nil => rfl
  | cons b bs ih =>
    have hbyte : (bytes r.sql)[index]? = some b := by rw [← List.head?_drop, hd]; rfl
    have hrest : (bytes r.sql).drop (index + 1) = bs ++ rest := by rw [← List.tail_drop, hd]; rfl
    rw [scan_advance hbyte (advance_of_le hq (hbs b List.mem_cons_self) _),
      ih (fun b hb => hbs b (List.mem_cons_of_mem _ hb)) hrest, List.length_cons]
    congr 1
    omega

variable {xs zs : List Char} {c' : Char}

theorem length_encoded_concat (h : IsAscii c) : (encoded (xs ++ [c])).length = (encoded xs).length + 1 := by
  rw [length_encoded_append, length_encoded_singleton, utf8EncodeChar_of_isAscii h]
  rfl

theorem getElem?_bytes_next (hs : r.sql.toList = xs ++ c :: cs) (h : IsAscii c) :
    (bytes r.sql)[(encoded xs).length + 1]? = cs.head?.map lead := by
  rw [← length_encoded_concat h, getElem?_bytes (by rw [hs, List.append_assoc, List.singleton_append])]

theorem turn_of_not_isAscii (hq : ∀ q ∈ quote, opensQuote q = true) (h : ¬IsAscii c) :
    turn quote c = quote := by
  cases quote with
  | none => exact turn_of_opensQuote_eq_false (by simpa using mt isAscii_of_opensQuote h)
  | some q => exact turn_inside fun hc => h (hc ▸ isAscii_of_opensQuote (hq q rfl))

-- The loop goes past a character that is neither a free question mark nor the first of two closing quotes.
theorem scan_char (hs : r.sql.toList = xs ++ c :: cs) (hq : ∀ q ∈ quote, opensQuote q = true)
    (hfree : ¬(quote = none ∧ c = '?')) (hdoubled : ¬(quote = some c ∧ cs.head? = some c)) :
    scan d r (quote.map Char.toUInt8) start (encoded xs).length binds =
      scan d r ((turn quote c).map Char.toUInt8) start (encoded (xs ++ [c])).length binds := by
  by_cases hc : IsAscii c
  case pos =>
    have ha := advance_lead c cs hq
    rw [if_neg hfree, if_neg hdoubled, ← getElem?_bytes_next hs hc] at ha
    rw [scan_advance (getElem?_bytes hs) ha, length_encoded_concat hc]
  case neg =>
    have hd : (bytes r.sql).drop (encoded xs).length = String.utf8EncodeChar c ++ encoded cs :=
      (drop_bytes hs).trans encoded_cons
    rw [scan_past hq (le_of_mem_utf8EncodeChar hc) hd, turn_of_not_isAscii hq hc, length_encoded_append,
      length_encoded_singleton]

-- The loop goes past two characters at once.
theorem scan_pair (hs : r.sql.toList = xs ++ c :: c' :: cs) (hc : IsAscii c) (hc' : IsAscii c')
    (h : advance from? (lead c) (some (lead c')) = some (from?, 1)) :
    scan d r from? start (encoded xs).length binds =
      scan d r from? start (encoded (xs ++ [c, c'])).length binds := by
  have hlength : (encoded (xs ++ [c, c'])).length = (encoded xs).length + 1 + 1 := by
    rw [← length_encoded_concat hc, ← length_encoded_concat hc', List.append_assoc]
    rfl
  have ha : advance from? (lead c) (bytes r.sql)[(encoded xs).length + 1]? = some (from?, 1) := by
    rw [getElem?_bytes_next hs hc]
    exact h
  rw [scan_advance (getElem?_bytes hs) ha, hlength]

theorem scan_doubled (hs : r.sql.toList = xs ++ q :: q :: cs) (hq : opensQuote q = true) :
    scan d r (some q.toUInt8) start (encoded xs).length binds =
      scan d r (some q.toUInt8) start (encoded (xs ++ [q, q])).length binds := by
  have h : lead q = q.toUInt8 := (lead_eq_iff (isAscii_of_opensQuote hq)).mpr rfl
  exact scan_pair hs (isAscii_of_opensQuote hq) (isAscii_of_opensQuote hq) (by simp [advance, h])

theorem scan_operator (hs : r.sql.toList = xs ++ '?' :: c :: cs) (hc : continuesOperator c = true) :
    scan d r none start (encoded xs).length binds =
      scan d r none start (encoded (xs ++ ['?', c])).length binds := by
  have h : lead '?' = '?'.toUInt8 := (lead_eq_iff (by decide)).mpr rfl
  refine scan_pair hs (by decide) (isAscii_of_continuesOperator hc) ?_
  rw [advance, h, Option.any_some, isOperatorByte_lead, hc]
  rfl

theorem text_fill (ms : List Mark) (vs : List Value) :
    (do text (String.ofList zs); r.fill d (.char c :: ms) vs : Writer) =
      (do text (String.ofList (zs ++ [c])); r.fill d ms vs) := by
  funext draft
  simp only [fill, bind_apply, text_apply, String.ofList_append, String.append_assoc]
  rfl

theorem text_nil (w : Writer) : (do text (String.ofList []); w : Writer) = w := by
  funext draft
  simp [bind_apply, text_apply]

-- At the end the text that is left is copied.
theorem scan_end (hs : r.sql.toList = xs ++ zs) :
    scan d r from? (encoded xs).length (encoded (xs ++ zs)).length binds =
      some (do text (String.ofList zs); r.fill d [] binds) := by
  have hlength : (bytes r.sql).length = (encoded (xs ++ zs)).length := by rw [bytes_eq_encoded, hs]
  have hslice : slice? r.sql (encoded xs).length (bytes r.sql).length = some (String.ofList zs) := by
    rw [hlength]
    exact slice?_eq (by rw [hs, List.append_nil])
  have hfill : (if binds.isEmpty then pure () else stop (tooManyBinds r) : Writer) = r.fill d [] binds := by
    cases binds <;> rfl
  rw [scan, dif_neg (by omega), hslice, hfill]
  split
  case isTrue => rfl
  case isFalse hle =>
    have hz : zs = [] := by
      rw [hlength, length_encoded_append] at hle
      exact length_encoded_eq_zero.mp (by omega)
    rw [hz, text_nil]
    rfl

-- A free question mark ends the text that is left to copy and takes the next bind.
theorem scan_hole {ms : List Mark} (hs : r.sql.toList = xs ++ zs ++ '?' :: cs)
    (hn : cs.head?.any continuesOperator = false)
    (hrest : ∀ vs, scan d r none (encoded (xs ++ zs ++ ['?'])).length (encoded (xs ++ zs ++ ['?'])).length vs =
      some (r.fill d ms vs)) (binds : List Value) :
    scan d r none (encoded xs).length (encoded (xs ++ zs)).length binds =
      some (do text (String.ofList zs); r.fill d (.hole :: ms) binds) := by
  have hnone : ∀ q ∈ (none : Option Char), opensQuote q = true := by simp
  obtain ⟨hlt, hbyte⟩ := List.getElem?_eq_some_iff.mp (getElem?_bytes hs)
  have ha := advance_lead '?' cs hnone
  rw [if_pos ⟨rfl, rfl⟩, hn, if_neg Bool.false_ne_true, ← getElem?_bytes_next hs (by decide),
    Option.map_none] at ha
  rw [scan, dif_pos hlt, hbyte, ha, slice?_eq hs, ← length_encoded_concat (c := '?') (by decide)]
  cases binds with
  | nil => rfl
  | cons v vs =>
    dsimp only
    rw [hrest vs]
    rfl

-- The loop at a character, with the characters `zs` in front of it not copied yet. The induction is on how the
-- characters are read: at each step the loop goes past one or two of them, or a placeholder ends what is copied.
theorem scan_eq (hs : r.sql.toList = xs ++ zs ++ cs) (hq : ∀ q ∈ quote, opensQuote q = true)
    (binds : List Value) :
    scan d r (quote.map Char.toUInt8) (encoded xs).length (encoded (xs ++ zs)).length binds =
      some (do text (String.ofList zs); r.fill d (marks quote cs) binds) := by
  fun_induction marks quote cs generalizing xs zs binds with
  | case1 => exact scan_end (by simpa using hs)
  | case2 quote c =>
    split
    case isTrue h =>
      obtain ⟨rfl, rfl⟩ := h
      refine scan_hole hs rfl (fun vs => ?_) binds
      have hbehind : r.sql.toList = (xs ++ zs ++ ['?']) ++ [] := by simpa using hs
      have hend : scan d r none _ _ vs = _ := scan_end hbehind
      rwa [List.append_nil, text_nil] at hend
    case isFalse h =>
      rw [scan_char hs hq h (by simp), List.append_assoc, text_fill]
      exact scan_end (by simpa using hs)
  | case3 _ _ cs q h ih =>
    obtain ⟨rfl, rfl⟩ := h
    rw [Option.map_some, scan_doubled hs (hq _ rfl), text_fill, text_fill, List.append_assoc, List.append_assoc]
    exact ih (by simpa using hs) hq binds
  | case4 c c' cs q h ih =>
    have hdoubled : ¬(some q = some c ∧ (c' :: cs).head? = some c) := by grind
    rw [scan_char hs hq (by simp) hdoubled, List.append_assoc, text_fill]
    exact ih (by simpa using hs) (opensQuote_of_mem_turn hq) binds
  | case5 _ c' cs h ih =>
    obtain ⟨rfl, hc⟩ := h
    rw [Option.map_none, scan_operator hs hc, text_fill, text_fill, List.append_assoc, List.append_assoc]
    exact ih (by simpa using hs) hq binds
  | case6 c' cs h ih =>
    refine scan_hole hs (by simpa using h) (fun vs => ?_) binds
    have hbehind : r.sql.toList = (xs ++ zs ++ ['?']) ++ [] ++ c' :: cs := by simpa using hs
    have hrest := ih hbehind hq vs
    rwa [List.append_nil, text_nil] at hrest
  | case7 c c' cs h hc ih =>
    rw [scan_char hs hq (by simp [hc]) (by simp), List.append_assoc, text_fill]
    exact ih (by simpa using hs) (opensQuote_of_mem_turn hq) binds

-- The loop never cuts a character in two, and writes what the raw text is written as.
theorem scan_eq_write (d : Dialect) (r : Raw) : scan d r none 0 0 r.binds = some (r.write d) := by
  have hs : r.sql.toList = [] ++ [] ++ r.sql.toList := rfl
  have hq : ∀ q ∈ (none : Option Char), opensQuote q = true := by simp
  have h := scan_eq (d := d) hs hq r.binds
  rwa [text_nil] at h

-- Marks as text, with placeholders for the values from number `n` on.
def filled (d : Dialect) (n : Nat) : List Mark → String
  | [] => ""
  | .char c :: ms => String.singleton c ++ filled d n ms
  | .hole :: ms => d.placeholder n ++ filled d (n + 1) ms

-- The character that a mark was read from.
def Mark.source : Mark → Char
  | .char c => c
  | .hole => '?'

theorem map_source_reading (quote : Option Char) (cs : List Char) : (reading quote cs).map Mark.source = cs := by
  fun_induction reading quote cs with
  | case1 => rfl
  | case2 quote c => split <;> simp_all [Mark.source]
  | case3 _ _ _ _ _ _ ih => simp [Mark.source, ih]
  | case4 _ _ _ _ h _ ih => simp [Mark.source, ih, h]
  | case5 _ _ _ _ _ ih => simp [Mark.source, ih]

-- Mysql has its placeholders where the question marks are.
theorem filled_mysql (n : Nat) (ms : List Mark) : filled .mysql n ms = String.ofList (ms.map Mark.source) := by
  induction ms generalizing n with
  | nil => rfl
  | cons m ms ih =>
    have hcons (c : Char) : String.singleton c ++ String.ofList (ms.map Mark.source) =
        String.ofList (c :: ms.map Mark.source) := by
      rw [String.singleton_eq_ofList, ← String.ofList_append, List.singleton_append]
    cases m with
    | char c => rw [filled, ih, hcons]; rfl
    | hole => rw [filled, ih]; exact hcons '?'

theorem numbered_go {ms : List Mark} {vs : List Value}
    (h : Piece.firstFault? (pieces.go r ms vs) = none) (n : Nat) :
    Piece.numbered d n (pieces.go r ms vs) = filled d n ms := by
  fun_induction pieces.go r ms vs generalizing n with
  | case1 => rfl
  | case2 | case4 => cases h
  | case3 c ms vs ih => rw [Piece.numbered, ih h, filled]
  | case5 ms v vs ih => rw [Piece.numbered, ih h, filled, Piece.mark_eq]

-- What becomes of raw text: how the loop over its bytes, the reading of its characters and what is written hang
-- together.
structure Scanned (d : Dialect) (r : Raw) (ms : List Mark) : Prop where
  loop : scan d r none 0 0 r.binds = some (r.write d)
  reads : marks none r.sql.toList = ms
  source : ms.map Mark.source = r.sql.toList
  succeeds : ∀ draft, (∃ after, r.write d draft = .ok () after) ↔ ms.count .hole = r.binds.length
  written : ms.count .hole = r.binds.length → ∀ draft : Draft, r.write d draft = .ok () {
    draft with
    sql := draft.sql ++ filled d (draft.placeholders + 1) ms
    params := draft.params ++ r.binds
    placeholders := draft.placeholders + r.binds.length }
  tooFew : r.binds.length < ms.count .hole → ∀ draft, ∃ after,
    r.write d draft = .error () after ∧ after.fault? = some (tooFewBinds r)
  tooMany : ms.count .hole < r.binds.length → ∀ draft, ∃ after,
    r.write d draft = .error () after ∧ after.fault? = some (tooManyBinds r)
  unchanged : d = .mysql → ∀ n, filled d n ms = r.sql

theorem write_of_flaws_eq_nil (h : r.flaws = []) (draft : Draft) : r.write d draft = .ok () {
    draft with
    sql := draft.sql ++ filled d (draft.placeholders + 1) (reading none r.sql.toList)
    params := draft.params ++ r.binds
    placeholders := draft.placeholders + r.binds.length } := by
  have hf : Piece.firstFault? r.pieces = none := by rw [firstFault?_pieces, h]; rfl
  have hn : Piece.numbered d (draft.placeholders + 1) r.pieces = _ := numbered_go hf _
  rw [write_eq_put, put, hf]
  simp only [Draft.extend, values_pieces hf, hn]

theorem write_of_flaws_eq {f : Flaw} (h : r.flaws = [f]) (draft : Draft) :
    ∃ after, r.write d draft = .error () after ∧ after.fault? = some f.error := by
  have hf : Piece.firstFault? r.pieces = some f.error := by rw [firstFault?_pieces, h]; rfl
  rw [write_eq_put, put, hf]
  exact ⟨_, rfl, rfl⟩

theorem placeholders_replaced (d : Dialect) (r : Raw) : r.Scanned d (reading none r.sql.toList) := by
  have unmatched (h : (reading none r.sql.toList).count .hole ≠ r.binds.length) : r.flaws = [.unmatched r] :=
    if_neg h
  have matched (h : (reading none r.sql.toList).count .hole = r.binds.length) : r.flaws = [] := if_pos h
  refine ⟨scan_eq_write d r, marks_none_eq_reading, map_source_reading none _, fun draft => ⟨?fits, ?succeeds⟩,
    ?written, ?tooFew, ?tooMany, ?unchanged⟩
  case fits =>
    rintro ⟨after, hw⟩
    by_contra h
    obtain ⟨_, he, -⟩ := write_of_flaws_eq (d := d) (unmatched h) draft
    cases hw.symm.trans he
  case succeeds => exact fun h => ⟨_, write_of_flaws_eq_nil (matched h) draft⟩
  case written => exact fun h draft => write_of_flaws_eq_nil (matched h) draft
  case tooFew =>
    intro h draft
    exact Flaw.error_of_tooFew h ▸ write_of_flaws_eq (unmatched h.ne') draft
  case tooMany =>
    intro h draft
    exact Flaw.error_of_tooMany h ▸ write_of_flaws_eq (unmatched h.ne) draft
  case unchanged =>
    rintro rfl n
    rw [filled_mysql, map_source_reading, String.ofList_toList]

example : (reading none "'it''s ?' ?| ? `é?` ???".toList).count .hole = 2 := by decide

end SqlBuilder.Sql.Raw
