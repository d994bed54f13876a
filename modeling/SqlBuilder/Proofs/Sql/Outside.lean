import SqlBuilder.Proofs.Sql.Region
/-!
The text outside of quoted regions, read character by character.
-/
namespace SqlBuilder.Sql

-- The region that text ends in. A quote that is doubled closes a region and opens it again.
def ending (quote : Option Char) (cs : List Char) : Option Char := cs.foldl turn quote

-- The text outside of quoted regions, with the quotes themselves.
def outside (quote : Option Char) : List Char → List Char
  | [] => []
  | c :: cs =>
    if quote = none ∨ turn quote c = none then c :: outside (turn quote c) cs else outside (turn quote c) cs

variable {quote : Option Char} {c q : Char} {cs ds : List Char}

theorem outside_append : outside quote (cs ++ ds) = outside quote cs ++ outside (ending quote cs) ds := by
  induction cs generalizing quote with
  | nil => rfl
  | cons c cs ih =>
    simp only [List.cons_append, outside, ih, ending, List.foldl_cons]
    split <;> rfl

theorem ending_append : ending quote (cs ++ ds) = ending (ending quote cs) ds := List.foldl_append

theorem outside_none_cons : outside none (c :: cs) = c :: outside (turn none c) cs := by
  simp [outside]

theorem outside_cons (h : Raw.opensQuote c = false) : outside none (c :: cs) = c :: outside none cs := by
  rw [outside_none_cons, turn_of_opensQuote_eq_false h]

theorem outside_of_opensQuote_eq_false (h : ∀ c ∈ cs, Raw.opensQuote c = false) : outside none cs = cs := by
  induction cs with
  | nil => rfl
  | cons c cs ih =>
    rw [outside_cons (h c List.mem_cons_self), ih fun c hc => h c (List.mem_cons_of_mem _ hc)]

theorem ending_of_opensQuote_eq_false (h : ∀ c ∈ cs, Raw.opensQuote c = false) : ending none cs = none := by
  induction cs with
  | nil => rfl
  | cons c cs ih =>
    rw [ending, List.foldl_cons, turn_of_opensQuote_eq_false (h c List.mem_cons_self)]
    exact ih fun c hc => h c (List.mem_cons_of_mem _ hc)

theorem ending_cons : ending quote (c :: cs) = ending (turn quote c) cs := rfl

theorem outside_closes : outside (some q) (q :: cs) = q :: outside none cs := by
  simp [outside, turn_closes]

theorem outside_inside (h : c ≠ q) : outside (some q) (c :: cs) = outside (some q) cs := by
  simp [outside, turn_inside h]

-- A doubled quote leaves a region and enters it again.
theorem ending_escape (h : Raw.opensQuote q = true) : ending (some q) (q :: q :: cs) = ending (some q) cs := by
  rw [ending_cons, turn_closes, ending_cons, turn_self h]

theorem outside_escape (h : Raw.opensQuote q = true) :
    outside (some q) (q :: q :: cs) = q :: q :: outside (some q) cs := by
  rw [outside_closes, outside_none_cons, turn_self h]

theorem head?_outside_none : (outside none cs).head? = cs.head? := by
  cases cs
  case nil => rfl
  case cons c cs => rw [outside_none_cons, List.head?_cons, List.head?_cons]

theorem ne_of_notMem_outside {b : Char} (h : b ∉ outside none (c :: cs)) : c ≠ b := by
  rw [outside_none_cons] at h
  rintro rfl
  exact h List.mem_cons_self

theorem outside_mark (d : Dialect) (n : Nat) :
    outside none ((Piece.mark d n).toList ++ cs) = (Piece.mark d n).toList ++ outside none cs := by
  have h := opensQuote_mark d n
  rw [outside_append, ending_of_opensQuote_eq_false h, outside_of_opensQuote_eq_false h]

theorem outside_suffix (quote : Option Char) (c : Char) (cs : List Char) :
    outside (turn quote c) cs <:+ outside quote (c :: cs) := by
  rw [outside]
  split
  case isTrue => exact List.suffix_cons _ _
  case isFalse => exact List.suffix_rfl

-- Text that can be taken apart into whole regions ends outside of them.
theorem ending_of_isSome_all? (st : Option Region) (hst : ∀ g ∈ st, Raw.opensQuote g.quote = true)
    (h : (Region.all? st cs).isSome) : ending (st.map Region.quote) cs = none := by
  fun_induction Region.all? st cs with
  | case1 => rfl
  | case2 => simp at h
  | case3 c cs ho ih =>
    rw [Option.map_none, ending_cons, turn_self ho]
    exact ih (by rintro _ ⟨⟩; exact ho) h
  | case4 c cs ho ih =>
    rw [Option.map_none, ending_cons, turn_of_opensQuote_eq_false (by simpa using ho)]
    exact ih (by simp) h
  | case5 r => exact turn_closes
  | case6 => simp at h
  | case7 r cs ih =>
    have hr := hst r rfl
    rw [Option.map_some, ending_escape hr]
    exact ih (by rintro _ ⟨⟩; exact hr) h
  | case8 r c' cs hc ih =>
    rw [Option.map_some, ending_cons, turn_closes]
    exact ih (by simp) (by simpa using h)
  | case9 r c c' cs hc ih =>
    have hr := hst r rfl
    rw [Option.map_some, ending_cons, turn_inside hc]
    exact ih (by rintro _ ⟨⟩; exact hr) h

-- Of a quoted name only the quotes stand outside.
theorem outside_doubled (hq : Raw.opensQuote q = true) (part : List Char) :
    ending (some q) (doubled q part ++ [q]) = none ∧
      ∀ c ∈ outside (some q) (doubled q part ++ [q]), c = q := by
  induction part with
  | nil => simp [doubled, turn_closes, ending, outside_closes, outside]
  | cons c cs ih =>
    by_cases hc : c = q
    case pos =>
      simp only [doubled, hc, if_true, List.cons_append, ending_escape hq, outside_escape hq,
        List.forall_mem_cons, true_and]
      exact ih
    case neg =>
      simp only [doubled, hc, if_false, List.cons_append, ending_cons, turn_inside hc, outside_inside hc]
      exact ih

-- No text stands outside of an identifier's quotes but the star.
theorem outside_ident (d : Dialect) (part : String) :
    ending none (ident d part).toList = none ∧
      ∀ c ∈ outside none (ident d part).toList, c = d.quote ∨ c = '*' := by
  unfold ident
  split
  case isTrue =>
    have hstar : Raw.opensQuote '*' = false := by decide
    simp [ending, turn_of_opensQuote_eq_false hstar, outside_cons hstar, outside]
  case isFalse =>
    have hq := Region.opensQuote_quote d
    obtain ⟨hends, hquotes⟩ := outside_doubled hq part.toList
    rw [String.toList_ofList, quoted, ending_cons, outside_none_cons, turn_self hq, List.forall_mem_cons]
    exact ⟨hends, .inl rfl, fun c hc => .inl (hquotes c hc)⟩

end SqlBuilder.Sql
