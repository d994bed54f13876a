import SqlBuilder.Proofs.Sql.Outside
import SqlBuilder.Proofs.Text.Bytes
import SqlBuilder.Proofs.Text.Pieces
/-!
Names read back from how they are written. An identifier is one region from its first character to its last, and
the name of a table is taken apart at the dots outside of quotes, so that no two names are written alike. The loop
that doubles quotes copies the text between them and never cuts a character in two.
-/
namespace SqlBuilder

namespace Sql

open Text

-- The pieces of text between the dots that stand outside of quotes.
def dotted (quote : Option Char) : List Char → List (List Char)
  | [] => [[]]
  | c :: cs =>
    if quote = none ∧ c = '.' then [] :: dotted none cs else (dotted (turn quote c) cs).modifyHead (c :: ·)

-- What an identifier stands for: the star for itself, any other one for what is quoted. It has to be a single
-- region in the quotes of the dialect, with nothing behind it.
def readIdent? (d : Dialect) (text : List Char) : Option (List Char) :=
  if text = ['*'] then some text
  else match Region.first? text with
    | some (r, []) => if r.quote = d.quote then some r.content else none
    | _ => none

-- What the name of a table stands for, piece by piece.
def readTable? (d : Dialect) (text : List Char) : Option (List (List Char)) :=
  (dotted none text).mapM (readIdent? d)

-- Characters with the offsets in bytes at which they begin, the first of them at `start`.
def indices (start : Nat) : List Char → List (Nat × Char)
  | [] => []
  | c :: cs => (start, c) :: indices (start + c.utf8Size) cs

-- The loop over the characters of a part that doubles the quotes. The text from `last` on is not copied yet. None
-- stands for a panic, when a slice would begin or end inside of a character.
def escape (quote : Char) (part : String) (last : Nat) : List (Nat × Char) → Option String
  | [] => if last < (bytes part).length then slice? part last (bytes part).length else some ""
  | (index, c) :: rest =>
    if c = quote then
      (if index = last then some "" else slice? part last index).bind fun copied =>
        (escape quote part (index + c.utf8Size) rest).map fun others =>
          copied ++ String.ofList [quote, quote] ++ others
    else escape quote part last rest

def writeIdent? (d : Dialect) (part : String) : Option String :=
  if part = "*" then some "*"
  else (escape d.quote part 0 (indices 0 part.toList)).map fun inside =>
    String.singleton d.quote ++ inside ++ String.singleton d.quote

variable {d : Dialect} {quote : Option Char} {cs ds : List Char}

theorem tableName_eq (d : Dialect) (name : String) : tableName d name =
    ".".intercalate ((name.toList.splitOn '.').map fun p => ident d (String.ofList p)) := by
  rw [tableName, Text.pieces_eq_splitOnP, List.splitOn_eq_splitOnP]
  rfl

theorem toList_ident {part : String} (h : part ≠ "*") : (ident d part).toList = quoted d.quote part.toList := by
  rw [ident, if_neg h, String.toList_ofList]

theorem quote_ne_dot (d : Dialect) : d.quote ≠ '.' := by
  cases d <;> decide

theorem quote_ne_star (d : Dialect) : d.quote ≠ '*' := by
  cases d <;> decide

theorem dotted_append (h : '.' ∉ outside quote cs) :
    dotted quote (cs ++ ds) = (dotted (ending quote cs) ds).modifyHead (cs ++ ·) := by
  induction cs generalizing quote with
  | nil => exact (congrFun List.modifyHead_id _).symm
  | cons c cs ih =>
    have hc : ¬(quote = none ∧ c = '.') := by
      rintro ⟨rfl, rfl⟩
      simp [outside_none_cons] at h
    have hcs : '.' ∉ outside (turn quote c) cs := fun hm => h ((outside_suffix quote c cs).mem hm)
    rw [List.cons_append, dotted, if_neg hc, ih hcs, List.modifyHead_modifyHead, ending_cons]
    rfl

theorem dot_notMem_outside_ident (d : Dialect) (part : String) : '.' ∉ outside none (ident d part).toList := by
  intro h
  rcases (outside_ident d part).2 '.' h with hq | hs
  case inl => exact quote_ne_dot d hq.symm
  case inr => exact absurd hs (by decide)

theorem dotted_ident_append (d : Dialect) (part : String) (cs : List Char) :
    dotted none ((ident d part).toList ++ cs) = (dotted none cs).modifyHead ((ident d part).toList ++ ·) := by
  rw [dotted_append (dot_notMem_outside_ident d part), (outside_ident d part).1]

-- Identifiers with dots between them are taken apart again.
theorem dotted_intercalate (d : Dialect) (part : String) (parts : List String) :
    dotted none (".".intercalate ((part :: parts).map (ident d))).toList =
      (part :: parts).map fun p => (ident d p).toList := by
  induction parts generalizing part with
  | nil =>
    have h := dotted_ident_append d part []
    simpa [dotted] using h
  | cons next parts ih =>
    rw [List.map_cons, List.map_cons, String.intercalate_cons_cons, ← List.map_cons, String.toList_append,
      String.toList_append, List.append_assoc, dotted_ident_append]
    have hdot : dotted none (".".toList ++ (".".intercalate ((next :: parts).map (ident d))).toList) =
        [] :: dotted none (".".intercalate ((next :: parts).map (ident d))).toList := rfl
    rw [hdot, ih, List.modifyHead_cons, List.append_nil]
    rfl

theorem dotted_ident (d : Dialect) (part : String) : dotted none (ident d part).toList = [(ident d part).toList] :=
  dotted_intercalate d part []

theorem dotted_tableName (d : Dialect) (name : String) : dotted none (tableName d name).toList =
    (name.toList.splitOn '.').map fun p => (ident d (String.ofList p)).toList := by
  obtain ⟨first, others, hp⟩ := List.exists_cons_of_ne_nil (List.splitOn_ne_nil '.' name.toList)
  have h := dotted_intercalate d (String.ofList first) (others.map String.ofList)
  rw [← List.map_cons, ← hp, List.map_map, List.map_map] at h
  rw [tableName_eq]
  exact h

-- A dot outside of quotes is in no identifier.
theorem ident_ne_intercalate (d : Dialect) (name part next : String) (parts : List String) :
    ident d name ≠ ".".intercalate ((part :: next :: parts).map (ident d)) := by
  intro h
  have hd := dotted_intercalate d part (next :: parts)
  rw [← h, dotted_ident] at hd
  simpa using congrArg List.length hd

theorem first?_ident {part : String} (h : part ≠ "*") :
    Region.first? (ident d part).toList = some (⟨d.quote, part.toList⟩, []) := by
  rw [toList_ident h, quoted, Region.first?, if_pos (Region.opensQuote_quote d)]
  have hn : ([] : List Char).head? ≠ some d.quote := by simp
  exact Region.close?_doubled d.quote [] part.toList hn

theorem readIdent?_ident (d : Dialect) (part : String) :
    readIdent? d (ident d part).toList = some part.toList := by
  by_cases h : part = "*"
  case pos =>
    have hs : ident d "*" = "*" := if_pos rfl
    rw [h, hs]
    exact if_pos rfl
  case neg =>
    have hs : (ident d part).toList ≠ ['*'] := by
      rw [toList_ident h, quoted]
      exact fun hs => quote_ne_star d (List.cons.inj hs).1
    rw [readIdent?, if_neg hs, first?_ident h]
    exact if_pos rfl

theorem readTable?_tableName (d : Dialect) (name : String) :
    readTable? d (tableName d name).toList = some (name.toList.splitOn '.') := by
  have hread : (readIdent? d ∘ fun p => (ident d (String.ofList p)).toList) = some := by
    funext p
    rw [Function.comp_apply, readIdent?_ident, String.toList_ofList]
  rw [readTable?, dotted_tableName, List.mapM_map, hread]
  exact List.mapM_pure.trans (congrArg some (List.map_id _))

theorem ident_injective (d : Dialect) : Function.Injective (ident d) := by
  intro part part' h
  have hr := readIdent?_ident d part
  rw [h, readIdent?_ident, Option.some.injEq] at hr
  exact String.toList_inj.mp hr.symm

theorem tableName_injective (d : Dialect) : Function.Injective (tableName d) := by
  intro name name' h
  have hr := readTable?_tableName d name
  rw [h, readTable?_tableName, Option.some.injEq] at hr
  have hj := congrArg (List.intercalate ['.']) hr
  rw [List.intercalate_splitOn, List.intercalate_splitOn] at hj
  exact String.toList_inj.mp hj.symm

section

variable {q : Char} {part : String} {xs zs : List Char}

theorem eq_nil_of_length_le (h : (encoded (xs ++ zs)).length ≤ (encoded xs).length) : zs = [] := by
  rw [length_encoded_append] at h
  exact length_encoded_eq_zero.mp (by omega)

-- The loop at a character, with the characters `zs` in front of it not copied yet.
theorem escape_eq (hs : part.toList = xs ++ zs ++ cs) :
    escape q part (encoded xs).length (indices (encoded (xs ++ zs)).length cs) =
      some (String.ofList (zs ++ doubled q cs)) := by
  induction cs generalizing xs zs with
  | nil =>
    have hlength : (bytes part).length = (encoded (xs ++ zs)).length := by
      rw [bytes_eq_encoded, hs, List.append_nil]
    rw [indices, escape, hlength, doubled, List.append_nil]
    split
    case isTrue => exact slice?_eq hs
    case isFalse h => rw [eq_nil_of_length_le (Nat.le_of_not_lt h), String.ofList_nil]
  | cons c cs ih =>
    rw [indices, escape]
    split
    case isTrue hc =>
      subst hc
      have hcopied : (if (encoded (xs ++ zs)).length = (encoded xs).length then some ""
          else slice? part (encoded xs).length (encoded (xs ++ zs)).length) = some (String.ofList zs) := by
        split
        case isTrue h => rw [eq_nil_of_length_le h.le, String.ofList_nil]
        case isFalse => exact slice?_eq hs
      have hnext : (encoded (xs ++ zs)).length + c.utf8Size = (encoded (xs ++ zs ++ [c])).length :=
        length_encoded_append_singleton.symm
      have hs' : part.toList = xs ++ zs ++ [c] ++ [] ++ cs := by simp [hs]
      have hothers := ih hs'
      rw [List.append_nil, List.nil_append] at hothers
      rw [hcopied, hnext, hothers, Option.bind_some, Option.map_some, doubled, if_pos rfl,
        ← String.ofList_append, ← String.ofList_append, List.append_assoc]
      rfl
    case isFalse hc =>
      have hnext : (encoded (xs ++ zs)).length + c.utf8Size = (encoded (xs ++ (zs ++ [c]))).length := by
        rw [← List.append_assoc, length_encoded_append_singleton]
      rw [hnext, ih (by simp [hs]), doubled, if_neg hc, List.append_assoc, List.singleton_append]

end

theorem writeIdent?_eq (d : Dialect) (part : String) : writeIdent? d part = some (ident d part) := by
  unfold writeIdent? ident
  split
  case isTrue => rfl
  case isFalse =>
    have hs : part.toList = [] ++ [] ++ part.toList := rfl
    have h : escape d.quote part 0 (indices 0 part.toList) = _ := escape_eq hs
    rw [h, Option.map_some, String.singleton_eq_ofList, ← String.ofList_append, ← String.ofList_append, quoted]
    rfl

-- What is written of a name, as an identifier and as the name of a table, and how the name is had back from it.
structure Restored (d : Dialect) (name : String) : Prop where
  star : name = "*" → ident d name = "*"
  -- one region in the quotes of the dialect, with nothing behind it
  region : name ≠ "*" → Region.first? (ident d name).toList = some (⟨d.quote, name.toList⟩, [])
  pieces : readTable? d (tableName d name).toList = some (name.toList.splitOn '.')
  -- no slice of the loop cuts a character in two
  loop : writeIdent? d name = some (ident d name)

-- Every name can be had back from what is written of it, and so no two names are written alike.
theorem names_restored (d : Dialect) :
    (∀ name, Restored d name) ∧ Function.Injective (ident d) ∧ Function.Injective (tableName d) := by
  refine ⟨fun name => ?_, ident_injective d, tableName_injective d⟩
  exact {
    star := fun h => if_pos h
    region := first?_ident
    pieces := readTable?_tableName d name
    loop := writeIdent?_eq d name }

example : tableName .mysql "a`b..*" = "`a``b`.``.*" ∧
    readTable? .mysql "`a``b`.``.*".toList = some ["a`b".toList, [], ['*']] := by
  decide +kernel

end Sql

end SqlBuilder
