import Mathlib.Data.List.Forall2
import SqlBuilder.Proofs.Sql.Part
import SqlBuilder.Proofs.Text.Decimal
/-!
Writers as writers of parts. The law of each step of a draft says which parts the step writes when the
steps in it write theirs.
-/
namespace SqlBuilder.Sql

theorem Piece.mark_eq (d : Dialect) (n : Nat) : mark d n = d.placeholder n := by
  cases d <;> simp [mark, Dialect.placeholder, Text.decimal_eq_repr]

-- The draft with pieces added to it.
def Draft.extend (d : Dialect) (draft : Draft) (ps : List Piece) : Draft where
  sql := draft.sql ++ Piece.numbered d (draft.placeholders + 1) ps
  params := draft.params ++ Piece.values ps
  placeholders := draft.placeholders + (Piece.values ps).length
  scopes := draft.scopes
  fault? := draft.fault?

-- The draft with pieces added to it and nothing to follow them.
def Draft.halt (d : Dialect) (draft : Draft) (ps : List Piece) (e : Error) : Draft :=
  { draft.extend d ps with fault? := some e }

namespace Draft

variable {d : Dialect} {draft : Draft} {ps qs : List Piece}

@[simp] theorem extend_nil : draft.extend d [] = draft := by
  simp [extend, Piece.numbered, Piece.values]

@[simp] theorem extend_scopes : (draft.extend d ps).scopes = draft.scopes := rfl

theorem extend_append : draft.extend d (ps ++ qs) = (draft.extend d ps).extend d qs := by
  have h : draft.placeholders + 1 + (Piece.values ps).length =
      draft.placeholders + (Piece.values ps).length + 1 := by omega
  simp [extend, Piece.numbered_append, h, String.append_assoc, Nat.add_assoc]

theorem halt_append {e : Error} : draft.halt d (ps ++ qs) e = (draft.extend d ps).halt d qs e := by
  rw [halt, extend_append, halt]

end Draft

namespace Writer

-- Writes pieces up to the first fault.
def put (d : Dialect) (ps : List Piece) : Writer := fun draft =>
  match Piece.firstFault? ps with
  | none => .ok () (draft.extend d ps)
  | some e => .error () (draft.halt d (Piece.beforeFault ps) e)

theorem bind_apply (w w' : Writer) (draft : Draft) :
    (do w; w' : Writer) draft = match w draft with
      | .ok _ after => w' after
      | .error _ after => .error () after := by
  cases h : w draft <;> simp [bind, EStateM.bind, h]

theorem put_append (d : Dialect) (ps qs : List Piece) : put d (ps ++ qs) = (do put d ps; put d qs) := by
  funext draft
  rw [bind_apply]
  cases hp : Piece.firstFault? ps
  case none =>
    simp [put, Piece.firstFault?_append, hp, Piece.beforeFault_append_of_none hp, Draft.extend_append,
      Draft.halt_append]
  case some e =>
    simp [put, Piece.firstFault?_append, hp, Piece.beforeFault_append_of_some hp]

theorem put_nil (d : Dialect) : put d [] = pure () := by
  funext draft
  simp [put, Piece.firstFault?, pure, EStateM.pure]

theorem text_apply (s : String) (draft : Draft) :
    text s draft = .ok () { draft with sql := draft.sql ++ s } := rfl

theorem stop_apply (e : Error) (draft : Draft) :
    stop e draft = .error () { draft with fault? := some e } := rfl

theorem put_text (d : Dialect) (s : String) : put d [.text s] = text s := by
  funext draft
  simp [put, text_apply, Piece.firstFault?, Piece.fault?, Draft.extend, Piece.numbered]
  rfl

theorem put_value (d : Dialect) (v : Value) : put d [.value v] = param d v := by
  funext draft
  simp [put, Piece.firstFault?, Piece.fault?, Draft.extend, Piece.numbered, Piece.mark_eq]
  rfl

theorem put_fault (d : Dialect) (e : Error) : put d [.fault e] = stop e := by
  funext draft
  simp [put, stop_apply, Piece.firstFault?, Piece.fault?, Piece.beforeFault, Draft.halt]

theorem text_append (s t : String) : (do text s; text t : Writer) = text (s ++ t) := by
  funext draft
  simp only [bind_apply, text_apply, String.append_assoc]

theorem inScope_put (d : Dialect) (s : Scope) (ps : List Piece) : inScope s (put d ps) = put d ps := by
  funext draft
  simp only [inScope, put]
  cases Piece.firstFault? ps <;> rfl

-- Inside these scopes the writer writes these parts.
def Writes (d : Dialect) (scopes : List Scope) (w : Writer) (ps : List Part) : Prop :=
  ∀ draft, draft.scopes = scopes → w draft = put d (Part.allPieces d ps) draft

-- Led writers and led parts: the texts agree and the writers write the parts.
abbrev EachWrites (d : Dialect) (scopes : List Scope) :
    List (String × Writer) → List (String × List Part) → Prop :=
  List.Forall₂ fun w ps => w.1 = ps.1 ∧ Writes d scopes w.2 ps.2

namespace Writes

variable {d : Dialect} {scopes : List Scope} {w w' : Writer} {ps qs : List Part}

theorem of_put (h : w = put d (Part.allPieces d ps)) : Writes d scopes w ps :=
  fun _ _ => h ▸ rfl

theorem nil : Writes d scopes (pure ()) [] :=
  of_put (put_nil d).symm

theorem empty : Writes d scopes (text "") [] := by
  apply of_put
  funext draft
  simp [text_apply, put, Part.allPieces, Piece.firstFault?]

theorem text (s : String) : Writes d scopes (text s) [.text s] :=
  of_put (put_text d s).symm

theorem name (part : String) : Writes d scopes (Writer.text (ident d part)) [.name part] :=
  of_put (put_text d _).symm

theorem value (v : Value) : Writes d scopes (param d v) [.value v] :=
  of_put (put_value d v).symm

theorem fault (e : Error) : Writes d scopes (stop e) [.fault e] :=
  of_put (put_fault d e).symm

theorem column (c : Column) : Writes d scopes (column d c) [.column scopes c] := by
  intro draft hd
  have h : Part.allPieces d [.column scopes c] = [.text (c.text d draft.scopes)] := hd ▸ rfl
  rw [h, put_text]
  rfl

theorem bind (h : Writes d scopes w ps) (h' : Writes d scopes w' qs) :
    Writes d scopes (do w; w') (ps ++ qs) := by
  intro draft hd
  have hp : Part.allPieces d (ps ++ qs) = Part.allPieces d ps ++ Part.allPieces d qs :=
    List.flatMap_append
  rw [hp, put_append, bind_apply, bind_apply, h draft hd]
  cases hf : Piece.firstFault? (Part.allPieces d ps)
  case none =>
    simp only [put, hf]
    exact h' _ hd
  case some e => simp only [put, hf]

theorem lead (s : String) (h : Writes d scopes w ps) :
    Writes d scopes (do Writer.text s; w) (.text s :: ps) :=
  (text s).bind h

-- Texts one after the other are one text.
theorem append {s t : String} (h : Writes d scopes (Writer.text s) ps)
    (h' : Writes d scopes (Writer.text t) qs) : Writes d scopes (Writer.text (s ++ t)) (ps ++ qs) :=
  text_append s t ▸ h.bind h'

theorem inScope {s : Scope} (h : Writes d (s :: scopes) w ps) : Writes d scopes (inScope s w) ps := by
  intro draft hd
  rw [← inScope_put d s]
  have hs : w { draft with scopes := s :: draft.scopes } = _ := h _ (by rw [hd])
  simp only [Writer.inScope, hs]

theorem eachLed {ws : List (String × Writer)} {pss : List (String × List Part)}
    (h : EachWrites d scopes ws pss) : Writes d scopes (eachLed ws) (Part.eachLed pss) := by
  induction h with
  | nil => exact nil
  | @cons w ps ws pss head _ ih =>
    have ⟨hl, hw⟩ := head
    have hb := lead w.1 (hw.bind ih)
    simpa only [Writer.eachLed, Part.eachLed, hl] using hb

theorem joined {ws : List (String × Writer)} {pss : List (String × List Part)}
    (h : EachWrites d scopes ws pss) : Writes d scopes (joined ws) (Part.joined pss) := by
  cases h with
  | nil => exact nil
  | cons head tail => exact head.right.bind (eachLed tail)

theorem clause (before after : String) {ws : List (String × Writer)} {pss : List (String × List Part)}
    (h : EachWrites d scopes ws pss) :
    Writes d scopes (clause before ws after) (Part.clause before pss after) := by
  have hj := joined h
  cases h with
  | nil => exact nil
  | cons => exact lead before (hj.bind (text after))

theorem each (separator : String) {ws : List Writer} {pss : List (List Part)}
    (h : List.Forall₂ (Writes d scopes) ws pss) :
    EachWrites d scopes (ws.map fun w => (separator, w)) (pss.map fun ps => (separator, ps)) := by
  rw [EachWrites, List.forall₂_map_left_iff, List.forall₂_map_right_iff]
  exact h.imp fun _ _ hw => ⟨rfl, hw⟩

theorem separated (separator : String) {ws : List Writer} {pss : List (List Part)}
    (h : List.Forall₂ (Writes d scopes) ws pss) :
    Writes d scopes (separated separator ws) (Part.separated separator pss) :=
  joined (each separator h)

theorem listClause (before after : String) {ws : List Writer} {pss : List (List Part)}
    (h : List.Forall₂ (Writes d scopes) ws pss) :
    Writes d scopes (listClause before ws after) (Part.listClause before pss after) :=
  clause before after (each ", " h)

theorem map {α : Type} {f : α → Writer} {g : α → List Part} (h : ∀ x, Writes d scopes (f x) (g x))
    (xs : List α) : List.Forall₂ (Writes d scopes) (xs.map f) (xs.map g) := by
  rw [List.forall₂_map_left_iff, List.forall₂_map_right_iff, List.forall₂_same]
  exact fun x _ => h x

theorem intercalate {α : Type} (separator : String) {f : α → String} {g : α → List Part}
    (h : ∀ x, Writes d scopes (Writer.text (f x)) (g x)) (xs : List α) :
    Writes d scopes (Writer.text (separator.intercalate (xs.map f)))
      (Part.separated separator (xs.map g)) := by
  match xs with
  | [] => exact String.intercalate_nil ▸ empty
  | [x] => simpa [Part.separated, Part.joined, Part.eachLed] using h x
  | x :: y :: xs =>
    have ih := (text separator).append (intercalate separator h (y :: xs))
    have hs : separator.intercalate ((x :: y :: xs).map f) =
        f x ++ (separator ++ separator.intercalate ((y :: xs).map f)) := by
      simp [String.append_assoc]
    rw [hs]
    exact (h x).append ih

-- Parts that write one text are without values and have this text under any numbers.
theorem text_eq {s : String} (h : Writes d scopes (Writer.text s) ps) :
    Piece.values (Part.allPieces d ps) = [] ∧ ∀ n, Piece.numbered d (n + 1) (Part.allPieces d ps) = s := by
  have ha (n : Nat) := h { placeholders := n, scopes := scopes } rfl
  simp only [text_apply, put] at ha
  cases hf : Piece.firstFault? (Part.allPieces d ps)
  case some e => simp [hf] at ha
  case none =>
    have hd (n : Nat) : s = Piece.numbered d (n + 1) (Part.allPieces d ps) ∧
        Piece.values (Part.allPieces d ps) = [] := by simpa [hf, Draft.extend] using ha n
    exact ⟨(hd 0).2, fun n => (hd n).1.symm⟩

end Writes

end Writer

end SqlBuilder.Sql
