import SqlBuilder.Text.Pieces
/-!
Texts are taken apart as lists are split in the library, so that what was joined is told apart again.
-/
namespace SqlBuilder.Text

theorem pieces_eq_splitOnP (separates : Char → Bool) (cs : List Char) :
    pieces separates cs = cs.splitOnP separates := by
  induction cs with
  | nil => simp [pieces, List.splitOnP_nil]
  | cons c cs ih =>
    obtain ⟨p, ps, hp⟩ := List.exists_cons_of_ne_nil (List.splitOnP_ne_nil separates cs)
    rw [pieces, List.splitOnP_cons_eq_if_modifyHead, ih, hp]
    rfl

theorem pieces_intercalate {c : Char} {ps : List (List Char)} (hc : ∀ p ∈ ps, c ∉ p) (hne : ps ≠ []) :
    pieces (· = c) ([c].intercalate ps) = ps := by
  rw [pieces_eq_splitOnP]
  exact List.splitOn_intercalate c hc hne

end SqlBuilder.Text
