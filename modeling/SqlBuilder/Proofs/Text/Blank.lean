import Mathlib.Data.List.TakeWhile
import SqlBuilder.Text.Blank
/-!
White space is trimmed off both ends of a text and from nowhere else.
-/
namespace SqlBuilder.Text

variable {cs front mid back : List Char}

def IsBlank (cs : List Char) : Prop := ∀ c ∈ cs, isBlank c = true

instance : DecidablePred IsBlank := fun cs => decidable_of_iff (cs.all isBlank = true) List.all_eq_true

theorem isBlank_append : IsBlank (front ++ back) ↔ IsBlank front ∧ IsBlank back :=
  List.forall_mem_append

theorem trimStart_append (h : IsBlank front) : trimStart (front ++ cs) = trimStart cs :=
  List.dropWhile_append_of_pos h

theorem trimStart_of_solid (h : ∀ c ∈ cs.head?, isBlank c = false) : trimStart cs = cs := by
  cases cs with
  | nil => rfl
  | cons c cs => exact List.dropWhile_cons_of_neg (by simp [h c rfl])

theorem exists_trimStart (cs : List Char) : ∃ front, IsBlank front ∧ cs = front ++ trimStart cs :=
  ⟨cs.takeWhile isBlank, fun _ => List.mem_takeWhile_imp, List.takeWhile_append_dropWhile.symm⟩

theorem exists_trim (cs : List Char) : ∃ front back, IsBlank front ∧ IsBlank back ∧ cs = front ++ trim cs ++ back := by
  obtain ⟨front, hfront, hcs⟩ := exists_trimStart cs
  obtain ⟨back, hback, hrest⟩ := exists_trimStart (trimStart cs).reverse
  refine ⟨front, back.reverse, hfront, fun c hc => hback c (List.mem_reverse.mp hc), ?_⟩
  have hstart : trimStart cs = trim cs ++ back.reverse := by
    rw [trim, ← List.reverse_append, ← hrest, List.reverse_reverse]
  rw [List.append_assoc, ← hstart, ← hcs]

theorem trim_append (hfront : IsBlank front) (hmid : ∀ c ∈ mid, isBlank c = false) (hback : IsBlank back) :
    trim (front ++ mid ++ back) = mid := by
  have hend : trimStart (mid ++ back).reverse = trimStart mid.reverse := by
    rw [List.reverse_append]
    exact trimStart_append fun c hc => hback c (List.mem_reverse.mp hc)
  have hlast : trimStart mid.reverse = mid.reverse :=
    trimStart_of_solid fun c hc => hmid c (List.mem_reverse.mp (List.mem_of_head? hc))
  cases mid with
  | nil =>
    have hnil : trimStart (front ++ back) = [] :=
      List.dropWhile_eq_nil_iff.mpr (isBlank_append.mpr ⟨hfront, hback⟩)
    rw [List.append_nil, trim, hnil]
    rfl
  | cons c mid =>
    have hstart : trimStart (front ++ (c :: mid) ++ back) = c :: mid ++ back := by
      rw [List.append_assoc, trimStart_append hfront]
      exact trimStart_of_solid fun _ h => Option.some.inj h ▸ hmid c List.mem_cons_self
    rw [trim, hstart, hend, hlast, List.reverse_reverse]

theorem trim_eq_nil_iff : trim cs = [] ↔ IsBlank cs := by
  constructor
  case mp =>
    intro h
    obtain ⟨front, back, hfront, hback, hcs⟩ := exists_trim cs
    rw [hcs, h, List.append_nil]
    exact isBlank_append.mpr ⟨hfront, hback⟩
  case mpr =>
    intro h
    have htrim : trim (cs ++ [] ++ []) = [] := trim_append h (by simp) (by simp [IsBlank])
    simpa using htrim

end SqlBuilder.Text
