import SqlBuilder.Dialect
/-!
Decimal digits are those of `Nat.repr`, and read as the number that they were written from.
-/
namespace SqlBuilder.Text

theorem digitChar_eq {n : Nat} (h : n < 10) : digitChar n = n.digitChar := by
  revert n
  decide

theorem digitChar_mod (n : Nat) : digitChar n = digitChar (n % 10) := by
  simp [digitChar]

theorem digits_eq_toDigits (n : Nat) : digits n = Nat.toDigits 10 n := by
  induction n using digits.induct with
  | case1 n h => rw [digits, if_pos h, Nat.toDigits_of_lt_base h, digitChar_eq h]
  | case2 n h ih =>
    have hm : n % 10 < 10 := Nat.mod_lt n (by omega)
    rw [digits, if_neg h, ih, digitChar_mod, digitChar_eq hm]
    exact (Nat.toDigits_of_base_le (by omega) (by omega)).symm

theorem decimal_eq_repr (n : Nat) : decimal n = n.repr := by
  rw [decimal, digits_eq_toDigits, Nat.repr_eq_ofList_toDigits]

theorem digitValue?_digitChar (n : Nat) : digitValue? (digitChar n) = some (n % 10) := by
  have h : ∀ m < 10, digitValue? (digitChar m) = some m := by decide
  rw [digitChar_mod]
  exact h _ (Nat.mod_lt n (by decide))

theorem isDigit_of_mem_digits {n : Nat} {c : Char} (hc : c ∈ digits n) : isDigit c = true := by
  have h (n : Nat) : isDigit (digitChar n) = true := by rw [isDigit, digitValue?_digitChar, Option.isSome_some]
  induction n using digits.induct with
  | case1 n hn =>
    rw [digits, if_pos hn, List.mem_singleton] at hc
    exact hc ▸ h n
  | case2 n hn ih =>
    rw [digits, if_neg hn, List.mem_append, List.mem_singleton] at hc
    exact hc.elim ih fun hc => hc ▸ h n

theorem readDigits?_append (read : Nat) (cs ds : List Char) :
    readDigits? read (cs ++ ds) = (readDigits? read cs).bind (readDigits? · ds) := by
  induction cs generalizing read with
  | nil => rfl
  | cons c cs ih =>
    cases h : digitValue? c with
    | none => simp [readDigits?, h]
    | some d => simp [readDigits?, h, ih]

theorem readDigits?_digits (n : Nat) : readDigits? 0 (digits n) = some n := by
  induction n using digits.induct with
  | case1 n h => simp [digits, h, readDigits?, digitValue?_digitChar, Nat.mod_eq_of_lt h]
  | case2 n h ih =>
    rw [digits, if_neg h, readDigits?_append, ih]
    simp only [Option.bind_some, readDigits?, digitValue?_digitChar, Nat.div_add_mod]

theorem digitValue?_eq_some_iff {c : Char} {d : Nat} :
    digitValue? c = some d ↔ c.isDigit = true ∧ c.toNat - '0'.toNat = d := by
  have hc : ('0' ≤ c ∧ c ≤ '9') ↔ c.isDigit = true := by
    rw [Char.isDigit_iff_toNat]
    rfl
  rw [digitValue?, ← hc]
  split
  case isTrue h => simp [h]
  case isFalse h => simp [h]

theorem isDigit_iff {c : Char} : isDigit c = true ↔ c.isDigit = true := by
  simp [isDigit, Option.isSome_iff_exists, digitValue?_eq_some_iff]

theorem readDigits?_eq_some_iff {read n : Nat} {cs : List Char} : readDigits? read cs = some n ↔
    (∀ c ∈ cs, c.isDigit = true) ∧ Nat.ofDigitChars 10 cs read = n := by
  induction cs generalizing read with
  | nil => simp [readDigits?]
  | cons c cs ih =>
    rw [readDigits?, Nat.ofDigitChars_cons, List.forall_mem_cons]
    cases h : digitValue? c with
    | none =>
      have hc : ¬c.isDigit = true := fun hc => by simp [digitValue?_eq_some_iff.mpr ⟨hc, rfl⟩] at h
      simp [hc]
    | some d =>
      obtain ⟨hc, rfl⟩ := digitValue?_eq_some_iff.mp h
      simp [hc, ih]

theorem natural?_eq_some_iff {n : Nat} {cs : List Char} :
    natural? cs = some n ↔ cs ≠ [] ∧ (∀ c ∈ cs, c.isDigit = true) ∧ Nat.ofDigitChars 10 cs 0 = n := by
  cases cs with
  | nil => simp [natural?]
  | cons c cs => simp [natural?, readDigits?_eq_some_iff]

theorem natural?_digits (n : Nat) : natural? (digits n) = some n := by
  have h : digits n ≠ [] := by
    rw [digits]
    split <;> simp
  obtain ⟨c, cs, hc⟩ := List.exists_cons_of_ne_nil h
  rw [hc, natural?, ← hc, readDigits?_digits]
  simp

end SqlBuilder.Text
