import Mathlib.Data.String.Basic
/-!
The bytes of texts in UTF-8. A character has one byte that no other character begins with if it is an ASCII
character, and all bytes of other characters are different from those.
-/
namespace SqlBuilder.Text

def bytes (s : String) : List UInt8 := s.toUTF8.data.toList

-- The part of a text from one byte to another, none if one of them is not where a character begins or ends.
def slice? (s : String) (start stop : Nat) : Option String :=
  if start ≤ stop ∧ String.Pos.Raw.IsValid s ⟨start⟩ ∧ String.Pos.Raw.IsValid s ⟨stop⟩ then
    some (String.Pos.Raw.extract s ⟨start⟩ ⟨stop⟩)
  else none

def encoded (cs : List Char) : List UInt8 := cs.flatMap String.utf8EncodeChar

-- The first byte of a character.
def lead (c : Char) : UInt8 := (String.utf8EncodeChar c).head String.utf8EncodeChar_ne_nil

def IsAscii (c : Char) : Prop := c.toNat < 128

instance {c : Char} : Decidable (IsAscii c) := inferInstanceAs (Decidable (c.toNat < 128))

variable {c a : Char} {b : UInt8} {cs ds es : List Char} {s : String}

theorem utf8EncodeChar_of_isAscii (h : IsAscii c) : String.utf8EncodeChar c = [c.toUInt8] :=
  have hc : c.val ≤ 127 := UInt32.le_iff_toNat_le.mpr (Nat.le_of_lt_succ h)
  String.utf8EncodeChar_eq_singleton (Char.utf8Size_eq_one_iff.mpr hc)

theorem le_of_mem_utf8EncodeChar (h : ¬IsAscii c) : ∀ b ∈ String.utf8EncodeChar c, 128 ≤ b.toNat := by
  have hc : ¬c.val.toNat ≤ 127 := fun hle => h (Nat.lt_succ_of_le hle)
  simp only [String.utf8EncodeChar, hc, if_false]
  split
  case isTrue => simp; omega
  case isFalse =>
    split
    all_goals simp; omega

theorem toNat_toUInt8 (h : IsAscii a) : a.toUInt8.toNat = a.toNat := by
  rw [Char.toUInt8, UInt32.toNat_toUInt8]
  exact Nat.mod_eq_of_lt (Nat.lt_of_lt_of_le h (by decide))

theorem ne_toUInt8_of_le (hb : 128 ≤ b.toNat) (h : IsAscii a) : b ≠ a.toUInt8 := by
  rintro rfl
  rw [toNat_toUInt8 h] at hb
  exact absurd h (Nat.not_lt.mpr hb)

-- The first byte tells an ASCII character from all others.
theorem lead_eq_iff (h : IsAscii a) : lead c = a.toUInt8 ↔ c = a := by
  by_cases hc : IsAscii c
  case pos =>
    have hl : lead c = c.toUInt8 := by simp [lead, utf8EncodeChar_of_isAscii hc]
    rw [hl]
    refine ⟨fun he => ?_, fun he => he ▸ rfl⟩
    have hn := congrArg UInt8.toNat he
    rw [toNat_toUInt8 hc, toNat_toUInt8 h] at hn
    exact Char.toNat_inj.mp hn
  case neg =>
    have hl : 128 ≤ (lead c).toNat := le_of_mem_utf8EncodeChar hc _ (List.head_mem _)
    exact iff_of_false (ne_toUInt8_of_le hl h) fun he => hc (he ▸ h)

theorem decide_lead_eq (h : IsAscii a) : decide (lead c = a.toUInt8) = decide (c = a) :=
  decide_eq_decide.mpr (lead_eq_iff h)

theorem bytes_eq_encoded : bytes s = encoded s.toList := by
  rw [bytes, String.toUTF8, ← String.utf8Encode_toList, List.utf8Encode, List.toList_data_toByteArray, encoded]

theorem encoded_append : encoded (cs ++ ds) = encoded cs ++ encoded ds := List.flatMap_append

theorem encoded_cons : encoded (c :: cs) = String.utf8EncodeChar c ++ encoded cs := List.flatMap_cons

theorem head?_encoded : (encoded cs).head? = cs.head?.map lead := by
  cases cs with
  | nil => rfl
  | cons c cs =>
    rw [encoded_cons, List.head?_append_of_ne_nil _ String.utf8EncodeChar_ne_nil, List.head?_eq_some_head]
    rfl

theorem length_encoded : (encoded cs).length = String.utf8Len cs := by
  induction cs with
  | nil => rfl
  | cons c cs ih =>
    rw [encoded_cons, List.length_append, ih, String.length_utf8EncodeChar, String.utf8Len_cons, Nat.add_comm]

theorem length_encoded_append : (encoded (cs ++ ds)).length = (encoded cs).length + (encoded ds).length := by
  rw [encoded_append, List.length_append]

theorem length_encoded_eq_zero : (encoded cs).length = 0 ↔ cs = [] := by
  cases cs with
  | nil => simp [encoded]
  | cons c cs =>
    have hc : c.utf8Size ≠ 0 := Nat.ne_of_gt c.utf8Size_pos
    simp [encoded_cons, hc]

theorem length_encoded_singleton : (encoded [c]).length = (String.utf8EncodeChar c).length := by
  rw [encoded_cons, List.length_append]
  rfl

theorem length_encoded_append_singleton : (encoded (cs ++ [c])).length = (encoded cs).length + c.utf8Size := by
  rw [length_encoded_append, length_encoded_singleton, String.length_utf8EncodeChar]

theorem drop_bytes (h : s.toList = cs ++ ds) : (bytes s).drop (encoded cs).length = encoded ds := by
  rw [bytes_eq_encoded, h, encoded_append, List.drop_left]

theorem getElem?_bytes (h : s.toList = cs ++ ds) : (bytes s)[(encoded cs).length]? = ds.head?.map lead := by
  rw [← List.head?_drop, drop_bytes h, head?_encoded]

theorem isValid_encoded (h : s.toList = cs ++ ds) : String.Pos.Raw.IsValid s ⟨(encoded cs).length⟩ := by
  rw [String.Pos.Raw.isValid_iff_exists_append]
  refine ⟨String.ofList cs, String.ofList ds, ?_, ?_⟩
  · rw [← String.ofList_append, ← h, String.ofList_toList]
  · rw [String.rawEndPos_ofList, length_encoded]

theorem slice?_eq (h : s.toList = cs ++ ds ++ es) :
    slice? s (encoded cs).length (encoded (cs ++ ds)).length = some (String.ofList ds) := by
  have hle : (encoded cs).length ≤ (encoded (cs ++ ds)).length :=
    length_encoded_append ▸ Nat.le_add_right _ _
  have hs : s = String.ofList (cs ++ ds ++ es) := by rw [← h, String.ofList_toList]
  rw [slice?, if_pos ⟨hle, isValid_encoded (by rw [h, List.append_assoc]), isValid_encoded h⟩,
    length_encoded, length_encoded, String.utf8Len_append, hs, String.extract_of_valid]

end SqlBuilder.Text
