import SqlBuilder.Proofs.Text.Pieces
import SqlBuilder.Uuid
/-!
Identifiers are read back from their text: bytes from their hexadecimal digits, and the groups of digits
from the hyphens between them.
-/
namespace SqlBuilder

namespace Text

variable {n : Nat} {c : Char} {bytes : List UInt8}

theorem hexValue?_hexDigit (h : n < 16) : hexValue? (hexDigit n) = some n := by
  revert n
  decide

theorem length_hexOfBytes : (hexOfBytes bytes).length = 2 * bytes.length := by
  induction bytes with
  | nil => rfl
  | cons b bytes ih =>
    rw [hexOfBytes, List.length_cons, List.length_cons, ih, List.length_cons]
    omega

theorem bytesOfHex?_hexOfBytes : bytesOfHex? (hexOfBytes bytes) = some bytes := by
  induction bytes with
  | nil => rfl
  | cons b bytes ih =>
    have hb : b.toNat < 256 := b.toNat_lt
    have hdiv : 16 * (b.toNat / 16) + b.toNat % 16 = b.toNat := Nat.div_add_mod _ 16
    rw [hexOfBytes, bytesOfHex?, hexValue?_hexDigit (by omega), hexValue?_hexDigit (by omega), ih]
    simp only
    rw [hdiv, UInt8.ofNat_toNat]

theorem mem_hexOfBytes (hc : c ∈ hexOfBytes bytes) : ∃ n < 16, c = hexDigit n := by
  induction bytes with
  | nil => cases hc
  | cons b bytes ih =>
    have hb : b.toNat < 256 := b.toNat_lt
    rw [hexOfBytes, List.mem_cons, List.mem_cons] at hc
    obtain rfl | rfl | hc := hc
    case inl => exact ⟨_, by omega, rfl⟩
    case inr.inl => exact ⟨_, by omega, rfl⟩
    case inr.inr => exact ih hc

theorem hyphen_notMem_hexOfBytes : '-' ∉ hexOfBytes bytes := by
  intro hc
  obtain ⟨n, hn, hd⟩ := mem_hexOfBytes hc
  exact (by decide : ∀ n < 16, '-' ≠ hexDigit n) n hn hd

end Text

namespace Uuid

open Text

variable {u : Uuid} {cs : List Char}

theorem ofBytes?_bytes : ofBytes? u.bytes = some u := by
  rw [ofBytes?, dif_pos u.length_eq]

theorem ofHex?_hexOfBytes : ofHex? (hexOfBytes u.bytes) = some u := by
  rw [ofHex?, bytesOfHex?_hexOfBytes, Option.bind_some, ofBytes?_bytes]

-- The five groups that digits are written in.
def groups (cs : List Char) : List (List Char) :=
  [cs.take 8, (cs.drop 8).take 4, (cs.drop 12).take 4, (cs.drop 16).take 4, cs.drop 20]

theorem toList_text : u.text.toList = ['-'].intercalate (groups (hexOfBytes u.bytes)) := by
  simp [text, groups, List.intercalate]

theorem flatten_groups (cs : List Char) : (groups cs).flatten = cs := by
  have hjoin (i j : Nat) : (cs.drop i).take j ++ cs.drop (i + j) = cs.drop i := by
    rw [← List.drop_drop, List.take_append_drop]
  simp only [groups, List.flatten_cons, List.flatten_nil, List.append_nil]
  rw [hjoin 16 4, hjoin 12 4, hjoin 8 4, List.take_append_drop]

theorem map_length_groups (h : cs.length = 32) : (groups cs).map List.length = [8, 4, 4, 4, 12] := by
  simp [groups, h]

theorem mem_of_mem_groups {g : List Char} {c : Char} (hg : g ∈ groups cs) (hc : c ∈ g) : c ∈ cs :=
  flatten_groups cs ▸ List.mem_flatten_of_mem hg hc

theorem length_hexOfBytes_bytes : (hexOfBytes u.bytes).length = 32 := by
  rw [length_hexOfBytes, u.length_eq]

theorem ofHyphenated?_text : ofHyphenated? u.text.toList = some u := by
  have hgroups : ∀ g ∈ groups (hexOfBytes u.bytes), '-' ∉ g :=
    fun g hg hc => hyphen_notMem_hexOfBytes (mem_of_mem_groups hg hc)
  have hpieces : pieces (· = '-') u.text.toList = groups (hexOfBytes u.bytes) := by
    rw [toList_text]
    exact pieces_intercalate hgroups (List.cons_ne_nil _ _)
  rw [ofHyphenated?, hpieces]
  simp only [map_length_groups length_hexOfBytes_bytes, if_true, flatten_groups, ofHex?_hexOfBytes]

theorem length_text : u.text.toList.length = 36 := by
  simp [text, length_hexOfBytes_bytes]

theorem text_eq_cons : ∃ n < 16, ∃ cs, u.text.toList = hexDigit n :: cs := by
  obtain ⟨c, cs, hc⟩ := List.exists_cons_of_length_eq_add_one (length_hexOfBytes_bytes (u := u))
  obtain ⟨n, hn, rfl⟩ := mem_hexOfBytes (hc ▸ List.mem_cons_self)
  exact ⟨n, hn, _, by rw [text, String.toList_ofList, hc]; rfl⟩

-- The text begins with a digit and not with a brace or with `urn:uuid:`, so that it is read as groups.
theorem ofText?_text : ofText? u.text = some u := by
  obtain ⟨n, hn, cs, hcs⟩ := text_eq_cons (u := u)
  have hbrace : hexDigit n ≠ '\x7b' := (by decide : ∀ n < 16, hexDigit n ≠ '\x7b') n hn
  have hu : ('u' == (hexDigit n).toLower) = false :=
    (by decide : ∀ n < 16, ('u' == (hexDigit n).toLower) = false) n hn
  have hurn : "urn:uuid:".toList.isPrefixOf (u.text.toList.map Char.toLower) = false := by
    have htail : "urn:uuid:".toList = 'u' :: "rn:uuid:".toList := rfl
    rw [htail, hcs, List.map_cons, List.isPrefixOf, hu, Bool.false_and]
  have hread : ofHyphenated? (hexDigit n :: cs) = some u := hcs ▸ ofHyphenated?_text
  rw [ofText?]
  simp only [hurn]
  rw [if_neg (by rw [length_text]; decide), hcs]
  simp [hbrace, hread]

end Uuid

end SqlBuilder
