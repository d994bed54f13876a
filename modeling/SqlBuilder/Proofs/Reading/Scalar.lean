import SqlBuilder.FieldType
/-!
Truth values, numbers, texts and bytes are read as what they were written from. An integer is read from any integer
variant as the same number, or not at all.
-/
namespace SqlBuilder

variable {v : Value} {n : Int}

-- Values of the integer variants with the numbers that they stand for.
inductive Value.Denotes : Value → Int → Prop
  | i16 (n : Int16) : Denotes (.i16 n) n.toInt
  | i32 (n : Int32) : Denotes (.i32 n) n.toInt
  | i64 (n : Int64) : Denotes (.i64 n) n.toInt

theorem Value.int?_eq_some_iff : v.int? = some n ↔ v.Denotes n := by
  constructor
  case mp =>
    intro h
    cases v with
    | i16 m => exact Option.some.inj h ▸ .i16 m
    | i32 m => exact Option.some.inj h ▸ .i32 m
    | i64 m => exact Option.some.inj h ▸ .i64 m
    | _ => cases h
  case mpr =>
    rintro ⟨⟩
    all_goals rfl

theorem Value.Denotes.unique {m : Int} (h : v.Denotes n) (hm : v.Denotes m) : n = m := by
  cases h <;> cases hm <;> rfl

namespace FieldType

-- The types of integers that are read.
inductive Width where
  | i16 | i32 | i64

namespace Width

def type : Width → FieldType
  | i16 => .i16
  | i32 => .i32
  | i64 => .i64

-- How many of the numbers are negative.
def half : Width → Int
  | i16 => 0x8000
  | i32 => 0x80000000
  | i64 => 0x8000000000000000

def number : (w : Width) → w.type.Carrier → Int
  | i16, n => Int16.toInt n
  | i32, n => Int32.toInt n
  | i64, n => Int64.toInt n

def Holds (w : Width) (n : Int) : Prop := -w.half ≤ n ∧ n < w.half

instance {w : Width} {n : Int} : Decidable (w.Holds n) := inferInstanceAs (Decidable (_ ∧ _))

end Width

variable {w : Width}

theorem expect_eq_ok_iff {α : Type} {name : String} {o : Option α} {x : α} :
    expect name v o = .ok x ↔ o = some x := by
  cases o <;> simp [expect]

theorem int?_eq_some_iff {low high : Int} :
    int? low high v = some n ↔ v.Denotes n ∧ low ≤ n ∧ n ≤ high := by
  rw [← Value.int?_eq_some_iff, int?]
  cases v.int? with
  | none => simp
  | some m =>
    simp only [Option.bind_eq_bind, Option.bind_some, Option.some.injEq]
    split <;> grind

-- Integers of a type with all numbers from `low` to `high`.
theorem map_int?_eq_some_iff {α : Type} {ofInt : Int → α} {toInt : α → Int} {low high : Int} {x : α}
    (hrange : ∀ x, low ≤ toInt x ∧ toInt x ≤ high) (hof : ∀ x, ofInt (toInt x) = x)
    (hto : ∀ n, low ≤ n → n ≤ high → toInt (ofInt n) = n) :
    (int? low high v).map ofInt = some x ↔ v.Denotes (toInt x) := by
  rw [Option.map_eq_some_iff]
  constructor
  case mp =>
    rintro ⟨n, hn, rfl⟩
    obtain ⟨hv, hlow, hhigh⟩ := int?_eq_some_iff.mp hn
    exact (hto n hlow hhigh).symm ▸ hv
  case mpr => exact fun h => ⟨toInt x, int?_eq_some_iff.mpr ⟨h, hrange x⟩, hof x⟩

theorem decode_width_iff {x : w.type.Carrier} : w.type.decode v = .ok x ↔ v.Denotes (w.number x) := by
  cases w
  case i16 =>
    refine expect_eq_ok_iff.trans (map_int?_eq_some_iff ?_ Int16.ofInt_toInt ?_)
    · exact fun x => ⟨x.minValue_le_toInt, x.toInt_le⟩
    · exact fun n hlow hhigh => Int16.toInt_ofInt_of_le hlow (Int.lt_of_le_of_lt hhigh (by decide))
  case i32 =>
    refine expect_eq_ok_iff.trans (map_int?_eq_some_iff ?_ Int32.ofInt_toInt ?_)
    · exact fun x => ⟨x.minValue_le_toInt, x.toInt_le⟩
    · exact fun n hlow hhigh => Int32.toInt_ofInt_of_le hlow (Int.lt_of_le_of_lt hhigh (by decide))
  case i64 =>
    refine expect_eq_ok_iff.trans (map_int?_eq_some_iff ?_ Int64.ofInt_toInt ?_)
    · exact fun x => ⟨x.minValue_le_toInt, x.toInt_le⟩
    · exact fun n hlow hhigh => Int64.toInt_ofInt_of_le hlow (Int.lt_of_le_of_lt hhigh (by decide))

theorem Width.holds_iff : w.Holds n ↔ ∃ x, w.number x = n := by
  constructor
  case mp =>
    rintro ⟨hlow, hhigh⟩
    cases w
    case i16 => exact ⟨Int16.ofInt n, Int16.toInt_ofInt_of_le hlow hhigh⟩
    case i32 => exact ⟨Int32.ofInt n, Int32.toInt_ofInt_of_le hlow hhigh⟩
    case i64 => exact ⟨Int64.ofInt n, Int64.toInt_ofInt_of_le hlow hhigh⟩
  case mpr =>
    rintro ⟨x, rfl⟩
    cases w
    case i16 => exact ⟨Int16.le_toInt x, Int16.toInt_lt x⟩
    case i32 => exact ⟨Int32.le_toInt x, Int32.toInt_lt x⟩
    case i64 => exact ⟨Int64.le_toInt x, Int64.toInt_lt x⟩

theorem exists_decode_width_iff : (∃ x, w.type.decode v = .ok x) ↔ ∃ n, v.Denotes n ∧ w.Holds n := by
  simp only [decode_width_iff, Width.holds_iff]
  exact ⟨fun ⟨x, hx⟩ => ⟨_, hx, x, rfl⟩, by rintro ⟨_, hv, x, rfl⟩; exact ⟨x, hv⟩⟩

theorem bool?_of_denotes (h : v.Denotes n) :
    bool? v = if n = 0 then some false else if n = 1 then some true else none := by
  have hv := Value.int?_eq_some_iff.mpr h
  cases h <;> simp only [bool?, hv, Option.some.injEq]

theorem decode_bool_iff {b : Bool} (h : v.Denotes n) :
    FieldType.bool.decode v = .ok b ↔ n = if b then 1 else 0 := by
  have hb : bool? v = some b ↔ n = if b then 1 else 0 := by
    rw [bool?_of_denotes h]
    cases b <;> grind
  exact expect_eq_ok_iff.trans hb

variable {t : FieldType}

theorem decode_optional_of_ne_null (h : v ≠ .null) : (optional t).decode v = (t.decode v).map some := by
  cases v
  case null => exact absurd rfl h
  all_goals rfl

theorem decode_optional_eq_none_iff : (optional t).decode v = .ok none ↔ v = .null := by
  by_cases h : v = .null
  case pos => exact iff_of_true (h ▸ rfl) h
  case neg =>
    refine iff_of_false (fun hd => ?_) h
    rw [decode_optional_of_ne_null h] at hd
    cases hx : t.decode v <;> (rw [hx] at hd; cases hd)

theorem decode_encode_width (w : Width) (x : w.type.Carrier) : w.type.decode (w.type.encode x) = .ok x := by
  rw [decode_width_iff]
  cases w
  case i16 => exact .i16 x
  case i32 => exact .i32 x
  case i64 => exact .i64 x

-- The types of truth values, numbers, texts and bytes.
inductive Scalar : FieldType → Prop
  | bool : Scalar .bool
  | integer (w : Width) : Scalar w.type
  | f32 : Scalar .f32
  | f64 : Scalar .f64
  | string : Scalar .string
  | bytes : Scalar .bytes

namespace Scalar

theorem decode_encode (h : t.Scalar) (x : t.Carrier) : t.decode (t.encode x) = .ok x := by
  cases h
  case integer w => exact decode_encode_width w x
  all_goals rfl

theorem decode_null_ne_ok (h : t.Scalar) (x : t.Carrier) : t.decode .null ≠ .ok x := by
  intro hx
  cases h
  case integer w => cases decode_width_iff.mp hx
  all_goals cases hx

theorem encode_ne_null (h : t.Scalar) (x : t.Carrier) : t.encode x ≠ .null :=
  fun hx => h.decode_null_ne_ok x (hx ▸ h.decode_encode x)

theorem decode_encode_optional (h : t.Scalar) (x : Option t.Carrier) :
    (optional t).decode ((optional t).encode x) = .ok x := by
  cases x with
  | none => rfl
  | some x =>
    have hne : (optional t).encode (some x) ≠ .null := h.encode_ne_null x
    rw [decode_optional_of_ne_null hne]
    exact congrArg (Except.map some) (h.decode_encode x)

end Scalar

-- What integers are written as, with the numbers that they are.
inductive Written : Value → Int → Prop
  | signed (w : Width) (x : w.type.Carrier) : Written (w.type.encode x) (w.number x)
  | u8 (n : UInt8) : Written (.ofUInt8 n) n.toNat
  | u16 (n : UInt16) : Written (.ofUInt16 n) n.toNat
  | u32 (n : UInt32) : Written (.ofUInt32 n) n.toNat

theorem Written.denotes (h : Written v n) : v.Denotes n := by
  cases h with
  | signed w x => exact decode_width_iff.mp (decode_encode_width w x)
  | u8 n =>
    have hn : (Int16.ofNat n.toNat).toInt = n.toNat :=
      Int16.toInt_ofNat_of_lt (Nat.lt_of_lt_of_le n.toNat_lt (by decide))
    exact hn ▸ .i16 _
  | u16 n =>
    have hn : (Int32.ofNat n.toNat).toInt = n.toNat :=
      Int32.toInt_ofNat_of_lt (Nat.lt_of_lt_of_le n.toNat_lt (by decide))
    exact hn ▸ .i32 _
  | u32 n =>
    have hn : (Int64.ofNat n.toNat).toInt = n.toNat :=
      Int64.toInt_ofNat_of_lt (Nat.lt_of_lt_of_le n.toNat_lt (by decide))
    exact hn ▸ .i64 _

theorem Written.decode_of_holds (h : Written v n) (hn : w.Holds n) :
    ∃ x, w.type.decode v = .ok x ∧ w.number x = n := by
  obtain ⟨x, rfl⟩ := Width.holds_iff.mp hn
  exact ⟨x, decode_width_iff.mpr h.denotes, rfl⟩

theorem Written.decode_of_not_holds (h : Written v n) (hn : ¬w.Holds n) : ∃ m, w.type.decode v = .error m := by
  cases hx : w.type.decode v with
  | error m => exact ⟨m, rfl⟩
  | ok x =>
    have hv : v.Denotes (w.number x) := decode_width_iff.mp hx
    exact absurd (Width.holds_iff.mpr ⟨x, hv.unique h.denotes⟩) hn

-- What is written is read again, and no number is read as another one.
theorem scalars_kept :
    (∀ t, Scalar t → ∀ x : t.Carrier, t.decode (t.encode x) = .ok x) ∧
    (∀ t, Scalar t → (optional t).encode none = .null ∧
      ∀ x : Option t.Carrier, (optional t).decode ((optional t).encode x) = .ok x) ∧
    (∀ (w : Width) (v : Value),
      ((∃ x, w.type.decode v = .ok x) ↔ ∃ n, v.Denotes n ∧ w.Holds n) ∧
      ∀ x, w.type.decode v = .ok x → v.Denotes (w.number x)) ∧
    (∀ v n, Written v n → ∀ w : Width,
      (w.Holds n → ∃ x, w.type.decode v = .ok x ∧ w.number x = n) ∧
      (¬w.Holds n → ∃ m, w.type.decode v = .error m)) ∧
    (∀ v n, v.Denotes n → ∀ b : Bool, FieldType.bool.decode v = .ok b ↔ n = if b then 1 else 0) ∧
    (∀ t v, (optional t).decode v = .ok none ↔ v = .null) ∧
    ∀ t, Scalar t → ∀ x : t.Carrier, t.decode .null ≠ .ok x :=
  ⟨fun _ h => h.decode_encode,
    fun _ h => ⟨rfl, h.decode_encode_optional⟩,
    fun _ _ => ⟨exists_decode_width_iff, fun _ => decode_width_iff.mp⟩,
    fun _ _ h _ => ⟨h.decode_of_holds, h.decode_of_not_holds⟩,
    fun _ _ h _ => decode_bool_iff h,
    fun _ _ => decode_optional_eq_none_iff,
    fun _ h => h.decode_null_ne_ok⟩

-- A number that needs 32 bits, a NaN with its payload, and an integer that is no truth value.
theorem extremes_kept :
    Written (.ofUInt32 0x80000000) 2147483648 ∧ ¬Width.i32.Holds 2147483648 ∧
    (∃ m, FieldType.i32.decode (.ofUInt32 0x80000000) = .error m) ∧
    (∃ x : Int64, FieldType.i64.decode (.ofUInt32 0x80000000) = .ok x ∧ x.toInt = 2147483648) ∧
    FieldType.f32.decode (.f32 ⟨0x7fa00001⟩) = .ok ⟨0x7fa00001⟩ ∧
    (∀ b : Bool, FieldType.bool.decode (.i16 2) ≠ .ok b) := by
  obtain ⟨again, -, -, written, truth, -, -⟩ := scalars_kept
  have h : Written (.ofUInt32 0x80000000) 2147483648 := .u32 0x80000000
  have hn : ¬Width.i32.Holds 2147483648 := by decide
  refine ⟨h, hn, (written _ _ h .i32).2 hn, (written _ _ h .i64).1 (by decide), again _ .f32 _, fun b hb => ?_⟩
  have hb := (truth _ _ (.i16 2) b).mp hb
  cases b <;> exact absurd hb (by decide)

end FieldType

end SqlBuilder
