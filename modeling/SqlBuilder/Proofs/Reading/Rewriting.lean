import SqlBuilder.Proofs.Calendar.Instant
import SqlBuilder.Proofs.Reading.Scalar
import SqlBuilder.Proofs.Reading.Uuid
/-!
Dates, times and identifiers that were read are written as texts that are read as the same again. This fails
for points in time only, where universal time has a year without four digits: the text of such a point in time
is refused.
-/
namespace SqlBuilder.FieldType

open Calendar

variable {t : FieldType} {v : Value} {x : t.Carrier}

-- The types of days, points in time and identifiers.
inductive IsTextual : FieldType → Prop
  | date : IsTextual .date
  | dateTime : IsTextual .dateTime
  | instant : IsTextual .instant
  | zoned : IsTextual .zoned
  | uuid : IsTextual .uuid

-- The fields with a text that is not read.
inductive IsOutlying : (t : FieldType) → t.Carrier → Prop
  | instant {i : Instant} (h : i.IsOutlying) : IsOutlying .instant i

-- What comes of a field that is written and read again.
structure Rewritten (t : FieldType) (x : t.Carrier) : Prop where
  same : ¬IsOutlying t x → t.decode (t.encode x) = .ok x
  refused : IsOutlying t x → t.decode (t.encode x) = .error (.ofValue "timestamp" (t.encode x))

section Text

variable {α : Type} {name s : String} {ofText? : String → Option α} {a : α}

theorem bind_string?_eq_some_iff :
    (string? v).bind ofText? = some a ↔ ∃ s, v = .string s ∧ ofText? s = some a := by
  cases v with
  | string s => simp [string?]
  | _ => simp [string?]

theorem expect_text_eq_ok_iff :
    expect name v ((string? v).bind ofText?) = .ok a ↔ ∃ s, v = .string s ∧ ofText? s = some a :=
  expect_eq_ok_iff.trans bind_string?_eq_some_iff

theorem expect_text_eq_error (h : ofText? s = none) :
    expect name (.string s) ((string? (.string s)).bind ofText?) = .error (.ofValue name (.string s)) := by
  rw [string?, Option.bind_some, h, expect]

end Text

theorem decode_instant_iff {i : Instant} :
    FieldType.instant.decode v = .ok i ↔ ∃ s, v = .string s ∧ Instant.ofText? s = some i :=
  expect_text_eq_ok_iff

theorem decode_zoned_iff {z : Zoned} :
    FieldType.zoned.decode v = .ok z ↔ ∃ s, v = .string s ∧ Zoned.ofText? s = some z :=
  expect_text_eq_ok_iff

theorem decode_instant_eq_error {s : String} (h : Instant.ofText? s = none) :
    FieldType.instant.decode (.string s) = .error (.ofValue "timestamp" (.string s)) :=
  expect_text_eq_error h

theorem decode_encode_date (d : Date) : FieldType.date.decode (FieldType.date.encode d) = .ok d :=
  expect_text_eq_ok_iff.mpr ⟨_, rfl, Date.ofText?_text⟩

theorem decode_encode_dateTime (t : DateTime) :
    FieldType.dateTime.decode (FieldType.dateTime.encode t) = .ok t :=
  expect_text_eq_ok_iff.mpr ⟨_, rfl, DateTime.ofText?_text⟩

theorem decode_encode_uuid (u : Uuid) : FieldType.uuid.decode (FieldType.uuid.encode u) = .ok u := by
  have h : uuid? (.string u.text) = some u := Uuid.ofText?_text
  exact expect_eq_ok_iff.mpr h

theorem IsTextual.rewritten (ht : IsTextual t) (hx : t.decode v = .ok x) : Rewritten t x := by
  cases ht with
  | date =>
    refine ⟨fun _ => decode_encode_date x, ?_⟩
    rintro ⟨⟩
  | dateTime =>
    refine ⟨fun _ => decode_encode_dateTime x, ?_⟩
    rintro ⟨⟩
  | uuid =>
    refine ⟨fun _ => decode_encode_uuid x, ?_⟩
    rintro ⟨⟩
  | zoned =>
    obtain ⟨s, -, hz⟩ := decode_zoned_iff.mp hx
    obtain ⟨hyear, hsecond⟩ := Zoned.ofText?_eq_some hz
    refine ⟨fun _ => decode_zoned_iff.mpr ⟨_, rfl, Zoned.ofText?_text hyear hsecond⟩, ?_⟩
    rintro ⟨⟩
  | instant =>
    obtain ⟨s, -, hi⟩ := decode_instant_iff.mp hx
    constructor
    case same =>
      intro hout
      have hyear := (Instant.ofText?_eq_some hi).resolve_right fun h => hout (.instant h)
      exact decode_instant_iff.mpr ⟨_, rfl, Instant.ofText?_text hyear⟩
    case refused =>
      rintro ⟨hout⟩
      exact decode_instant_eq_error (Instant.ofText?_text_eq_none hout.not_isPlain)

def newYear : Instant where
  clock :=
    { date := ⟨2023, 12, 31, by decide, by decide, by decide⟩
      time := ⟨23, 30, 0, 0, by decide, by decide, by decide, by decide⟩ }

theorem newYear_rewritten : IsTextual .instant ∧
    FieldType.instant.decode (.string "2024-01-01T00:30:00+01:00") = .ok newYear ∧ Rewritten .instant newYear := by
  have hx : FieldType.instant.decode (.string "2024-01-01T00:30:00+01:00") = .ok newYear :=
    decode_instant_iff.mpr ⟨_, rfl, by decide +kernel⟩
  exact ⟨.instant, hx, IsTextual.rewritten .instant hx⟩

-- On the clock that it is read from it is still the year 9999.
def lateNewYear : Instant where
  clock :=
    { date := ⟨10000, 1, 1, by decide, by decide, by decide⟩
      time := ⟨0, 59, 59, 0, by decide, by decide, by decide, by decide⟩ }

theorem lateNewYear_refused :
    FieldType.instant.decode (.string "9999-12-31T23:59:59-01:00") = .ok lateNewYear ∧
    FieldType.instant.encode lateNewYear = .string "+10000-01-01T00:59:59+00:00" ∧
    FieldType.instant.decode (.string "+10000-01-01T00:59:59+00:00") =
      .error (.ofValue "timestamp" (.string "+10000-01-01T00:59:59+00:00")) := by
  refine ⟨decode_instant_iff.mpr ⟨_, rfl, ?read⟩, congrArg Value.string ?written,
    decode_instant_eq_error ?refused⟩
  all_goals decide +kernel

end SqlBuilder.FieldType
