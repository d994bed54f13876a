import Mathlib.Data.List.Nodup
import SqlBuilder.Derive.Derived
/-!
Derived enumerations. A text is read as the first variant that is written with it, so the variants are read back
as they were written exactly when no two of them have one text.
-/
namespace SqlBuilder

namespace Enumeration

variable {e : Enumeration} {u v : e.Variant} {s : String} {x : Value}

-- The first variant in the order of declaration that is written with a text.
structure IsFirst (e : Enumeration) (s : String) (v : e.Variant) : Prop where
  text : e.text v = s
  least : ∀ u < v, e.text u ≠ s

def RoundTrips (e : Enumeration) (v : e.Variant) : Prop := e.decode (e.encode v) = .ok v

theorem ofText?_eq_some_iff : e.ofText? s = some v ↔ e.IsFirst s v := by
  rw [ofText?, List.findFinIdx?_eq_some_iff]
  constructor
  case mp =>
    rintro ⟨htext, hleast⟩
    exact ⟨of_decide_eq_true htext, fun u hu htext => hleast u hu (decide_eq_true htext)⟩
  case mpr =>
    rintro ⟨htext, hleast⟩
    exact ⟨decide_eq_true htext, fun u hu htext => hleast u hu (of_decide_eq_true htext)⟩

theorem ofText?_eq_none_iff : e.ofText? s = none ↔ ∀ v, e.text v ≠ s := by
  rw [ofText?, List.findFinIdx?_eq_none_iff]
  constructor
  case mp => exact fun h v htext => h _ (List.getElem_mem v.isLt) (decide_eq_true htext)
  case mpr =>
    intro h a ha htext
    obtain ⟨i, hi, rfl⟩ := List.getElem_of_mem ha
    exact h ⟨i, hi⟩ (of_decide_eq_true htext)

theorem exists_isFirst (e : Enumeration) (v : e.Variant) : ∃ w, e.IsFirst (e.text v) w := by
  cases hw : e.ofText? (e.text v) with
  | some w => exact ⟨w, ofText?_eq_some_iff.mp hw⟩
  | none => exact absurd rfl (ofText?_eq_none_iff.mp hw v)

theorem decode_string_eq_ok_iff : e.decode (.string s) = .ok v ↔ e.IsFirst s v := by
  rw [← ofText?_eq_some_iff, decode]
  cases e.ofText? s <;> simp

theorem decode_eq_error (h : ∀ v, x ≠ e.encode v) : e.decode x = .error (.ofValue e.name x) := by
  cases x with
  | string s =>
    have hnone : e.ofText? s = none := ofText?_eq_none_iff.mpr fun v hv => h v (hv ▸ rfl)
    rw [decode]
    simp only [hnone]
  | _ => rfl

theorem roundTrips_iff : e.RoundTrips v ↔ ∀ u < v, e.text u ≠ e.text v :=
  decode_string_eq_ok_iff.trans ⟨fun h => h.least, fun h => ⟨rfl, h⟩⟩

theorem forall_roundTrips_iff : (∀ v, e.RoundTrips v) ↔ (e.variants.map Prod.snd).Nodup := by
  rw [List.Nodup, List.pairwise_map, List.pairwise_iff_getElem]
  simp only [roundTrips_iff]
  constructor
  case mp => exact fun h i j hi hj hij => h ⟨j, hj⟩ ⟨i, hi⟩ hij
  case mpr => exact fun h v u hu => h u v u.isLt v.isLt hu

theorem encode_injective (h : ∀ v, e.RoundTrips v) : Function.Injective e.encode := by
  intro u v huv
  have heq : (.ok u : Except Mismatch e.Variant) = .ok v := (h u).symm.trans (huv ▸ h v)
  exact Except.ok.inj heq

theorem decode_eq_ok_iff (h : ∀ v, e.RoundTrips v) : e.decode x = .ok v ↔ x = e.encode v := by
  constructor
  case mpr => exact fun hx => hx ▸ h v
  case mp =>
    intro hv
    by_cases hx : ∃ w, x = e.encode w
    case neg => cases hv.symm.trans (decode_eq_error (not_exists.mp hx))
    case pos =>
      obtain ⟨w, rfl⟩ := hx
      rw [Except.ok.inj (hv.symm.trans (h w))]

-- A variant with the text of an earlier one is read as that one, or as one before it.
theorem decode_encode_of_text_eq (h : e.text u = e.text v) : ∃ w ≤ u, e.decode (e.encode v) = .ok w := by
  obtain ⟨w, hw⟩ := e.exists_isFirst v
  exact ⟨w, Fin.not_lt.mp fun hu => hw.least u hu h, decode_string_eq_ok_iff.mpr hw⟩

end Enumeration

namespace Derive

open Text Enumeration

variable {τ : Type} {definition : Definition τ} {vs : List VariantDefinition} {a b : VariantDefinition}

-- How two variants come to have one text.
inductive Clash (a b : VariantDefinition) : Prop
  | first : a.rename = some b.text → Clash a b
  | second : b.rename = some a.text → Clash a b
  | snakeCase : a.rename = none → b.rename = none → snakeCase a.ident = snakeCase b.ident → Clash a b

theorem VariantDefinition.text_of_rename {s : String} (h : a.rename = some s) : a.text = s := by
  rw [text, h, Option.getD_some]

theorem VariantDefinition.text_of_no_rename (h : a.rename = none) : a.text = snakeCase a.ident := by
  rw [text, h, Option.getD_none]

theorem clash_iff : Clash a b ↔ a.text = b.text := by
  constructor
  case mp =>
    intro h
    cases h with
    | first ha => exact VariantDefinition.text_of_rename ha
    | second hb => exact (VariantDefinition.text_of_rename hb).symm
    | snakeCase ha hb h => rwa [VariantDefinition.text_of_no_rename ha, VariantDefinition.text_of_no_rename hb]
  case mpr =>
    intro h
    cases ha : a.rename with
    | some s => exact .first (ha.trans (congrArg some ((VariantDefinition.text_of_rename ha).symm.trans h)))
    | none =>
      cases hb : b.rename with
      | some s => exact .second (hb.trans (congrArg some ((VariantDefinition.text_of_rename hb).symm.trans h.symm)))
      | none =>
        rw [VariantDefinition.text_of_no_rename ha, VariantDefinition.text_of_no_rename hb] at h
        exact .snakeCase ha hb h

theorem plainVariants_eq_ok (hbody : definition.body = .variants vs) (hplain : ∀ v ∈ vs, v.shape = .noFields) :
    definition.plainVariants = .ok vs := by
  have hnone : vs.filterMap Definition.plainVariants.holding? = [] :=
    List.filterMap_eq_nil_iff.mpr fun v hv => if_pos (hplain v hv)
  rw [Definition.plainVariants, hbody]
  simp only [hnone]

theorem text_of_variants {e : Enumeration} {v : e.Variant} (he : e.variants = vs.map fun v => (v.ident, v.text))
    (ha : vs[v.val]? = some a) : e.text v = a.text := by
  have hpair : e.variants[v.val]? = some (a.ident, a.text) :=
    (congrArg (·[v.val]?) he).trans (by rw [List.getElem?_map, ha, Option.map_some])
  obtain ⟨hv, hget⟩ := List.getElem?_eq_some_iff.mp hpair
  exact congrArg Prod.snd hget

theorem enumeration_eq_ok (hbody : definition.body = .variants vs) (hplain : ∀ v ∈ vs, v.shape = .noFields) :
    definition.enumeration = .ok ⟨definition.ident, vs.map fun v => (v.ident, v.text)⟩ := by
  rw [Definition.enumeration, plainVariants_eq_ok hbody hplain]
  rfl

-- What a derived enumeration reads, which variants it reads back as they were written, and what is lost where two
-- variants clash.
theorem enumeration_roundTrips (hbody : definition.body = .variants vs) (hplain : ∀ v ∈ vs, v.shape = .noFields) :
    ∃ e, definition.enumeration = .ok e ∧ e.name = definition.ident ∧
      e.variants = vs.map (fun v => (v.ident, v.rename.getD (snakeCase v.ident))) ∧
      (∀ s v, e.decode (.string s) = .ok v ↔ e.IsFirst s v) ∧
      (∀ x, (∀ v, x ≠ .string (e.text v)) → e.decode x = .error (.ofValue e.name x)) ∧
      ((∀ v, e.RoundTrips v) ↔ (e.variants.map Prod.snd).Nodup) ∧
      ((∀ v, e.RoundTrips v) → Function.Injective e.encode ∧ ∀ x v, e.decode x = .ok v ↔ x = .string (e.text v)) ∧
      (∀ (u v : e.Variant) (a b : VariantDefinition), u < v → vs[u.val]? = some a → vs[v.val]? = some b → Clash a b →
        ¬e.RoundTrips v ∧ ∃ w ≤ u, e.decode (e.encode v) = .ok w) := by
  refine ⟨_, enumeration_eq_ok hbody hplain, rfl, rfl, fun s v => decode_string_eq_ok_iff, fun x => decode_eq_error,
    forall_roundTrips_iff, fun h => ⟨encode_injective h, fun x v => decode_eq_ok_iff h⟩, ?clash⟩
  case clash =>
    intro u v a b huv ha hb hclash
    have htext := (text_of_variants rfl ha).trans ((clash_iff.mp hclash).trans (text_of_variants rfl hb).symm)
    exact ⟨fun h => roundTrips_iff.mp h u huv htext, decode_encode_of_text_eq htext⟩

def protocols : Definition Empty where
  ident := "Protocol"
  isGeneric := false
  body := .variants [{ ident := "HTTPServer" }, { ident := "HttpServer" }, { ident := "Client", rename := some "c" }]

-- Two identifiers in one snake case: the later variant is read back as the earlier one.
theorem protocols_lost : ∃ e, protocols.enumeration = .ok e ∧
    ∃ u v : e.Variant, u ≠ v ∧ e.decode (e.encode v) = .ok u ∧ ¬e.RoundTrips v := by
  obtain ⟨e, he, -, hvariants, -, -, -, -, hlost⟩ := @enumeration_roundTrips Empty protocols _ rfl (by decide)
  have hlength : e.variants.length = 3 := congrArg List.length hvariants
  let u : e.Variant := ⟨0, by omega⟩
  let v : e.Variant := ⟨1, by omega⟩
  have hcase : snakeCase "HTTPServer" = snakeCase "HttpServer" := by decide
  obtain ⟨hv, w, hw, hread⟩ := hlost u v { ident := "HTTPServer" } { ident := "HttpServer" } Nat.zero_lt_one rfl rfl
    (.snakeCase rfl rfl hcase)
  have hfirst : w = u := Fin.ext (Nat.le_zero.mp hw)
  exact ⟨e, he, u, v, by simp [u, v], hfirst ▸ hread, hv⟩

end Derive

end SqlBuilder
