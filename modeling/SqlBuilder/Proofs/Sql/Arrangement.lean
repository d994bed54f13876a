import SqlBuilder.Proofs.Sql.Part
/-!
Parts that are put together with texts between them. Each list that is put together is found in the whole.
What is gathered from the whole is gathered from the lists, when texts and names hold nothing, and the whole
is changed part by part by changing the lists, when texts and names stay as they are.
-/
namespace SqlBuilder.Sql

namespace Part

-- Texts and names hold nothing of what is gathered.
structure Silent {α : Type} (f : Part → List α) : Prop where
  text (s : String) : f (.text s) = []
  name (part : String) : f (.name part) = []

-- Texts and names are not changed.
structure Keeps (g : Part → Part) : Prop where
  text (s : String) : g (.text s) = .text s
  name (part : String) : g (.name part) = .name part

end Part

variable {α : Type} {f : Part → List α} {g : Part → Part}

namespace Part

variable {leds : List (String × List Part)} {pss : List (List Part)} {ps : List Part}

theorem infix_eachLed {led : String × List Part} (h : led ∈ leds) : led.2 <:+: eachLed leds := by
  induction leds with
  | nil => cases h
  | cons first leds ih =>
    rcases List.mem_cons.mp h with rfl | h
    case inl => exact List.infix_cons List.infix_append_left
    case inr => exact List.infix_cons (List.infix_append_of_infix_right (ih h))

theorem infix_joined {led : String × List Part} (h : led ∈ leds) : led.2 <:+: joined leds := by
  cases leds with
  | nil => cases h
  | cons first leds =>
    rcases List.mem_cons.mp h with rfl | h
    case inl => exact List.infix_append_left
    case inr => exact List.infix_append_of_infix_right (infix_eachLed h)

theorem infix_separated (separator : String) (h : ps ∈ pss) : ps <:+: separated separator pss :=
  infix_joined (List.mem_map_of_mem (f := fun ps => (separator, ps)) h)

theorem infix_clause (before after : String) {led : String × List Part} (h : led ∈ leds) :
    led.2 <:+: clause before leds after := by
  have hj := infix_joined h
  cases leds with
  | nil => cases h
  | cons => exact List.infix_cons (List.infix_append_of_infix_left hj)

theorem infix_listClause (before after : String) (h : ps ∈ pss) : ps <:+: listClause before pss after :=
  infix_clause before after (List.mem_map_of_mem (f := fun ps => (", ", ps)) h)

@[simp] theorem flatMap_eachLed (h : Silent f) :
    (eachLed leds).flatMap f = leds.flatMap fun led => led.2.flatMap f := by
  induction leds with
  | nil => rfl
  | cons led leds ih => simp [eachLed, h.text, ih]

@[simp] theorem flatMap_joined (h : Silent f) :
    (joined leds).flatMap f = leds.flatMap fun led => led.2.flatMap f := by
  cases leds <;> simp [joined, h]

@[simp] theorem flatMap_separated (separator : String) (h : Silent f) :
    (separated separator pss).flatMap f = pss.flatMap fun ps => ps.flatMap f := by
  simp [separated, h, List.flatMap_map]

@[simp] theorem flatMap_clause (before after : String) (h : Silent f) :
    (clause before leds after).flatMap f = leds.flatMap fun led => led.2.flatMap f := by
  cases leds <;> simp [clause, h, h.text]

@[simp] theorem flatMap_listClause (before after : String) (h : Silent f) :
    (listClause before pss after).flatMap f = pss.flatMap fun ps => ps.flatMap f := by
  simp [listClause, h, List.flatMap_map]

@[simp] theorem flatMap_names (columns : List String) (h : Silent f) : (names columns).flatMap f = [] := by
  simp [names, h, h.name, List.flatMap_map]

@[simp] theorem flatMap_table (n : String) (h : Silent f) : (table n).flatMap f = [] := by
  simp [table, h, h.name, List.flatMap_map]

@[simp] theorem flatMap_aliasing (alias? : Option String) (h : Silent f) :
    (aliasing alias?).flatMap f = [] := by
  cases alias? <;> simp [aliasing, h.text, h.name]

@[simp] theorem map_eachLed (h : Keeps g) :
    (eachLed leds).map g = eachLed (leds.map fun led => (led.1, led.2.map g)) := by
  induction leds with
  | nil => rfl
  | cons led leds ih => simp [eachLed, h.text, ih]

@[simp] theorem map_joined (h : Keeps g) :
    (joined leds).map g = joined (leds.map fun led => (led.1, led.2.map g)) := by
  cases leds <;> simp [joined, h]

@[simp] theorem map_separated (separator : String) (h : Keeps g) :
    (separated separator pss).map g = separated separator (pss.map (List.map g)) := by
  simp [separated, h, Function.comp_def]

@[simp] theorem map_clause (before after : String) (h : Keeps g) :
    (clause before leds after).map g = clause before (leds.map fun led => (led.1, led.2.map g)) after := by
  cases leds
  case nil => rfl
  case cons led leds => simp only [clause, List.map_cons, List.map_append, map_joined h, h.text, List.map_nil]

@[simp] theorem map_listClause (before after : String) (h : Keeps g) :
    (listClause before pss after).map g = listClause before (pss.map (List.map g)) after := by
  simp [listClause, h, Function.comp_def]

@[simp] theorem map_names (columns : List String) (h : Keeps g) : (names columns).map g = names columns := by
  simp [names, h, h.name, Function.comp_def]

@[simp] theorem map_table (n : String) (h : Keeps g) : (table n).map g = table n := by
  simp [table, h, h.name, Function.comp_def]

@[simp] theorem map_aliasing (alias? : Option String) (h : Keeps g) :
    (aliasing alias?).map g = aliasing alias? := by
  cases alias? <;> simp [aliasing, h.text, h.name]

end Part

@[simp] theorem TableRef.flatMap_parts (t : TableRef) (h : Part.Silent f) : t.parts.flatMap f = [] := by
  simp [parts, h]

@[simp] theorem TableRef.map_parts (t : TableRef) (h : Part.Keeps g) : t.parts.map g = t.parts := by
  simp [parts, h]

namespace Insert

variable {d : Dialect}

theorem flatMap_targetParts (target : List String) (h : Part.Silent f) :
    (targetParts target).flatMap f = [] := by
  cases target <;> simp [targetParts, h, h.text]

theorem map_targetParts (target : List String) (h : Part.Keeps g) :
    (targetParts target).map g = targetParts target := by
  cases target <;> simp [targetParts, h, h.text]

theorem flatMap_setParts (column : String) (h : Part.Silent f) : (setParts d column).flatMap f = [] := by
  cases d <;> simp [setParts, h.text, h.name]

theorem map_setParts (column : String) (h : Part.Keeps g) :
    (setParts d column).map g = setParts d column := by
  cases d <;> simp [setParts, h.text, h.name]

@[simp] theorem flatMap_conflictParts (q : Insert) (h : Part.Silent f) :
    (q.conflictParts d).flatMap f = [] := by
  unfold conflictParts
  split
  case h_1 => split <;> simp [h.text]
  all_goals simp [h, h.text, flatMap_targetParts, flatMap_setParts, List.flatMap_map]

@[simp] theorem map_conflictParts (q : Insert) (h : Part.Keeps g) :
    (q.conflictParts d).map g = q.conflictParts d := by
  unfold conflictParts
  split
  case h_1 => split <;> simp [h.text]
  all_goals simp [h, h.text, map_targetParts, map_setParts, Function.comp_def]

end Insert

end SqlBuilder.Sql
