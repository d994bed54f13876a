import SqlBuilder.Proofs.Sql.Part
/-!
Conditions in groups. What is written of them can be read back: the parentheses give the groups, and the words
between neighbours give every conjunction but that of the first condition of a group, which is not written.
-/
namespace SqlBuilder.Sql

-- What conditions are written with. Those that are no groups are not looked into.
inductive Token where
  | atom (c : Condition)
  | opens
  | closes
  | joins (conjunction : Conjunction)

namespace Token

def parts (d : Dialect) (scopes : List Scope) : Token → List Part
  | atom c => c.parts d scopes
  | opens => [.text "("]
  | closes => [.text ")"]
  | joins conjunction => [.text (" " ++ conjunction.text ++ " ")]

-- Whether a condition begins or ends with the token.
def Begins : Token → Prop
  | atom _ | opens => True
  | _ => False

def Ends : Token → Prop
  | atom _ | closes => True
  | _ => False

end Token

-- Conditions as they are read. The first of a group follows none and so has no conjunction.
inductive Tree where
  | atom (c : Condition)
  | group (members : List (Option Conjunction × Tree))

abbrev Members := List (Option Conjunction × Tree)

namespace Tree

-- Where a reader stands among the members of a group: in front of a condition, behind the conjunction that
-- leads it if there is one, or behind a condition.
inductive Place where
  | inFront (members : Members) (led : Option Conjunction)
  | behind (members : Members)

-- Reads conditions from a place on, given where the groups around it were entered. Conditions that are missing,
-- also in a group, conjunctions that are missing or too many and parentheses that do not match are refused.
def read? : List (Members × Option Conjunction) → Place → List Token → Option Members
  | around, .inFront ms led, .atom c :: ts => read? around (.behind (ms ++ [(led, .atom c)])) ts
  | around, .inFront ms led, .opens :: ts => read? ((ms, led) :: around) (.inFront [] none) ts
  | around, .behind ms, .joins conjunction :: ts => read? around (.inFront ms (some conjunction)) ts
  | (outer, led) :: around, .behind ms, .closes :: ts => read? around (.behind (outer ++ [(led, .group ms)])) ts
  | [], .behind ms, [] => some ms
  | _, _, _ => none

end Tree

mutual

-- Whether no group in a condition is empty.
def Condition.Solid : Condition → Prop
  | .group clauses => clauses ≠ [] ∧ Clause.SolidAll clauses
  | _ => True

def Clause.SolidAll : List Clause → Prop
  | [] => True
  | ⟨_, condition⟩ :: rest => condition.Solid ∧ Clause.SolidAll rest

end

mutual

def Condition.tokens : Condition → List Token
  | .group clauses => .opens :: (Clause.tokens clauses ++ [.closes])
  | c => [.atom c]

def Clause.tokens : List Clause → List Token
  | [] => []
  | ⟨_, condition⟩ :: rest => condition.tokens ++ Clause.tokensLed rest

def Clause.tokensLed : List Clause → List Token
  | [] => []
  | ⟨conjunction, condition⟩ :: rest => .joins conjunction :: (condition.tokens ++ Clause.tokensLed rest)

end

mutual

def Condition.tree : Condition → Tree
  | .group clauses => .group (Clause.members clauses)
  | c => .atom c

def Clause.members : List Clause → Members
  | [] => []
  | ⟨_, condition⟩ :: rest => (none, condition.tree) :: Clause.membersLed rest

def Clause.membersLed : List Clause → Members
  | [] => []
  | ⟨conjunction, condition⟩ :: rest => (some conjunction, condition.tree) :: Clause.membersLed rest

end

variable {d : Dialect} {scopes : List Scope}

mutual

theorem Condition.flatMap_tokens (d : Dialect) (scopes : List Scope) :
    (c : Condition) → c.tokens.flatMap (Token.parts d scopes) = c.parts d scopes
  | .group clauses => by
    rw [Condition.tokens, List.flatMap_cons, List.flatMap_append, Clause.flatMap_tokens d scopes clauses,
      Condition.parts]
    rfl
  | .compare _ _ _ | .isNull _ _ | .between _ _ _ _ | .member _ _ _ | .memberOf _ _ _ | .exists _ _ | .raw _ =>
    List.append_nil _

theorem Clause.flatMap_tokens (d : Dialect) (scopes : List Scope) : (cs : List Clause) →
    (Clause.tokens cs).flatMap (Token.parts d scopes) = Part.joined (Clause.partsEach d scopes cs)
  | [] => rfl
  | ⟨_, condition⟩ :: rest => by
    rw [Clause.tokens, List.flatMap_append, condition.flatMap_tokens d scopes,
      Clause.flatMap_tokensLed d scopes rest]
    rfl

theorem Clause.flatMap_tokensLed (d : Dialect) (scopes : List Scope) : (cs : List Clause) →
    (Clause.tokensLed cs).flatMap (Token.parts d scopes) = Part.eachLed (Clause.partsEach d scopes cs)
  | [] => rfl
  | ⟨conjunction, condition⟩ :: rest => by
    rw [Clause.tokensLed, List.flatMap_cons, List.flatMap_append, condition.flatMap_tokens d scopes,
      Clause.flatMap_tokensLed d scopes rest]
    rfl

end

-- Behind a word the tokens of conditions are written.
theorem Clause.clause_parts (word : String) {cs : List Clause} (h : cs ≠ []) :
    Part.clause word (Clause.partsEach d scopes cs) =
      .text word :: ((Clause.tokens cs).flatMap (Token.parts d scopes) ++ [.text ""]) := by
  obtain ⟨⟨conjunction, condition⟩, rest, rfl⟩ := List.exists_cons_of_ne_nil h
  rw [Clause.flatMap_tokens]
  rfl

namespace Tree

-- The reader is at any place of any group here, and anything may follow, so that the members of a group are read
-- by the same lemmas as the conditions of a query.
mutual

theorem read?_condition (around : List (Members × Option Conjunction)) (ms : Members) (led : Option Conjunction)
    (ts : List Token) : (c : Condition) → c.Solid →
      read? around (.inFront ms led) (c.tokens ++ ts) = read? around (.behind (ms ++ [(led, c.tree)])) ts
  | .group clauses, ⟨hne, hs⟩ => by
    have h := read?_clauses ((ms, led) :: around) (.closes :: ts) clauses hne hs
    rw [Condition.tokens, List.cons_append, List.append_assoc, read?]
    exact h
  | .compare _ _ _, _ | .isNull _ _, _ | .between _ _ _ _, _ | .member _ _ _, _ | .memberOf _ _ _, _
  | .exists _ _, _ | .raw _, _ => rfl

theorem read?_clauses (around : List (Members × Option Conjunction)) (ts : List Token) :
    (cs : List Clause) → cs ≠ [] → Clause.SolidAll cs →
      read? around (.inFront [] none) (Clause.tokens cs ++ ts) = read? around (.behind (Clause.members cs)) ts
  | [], hne, _ => absurd rfl hne
  | ⟨_, condition⟩ :: rest, _, ⟨hc, hs⟩ => by
    rw [Clause.tokens, List.append_assoc, read?_condition around [] none _ condition hc,
      read?_clausesLed around _ ts rest hs]
    rfl

theorem read?_clausesLed (around : List (Members × Option Conjunction)) (ms : Members) (ts : List Token) :
    (cs : List Clause) → Clause.SolidAll cs →
      read? around (.behind ms) (Clause.tokensLed cs ++ ts) =
        read? around (.behind (ms ++ Clause.membersLed cs)) ts
  | [], _ => by rw [Clause.tokensLed, Clause.membersLed, List.append_nil, List.nil_append]
  | ⟨conjunction, condition⟩ :: rest, ⟨hc, hs⟩ => by
    rw [Clause.tokensLed, List.cons_append, List.append_assoc, read?,
      read?_condition around ms (some conjunction) _ condition hc, read?_clausesLed around _ ts rest hs,
      List.append_assoc]
    rfl

end

-- What is written of conditions is read back as they are.
theorem read?_tokens {cs : List Clause} (hne : cs ≠ []) (hs : Clause.SolidAll cs) :
    read? [] (.inFront [] none) (Clause.tokens cs) = some (Clause.members cs) := by
  have h := read?_clauses [] [] cs hne hs
  rwa [List.append_nil, read?] at h

variable {around : List (Members × Option Conjunction)} {place : Place} {ms : Members}
variable {t : Token} {ts : List Token}

theorem read?_cons (h : read? around place (t :: ts) = some ms) : ∃ around' place',
    read? around' place' ts = some ms ∧ ((∃ ms, place' = .behind ms) → t.Ends) := by
  cases place with
  | inFront ms led => cases t <;> first | cases h | exact ⟨_, _, h, by simp [Token.Ends]⟩
  | behind ms =>
    cases t with
    | atom c => cases h
    | opens => cases h
    | closes =>
      obtain _ | ⟨⟨outer, led⟩, around⟩ := around
      · cases h
      · exact ⟨_, _, h, fun _ => trivial⟩
    | joins conjunction => exact ⟨_, _, h, by simp⟩

-- A conjunction that is read stands between two conditions.
theorem between_of_read? {before after : List Token} {conjunction : Conjunction}
    (h : read? around place (before ++ .joins conjunction :: after) = some ms) :
    (before = [] → ∃ ms, place = .behind ms) ∧ (∀ t ∈ before.getLast?, t.Ends) ∧
      ∃ t ∈ after.head?, t.Begins := by
  induction before generalizing around place with
  | nil =>
    cases place with
    | inFront ms led => cases h
    | behind ms =>
      refine ⟨fun _ => ⟨ms, rfl⟩, by simp, ?_⟩
      obtain _ | ⟨t, after⟩ := after
      · cases h
      · cases t <;> first | cases h | exact ⟨_, rfl, trivial⟩
  | cons t before ih =>
    obtain ⟨around', place', hrest, hends⟩ := read?_cons h
    obtain ⟨hempty, hlast, hafter⟩ := ih hrest
    refine ⟨by simp, ?_, hafter⟩
    cases before with
    | nil => simpa using hends (hempty rfl)
    | cons b before => simpa using hlast

end Tree

end SqlBuilder.Sql
