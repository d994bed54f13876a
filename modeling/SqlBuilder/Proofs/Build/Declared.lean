import SqlBuilder.Build.Plan
import SqlBuilder.Proofs.Sql.Front
/-!
Common table expressions that are declared one after the other, each built from what was declared before it.
They are written once, in front of the query that is started last and in the order of their declarations, and
the query behind them is written as it is without them.
-/
namespace SqlBuilder.Build

open Sql

mutual

theorem SelectCall.ctes_apply (q : Select) : (c : SelectCall) → (apply q c).ctes = q.ctes
  | .call calls => SelectCall.ctes_applyAll q calls
  | .select _ | .distinct | .filter _ | .join _ _ | .groupBy _ | .orderBy _ | .limit _ | .offset _
  | .page _ _ => rfl

theorem SelectCall.ctes_applyAll (q : Select) : (cs : List SelectCall) → (applyAll q cs).ctes = q.ctes
  | [] => rfl
  | c :: cs => (SelectCall.ctes_applyAll (apply q c) cs).trans (SelectCall.ctes_apply q c)

end

-- A call that declares a common table expression, its body built from the creator that it is made on.
structure Declaration where
  name : String
  columns : List String
  body : Creator → Select

namespace Creator

variable {creator : Creator}

def declareAll (creator : Creator) : List Declaration → Creator
  | [] => creator
  | c :: cs => (creator.declare c.name c.columns (c.body creator)).declareAll cs

-- The expressions that the calls declare, each without those that its body was built with.
def declared (creator : Creator) : List Declaration → List Cte
  | [] => []
  | c :: cs =>
    ⟨c.name, c.columns, { c.body creator with ctes := [] }⟩ ::
      (creator.declare c.name c.columns (c.body creator)).declared cs

theorem ctes_declareAll (creator : Creator) (cs : List Declaration) :
    (creator.declareAll cs).ctes = creator.ctes ++ creator.declared cs := by
  induction cs generalizing creator with
  | nil => simp [declareAll, declared]
  | cons c cs ih => rw [declareAll, ih, declared, declare, List.append_assoc, List.singleton_append]

-- A query of any kind that is started on a creator, whatever calls follow.
inductive Starts (creator : Creator) : Plan → Prop
  | select (table : TableRef) (whole : Bool) (calls : List SelectCall) :
    Starts creator (.select (creator.select table whole) calls)
  | insert (mode : InsertMode) (table : String) (calls : List InsertCall) :
    Starts creator (.insert (creator.insert mode table) calls)
  | update (table : TableRef) (calls : List UpdateCall) : Starts creator (.update (creator.update table) calls)
  | delete (table : TableRef) (calls : List FilterCall) : Starts creator (.delete (creator.delete table) calls)

theorem Starts.ctes_query {plan : Plan} (h : creator.Starts plan) : plan.query.ctes = creator.ctes := by
  cases h
  case select table whole calls => exact SelectCall.ctes_applyAll (creator.select table whole) calls
  case insert mode table calls =>
    exact List.foldlRecOn (motive := fun q : Insert => q.ctes = creator.ctes) calls _ rfl
      fun q hq c _ => by cases c <;> exact hq
  case update table calls =>
    exact List.foldlRecOn (motive := fun q : Update => q.ctes = creator.ctes) calls _ rfl
      fun q hq c _ => by cases c <;> exact hq
  case delete table calls =>
    exact List.foldlRecOn (motive := fun q : Delete => q.ctes = creator.ctes) calls _ rfl
      fun q hq _ _ => hq

-- A statement that is started behind declarations has each of them once, in front and in their order, then
-- the query itself, and the parameters in the same order.
theorem declared_in_front {d : Dialect} {declarations : List Declaration} {plan : Plan} {s : Statement}
    (hp : (({} : Creator).declareAll declarations).Starts plan) (h : plan.query.compile d = .ok s) :
    ∃ bodies own,
      Query.Fronted d (({} : Creator).declared declarations) plan.query.withoutCtes bodies own s := by
  have hc : plan.query.ctes = ({} : Creator).declared declarations := by
    rw [hp.ctes_query, ctes_declareAll]
    rfl
  exact hc ▸ Query.exists_fronted h

-- The second body reads what the first declares and is built from a creator that carries it.
def strays : List Declaration := [
  ⟨"names", ["name"], fun creator => SelectCall.applyAll (creator.select ⟨"pet", none⟩ false) [
    .select [⟨.column ⟨"pet", "name"⟩, none⟩],
    .filter (.test .and (.compare (.column ⟨"pet", "name"⟩) .notEq (.value (.string "Rex"))))]⟩,
  ⟨"totals", ["owner_id", "to\"tal"], fun creator => SelectCall.applyAll (creator.select ⟨"names", none⟩ false) [
    .select [⟨.raw ⟨"?, count(*)", [.i32 0]⟩, none⟩]]⟩]

def replacing : Plan := .insert ((({} : Creator).declareAll strays).insert .replace "book") [
  .values [[("id", .value (.i32 7)), ("name", .subquery {
    ctes := []
    distinct := false
    whole := false
    selections := [⟨.column ⟨"names", "name"⟩, none⟩]
    table := ⟨"names", none⟩
    joins := []
    filter := []
    groups := []
    order := []
    page := {} })]]]

def replacingStatement : Statement where
  sql := "with \"names\"(\"name\") as (select \"name\" from \"pet\" where \"name\" != ?1), \"totals\"(\"owner_id\", \"to\"\"tal\") as (select ?2, count(*) from \"names\") replace into \"book\" (\"id\", \"name\") values (?3, (select \"name\" from \"names\"))"
  params := [.string "Rex", .i32 0, .i32 7]
  kind := .insert

def replacingAlone : Statement where
  sql := "replace into \"book\" (\"id\", \"name\") values (?1, (select \"name\" from \"names\"))"
  params := [.i32 7]
  kind := .insert

theorem replacing_in_front :
    (({} : Creator).declareAll strays).Starts replacing ∧
    replacing.query.compile .sqlite = .ok replacingStatement ∧
    ∃ bodies, bodies.flatMap Statement.params = [.string "Rex", .i32 0] ∧
      Query.Fronted .sqlite (({} : Creator).declared strays) replacing.query.withoutCtes bodies replacingAlone
        replacingStatement := by
  have hp : (({} : Creator).declareAll strays).Starts replacing := .insert .replace "book" _
  have h : replacing.query.compile .sqlite = .ok replacingStatement := by decide +kernel
  have ho : replacing.query.withoutCtes.compile .sqlite = .ok replacingAlone := by decide +kernel
  obtain ⟨bodies, own, hf⟩ := declared_in_front hp h
  cases ho.symm.trans hf.behind.compiled
  exact ⟨hp, h, bodies, List.append_cancel_right hf.params.symm, hf⟩

end Creator

end SqlBuilder.Build
