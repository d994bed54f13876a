/-!
Limits and offsets of a result.
-/
namespace SqlBuilder

-- The part of a result asked for: how many rows are dropped, and how many are kept of the rest.
structure Page where
  limit : Option UInt64 := none
  offset : Option UInt64 := none

namespace Page

-- The largest number of 64 bits, also the limit that keeps all rows where one has to be written.
def maxCount : Nat := UInt64.size - 1

-- Pages count from 1 and page 0 is the first page. The offset stays at the largest number of 64
-- bits where the product is beyond it.
def ofNumber (number perPage : UInt64) : Page where
  limit := some perPage
  offset := some (.ofNat (min ((number.toNat - 1) * perPage.toNat) maxCount))

-- The rows of `rows` that the page holds.
def select (p : Page) (rows : List α) : List α :=
  let rest := rows.drop (p.offset.elim 0 (·.toNat))
  match p.limit with
  | some n => rest.take n.toNat
  | none => rest

end Page

end SqlBuilder
