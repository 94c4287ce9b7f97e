/-!
# Pages of results
-/

namespace Arbiter

/-- One page of results. -/
structure Page (α : Type) where
  records : List α
  total : Int64
  page : UInt32
  pageSize : UInt32
  pages : Int64
  deriving DecidableEq, Repr

namespace Page

/-- The page with the number of pages that hold `total` results; a size of zero counts as one. -/
def ofRecords {α : Type} (records : List α) (total : Int64) (page pageSize : UInt32) : Page α :=
  let size := Int64.ofNat (max pageSize.toNat 1)
  ⟨records, total, page, pageSize, (total + size - 1) / size⟩

def map {α β : Type} (f : α → β) (p : Page α) : Page β :=
  ⟨p.records.map f, p.total, p.page, p.pageSize, p.pages⟩

end Page

end Arbiter
