/-!
# Tables

Rows under a key, kept in increasing order of it, so that a table holds at most one row for each
key. Rows are looked up, put in place of the row with their key, and removed.
-/

namespace Arbiter

/-- Rows know their key. -/
class Keyed (α : Type) where
  key : α → Int64

/-- Rows in increasing order of their keys. -/
structure Table (α : Type) [Keyed α] where
  rows : List α
  sorted : rows.Pairwise fun a b => Keyed.key a < Keyed.key b

namespace Table

variable {α : Type} [Keyed α]

def empty : Table α := ⟨[], .nil⟩

instance : EmptyCollection (Table α) := ⟨empty⟩

instance : Inhabited (Table α) := ⟨empty⟩

@[ext] theorem ext {s t : Table α} (h : s.rows = t.rows) : s = t := by
  cases s
  cases t
  simp_all

def size (t : Table α) : Nat := t.rows.length

/-- The row of a key. -/
def find? (t : Table α) (k : Int64) : Option α := t.rows.find? fun a => Keyed.key a == k

/-- The rows with `a` among them, in the place of the row that has its key. -/
def insertRow (a : α) : List α → List α
  | [] => [a]
  | b :: bs =>
    if Keyed.key a < Keyed.key b then a :: b :: bs
    else if Keyed.key b < Keyed.key a then b :: insertRow a bs
    else a :: bs

theorem mem_insertRow {a c : α} {bs : List α} (h : c ∈ insertRow a bs) : c = a ∨ c ∈ bs := by
  induction bs with
  | nil => simpa [insertRow] using h
  | cons b bs ih =>
    simp only [insertRow] at h
    split at h
    · simpa using h
    · split at h
      · rcases List.mem_cons.1 h with h | h
        · exact .inr (h ▸ List.mem_cons_self)
        · exact (ih h).imp_right (List.mem_cons_of_mem _)
      · rcases List.mem_cons.1 h with h | h
        · exact .inl h
        · exact .inr (List.mem_cons_of_mem _ h)

theorem sorted_insertRow (a : α) {bs : List α}
    (h : bs.Pairwise fun a b => Keyed.key a < Keyed.key b) :
    (insertRow a bs).Pairwise fun a b => Keyed.key a < Keyed.key b := by
  induction bs with
  | nil => simp [insertRow]
  | cons b bs ih =>
    have ⟨hb, hbs⟩ := List.pairwise_cons.1 h
    simp only [insertRow]
    split
    · rename_i hab
      refine List.pairwise_cons.2 ⟨fun c hc => ?_, h⟩
      rcases List.mem_cons.1 hc with hc | hc
      · exact hc ▸ hab
      · exact Int64.lt_trans hab (hb c hc)
    · rename_i hab
      split
      · rename_i hba
        refine List.pairwise_cons.2 ⟨fun c hc => ?_, ih hbs⟩
        rcases mem_insertRow hc with hc | hc
        · exact hc ▸ hba
        · exact hb c hc
      · rename_i hba
        have hk : Keyed.key a = Keyed.key b :=
          Int64.le_antisymm (Int64.not_lt.1 hba) (Int64.not_lt.1 hab)
        exact List.pairwise_cons.2 ⟨fun c hc => hk ▸ hb c hc, hbs⟩

/-- The table with `a` under its key. -/
def insert (t : Table α) (a : α) : Table α := ⟨insertRow a t.rows, sorted_insertRow a t.sorted⟩

/-- The table without a key's row. -/
def erase (t : Table α) (k : Int64) : Table α :=
  ⟨t.rows.filter fun a => Keyed.key a != k, t.sorted.filter _⟩

theorem find?_insertRow_self (a : α) (bs : List α) :
    (insertRow a bs).find? (fun b => Keyed.key b == Keyed.key a) = some a := by
  induction bs with
  | nil => simp [insertRow]
  | cons b bs ih =>
    simp only [insertRow]
    split
    · simp
    · split
      · rename_i hba
        have hne : Keyed.key b ≠ Keyed.key a := fun h => Int64.lt_irrefl (h ▸ hba)
        simpa [hne] using ih
      · simp

theorem find?_insertRow_of_ne {a : α} {k : Int64} (h : k ≠ Keyed.key a) (bs : List α) :
    (insertRow a bs).find? (fun b => Keyed.key b == k) = bs.find? fun b => Keyed.key b == k := by
  induction bs with
  | nil => simp [insertRow, h.symm]
  | cons b bs ih =>
    simp only [insertRow]
    split
    · simp [h.symm]
    · rename_i hab
      split
      · simp only [List.find?_cons, ih]
      · rename_i hba
        have hk : Keyed.key b = Keyed.key a :=
          Int64.le_antisymm (Int64.not_lt.1 hab) (Int64.not_lt.1 hba)
        simp [hk, h.symm]

@[simp] theorem find?_insert_self (t : Table α) (a : α) :
    (t.insert a).find? (Keyed.key a) = some a :=
  find?_insertRow_self a t.rows

theorem find?_insert_of_ne (t : Table α) {a : α} {k : Int64} (h : k ≠ Keyed.key a) :
    (t.insert a).find? k = t.find? k :=
  find?_insertRow_of_ne h t.rows

@[simp] theorem find?_erase_self (t : Table α) (k : Int64) : (t.erase k).find? k = none := by
  simp [find?, erase, List.find?_eq_none]

theorem find?_erase_of_ne (t : Table α) {j k : Int64} (h : k ≠ j) :
    (t.erase j).find? k = t.find? k := by
  simp only [find?, erase, List.find?_filter]
  congr 1
  funext a
  by_cases hk : Keyed.key a = k <;> simp [hk, h]

end Table

end Arbiter
