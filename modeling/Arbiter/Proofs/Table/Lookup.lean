import Arbiter.Proofs.Table.Count

/-!
A table is what is found in it: two tables with the same row under every key are one table
(`eq_of_find?`), as each holds every row once and in the order of the keys. So what is said of a
table can be said key by key, such as that leaving out all rows without some property goes through
putting in and taking out (`filterRows_insert`, `filterRows_erase`).
-/

namespace Arbiter.Table

variable {α : Type} [Keyed α]

lemma nodup_rows (t : Table α) : t.rows.Nodup :=
  t.sorted.imp fun h => by
    rintro rfl
    exact Int64.lt_irrefl h

lemma mem_rows_iff {t : Table α} {a : α} : a ∈ t.rows ↔ t.find? (Keyed.key a) = some a :=
  ⟨find?_of_mem, mem_of_find?⟩

theorem eq_of_find? {s t : Table α} (h : ∀ k, s.find? k = t.find? k) : s = t := by
  have hmem : ∀ a, a ∈ s.rows ↔ a ∈ t.rows := by
    intro a
    rw [mem_rows_iff, mem_rows_iff, h]
  have hperm : s.rows.Perm t.rows :=
    (List.perm_ext_iff_of_nodup s.nodup_rows t.nodup_rows).2 hmem
  -- no two rows come before one another
  have hle : ∀ a b : α, a ∈ s.rows → b ∈ t.rows → Keyed.key a < Keyed.key b →
      Keyed.key b < Keyed.key a → a = b := by
    intro a b _ _ hab hba
    exact absurd (Int64.lt_trans hab hba) Int64.lt_irrefl
  exact ext (hperm.eq_of_pairwise hle s.sorted t.sorted)

/-! ### Leaving rows out -/

/-- The table without the rows that lack a property. -/
def filterRows (p : α → Bool) (t : Table α) : Table α := ⟨t.rows.filter p, t.sorted.filter p⟩

variable (p : α → Bool) (t : Table α)

theorem find?_filterRows (k : Int64) : (t.filterRows p).find? k = (t.find? k).filter p := by
  have hrow : ∀ a, (t.filterRows p).find? k = some a ↔ t.find? k = some a ∧ p a = true := by
    intro a
    constructor
    · intro ha
      obtain rfl := key_of_find? ha
      obtain ⟨hmem, hp⟩ := List.mem_filter.1 (mem_of_find? ha)
      exact ⟨find?_of_mem hmem, hp⟩
    · rintro ⟨ha, hp⟩
      obtain rfl := key_of_find? ha
      exact find?_of_mem (List.mem_filter.2 ⟨mem_of_find? ha, hp⟩)
  apply Option.ext
  intro a
  rw [hrow, Option.filter_eq_some_iff]

theorem filterRows_insert {a : α} (ha : p a = true) :
    (t.insert a).filterRows p = (t.filterRows p).insert a := by
  apply eq_of_find?
  intro k
  rw [find?_filterRows, find?_insert, find?_insert, find?_filterRows]
  split
  · rw [Option.filter_some, if_pos ha]
  · rfl

theorem filterRows_erase (k : Int64) :
    (t.erase k).filterRows p = (t.filterRows p).erase k := by
  apply eq_of_find?
  intro j
  rw [find?_filterRows, find?_erase, find?_erase, find?_filterRows]
  split <;> rfl

end Arbiter.Table
