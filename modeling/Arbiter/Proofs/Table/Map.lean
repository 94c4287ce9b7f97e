import Arbiter.Table
import Mathlib.Tactic.Lemma

/-!
Tables with every row replaced by another one under its key (`Table.mapRows`). Looking up, putting
in and taking out go through the replacement (`find?_mapRows`, `mapRows_insert`, `mapRows_erase`).
-/

namespace Arbiter.Table

variable {α : Type} [Keyed α] {f : α → α}

/-- The table with `f` applied to every row. -/
def mapRows (f : α → α) (hf : ∀ a, Keyed.key (f a) = Keyed.key a) (t : Table α) : Table α :=
  ⟨t.rows.map f, List.pairwise_map.2 (t.sorted.imp fun {a b} h => by rwa [hf a, hf b])⟩

lemma insertRow_map (hf : ∀ a, Keyed.key (f a) = Keyed.key a) (a : α) (bs : List α) :
    insertRow (f a) (bs.map f) = (insertRow a bs).map f := by
  induction bs with
  | nil => rfl
  | cons b bs ih =>
    simp only [List.map_cons, insertRow, hf]
    split
    · rfl
    · split
      · rw [ih, List.map_cons]
      · rfl

variable (hf : ∀ a, Keyed.key (f a) = Keyed.key a) (t : Table α)

@[simp] theorem rows_mapRows : (t.mapRows f hf).rows = t.rows.map f := rfl

theorem find?_mapRows (k : Int64) : (t.mapRows f hf).find? k = (t.find? k).map f := by
  unfold find?
  rw [rows_mapRows, List.find?_map]
  simp only [Function.comp_def, hf]

theorem mapRows_insert (a : α) : (t.insert a).mapRows f hf = (t.mapRows f hf).insert (f a) :=
  ext (insertRow_map hf a t.rows).symm

theorem mapRows_erase (k : Int64) : (t.erase k).mapRows f hf = (t.mapRows f hf).erase k := by
  apply ext
  show (t.rows.filter _).map f = (t.rows.map f).filter _
  rw [List.filter_map]
  simp only [Function.comp_def, hf]

end Arbiter.Table
