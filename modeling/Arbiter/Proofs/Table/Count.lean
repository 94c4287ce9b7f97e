import Arbiter.Table
import Mathlib.Data.List.Perm.Basic
import Mathlib.Data.List.Count

/-!
Tables as bags of rows: the row of a key, if there is one, and the rows of all other keys
(`rows_perm_erase`). Putting a row into a table takes the row of its key out first
(`rows_insert_perm`), so the number of rows with a property changes by what is said of these two
rows alone (`count_insert_of_none`, `count_insert_of_some`, `count_erase_of_some`).
-/

namespace Arbiter.Table

variable {α : Type} [Keyed α]

/-! ### The row of a key -/

lemma key_of_find? {t : Table α} {k : Int64} {a : α} (h : t.find? k = some a) :
    Keyed.key a = k := by
  simpa using List.find?_some h

lemma mem_of_find? {t : Table α} {k : Int64} {a : α} (h : t.find? k = some a) : a ∈ t.rows :=
  List.mem_of_find?_eq_some h

lemma find?_insert (t : Table α) (a : α) (k : Int64) :
    (t.insert a).find? k = if k = Keyed.key a then some a else t.find? k := by
  split
  · subst k; exact find?_insert_self t a
  · rename_i h; exact find?_insert_of_ne t h

lemma find?_erase (t : Table α) (j k : Int64) :
    (t.erase j).find? k = if k = j then none else t.find? k := by
  split
  · subst k; exact find?_erase_self t j
  · rename_i h; exact find?_erase_of_ne t h

lemma filter_of_key_ne {k : Int64} {as : List α} (h : ∀ a ∈ as, Keyed.key a ≠ k) :
    as.filter (fun a => Keyed.key a != k) = as :=
  List.filter_eq_self.2 fun a ha => by simpa using h a ha

lemma key_ne_of_lt {a b : α} (h : Keyed.key a < Keyed.key b) : Keyed.key a ≠ Keyed.key b :=
  fun e => Int64.lt_irrefl (e ▸ h)

theorem find?_of_mem {t : Table α} {a : α} (h : a ∈ t.rows) : t.find? (Keyed.key a) = some a := by
  obtain ⟨as, bs, hab⟩ := List.append_of_mem h
  have hs := t.sorted
  rw [hab, List.pairwise_append] at hs
  unfold find?
  rw [hab, List.find?_append, List.find?_cons_of_pos (by simp)]
  have hnone : as.find? (fun b => Keyed.key b == Keyed.key a) = none := by
    rw [List.find?_eq_none]
    intro b hb
    simpa using key_ne_of_lt (hs.2.2 b hb a List.mem_cons_self)
  rw [hnone, Option.none_or]

lemma erase_of_find?_none {t : Table α} {k : Int64} (h : t.find? k = none) : t.erase k = t := by
  apply Table.ext
  refine filter_of_key_ne fun a ha => ?_
  rintro rfl
  rw [find?_of_mem ha] at h
  cases h

/-! ### Taking out and putting in -/

theorem rows_perm_erase {t : Table α} {k : Int64} {a : α} (h : t.find? k = some a) :
    t.rows.Perm (a :: (t.erase k).rows) := by
  obtain rfl := key_of_find? h
  obtain ⟨as, bs, hab⟩ := List.append_of_mem (mem_of_find? h)
  have hs := t.sorted
  rw [hab, List.pairwise_append, List.pairwise_cons] at hs
  have has : as.filter (fun b => Keyed.key b != Keyed.key a) = as :=
    filter_of_key_ne fun b hb => key_ne_of_lt (hs.2.2 b hb a List.mem_cons_self)
  have hbs : bs.filter (fun b => Keyed.key b != Keyed.key a) = bs :=
    filter_of_key_ne fun b hb => (key_ne_of_lt (hs.2.1.1 b hb)).symm
  have he : (t.erase (Keyed.key a)).rows = as ++ bs := by
    show t.rows.filter (fun b => Keyed.key b != Keyed.key a) = as ++ bs
    rw [hab, List.filter_append, List.filter_cons_of_neg (by simp), has, hbs]
  rw [he, hab]
  exact List.perm_middle

lemma insertRow_perm (a : α) (bs : List α)
    (h : bs.Pairwise fun a b => Keyed.key a < Keyed.key b) :
    (insertRow a bs).Perm (a :: bs.filter fun b => Keyed.key b != Keyed.key a) := by
  induction bs with
  | nil => exact .refl _
  | cons b bs ih =>
    have ⟨hb, hbs⟩ := List.pairwise_cons.1 h
    have hrest : Keyed.key a ≤ Keyed.key b →
        bs.filter (fun c => Keyed.key c != Keyed.key a) = bs := fun hab =>
      filter_of_key_ne fun c hc => (key_ne_of_lt (Int64.lt_of_le_of_lt hab (hb c hc))).symm
    unfold insertRow
    split
    · rename_i hab
      have hne : Keyed.key b ≠ Keyed.key a := (key_ne_of_lt hab).symm
      rw [List.filter_cons_of_pos (by simpa using hne), hrest (Int64.le_of_lt hab)]
    · rename_i hab
      split
      · rename_i hba
        have hne : Keyed.key b ≠ Keyed.key a := key_ne_of_lt hba
        rw [List.filter_cons_of_pos (by simpa using hne)]
        exact ((ih hbs).cons b).trans (.swap _ _ _)
      · rename_i hba
        have hk : Keyed.key b = Keyed.key a :=
          Int64.le_antisymm (Int64.not_lt.1 hab) (Int64.not_lt.1 hba)
        rw [List.filter_cons_of_neg (by simpa using hk),
          hrest (Int64.not_lt.1 hba)]

theorem rows_insert_perm (t : Table α) (a : α) :
    (t.insert a).rows.Perm (a :: (t.erase (Keyed.key a)).rows) :=
  insertRow_perm a t.rows t.sorted

/-! ### Counting -/

/-- The number of rows with a property. -/
def count (q : α → Bool) (t : Table α) : Nat := t.rows.countP q

variable (q : α → Bool)

lemma count_insert_of_none {t : Table α} {a : α} (h : t.find? (Keyed.key a) = none) :
    (t.insert a).count q = t.count q + (q a).toNat := by
  have hp := (rows_insert_perm t a).countP_eq q
  rw [erase_of_find?_none h, List.countP_cons] at hp
  unfold count
  rw [hp]
  cases q a <;> rfl

lemma count_erase_of_some {t : Table α} {k : Int64} {a : α} (h : t.find? k = some a) :
    (t.erase k).count q + (q a).toNat = t.count q := by
  have hp := (rows_perm_erase h).countP_eq q
  rw [List.countP_cons] at hp
  unfold count
  rw [hp]
  cases q a <;> rfl

lemma count_insert_of_some {t : Table α} {a b : α} (h : t.find? (Keyed.key a) = some b) :
    (t.insert a).count q + (q b).toNat = t.count q + (q a).toNat := by
  have hp := (rows_insert_perm t a).countP_eq q
  rw [List.countP_cons] at hp
  have he := count_erase_of_some q h
  unfold count at he ⊢
  rw [hp, ← he]
  cases q a
  · simp
  · simp; omega

end Arbiter.Table
