import Arbiter.Proofs.Text.Utf8
import Arbiter.Text.Numeral
import Mathlib.Algebra.Group.Nat.Defs

/-!
Decimal numerals: different numbers are written differently (`Numeral.text_inj`), no zero leads
other digits (`head_ofNat`), each digit is one byte (`encodeChar_digit`), and there are no more of
them than the power of ten above the number says (`length_ofNat_le`).
-/

namespace Arbiter

lemma Span.holds_iff {r : Span} {n : Int} : r.holds n = true ↔ r.least ≤ n ∧ n ≤ r.greatest := by
  unfold holds
  rw [Bool.and_eq_true, decide_eq_true_eq, decide_eq_true_eq]

namespace Numeral

variable {c : Char} {n : Nat}

lemma text_inj {m n : Nat} (h : text m = text n) : m = n := by
  have hdigits : ofNat m = ofNat n := String.ofList_injective h
  rw [← value_ofNat m, hdigits, value_ofNat]

/-- Only zero begins with one. -/
lemma head_ofNat (h : (ofNat n).head? = some '0') : n = 0 := by
  induction n using Nat.strongRecOn with
  | ind n ih =>
    rw [ofNat] at h
    split at h
    · rename_i hlt
      have hdigit := congrArg Char.toNat (Option.some.inj h)
      rw [toNat_digitChar n hlt] at hdigit
      exact Nat.add_left_cancel hdigit
    · rename_i hge
      obtain ⟨d, ds, hds⟩ := List.exists_cons_of_ne_nil (ofNat_ne_nil (n / 10))
      have hzero := ih (n / 10) (by omega) (by rw [hds] at h ⊢; exact h)
      omega

lemma toNat_of_isDigit (h : isDigit c = true) : 0x30 ≤ c.toNat ∧ c.toNat ≤ 0x39 := by
  unfold isDigit at h
  rw [Bool.and_eq_true, decide_eq_true_eq, decide_eq_true_eq] at h
  exact ⟨h.1, h.2⟩

lemma encodeChar_digit (h : isDigit c = true) : Utf8.encodeChar c = [.ofNat c.toNat] := by
  have hrange := toNat_of_isDigit h
  exact Utf8.encodeChar_of_ascii (by omega)

lemma length_encodeChars_digits {cs : List Char} (h : cs.all isDigit = true) :
    (Utf8.encodeChars cs).length = cs.length := by
  induction cs with
  | nil => rfl
  | cons c cs ih =>
    rw [List.all_cons, Bool.and_eq_true] at h
    rw [Utf8.encodeChars_cons, encodeChar_digit h.1, List.length_append, ih h.2,
      List.length_singleton, List.length_cons, Nat.add_comm]

/-- A number below a power of ten has no more digits than the power says. -/
lemma length_ofNat_le {k : Nat} (h : n < 10 ^ (k + 1)) : (ofNat n).length ≤ k + 1 := by
  induction k generalizing n with
  | zero =>
    have hdigit : n < 10 := h
    rw [ofNat, if_pos hdigit]
    exact Nat.le_refl 1
  | succ k ih =>
    rw [ofNat]
    split
    · exact Nat.le_add_left _ _
    · have hshorter := ih (n := n / 10) (by omega)
      rw [List.length_append, List.length_singleton]
      omega

end Numeral

end Arbiter
