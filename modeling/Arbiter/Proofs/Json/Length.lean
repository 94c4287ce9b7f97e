import Arbiter.Proofs.Json.Compact
import Mathlib.Algebra.GroupWithZero.Nat

/-!
How long compact texts are. A string takes at most six bytes for each character of its text, since
no escape is longer (`length_quoted_le`), a number of 64 bits at most twenty (`length_ofInt64_le`),
and an object what its members take, with a comma and a colon for each (`length_obj_le`).
-/

namespace Arbiter

namespace Piece

lemma length_bytes_le (p : Piece) : p.bytes.length ≤ 6 := by
  cases p with
  | plain c h => exact Nat.le_trans (Utf8.length_encodeChar_le c) (by decide)
  | short e b h => exact Nat.le_add_left 2 4
  | unit a b c d n h => exact Nat.le_refl 6

lemma length_inside_le (ps : List Piece) : (inside ps).length ≤ 6 * ps.length := by
  induction ps with
  | nil => exact Nat.zero_le _
  | cons p ps ih =>
    have hfirst := p.length_bytes_le
    have hcons : inside (p :: ps) = p.bytes ++ inside ps := List.flatMap_cons
    rw [hcons, List.length_append, List.length_cons]
    omega

end Piece

namespace Json

lemma length_quoted_le (s : String) : (Utf8.encodeChars (quoted s)).length ≤ 6 * s.length + 2 := by
  have hinside := Piece.length_inside_le (Piece.ofString s)
  have hpieces : (Piece.ofString s).length = s.length := by
    rw [Piece.ofString, List.length_map, String.length_toList]
  rw [encodeChars_quoted, List.length_cons, List.length_append, List.length_singleton]
  omega

lemma length_ofInt64_le (n : Int64) : (ofInt64 n).bytes.length ≤ 20 := by
  have hleast := n.le_toInt
  have hgreatest := n.toInt_lt
  have hdigits : (Digits.ofNat n.toInt.natAbs).1.length ≤ 19 := by
    unfold Digits.ofNat
    rw [Numeral.length_encodeChars_digits (Numeral.all_isDigit_ofNat _)]
    exact Numeral.length_ofNat_le (k := 18) (by omega)
  rw [← Layout.bytes_ofJson, ofInt64, Layout.ofJson, Layout.bytes, Figure.bytes_ofInt_eq,
    List.length_append]
  split
  · rw [List.length_singleton]
    omega
  · rw [List.length_nil]
    omega

/-- The bytes of a member, with a comma and a colon. -/
def memberLength (m : String × Json) : Nat :=
  (Utf8.encodeChars (quoted m.1)).length + m.2.bytes.length + 2

lemma length_memberBytes_le (first : Bool) (ms : List (String × Json)) :
    (Layout.memberBytes first (Layout.ofMembers ms)).length ≤ (ms.map memberLength).sum := by
  induction ms generalizing first with
  | nil => exact Nat.zero_le _
  | cons m ms ih =>
    obtain ⟨k, v⟩ := m
    have hrest := ih false
    have hcomma : (if first then [] else [0x2C] : Bytes).length ≤ 1 := by
      cases first <;> decide
    have hcolon : (Utf8.encodeChars [':']).length = 1 := rfl
    have hmember : memberLength (k, v) =
        (Utf8.encodeChars (quoted k)).length + v.bytes.length + 2 := rfl
    rw [Layout.ofMembers, Layout.memberBytes, Layout.bytes_ofJson, Key.bytes_ofString,
      Utf8.encodeChars_append, List.map_cons, List.sum_cons]
    simp only [List.length_append]
    omega

theorem length_obj_le (ms : List (String × Json)) :
    (Json.obj ms).bytes.length ≤ (ms.map memberLength).sum + 2 := by
  have hmembers := length_memberBytes_le true ms
  rw [← Layout.bytes_ofJson, Layout.ofJson, Layout.bytes, List.length_cons, List.length_append]
  exact Nat.add_le_add_right hmembers 2

end Json

end Arbiter
