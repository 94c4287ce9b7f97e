import Arbiter.Proofs.Json.Numbers
import Arbiter.Proofs.Json.Strings

/-!
Every value is passed unread, from the blanks before it to where it ends, whatever it is
(`skipWithin_layout`, by recursion on the layout): as much work as it has bytes is enough.
-/

namespace Arbiter

namespace Layout

/-- A value begins with a byte that is no blank and closes nothing. -/
lemma bytes_eq_cons (v : Layout) : ∃ b t, v.bytes = b :: t ∧ Decoder.isBlank b = false ∧
    b ≠ 0x5D ∧ b ≠ 0x7D := by
  cases v with
  | null => exact ⟨_, _, rfl, by decide⟩
  | bool b => cases b <;> exact ⟨_, _, rfl, by decide⟩
  | string ps => exact ⟨_, _, rfl, by decide⟩
  | array items last => exact ⟨_, _, rfl, by decide⟩
  | object members last => exact ⟨_, _, rfl, by decide⟩
  | number f =>
    obtain ⟨b, t, hb, rfl | hdigit⟩ := f.bytes_eq_cons
    · exact ⟨_, t, hb, by decide⟩
    · refine ⟨b, t, hb, Decoder.isBlank_of_isDigit hdigit, ?_, ?_⟩ <;>
      · rintro rfl
        cases hdigit

lemma bytes_length_pos (v : Layout) : 0 < v.bytes.length := by
  obtain ⟨b, t, h, -⟩ := v.bytes_eq_cons
  rw [h]
  exact Nat.succ_pos _

end Layout

namespace Decoder

variable {α : Type} {n : Nat} {s r t : Bytes} {b close : UInt8}

/-! ### Between items -/

/-- The blanks that are left of a gap when its comma is passed. -/
def leftOf (g : Gap) (first : Bool) : Blanks := if first then .none else g.after

/-- Before an item its gap is passed, except for blanks. -/
lemma ahead_gap (g : Gap) (first : Bool) (d e : Decoder α) (hb : isBlank b = false)
    (hclose : b ≠ close) (hcomma : close ≠ 0x2C) :
    (do
      if (← ahead) = some close then d
      else
        comma first
        e : Decoder α) (g.bytes first ++ b :: t) = e ((leftOf g first).1 ++ b :: t) := by
  obtain ⟨before, after⟩ := g
  unfold Gap.bytes leftOf
  cases first with
  | true =>
    dsimp only
    rw [if_pos rfl, List.nil_append, List.append_assoc, ahead_blanks, ahead_blanks, ahead_cons _ hb,
      if_neg fun h => hclose (Option.some.inj h)]
    rfl
  | false =>
    dsimp only
    rw [if_neg Bool.false_ne_true, List.append_assoc, List.append_assoc, List.singleton_append,
      ahead_blanks, ahead_cons _ (by decide), if_neg fun h => hcomma (Option.some.inj h).symm]
    exact bind_of_ok (token_cons (by decide))

lemma ahead_last (last : Blanks) (d e : Decoder α) (hclose : isBlank close = false) :
    (do
      if (← ahead) = some close then d
      else e : Decoder α) (last.1 ++ close :: s) = d (close :: s) := by
  rw [ahead_blanks, ahead_cons _ hclose, if_pos rfl]

lemma ends_gap (g : Gap) (t : Bytes) : Ends (g.bytes false ++ t) := by
  unfold Gap.bytes
  rw [List.append_assoc]
  refine ends_blanks g.before fun b hb => ?_
  rw [← Option.some.inj hb]
  exact .inr (.inl rfl)

lemma ends_last (last : Blanks) (hclose : close = 0x5D ∨ close = 0x7D) :
    Ends (last.1 ++ close :: s) := by
  refine ends_blanks last fun b hb => ?_
  rw [← Option.some.inj hb]
  exact .inr (.inr hclose)

lemma ends_items (items : List (Gap × Layout)) (last : Blanks) (s : Bytes) :
    Ends (Layout.itemBytes false items ++ (last.1 ++ 0x5D :: s)) := by
  cases items with
  | nil => exact ends_last last (.inl rfl)
  | cons item items =>
    rw [Layout.itemBytes, List.append_assoc]
    exact ends_gap _ _

lemma ends_members (members : List (Key × Layout)) (last : Blanks) (s : Bytes) :
    Ends (Layout.memberBytes false members ++ (last.1 ++ 0x7D :: s)) := by
  cases members with
  | nil => exact ends_last last (.inr rfl)
  | cons m members =>
    rw [Layout.memberBytes, Key.bytes, List.append_assoc, List.append_assoc]
    exact ends_gap _ _

lemma rest_append (k : Key) (s : Bytes) : k.rest ++ s =
    Piece.inside k.pieces ++ 0x22 :: (k.inner.1 ++ 0x3A :: (k.outer.1 ++ s)) := by
  unfold Key.rest
  simp only [List.append_assoc, List.cons_append]

lemma skipKey_rest (w : Blanks) (k : Key) (s : Bytes) :
    skipKey (w.1 ++ 0x22 :: (k.rest ++ s)) = .ok () (k.outer.1 ++ s) := by
  unfold skipKey
  rw [bind_of_ok (token_blanks w (by decide)), rest_append,
    bind_of_ok (d := ofResult skipStringRest) (skipStringRest_inside _ _)]
  exact token_blanks k.inner (by decide)

/-! ### Values -/

lemma skipWithin_blanks (w : Blanks) (s : Bytes) (n : Nat) :
    skipWithin (n + 1) (w.1 ++ s) = skipWithin (n + 1) s := by
  rw [skipWithin, ahead_blanks]

lemma skipWithin_minus {l : Literal} (h : scan s = .ok l r) :
    skipWithin (n + 1) (0x2D :: s) = .ok () r := by
  rw [skipWithin, ahead_cons _ (by decide)]
  exact bind_of_ok h

lemma skipWithin_digit {l : Literal} (hdigit : isDigit b = true) (h : scan (b :: s) = .ok l r) :
    skipWithin (n + 1) (b :: s) = .ok () r := by
  have hblank := isBlank_of_isDigit hdigit
  have hnumber : skipNumber (b :: s) = .ok () r := by
    unfold skipNumber
    rw [ahead_cons _ hblank]
    generalize ho : some b = o
    split
    · rw [Option.some.inj ho] at hdigit
      cases hdigit
    · exact bind_of_ok h
  rw [skipWithin, ahead_cons _ hblank]
  dsimp only
  rw [if_neg, if_neg, if_neg, if_neg, if_neg, if_neg, hnumber] <;>
  · rintro rfl
    cases hdigit

mutual

/-- **Every value can be passed unread**, from the blanks before it to where it ends. -/
theorem skipWithin_layout : ∀ (v : Layout) (w : Blanks) {n : Nat} {s : Bytes}, v.bytes.length ≤ n →
    Ends s → skipWithin n (w.1 ++ (v.bytes ++ s)) = .ok () s
  | v, w, 0, s, hn, hs => absurd hn (Nat.not_le.2 v.bytes_length_pos)
  | .null, w, n + 1, s, hn, hs => by
    rw [skipWithin, ahead_blanks]
    exact literal_append [0x75, 0x6C, 0x6C] s
  | .bool true, w, n + 1, s, hn, hs => by
    rw [skipWithin, ahead_blanks]
    exact literal_append [0x72, 0x75, 0x65] s
  | .bool false, w, n + 1, s, hn, hs => by
    rw [skipWithin, ahead_blanks]
    exact literal_append [0x61, 0x6C, 0x73, 0x65] s
  | .number f, w, n + 1, s, hn, hs => by
    have hscan := scan_figure f hs
    rw [skipWithin_blanks, Layout.bytes, Figure.bytes]
    cases f.isNegative with
    | true =>
      rw [if_pos rfl, List.append_assoc, List.append_assoc]
      exact skipWithin_minus hscan
    | false =>
      obtain ⟨d, ds, hds, hdigit⟩ := digits_eq_cons f.whole
      rw [hds, List.cons_append] at hscan
      rw [if_neg Bool.false_ne_true, List.nil_append, List.append_assoc, hds, List.cons_append]
      exact skipWithin_digit hdigit hscan
  | .string ps, w, n + 1, s, hn, hs => by
    rw [skipWithin, ahead_blanks, Layout.bytes, List.cons_append, List.append_assoc]
    exact skipStringRest_inside ps s
  | .array items last, w, n + 1, s, hn, hs => by
    rw [skipWithin, ahead_blanks, Layout.bytes, List.cons_append, List.append_assoc,
      List.append_assoc]
    refine skipItems_layout items last ?_
    rw [Layout.bytes] at hn
    simp only [List.length_cons, List.length_append] at hn
    omega
  | .object members last, w, n + 1, s, hn, hs => by
    rw [skipWithin, ahead_blanks, Layout.bytes, List.cons_append, List.append_assoc,
      List.append_assoc]
    refine skipMembers_layout members last ?_
    rw [Layout.bytes] at hn
    simp only [List.length_cons, List.length_append] at hn
    omega

theorem skipItems_layout : ∀ (items : List (Gap × Layout)) {first : Bool} (last : Blanks) {n : Nat}
    {s : Bytes}, (Layout.itemBytes first items).length < n →
    skipItems n first (Layout.itemBytes first items ++ (last.1 ++ 0x5D :: s)) = .ok () s
  | _, _, _, 0, _, hn => absurd hn (Nat.not_lt_zero _)
  | [], first, last, n + 1, s, hn => by
    rw [skipItems, Layout.itemBytes, List.nil_append, ahead_last _ _ _ (by decide)]
    rfl
  | (g, v) :: items, first, last, n + 1, s, hn => by
    obtain ⟨b, t, hb, hblank, hclose, -⟩ := v.bytes_eq_cons
    have hpos := v.bytes_length_pos
    rw [Layout.itemBytes] at hn ⊢
    simp only [List.length_append] at hn
    have hvalue (w : Blanks) := skipWithin_layout v w (n := n) (by omega) (ends_items items last s)
    rw [skipItems, List.append_assoc, List.append_assoc]
    rw [hb, List.cons_append] at hvalue ⊢
    rw [ahead_gap g first _ _ hblank hclose (by decide), bind_of_ok (hvalue _)]
    exact skipItems_layout items last (by omega)

theorem skipMembers_layout : ∀ (members : List (Key × Layout)) {first : Bool} (last : Blanks)
    {n : Nat} {s : Bytes}, (Layout.memberBytes first members).length < n →
    skipMembers n first (Layout.memberBytes first members ++ (last.1 ++ 0x7D :: s)) = .ok () s
  | _, _, _, 0, _, hn => absurd hn (Nat.not_lt_zero _)
  | [], first, last, n + 1, s, hn => by
    rw [skipMembers, Layout.memberBytes, List.nil_append, ahead_last _ _ _ (by decide)]
    rfl
  | (k, v) :: members, first, last, n + 1, s, hn => by
    have hpos := v.bytes_length_pos
    rw [Layout.memberBytes, Key.bytes] at hn ⊢
    simp only [List.length_append] at hn
    rw [skipMembers, List.append_assoc, List.append_assoc, List.append_assoc, List.cons_append]
    rw [ahead_gap k.gap first _ _ (by decide) (by decide) (by decide),
      bind_of_ok (skipKey_rest _ k _),
      bind_of_ok (skipWithin_layout v k.outer (by omega) (ends_members members last s))]
    exact skipMembers_layout members last (by omega)

end

end Decoder

end Arbiter
