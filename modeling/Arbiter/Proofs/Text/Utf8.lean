import Arbiter.Text.Utf8
import Mathlib.Tactic.Lemma

/-!
Texts come back from their bytes (`Utf8.read?_encode`): the machine that reads bytes goes through
the bytes of one character from between characters to between characters (`readOnto_encodeChar`). A
character of ASCII is one byte, and the bytes of any other are above those of ASCII
(`encodeChar_of_ascii`, `le_of_mem_encodeChar`).
-/

namespace Arbiter.Utf8

variable {c : Char} {n : Nat}

lemma toNat_ofNat_of_lt (h : n < 256) : (UInt8.ofNat n).toNat = n :=
  UInt8.toNat_ofNat_of_lt' h

lemma toNat_lt (c : Char) : c.toNat < 0x110000 := by
  rcases c.valid with h | ⟨-, h⟩
  · exact Nat.lt_trans h (by decide)
  · exact h

/-- No character is a surrogate. -/
lemma toNat_lt_or_le (c : Char) : c.toNat < 0xD800 ∨ 0xE000 ≤ c.toNat := by
  rcases c.valid with h | ⟨h, -⟩
  · exact .inl h
  · exact .inr h

/-! ### The bytes of a character -/

lemma encodeChar_of_ascii (h : c.toNat < 0x80) : encodeChar c = [.ofNat c.toNat] := by
  unfold encodeChar
  dsimp only
  rw [if_pos h]

lemma le_toNat_ofNat (h : 0x80 ≤ n) (h' : n < 256) : 0x80 ≤ (UInt8.ofNat n).toNat := by
  rw [toNat_ofNat_of_lt h']
  exact h

lemma le_of_mem_encodeChar (h : 0x80 ≤ c.toNat) {b : UInt8} (hb : b ∈ encodeChar c) :
    0x80 ≤ b.toNat := by
  have hlt := toNat_lt c
  unfold encodeChar at hb
  dsimp only at hb
  rw [if_neg (by omega)] at hb
  split at hb
  · simp only [List.mem_cons, List.not_mem_nil, or_false] at hb
    rcases hb with rfl | rfl <;> exact le_toNat_ofNat (by omega) (by omega)
  · split at hb
    · simp only [List.mem_cons, List.not_mem_nil, or_false] at hb
      rcases hb with rfl | rfl | rfl <;> exact le_toNat_ofNat (by omega) (by omega)
    · simp only [List.mem_cons, List.not_mem_nil, or_false] at hb
      rcases hb with rfl | rfl | rfl | rfl <;> exact le_toNat_ofNat (by omega) (by omega)

lemma length_encodeChar_le (c : Char) : (encodeChar c).length ≤ 4 := by
  unfold encodeChar
  dsimp only
  split
  · simp
  · split
    · simp
    · split <;> simp

lemma encodeChar_ne_nil (c : Char) : encodeChar c ≠ [] := by
  unfold encodeChar
  dsimp only
  split
  · simp
  · split
    · simp
    · split <;> simp

/-! ### Reading a character -/

lemma lead_two (h : 0x80 ≤ n) (h' : n < 0x800) :
    lead (0xC0 + n / 64) = .inside ⟨1, 0x80, 0xBF, n / 64⟩ := by
  unfold lead
  rw [if_neg (by omega), if_neg (by omega), if_pos (by omega), Nat.add_sub_cancel_left]

/-- The first of three bytes lets the second one be. -/
lemma lead_three (h : 0x800 ≤ n) (h' : n < 0x10000) (hs : n < 0xD800 ∨ 0xE000 ≤ n) :
    ∃ low high, lead (0xE0 + n / 4096) = .inside ⟨2, low, high, n / 4096⟩ ∧
      low ≤ 0x80 + n / 64 % 64 ∧ 0x80 + n / 64 % 64 ≤ high := by
  unfold lead
  rw [if_neg (by omega), if_neg (by omega), if_neg (by omega)]
  by_cases hfirst : 0xE0 + n / 4096 = 0xE0
  · have hq : n / 4096 = 0 := by omega
    rw [if_pos hfirst, hq]
    exact ⟨_, _, rfl, by omega, by omega⟩
  rw [if_neg hfirst]
  by_cases hlast : 0xE0 + n / 4096 = 0xED
  · have hq : n / 4096 = 0xD := by omega
    rw [if_pos hlast, hq]
    exact ⟨_, _, rfl, by omega, by omega⟩
  · rw [if_neg hlast, if_pos (by omega), Nat.add_sub_cancel_left]
    exact ⟨_, _, rfl, by omega, by omega⟩

lemma lead_four (h : 0x10000 ≤ n) (h' : n < 0x110000) :
    ∃ low high, lead (0xF0 + n / 262144) = .inside ⟨3, low, high, n / 262144⟩ ∧
      low ≤ 0x80 + n / 4096 % 64 ∧ 0x80 + n / 4096 % 64 ≤ high := by
  unfold lead
  rw [if_neg (by omega), if_neg (by omega), if_neg (by omega), if_neg (by omega),
    if_neg (by omega), if_neg (by omega)]
  by_cases hfirst : 0xF0 + n / 262144 = 0xF0
  · have hq : n / 262144 = 0 := by omega
    rw [if_pos hfirst, hq]
    exact ⟨_, _, rfl, by omega, by omega⟩
  rw [if_neg hfirst]
  by_cases hlast : n / 262144 = 4
  · rw [if_neg (by omega), if_pos (by omega), hlast]
    exact ⟨_, _, rfl, by omega, by omega⟩
  · rw [if_pos (by omega), Nat.add_sub_cancel_left]
    exact ⟨_, _, rfl, by omega, by omega⟩

section Feed

variable {low high bits m : Nat} (hl : low ≤ 0x80 + m) (hh : 0x80 + m ≤ high)
include hl hh

lemma feed_last :
    (Inside.mk 1 low high bits).feed (0x80 + m) = .char (.ofNat (bits * 64 + m)) := by
  unfold Inside.feed
  dsimp only
  rw [if_pos ⟨hl, hh⟩, if_pos (Nat.le_refl 1), Nat.add_sub_cancel_left]

lemma feed_more (k : Nat) : (Inside.mk (k + 2) low high bits).feed (0x80 + m) =
    .inside ⟨k + 1, 0x80, 0xBF, bits * 64 + m⟩ := by
  unfold Inside.feed
  dsimp only
  rw [if_pos ⟨hl, hh⟩, if_neg (by omega), Nat.add_sub_cancel_left]
  rfl

end Feed

variable {acc : List Char} {r : Bytes} {i j : Inside}

lemma readOnto_lead_char (hn : n < 256) (h : lead n = .char c) :
    readOnto acc none (.ofNat n :: r) = readOnto (c :: acc) none r := by
  rw [readOnto, toNat_ofNat_of_lt hn, h]

lemma readOnto_lead_inside (hn : n < 256) (h : lead n = .inside i) :
    readOnto acc none (.ofNat n :: r) = readOnto acc (some i) r := by
  rw [readOnto, toNat_ofNat_of_lt hn, h]

lemma readOnto_feed_char (hn : n < 256) (h : i.feed n = .char c) :
    readOnto acc (some i) (.ofNat n :: r) = readOnto (c :: acc) none r := by
  rw [readOnto, toNat_ofNat_of_lt hn, h]

lemma readOnto_feed_inside (hn : n < 256) (h : i.feed n = .inside j) :
    readOnto acc (some i) (.ofNat n :: r) = readOnto acc (some j) r := by
  rw [readOnto, toNat_ofNat_of_lt hn, h]

theorem readOnto_encodeChar (acc : List Char) (c : Char) (r : Bytes) :
    readOnto acc none (encodeChar c ++ r) = readOnto (c :: acc) none r := by
  have hlt := toNat_lt c
  have hs := toNat_lt_or_le c
  unfold encodeChar
  dsimp only
  split
  · rename_i h
    refine readOnto_lead_char (by omega) ?_
    unfold lead
    rw [if_pos h, Char.ofNat_toNat]
  split
  · have hbits : c.toNat / 64 * 64 + c.toNat % 64 = c.toNat := Nat.div_add_mod' _ _
    refine (readOnto_lead_inside (by omega) (lead_two (by omega) (by omega))).trans ?_
    refine readOnto_feed_char (by omega) ((feed_last (by omega) (by omega)).trans ?_)
    rw [hbits, Char.ofNat_toNat]
  split
  · have hbits : (c.toNat / 4096 * 64 + c.toNat / 64 % 64) * 64 + c.toNat % 64 = c.toNat := by
      omega
    obtain ⟨low, high, hlead, hl, hh⟩ := lead_three (n := c.toNat) (by omega) (by omega) hs
    refine (readOnto_lead_inside (by omega) hlead).trans ?_
    refine (readOnto_feed_inside (by omega) (feed_more hl hh 0)).trans ?_
    refine readOnto_feed_char (by omega) ((feed_last (by omega) (by omega)).trans ?_)
    rw [hbits, Char.ofNat_toNat]
  · have hbits : ((c.toNat / 262144 * 64 + c.toNat / 4096 % 64) * 64 + c.toNat / 64 % 64) * 64 +
        c.toNat % 64 = c.toNat := by omega
    obtain ⟨low, high, hlead, hl, hh⟩ := lead_four (n := c.toNat) (by omega) (by omega)
    refine (readOnto_lead_inside (by omega) hlead).trans ?_
    refine (readOnto_feed_inside (by omega) (feed_more hl hh 1)).trans ?_
    refine (readOnto_feed_inside (by omega) (feed_more (by omega) (by omega) 0)).trans ?_
    refine readOnto_feed_char (by omega) ((feed_last (by omega) (by omega)).trans ?_)
    rw [hbits, Char.ofNat_toNat]

theorem readChars?_encodeChars (cs : List Char) : readChars? (encodeChars cs) = some cs := by
  have step (cs acc : List Char) :
      readOnto acc none (encodeChars cs) = some (acc.reverse ++ cs) := by
    induction cs generalizing acc with
    | nil =>
      rw [List.append_nil]
      rfl
    | cons c cs ih => rw [encodeChars_cons, readOnto_encodeChar, ih, List.reverse_cons,
        List.append_assoc, List.singleton_append]
  exact step cs []

theorem read?_encode (s : String) : read? (encode s) = some s := by
  unfold read? encode
  rw [readChars?_encodeChars, Option.map_some, String.ofList_toList]

/-! ### Broken bytes -/

lemma readLossyOnto_of_readOnto {acc cs : List Char} {i : Option Inside} {bs : Bytes}
    (h : readOnto acc i bs = some cs) : readLossyOnto acc i bs = cs := by
  fun_induction readOnto acc i bs with
  | case1 acc => exact Option.some.inj h
  | case2 => cases h
  | case3 acc b r c hlead ih =>
    rw [readLossyOnto, hlead]
    exact ih h
  | case4 acc b r i hlead ih =>
    rw [readLossyOnto, hlead]
    exact ih h
  | case5 => cases h
  | case6 acc i b r c hfeed ih =>
    rw [readLossyOnto, hfeed]
    exact ih h
  | case7 acc i b r j hfeed ih =>
    rw [readLossyOnto, hfeed]
    exact ih h
  | case8 => cases h

theorem readLossy_encode (s : String) : readLossy (encode s) = s := by
  unfold readLossy encode
  rw [readLossyOnto_of_readOnto (readChars?_encodeChars s.toList), String.ofList_toList]

end Arbiter.Utf8
