import Arbiter.Proofs.Json.Steps
import Arbiter.Proofs.Text.Utf8

/-!
Strings, character by character. The inside of a string is read as the text it spells, if it spells
one, and what is left begins after its closing quote (`taken_stringRest`); passing it unread leaves
the same, whether it spells a text or not (`skipStringRest_inside`). What is read as a string can
always be passed as one (`skipStringRest_of_stringRest`).
-/

namespace Arbiter.Decoder

variable {α : Type} {acc bs r s : Bytes}

/-- The value that was read and what is left, if it went well. -/
def taken : EStateM.Result Fault Bytes α → Option (α × Bytes)
  | .ok a r => some (a, r)
  | .error _ _ => none

lemma taken_eq_some {x : EStateM.Result Fault Bytes α} {a : α} :
    taken x = some (a, r) ↔ x = .ok a r := by
  cases x with
  | ok a' r' =>
    unfold taken
    rw [Option.some.injEq, Prod.mk.injEq, EStateM.Result.ok.injEq]
  | error => exact ⟨nofun, nofun⟩

/-! ### Bytes that stand for themselves -/

/-- A byte that stands for itself in a string. -/
def Plain (b : UInt8) : Prop := b ≠ 0x22 ∧ b ≠ 0x5C ∧ ¬ b < 0x20

lemma plain_of_mem_encodeChar {c : Char} (h : 0x20 ≤ c.toNat ∧ c ≠ '"' ∧ c ≠ '\\') {b : UInt8}
    (hb : b ∈ Utf8.encodeChar c) : Plain b := by
  obtain ⟨hspace, hquote, hslash⟩ := h
  have hchar : ∀ d : Char, c ≠ d → c.toNat ≠ d.toNat := fun d hne heq => hne (Char.toNat_inj.1 heq)
  have hnat : b.toNat ≠ 0x22 ∧ b.toNat ≠ 0x5C ∧ 0x20 ≤ b.toNat := by
    by_cases hascii : c.toNat < 0x80
    · rw [Utf8.encodeChar_of_ascii hascii, List.mem_singleton] at hb
      rw [hb, Utf8.toNat_ofNat_of_lt (by omega)]
      exact ⟨hchar '"' hquote, hchar '\\' hslash, hspace⟩
    · have hhigh := Utf8.le_of_mem_encodeChar (Nat.not_lt.1 hascii) hb
      omega
  refine ⟨?_, ?_, ?_⟩
  · rintro rfl
    exact hnat.1 rfl
  · rintro rfl
    exact hnat.2.1 rfl
  · exact fun hlt => Nat.not_lt.2 hnat.2.2 (UInt8.lt_iff_toNat_lt.1 hlt)

lemma unescape_plain (h : ∀ b ∈ bs, Plain b) (acc r : Bytes) :
    unescape acc (bs ++ r) = unescape (bs.reverse ++ acc) r := by
  induction bs generalizing acc with
  | nil => rfl
  | cons b bs ih =>
    obtain ⟨hquote, hslash, hspace⟩ := h b List.mem_cons_self
    rw [List.cons_append, unescape.eq_def]
    dsimp only
    rw [if_neg hquote, if_neg hslash, if_neg hspace, ih fun b hb => h b (List.mem_cons_of_mem _ hb),
      List.reverse_cons, List.append_assoc]
    rfl

lemma skipStringRest_plain (h : ∀ b ∈ bs, Plain b) (r : Bytes) :
    skipStringRest (bs ++ r) = skipStringRest r := by
  induction bs with
  | nil => rfl
  | cons b bs ih =>
    obtain ⟨hquote, hslash, hspace⟩ := h b List.mem_cons_self
    rw [List.cons_append, skipStringRest.eq_def]
    dsimp only
    rw [if_neg hquote, if_neg hslash, if_neg hspace, ih fun b hb => h b (List.mem_cons_of_mem _ hb)]

/-! ### Escapes -/

lemma shortEscape_unicode : shortEscape 0x75 = none := by decide

lemma encodeChar_short {e b : UInt8} (h : shortEscape e = some b) :
    Utf8.encodeChar (.ofNat b.toNat) = [b] := by
  unfold shortEscape at h
  split at h
  · rename_i he
    obtain rfl := Option.some.inj h
    rcases he with rfl | rfl | rfl <;> decide
  iterate 5
    split at h
    · obtain rfl := Option.some.inj h
      decide
  cases h

section Unescape

variable {e b a c d : UInt8} {n : Nat}

lemma unescape_quote (acc r : Bytes) : unescape acc (0x22 :: r) = .ok acc.reverse r := by
  rw [unescape.eq_def]
  rfl

lemma unescape_short (h : shortEscape e = some b) (acc r : Bytes) :
    unescape acc (0x5C :: e :: r) = unescape (b :: acc) r := by
  rw [unescape.eq_def]
  dsimp only
  rw [if_neg (by decide), if_pos rfl, h]

lemma unescape_unit (h : hex4 a b c d = some n) (htrail : ¬ isTrailSurrogate n)
    (hlead : ¬ isLeadSurrogate n) (acc r : Bytes) :
    unescape acc (0x5C :: 0x75 :: a :: b :: c :: d :: r) =
      unescape ((Utf8.encodeChar (.ofNat n)).reverse ++ acc) r := by
  rw [unescape.eq_def]
  simp [shortEscape_unicode, h, htrail, hlead]

lemma taken_unescape_trail (h : hex4 a b c d = some n) (htrail : isTrailSurrogate n)
    (acc r : Bytes) : taken (unescape acc (0x5C :: 0x75 :: a :: b :: c :: d :: r)) = none := by
  rw [unescape.eq_def]
  simp [shortEscape_unicode, h, htrail, taken]

variable {a' b' c' d' : UInt8} {m : Nat}

lemma unescape_pair (h : hex4 a b c d = some n) (htrail : ¬ isTrailSurrogate n)
    (hlead : isLeadSurrogate n) (h' : hex4 a' b' c' d' = some m) (htrail' : isTrailSurrogate m)
    (acc r : Bytes) : unescape acc (0x5C :: 0x75 :: a :: b :: c :: d ::
        0x5C :: 0x75 :: a' :: b' :: c' :: d' :: r) =
      unescape ((Utf8.encodeChar (joinSurrogates n m)).reverse ++ acc) r := by
  rw [unescape.eq_def]
  simp [shortEscape_unicode, h, htrail, hlead, h', htrail']

/-- A leading surrogate must be followed by a trailing one. -/
lemma taken_unescape_lead_unit (h : hex4 a b c d = some n) (htrail : ¬ isTrailSurrogate n)
    (hlead : isLeadSurrogate n) (h' : hex4 a' b' c' d' = some m) (htrail' : ¬ isTrailSurrogate m)
    (acc r : Bytes) : taken (unescape acc (0x5C :: 0x75 :: a :: b :: c :: d ::
        0x5C :: 0x75 :: a' :: b' :: c' :: d' :: r)) = none := by
  rw [unescape.eq_def]
  simp [shortEscape_unicode, h, htrail, hlead, h', htrail', taken]

/-- A leading surrogate must be followed by another four hexadecimal digits. -/
lemma taken_unescape_lead (h : hex4 a b c d = some n) (htrail : ¬ isTrailSurrogate n)
    (hlead : isLeadSurrogate n) (hr : r.head? = some 0x5C → r.tail.head? ≠ some 0x75)
    (acc : Bytes) :
    taken (unescape acc (0x5C :: 0x75 :: a :: b :: c :: d :: r)) = none := by
  rw [unescape.eq_def]
  rcases r with _ | ⟨s, _ | ⟨u, r⟩⟩
  · simp [shortEscape_unicode, h, htrail, hlead, taken]
  · by_cases hs : s = 0x5C <;> simp [shortEscape_unicode, h, htrail, hlead, taken, hs]
  · by_cases hs : s = 0x5C
    · have hu : u ≠ 0x75 := fun hu => hr (by rw [hs]; rfl) (by rw [hu]; rfl)
      simp [shortEscape_unicode, h, htrail, hlead, taken, hs, hu]
    · simp [shortEscape_unicode, h, htrail, hlead, taken, hs]

end Unescape

/-! ### The inside of a string -/

lemma inside_cons (p : Piece) (ps : List Piece) :
    Piece.inside (p :: ps) = p.bytes ++ Piece.inside ps := rfl

lemma taken_unescape_cons {c : Char} {ps : List Piece}
    (h : ∀ acc, taken (unescape acc (Piece.inside ps ++ 0x22 :: r)) =
      (Piece.text? ps).map fun cs => (acc.reverse ++ Utf8.encodeChars cs, r)) (acc : Bytes) :
    taken (unescape ((Utf8.encodeChar c).reverse ++ acc) (Piece.inside ps ++ 0x22 :: r)) =
      ((Piece.text? ps).map (c :: ·)).map fun cs => (acc.reverse ++ Utf8.encodeChars cs, r) := by
  rw [h, Option.map_map]
  refine congrArg (Option.map · _) (funext fun cs => ?_)
  simp [Utf8.encodeChars]

/-- A backslash and a `u` come only where four hexadecimal digits do. -/
lemma inside_apart {ps : List Piece}
    (h : ∀ a b c d m hm qs, ps = .unit a b c d m hm :: qs → False) (r : Bytes)
    (hslash : (Piece.inside ps ++ 0x22 :: r).head? = some 0x5C) :
    (Piece.inside ps ++ 0x22 :: r).tail.head? ≠ some 0x75 := by
  cases ps with
  | nil => cases hslash
  | cons p ps =>
    cases p with
    | plain c hc =>
      obtain ⟨x, xs, hx⟩ := List.exists_cons_of_ne_nil (Utf8.encodeChar_ne_nil c)
      have hplain := plain_of_mem_encodeChar hc (hx ▸ List.mem_cons_self : x ∈ _)
      rw [inside_cons, Piece.bytes, hx] at hslash
      exact absurd (Option.some.inj hslash) hplain.2.1
    | short e b he =>
      intro hu
      rw [Option.some.inj hu, shortEscape_unicode] at he
      cases he
    | unit a b c d m hm => exact (h a b c d m hm ps rfl).elim

theorem taken_unescape (ps : List Piece) (acc r : Bytes) :
    taken (unescape acc (Piece.inside ps ++ 0x22 :: r)) =
      (Piece.text? ps).map fun cs => (acc.reverse ++ Utf8.encodeChars cs, r) := by
  fun_induction Piece.text? ps generalizing acc with
  | case1 =>
    rw [show Piece.inside [] = [] from rfl, List.nil_append, unescape_quote]
    simp [taken, Utf8.encodeChars]
  | case2 c h ps ih =>
    rw [inside_cons, List.append_assoc, Piece.bytes,
      unescape_plain fun b => plain_of_mem_encodeChar h, taken_unescape_cons ih]
  | case3 e b h ps ih =>
    rw [← taken_unescape_cons ih, encodeChar_short h]
    exact congrArg taken (unescape_short h acc _)
  | case4 a b c d n h ps htrail => exact taken_unescape_trail h htrail acc _
  | case5 a b c d n h htrail hlead a' b' c' d' m h' ps htrail' ih =>
    rw [← taken_unescape_cons ih]
    exact congrArg taken (unescape_pair h htrail hlead h' htrail' acc _)
  | case6 a b c d n h htrail hlead a' b' c' d' m h' ps htrail' =>
    exact taken_unescape_lead_unit h htrail hlead h' htrail' acc _
  | case7 a b c d n h ps htrail hlead hunit =>
    exact taken_unescape_lead h htrail hlead (inside_apart hunit r) acc
  | case8 a b c d n h ps htrail hlead ih =>
    rw [← taken_unescape_cons ih]
    exact congrArg taken (unescape_unit h htrail hlead acc _)

theorem taken_stringRest (ps : List Piece) (r : Bytes) :
    taken (stringRest (Piece.inside ps ++ 0x22 :: r)) =
      (Piece.text? ps).map fun cs => (String.ofList cs, r) := by
  have hinside := taken_unescape ps [] r
  rcases htext : Piece.text? ps with _ | cs
  · rw [htext] at hinside
    rcases hu : stringRest (Piece.inside ps ++ 0x22 :: r) with ⟨s, r'⟩ | ⟨f, r'⟩
    · obtain ⟨bs, t, ht, -⟩ := bind_eq_ok.1 hu
      rw [show unescape [] _ = _ from ht] at hinside
      cases hinside
    · rfl
  · rw [htext, Option.map_some, taken_eq_some, List.reverse_nil, List.nil_append] at hinside
    have hread : stringRest (Piece.inside ps ++ 0x22 :: r) = .ok (String.ofList cs) r := by
      unfold stringRest
      rw [bind_of_ok (d := ofResult (unescape [])) hinside, Utf8.read?, Utf8.readChars?_encodeChars]
      rfl
    rw [hread]
    rfl

lemma stringRest_of_text {ps : List Piece} {text : String} (h : Piece.text? ps = some text.toList)
    (r : Bytes) : stringRest (Piece.inside ps ++ 0x22 :: r) = .ok text r := by
  have htaken := taken_stringRest ps r
  rwa [h, Option.map_some, String.ofList_toList, taken_eq_some] at htaken

/-! ### Passing a string unread -/

lemma skipStringRest_quote (r : Bytes) : skipStringRest (0x22 :: r) = .ok () r := by
  rw [skipStringRest.eq_def]
  rfl

lemma skipStringRest_short {e b : UInt8} (h : shortEscape e = some b) (r : Bytes) :
    skipStringRest (0x5C :: e :: r) = skipStringRest r := by
  rw [skipStringRest.eq_def]
  simp [h]

lemma skipStringRest_unit {a b c d : UInt8} {n : Nat} (h : hex4 a b c d = some n) (r : Bytes) :
    skipStringRest (0x5C :: 0x75 :: a :: b :: c :: d :: r) = skipStringRest r := by
  rw [skipStringRest.eq_def]
  simp [shortEscape_unicode, h]

theorem skipStringRest_inside (ps : List Piece) (r : Bytes) :
    skipStringRest (Piece.inside ps ++ 0x22 :: r) = .ok () r := by
  induction ps with
  | nil => exact skipStringRest_quote r
  | cons p ps ih =>
    rw [inside_cons, List.append_assoc]
    cases p with
    | plain c h => rw [Piece.bytes, skipStringRest_plain fun b => plain_of_mem_encodeChar h, ih]
    | short e b h => exact (skipStringRest_short h _).trans ih
    | unit a b c d n h => exact (skipStringRest_unit h _).trans ih

lemma skipStringRest_of_unescape (h : unescape acc s = .ok bs r) : skipStringRest s = .ok () r := by
  fun_induction unescape acc s with
  | case2 acc s =>
    cases h
    exact skipStringRest_quote _
  | case4 acc e s b he _ ih => rw [skipStringRest_short he, ih h]
  | case10 acc a b c d n hn _ _ a' b' c' d' s m hm _ _ _ ih =>
    rw [skipStringRest_unit hn, skipStringRest_unit hm, ih h]
  | case15 acc a b c d s n hn _ _ _ _ ih => rw [skipStringRest_unit hn, ih h]
  | case19 acc b s hquote hslash hspace ih =>
    have hplain : ∀ x ∈ [b], Plain x := by simpa using ⟨hquote, hslash, hspace⟩
    rw [← ih h]
    exact skipStringRest_plain hplain s
  | _ => cases h

lemma skipStringRest_of_stringRest {text : String} (h : stringRest s = .ok text r) :
    skipStringRest s = .ok () r := by
  obtain ⟨bs, t, hu, hread⟩ := bind_eq_ok.1 h
  rcases hb : Utf8.read? bs with _ | text'
  · rw [hb] at hread
    cases hread
  · rw [hb] at hread
    cases hread
    exact skipStringRest_of_unescape hu

end Arbiter.Decoder
