import Arbiter.Proofs.Json.Steps
import Arbiter.Proofs.Text.Numeral
import Arbiter.Proofs.Text.Utf8

/-!
Numbers. Their scan goes through a figure part by part and stops where it ends (`scan_figure`), as
long as no digit, point or power follows (`Ends`). Whole numbers of 64 bits come back from their
decimal numerals (`int_ofInt`).
-/

namespace Arbiter.Decoder

variable {s r ds : Bytes}

/-- What may come after a value: nothing, or a blank, a comma or a closing bracket or brace. -/
def Ends (s : Bytes) : Prop :=
  ∀ b ∈ s.head?, isBlank b = true ∨ b = 0x2C ∨ b = 0x5D ∨ b = 0x7D

lemma ends_blanks (w : Blanks) (h : Ends s) : Ends (w.1 ++ s) := by
  obtain ⟨w, hw⟩ := w
  cases w with
  | nil => exact h
  | cons b w =>
    rintro b' hb
    obtain rfl := Option.some.inj hb
    exact .inl (List.all_eq_true.1 hw _ List.mem_cons_self)

lemma Ends.apart (h : Ends s) {b : UInt8} (hb : b ∈ s.head?) :
    isDigit b = false ∧ b ≠ 0x2E ∧ b ≠ 0x65 ∧ b ≠ 0x45 := by
  rcases h b hb with hblank | rfl | rfl | rfl
  · unfold isBlank at hblank
    simp only [Bool.or_eq_true, beq_iff_eq] at hblank
    rcases hblank with ((rfl | rfl) | rfl) | rfl <;> decide
  all_goals decide

/-- No digit comes next. -/
def NoDigit (s : Bytes) : Prop := ∀ b ∈ s.head?, isDigit b = false

lemma Ends.noDigit (h : Ends s) : NoDigit s := fun _ hb => (h.apart hb).1

lemma digits_append (hne : ds ≠ []) (hds : ds.all isDigit = true) (hs : NoDigit s) :
    digits (ds ++ s) = .ok ds s := by
  have htake : (ds ++ s).takeWhile isDigit = ds := by
    rw [List.takeWhile_append_of_pos (List.all_eq_true.1 hds)]
    cases s with
    | nil => rw [List.takeWhile_nil, List.append_nil]
    | cons b s =>
      rw [List.takeWhile_cons_of_neg (by rw [hs b rfl]; exact Bool.false_ne_true), List.append_nil]
  unfold digits
  change (if ((ds ++ s).takeWhile isDigit).isEmpty then malformed
    else pure ((ds ++ s).takeWhile isDigit) : Decoder Bytes)
      ((ds ++ s).drop ((ds ++ s).takeWhile isDigit).length) = _
  rw [htake, List.drop_left, List.isEmpty_eq_false_iff.2 hne]
  rfl

lemma isBlank_of_isDigit {b : UInt8} (h : isDigit b = true) : isBlank b = false := by
  cases hb : isBlank b with
  | false => rfl
  | true =>
    unfold isBlank at hb
    simp only [Bool.or_eq_true, beq_iff_eq] at hb
    rcases hb with ((rfl | rfl) | rfl) | rfl <;> cases h

lemma digits_eq_cons (ds : Digits) : ∃ d t, ds.1 = d :: t ∧ isDigit d = true := by
  obtain ⟨d, t, hds⟩ := List.exists_cons_of_ne_nil ds.2.1
  exact ⟨d, t, hds, List.all_eq_true.1 ds.2.2 d (hds ▸ List.mem_cons_self)⟩

/-! ### Scanning -/

lemma decimals_none (h : ∀ b ∈ s.head?, b ≠ 0x2E) : decimals s = .ok none s := by
  have hget : (get : Decoder Bytes) s = .ok s s := rfl
  unfold decimals
  rw [bind_of_ok hget]
  split
  · exact absurd rfl (h _ rfl)
  · rfl

lemma decimals_append (ds : Digits) (hs : NoDigit s) :
    decimals (0x2E :: (ds.1 ++ s)) = .ok (some ds.1) s := by
  change (some <$> digits) (ds.1 ++ s) = _
  exact map_of_ok (digits_append ds.2.1 ds.2.2 hs)

lemma exponent_none (h : ∀ b ∈ s.head?, b ≠ 0x65 ∧ b ≠ 0x45) : exponent s = .ok none s := by
  cases s with
  | nil => rfl
  | cons e s =>
    have he := h e rfl
    change (if e = 0x65 ∨ e = 0x45 then _ else pure none : Decoder (Option (Bool × Bytes))) _ = _
    rw [if_neg (by rintro (rfl | rfl) <;> simp at he)]
    rfl

/-- The sign and the digits of a power. -/
def powerValue (p : Power) : Bool × Bytes := (p.sign == some true, p.digits.1)

lemma exponent_append (p : Power) (hs : NoDigit s) :
    exponent (p.bytes ++ s) = .ok (some (powerValue p)) s := by
  obtain ⟨isCapital, sign, ds⟩ := p
  have hds := digits_append ds.2.1 ds.2.2 hs
  have hcapital : (if isCapital then 0x45 else 0x65 : UInt8) = 0x65 ∨
      (if isCapital then 0x45 else 0x65 : UInt8) = 0x45 := by cases isCapital <;> decide
  unfold exponent
  rw [Power.bytes, List.cons_append, bind_of_ok (d := get) rfl]
  generalize (if isCapital then 0x45 else 0x65 : UInt8) = e at hcapital
  dsimp only
  rw [if_pos hcapital]
  rcases sign with _ | _ | _
  · obtain ⟨d, t, heq, hdigit⟩ := digits_eq_cons ds
    have hfirst : (ds.1 ++ s).head? = some d := by rw [heq]; rfl
    dsimp only [List.nil_append]
    generalize ds.1 ++ s = t at hds hfirst
    -- a sign is no digit
    split
    · cases hfirst
      cases hdigit
    · cases hfirst
      cases hdigit
    · exact map_of_ok hds
  · exact map_of_ok hds
  · exact map_of_ok hds

/-- The parts of a figure without its sign. -/
def figureLiteral (f : Figure) : Literal :=
  ⟨f.whole.1, f.decimals.map (·.1), f.power.map powerValue⟩

lemma exponent_figure (f : Figure) (hs : Ends s) :
    exponent (f.powerBytes ++ s) = .ok (f.power.map powerValue) s := by
  unfold Figure.powerBytes
  cases f.power with
  | none => exact exponent_none fun b hb => (hs.apart hb).2.2
  | some p => exact exponent_append p hs.noDigit

/-- No digit and no point comes where decimals end. -/
lemma head_powerBytes (f : Figure) (hs : Ends s) :
    ∀ b ∈ (f.powerBytes ++ s).head?, isDigit b = false ∧ b ≠ 0x2E := by
  unfold Figure.powerBytes
  cases f.power with
  | none => exact fun b hb => ⟨(hs.apart hb).1, (hs.apart hb).2.1⟩
  | some p =>
    rintro b hb
    rw [← Option.some.inj hb]
    cases p.isCapital <;> decide

lemma decimals_figure (f : Figure) (hs : Ends s) :
    decimals (f.tail ++ s) = .ok (f.decimals.map (·.1)) (f.powerBytes ++ s) := by
  have hpower := head_powerBytes f hs
  unfold Figure.tail Figure.decimalBytes
  rw [List.append_assoc]
  cases f.decimals with
  | none => exact decimals_none fun b hb => (hpower b hb).2
  | some ds => exact decimals_append ds fun b hb => (hpower b hb).1

lemma noDigit_tail (f : Figure) (hs : Ends s) : NoDigit (f.tail ++ s) := by
  unfold Figure.tail Figure.decimalBytes
  rw [List.append_assoc]
  cases f.decimals with
  | none => exact fun b hb => (head_powerBytes f hs b hb).1
  | some ds =>
    rintro b hb
    rw [← Option.some.inj hb]
    decide

theorem scan_figure (f : Figure) (hs : Ends s) :
    scan (f.whole.1 ++ (f.tail ++ s)) = .ok (figureLiteral f) s := by
  have hproper : ¬ (f.whole.1.length > 1 && f.whole.1.head? == some 0x30) = true := by
    rw [Bool.and_eq_true, decide_eq_true_eq, beq_iff_eq]
    rintro ⟨hlong, hzero⟩
    have hone := f.proper hzero
    omega
  unfold scan
  rw [bind_of_ok (digits_append f.whole.2.1 f.whole.2.2 (noDigit_tail f hs)), if_neg hproper,
    bind_of_ok (decimals_figure f hs), bind_of_ok (exponent_figure f hs)]
  rfl

end Arbiter.Decoder

namespace Arbiter

lemma Figure.bytes_eq_cons (f : Figure) : ∃ b t, f.bytes = b :: t ∧
    (b = 0x2D ∨ Decoder.isDigit b = true) := by
  rw [bytes]
  cases f.isNegative with
  | true => exact ⟨_, _, rfl, .inl rfl⟩
  | false =>
    obtain ⟨d, ds, hds, hdigit⟩ := Decoder.digits_eq_cons f.whole
    exact ⟨d, _, by rw [hds]; rfl, .inr hdigit⟩

/-! ### Whole numbers -/

/-- The decimal digits of a number. -/
def Digits.ofNat (n : Nat) : Digits where
  val := Utf8.encodeChars (Numeral.ofNat n)
  property := by
    constructor
    · obtain ⟨c, cs, hcs⟩ := List.exists_cons_of_ne_nil (Numeral.ofNat_ne_nil n)
      rw [hcs, Utf8.encodeChars_cons]
      exact List.append_ne_nil_of_left_ne_nil (Utf8.encodeChar_ne_nil c) _
    · have hdigit := List.all_eq_true.1 (Numeral.all_isDigit_ofNat n)
      refine List.all_eq_true.2 fun b hb => ?_
      obtain ⟨c, hc, hb⟩ := List.mem_flatMap.1 hb
      have hrange := Numeral.toNat_of_isDigit (hdigit c hc)
      rw [Numeral.encodeChar_digit (hdigit c hc), List.mem_singleton] at hb
      have hb' : b.toNat = c.toNat := by rw [hb, Utf8.toNat_ofNat_of_lt (by omega)]
      unfold Decoder.isDigit
      rw [Bool.and_eq_true, decide_eq_true_eq, decide_eq_true_eq, UInt8.le_iff_toNat_le,
        UInt8.le_iff_toNat_le, hb']
      exact hrange

/-- Only zero begins with a zero. -/
lemma Digits.proper_ofNat {n : Nat} (h : (Digits.ofNat n).1.head? = some 0x30) :
    (Digits.ofNat n).1.length = 1 := by
  obtain ⟨c, cs, hcs⟩ := List.exists_cons_of_ne_nil (Numeral.ofNat_ne_nil n)
  have hdigit := List.all_eq_true.1 (Numeral.all_isDigit_ofNat n) c (hcs ▸ List.mem_cons_self)
  have hrange := Numeral.toNat_of_isDigit hdigit
  have hzero : c.toNat = 0x30 := by
    change (Utf8.encodeChars (Numeral.ofNat n)).head? = _ at h
    rw [hcs, Utf8.encodeChars_cons, Numeral.encodeChar_digit hdigit] at h
    rw [← Utf8.toNat_ofNat_of_lt (n := c.toNat) (by omega), Option.some.inj h]
    rfl
  have hc : c = '0' := Char.toNat_inj.1 hzero
  obtain rfl : n = 0 := Numeral.head_ofNat (by rw [hcs, List.head?_cons, hc])
  decide +kernel

namespace Figure

/-- A whole number in decimal. -/
def ofInt (n : Int) : Figure where
  isNegative := n < 0
  whole := .ofNat n.natAbs
  proper := Digits.proper_ofNat
  decimals := none
  power := none

lemma bytes_ofInt_eq (n : Int) : (ofInt n).bytes =
    (if n < 0 then [0x2D] else []) ++ (Digits.ofNat n.natAbs).1 := by
  unfold bytes
  rw [show (ofInt n).tail = [] from rfl, List.append_nil]
  simp only [ofInt, decide_eq_true_eq]

lemma bytes_ofInt (n : Int) : (ofInt n).bytes = Utf8.encodeChars (Numeral.ofInt n) := by
  rw [bytes_ofInt_eq]
  cases n with
  | ofNat k => rfl
  | negSucc k =>
    rw [if_pos (Int.negSucc_lt_zero k)]
    rfl

end Figure

namespace Decoder

variable {s : Bytes}

/-- The number that digits write after another one. -/
def valueOn (m : Nat) (ds : Bytes) : Nat := ds.foldl (fun n d => 10 * n + (d.toNat - 0x30)) m

lemma le_valueOn (m : Nat) (ds : Bytes) : m ≤ valueOn m ds := by
  induction ds generalizing m with
  | nil => exact Nat.le_refl m
  | cons d ds ih => exact Nat.le_trans (by omega) (ih (10 * m + (d.toNat - 0x30)))

/-- Digits of 64 bits are all appended. -/
lemma absorb_eq {m : Nat} {ds : Bytes} (h : valueOn m ds < UInt64.size) :
    absorb m ds = (valueOn m ds, ds.length) := by
  induction ds generalizing m with
  | nil => rfl
  | cons d ds ih =>
    have hlt : 10 * m + (d.toNat - 0x30) < UInt64.size := Nat.lt_of_le_of_lt (le_valueOn _ ds) h
    unfold absorb
    dsimp only
    rw [if_pos hlt, ih h]
    rfl

lemma valueOn_ofNat (n : Nat) : valueOn 0 (Digits.ofNat n).1 = n := by
  have hfold : ∀ (cs : List Char) (m : Nat), cs.all Numeral.isDigit = true →
      valueOn m (Utf8.encodeChars cs) = cs.foldl (fun n c => 10 * n + (c.toNat - 0x30)) m := by
    intro cs
    induction cs with
    | nil => exact fun m _ => rfl
    | cons c cs ih =>
      intro m h
      rw [List.all_cons, Bool.and_eq_true] at h
      have hrange := Numeral.toNat_of_isDigit h.1
      rw [Utf8.encodeChars_cons, Numeral.encodeChar_digit h.1, List.foldl_cons, ← ih _ h.2]
      unfold valueOn
      rw [List.singleton_append, List.foldl_cons, Utf8.toNat_ofNat_of_lt (by omega)]
  exact (hfold _ 0 (Numeral.all_isDigit_ofNat n)).trans (Numeral.value_ofNat n)

lemma sort_ofInt {n : Int} (h : Span.int64.holds n = true) :
    (figureLiteral (.ofInt n)).sort (n < 0) = .ok (.int n) := by
  have hrange : -9223372036854775808 ≤ n ∧ n ≤ 9223372036854775807 := Span.holds_iff.1 h
  have hsize : n.natAbs < UInt64.size := by
    rw [show UInt64.size = 18446744073709551616 from rfl]
    omega
  have habsorb := absorb_eq (m := 0) (by rw [valueOn_ofNat]; exact hsize)
  rw [valueOn_ofNat] at habsorb
  unfold Literal.sort
  rw [show (figureLiteral (.ofInt n)).whole = (Digits.ofNat n.natAbs).1 from rfl, habsorb]
  dsimp only
  rw [Nat.sub_self, if_pos (by rfl)]
  split
  · rename_i hsign
    have hnonneg : 0 ≤ n := by simpa using hsign
    rw [Int.natAbs_of_nonneg hnonneg]
  · rename_i hsign
    have hneg : n < 0 := by simpa using hsign
    rw [if_pos ⟨by omega, by omega⟩, Int.ofNat_natAbs_of_nonpos (by omega), Int.neg_neg]

lemma keep_of_holds {range : Span} {n : Int} (h : range.holds n = true) (s : Bytes) :
    keep range (.int n) s = .ok n s := by
  change (if range.holds n then pure n else mismatch : Decoder Int) s = _
  rw [if_pos h]
  rfl

lemma numberRest_ofInt {n : Int} (h : Span.int64.holds n = true) (hs : Ends s) :
    numberRest (n < 0) ((Digits.ofNat n.natAbs).1 ++ s) = .ok (.int n) s := by
  have hscan := scan_figure (.ofInt n) hs
  unfold numberRest
  rw [show (Digits.ofNat n.natAbs).1 ++ s = (Figure.ofInt n).whole.1 ++
    ((Figure.ofInt n).tail ++ s) from rfl, bind_of_ok hscan, sort_ofInt h]
  rfl

theorem int_ofInt {range : Span} {n : Int} (hrange : range.holds n = true)
    (h : Span.int64.holds n = true) (w : Blanks) (hs : Ends s) :
    int range (w.1 ++ ((Figure.ofInt n).bytes ++ s)) = .ok n s := by
  have hrest := numberRest_ofInt h hs
  unfold int
  rw [ahead_blanks, Figure.bytes_ofInt_eq]
  by_cases hneg : n < 0
  · rw [decide_eq_true hneg] at hrest
    rw [if_pos hneg, List.append_assoc, List.singleton_append, ahead_cons _ (by decide)]
    dsimp only
    rw [if_pos rfl, pass_bind, bind_of_ok hrest]
    exact keep_of_holds hrange s
  · rw [decide_eq_false hneg] at hrest
    obtain ⟨d, ds, hds, hdigit⟩ := digits_eq_cons (.ofNat n.natAbs)
    rw [hds] at hrest
    rw [if_neg hneg, List.nil_append, hds, List.cons_append,
      ahead_cons _ (isBlank_of_isDigit hdigit)]
    dsimp only
    rw [if_neg (by rintro rfl; cases hdigit), if_pos hdigit]
    rw [List.cons_append] at hrest
    rw [bind_of_ok hrest]
    exact keep_of_holds hrange s

end Decoder

end Arbiter
