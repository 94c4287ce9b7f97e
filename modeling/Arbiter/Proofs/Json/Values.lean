import Arbiter.Proofs.Json.Numbers
import Arbiter.Proofs.Json.Strings

/-!
Decoders of single values read what a layout writes (`Reads`): whole numbers of their range, texts,
named choices, and null or a value for an optional one.
-/

namespace Arbiter

lemma Layout.Writes.bytes_int {v : Layout} {n : Int} (h : v.Writes (.int n)) :
    v.bytes = (Figure.ofInt n).bytes := by
  cases h with
  | int h => rw [Layout.bytes, h, Figure.bytes_ofInt]

/-- What writes a value that is not null does not begin like null. -/
lemma Layout.Writes.bytes_eq_cons {v : Layout} {j : Json} (h : v.Writes j) (hj : j ≠ .null) :
    ∃ b t, v.bytes = b :: t ∧ Decoder.isBlank b = false ∧ b ≠ 0x6E := by
  cases h with
  | null => exact absurd rfl hj
  | str => exact ⟨_, _, rfl, by decide⟩
  | @int f =>
    obtain ⟨b, t, hb, rfl | hdigit⟩ := f.bytes_eq_cons
    · exact ⟨_, t, hb, by decide⟩
    · refine ⟨b, t, hb, Decoder.isBlank_of_isDigit hdigit, ?_⟩
      rintro rfl
      cases hdigit

namespace Decoder

variable {α : Type} {d : Decoder α} {j : Json} {a : α}

/-- The value is read wherever a layout writes it, blanks before it or not, and what comes after it
is left. -/
def Reads (d : Decoder α) (j : Json) (a : α) : Prop :=
  ∀ ⦃v : Layout⦄, v.Writes j → ∀ (w : Blanks) {s : Bytes}, Ends s →
    d (w.1 ++ (v.bytes ++ s)) = .ok a s

lemma Reads.map {β : Type} (h : Reads d j a) (g : α → β) : Reads (g <$> d) j (g a) :=
  fun _ hv w _ hs => map_of_ok (h hv w hs)

lemma reads_int {range : Span} {n : Int} (hrange : range.holds n = true)
    (h : Span.int64.holds n = true) : Reads (int range) (.int n) n := by
  intro v hv w s hs
  rw [hv.bytes_int]
  exact int_ofInt hrange h w hs

lemma holds_toInt64 (n : Int64) : Span.int64.holds n.toInt = true :=
  Span.holds_iff.2 ⟨n.le_toInt, Int.le_of_lt_add_one n.toInt_lt⟩

lemma holds_toInt32 (n : Int32) : Span.int32.holds n.toInt = true :=
  Span.holds_iff.2 ⟨n.le_toInt, Int.le_of_lt_add_one n.toInt_lt⟩

lemma holds_int64_of_int32 {n : Int} (h : Span.int32.holds n = true) :
    Span.int64.holds n = true := by
  obtain ⟨hleast, hgreatest⟩ := Span.holds_iff.1 h
  exact Span.holds_iff.2 ⟨Int.le_trans (by decide) hleast, Int.le_trans hgreatest (by decide)⟩

lemma reads_int64 (n : Int64) : Reads int64 (.ofInt64 n) n := by
  have hrange := holds_toInt64 n
  have hread := (reads_int hrange hrange).map Int64.ofInt
  rwa [Int64.ofInt_toInt] at hread

lemma reads_int32 (n : Int32) : Reads int32 (.ofInt32 n) n := by
  have hread :=
    (reads_int (holds_toInt32 n) (holds_int64_of_int32 (holds_toInt32 n))).map Int32.ofInt
  rwa [Int32.ofInt_toInt] at hread

lemma reads_string (text : String) : Reads string (.str text) text := by
  intro v hv w s hs
  cases hv with
  | @str ps _ h =>
    unfold string
    rw [ahead_blanks, Layout.bytes, List.cons_append, List.append_assoc, ahead_cons _ (by decide)]
    exact stringRest_of_text h s

lemma reads_parsed {read? : String → Option α} {text : String} (h : read? text = some a) :
    Reads (parsed read?) (.str text) a := by
  intro v hv w s hs
  unfold parsed
  rw [bind_of_ok (reads_string text hv w hs), h]
  rfl

lemma reads_choice {named? : String → Option α} {text : String} (h : named? text = some a) :
    Reads (choice named?) (.str text) a := by
  intro v hv w s hs
  have hparsed := reads_parsed h hv .none hs
  cases hv with
  | str hps =>
    rw [Layout.bytes, List.cons_append] at hparsed ⊢
    unfold choice
    rw [ahead_blanks, ahead_cons _ (by decide)]
    exact hparsed

lemma reads_optional_null (d : Decoder α) : Reads (optional d) .null none := by
  intro v hv w s hs
  cases hv with
  | null =>
    have hnull : null (Layout.null.bytes ++ s) = .ok () s := literal_append [0x75, 0x6C, 0x6C] s
    rw [Layout.bytes, List.cons_append] at hnull ⊢
    unfold optional
    rw [ahead_blanks, ahead_cons _ (by decide)]
    exact bind_of_ok hnull

lemma Reads.optional (h : Reads d j a) (hj : j ≠ .null) : Reads (optional d) j (some a) := by
  intro v hv w s hs
  have hread := h hv .none hs
  obtain ⟨b, t, hb, hblank, hletter⟩ := hv.bytes_eq_cons hj
  rw [hb, List.cons_append] at hread ⊢
  unfold Decoder.optional
  rw [ahead_blanks, ahead_cons _ hblank]
  generalize ho : some b = o
  split
  · exact absurd (Option.some.inj ho) hletter
  · exact map_of_ok hread

end Decoder

end Arbiter
