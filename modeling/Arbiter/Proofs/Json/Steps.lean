import Arbiter.Json.Record
import Arbiter.Proofs.Json.Layout

/-!
Steps of decoders: what they pass at the front of a text, and that a text on which they went well
began with what they pass. Blanks before a value make no difference (`ahead_blanks`).
-/

namespace Arbiter.Decoder

variable {α β : Type} {d : Decoder α} {f : α → Decoder β} {g : α → β} {s r : Bytes} {a : α} {b : β}
  {c : UInt8}

/-! ### One after the other -/

lemma bind_of_ok (h : d s = .ok a r) : (d >>= f) s = f a r := by
  change EStateM.bind d f s = _
  unfold EStateM.bind
  rw [h]

lemma bind_eq_ok : (d >>= f) s = .ok b r ↔ ∃ a t, d s = .ok a t ∧ f a t = .ok b r := by
  constructor
  · intro h
    change EStateM.bind d f s = _ at h
    unfold EStateM.bind at h
    split at h
    · rename_i a t hd
      exact ⟨a, t, hd, h⟩
    · cases h
  · rintro ⟨a, t, hd, hf⟩
    rw [bind_of_ok hd, hf]

lemma map_of_ok (h : d s = .ok a r) : (g <$> d) s = .ok (g a) r := by
  change EStateM.map g d s = _
  unfold EStateM.map
  rw [h]

lemma map_eq_ok : (g <$> d) s = .ok b r ↔ ∃ a, d s = .ok a r ∧ g a = b := by
  constructor
  · intro h
    change EStateM.map g d s = _ at h
    unfold EStateM.map at h
    split at h
    · rename_i a t hd
      cases h
      exact ⟨a, hd, rfl⟩
    · cases h
  · rintro ⟨a, hd, rfl⟩
    exact map_of_ok hd

lemma bind_mismatch_ne_ok : (d >>= fun _ => mismatch) s ≠ .ok b r := by
  intro h
  obtain ⟨a, t, -, hf⟩ := bind_eq_ok.1 h
  cases hf

/-! ### Blanks and bytes -/

lemma ahead_bind (f : Option UInt8 → Decoder β) (s : Bytes) :
    (ahead >>= f) s = f (s.dropWhile isBlank).head? (s.dropWhile isBlank) := rfl

lemma dropWhile_blanks (w : Blanks) (s : Bytes) :
    (w.1 ++ s).dropWhile isBlank = s.dropWhile isBlank :=
  List.dropWhile_append_of_pos (List.all_eq_true.1 w.2)

lemma ahead_blanks (f : Option UInt8 → Decoder β) (w : Blanks) (s : Bytes) :
    (ahead >>= f) (w.1 ++ s) = (ahead >>= f) s := by
  rw [ahead_bind, ahead_bind, dropWhile_blanks]

lemma ahead_cons (f : Option UInt8 → Decoder β) (h : isBlank c = false) :
    (ahead >>= f) (c :: s) = f (some c) (c :: s) := by
  rw [ahead_bind, List.dropWhile_cons_of_neg (by rw [h]; exact Bool.false_ne_true)]
  rfl

lemma exists_blanks (s : Bytes) : ∃ (w : Blanks) (t : Bytes), s = w.1 ++ t ∧
    ∀ c ∈ t.head?, isBlank c = false := by
  refine ⟨⟨s.takeWhile isBlank, List.all_takeWhile⟩, s.dropWhile isBlank,
    List.takeWhile_append_dropWhile.symm, fun c hc => ?_⟩
  have hstop := List.head?_dropWhile_not isBlank s
  rwa [Option.mem_def.1 hc] at hstop

lemma pass_bind (f : Unit → Decoder β) (c : UInt8) (s : Bytes) :
    (pass >>= f) (c :: s) = f () s := rfl

lemma token_blanks (w : Blanks) (h : isBlank c = false) : token c (w.1 ++ c :: s) = .ok () s := by
  unfold token
  rw [ahead_blanks, ahead_cons _ h]
  dsimp only
  rw [if_pos rfl]
  rfl

lemma token_cons (h : isBlank c = false) : token c (c :: s) = .ok () s := token_blanks .none h

lemma token_eq_ok (h : token c s = .ok () r) : ∃ w : Blanks, s = w.1 ++ c :: r := by
  obtain ⟨w, t, rfl, ht⟩ := exists_blanks s
  unfold token at h
  rw [ahead_blanks] at h
  cases t with
  | nil => cases h
  | cons c' t =>
    rw [ahead_cons _ (ht c' rfl)] at h
    dsimp only at h
    split at h
    · rename_i hc
      cases h
      exact ⟨w, by rw [hc]; rfl⟩
    · cases h

lemma literal_append (bs s : Bytes) : literal bs (bs ++ s) = .ok () s := by
  induction bs with
  | nil => rfl
  | cons c bs ih =>
    rw [← ih]
    change (if c = c then literal bs else malformed) (bs ++ s) = _
    rw [if_pos rfl]

/-- What is refused gives no value: a word, a number or a string is passed first. -/
lemma refuse_ne_ok : (refuse : Decoder α) s ≠ .ok a r := by
  intro h
  have hafter : ∀ {γ : Type} {e : Decoder Unit} {w : Decoder γ} {t : Bytes},
      (e >>= fun _ => w >>= fun _ => (mismatch : Decoder α)) t ≠ .ok a r := by
    intro γ e w t ht
    obtain ⟨-, t', -, hw⟩ := bind_eq_ok.1 ht
    exact bind_mismatch_ne_ok hw
  unfold refuse at h
  rw [ahead_bind] at h
  generalize s.dropWhile isBlank = t at h
  cases t with
  | nil => cases h
  | cons c t =>
    dsimp only [List.head?_cons] at h
    split at h
    · exact hafter h
    split at h
    · exact hafter h
    split at h
    · exact hafter h
    split at h
    · exact hafter h
    split at h
    · exact bind_mismatch_ne_ok h
    split at h
    · exact hafter h
    split at h <;> cases h

end Arbiter.Decoder
