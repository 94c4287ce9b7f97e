import Arbiter.Proofs.Json.Skipping

/-!
What decoders of single values read could as well be passed unread (`Passes`), so they read the
value that comes next whole and no more (`Passes.eq_rest`).
-/

namespace Arbiter.Decoder

variable {α β : Type} {d : Decoder α} {s r : Bytes} {a : α}

/-- What is read can be passed, and the same is left. -/
def Passes (d : Decoder α) : Prop :=
  ∀ ⦃s r : Bytes⦄ ⦃a : α⦄, d s = .ok a r → ∀ n, skipWithin (n + 3) s = .ok () r

theorem Passes.eq_rest (hd : Passes d) {v : Layout} {w : Blanks} (hs : Ends s)
    (h : d (w.1 ++ (v.bytes ++ s)) = .ok a r) : r = s := by
  have hpass := hd h v.bytes.length
  rw [skipWithin_layout v w (Nat.le_add_right _ _) hs] at hpass
  cases hpass
  rfl

lemma Passes.map (hd : Passes d) (g : α → β) : Passes (g <$> d) := by
  intro s r b h
  obtain ⟨a, ha, -⟩ := map_eq_ok.1 h
  exact hd ha

/-- What is left of a number when it was read is left by its scan. -/
lemma scan_of_numberRest {negative : Bool} {n : Number} (h : numberRest negative s = .ok n r) :
    ∃ l, scan s = .ok l r := by
  obtain ⟨l, t, hl, h⟩ := bind_eq_ok.1 h
  rcases hsort : l.sort negative with f | n'
  · rw [hsort] at h
    cases h
  · rw [hsort] at h
    cases h
    exact ⟨l, hl⟩

/-- What looks ahead passes a value if it does so from the first byte of it. -/
lemma passes_ahead {f : Option UInt8 → Decoder α} (hnone : ∀ a r, f none [] ≠ .ok a r)
    (hsome : ∀ {c : UInt8} {s r : Bytes} {a : α}, isBlank c = false →
      f (some c) (c :: s) = .ok a r → ∀ n, skipWithin (n + 3) (c :: s) = .ok () r) :
    Passes (ahead >>= f) := by
  intro s r a h n
  obtain ⟨w, t, rfl, ht⟩ := exists_blanks s
  rw [ahead_blanks] at h
  rw [skipWithin_blanks]
  cases t with
  | nil => exact absurd h (hnone a r)
  | cons c t =>
    rw [ahead_cons _ (ht c rfl)] at h
    exact hsome (ht c rfl) h n

lemma rest_of_keep {range : Span} {n : Number} {m : Int} (h : keep range n s = .ok m r) :
    s = r := by
  cases n with
  | real => cases h
  | int k =>
    unfold keep at h
    dsimp only at h
    split at h
    · cases h
      rfl
    · cases h

lemma passes_int (range : Span) : Passes (int range) := by
  have hrest : ∀ {negative : Bool} {s r : Bytes} {m : Int},
      (numberRest negative >>= keep range) s = .ok m r → ∃ l, scan s = .ok l r := by
    intro negative s r m h
    obtain ⟨m', t, hnumber, h⟩ := bind_eq_ok.1 h
    obtain rfl := rest_of_keep h
    exact scan_of_numberRest hnumber
  refine passes_ahead (fun _ _ h => by cases h) fun {c s r m} hc h n => ?_
  dsimp only at h
  split at h
  · rename_i hminus
    subst hminus
    rw [pass_bind] at h
    obtain ⟨l, hscan⟩ := hrest h
    exact skipWithin_minus hscan
  · split at h
    · rename_i hdigit
      obtain ⟨l, hscan⟩ := hrest h
      exact skipWithin_digit hdigit hscan
    · obtain ⟨m', t, href, -⟩ := bind_eq_ok.1 h
      exact absurd href refuse_ne_ok

lemma passes_string : Passes string := by
  refine passes_ahead (fun _ _ h => by cases h) fun {c s r text} hc h n => ?_
  dsimp only at h
  split at h
  · rename_i hquote
    subst hquote
    exact skipStringRest_of_stringRest h
  · exact absurd h refuse_ne_ok

lemma skipWithin_of_null {u : Unit} (h : null s = .ok u r) (n : Nat) :
    skipWithin (n + 1) s = .ok () r := by
  obtain ⟨w, t, rfl, ht⟩ := exists_blanks s
  unfold null at h
  rw [ahead_blanks] at h
  rw [skipWithin_blanks]
  cases t with
  | nil => cases h
  | cons c t =>
    rw [ahead_cons _ (ht c rfl)] at h
    dsimp only at h
    split at h
    · rename_i hnull
      subst hnull
      exact h
    · exact absurd h refuse_ne_ok

lemma Passes.optional (hd : Passes d) : Passes (optional d) := by
  refine passes_ahead (fun a r h => ?_) fun {c s r a} hc h n => ?_
  · -- nothing can be passed of nothing
    have hnone := hd.map some h 0
    rw [skipWithin] at hnone
    cases hnone
  · generalize ho : some c = o at h
    split at h
    · obtain ⟨_, t, hnull, h⟩ := bind_eq_ok.1 h
      cases h
      exact skipWithin_of_null hnull (n + 2)
    · exact hd.map some h n

lemma passes_parsed (read? : String → Option α) : Passes (parsed read?) := by
  intro s r a h n
  obtain ⟨text, t, htext, h⟩ := bind_eq_ok.1 h
  rcases hread : read? text with _ | b
  · rw [hread] at h
    cases h
  · rw [hread] at h
    cases h
    exact passes_string htext n

lemma skipWithin_named {named? : String → Option α} (h : (do
      pass
      token 0x22
      let some a := named? (← stringRest) | mismatch
      token 0x3A
      null
      token 0x7D
      return a : Decoder α) (0x7B :: s) = .ok a r) (n : Nat) :
    skipWithin (n + 3) (0x7B :: s) = .ok () r := by
  rw [pass_bind] at h
  obtain ⟨_, t, hquote, hafter⟩ := bind_eq_ok.1 h
  obtain ⟨text, t₁, htext, hmatch⟩ := bind_eq_ok.1 hafter
  rcases hnamed : named? text with _ | b
  · rw [hnamed] at hmatch
    cases hmatch
  rw [hnamed] at hmatch
  obtain ⟨_, t₂, hcolon, hvalue⟩ := bind_eq_ok.1 hmatch
  obtain ⟨_, t₃, hnull, hclose⟩ := bind_eq_ok.1 hvalue
  obtain ⟨_, t₄, hbrace, hreturn⟩ := bind_eq_ok.1 hclose
  cases hreturn
  obtain ⟨w, rfl⟩ := token_eq_ok hquote
  obtain ⟨w', rfl⟩ := token_eq_ok hbrace
  have hkey : skipKey (0x22 :: t) = .ok () t₂ := by
    unfold skipKey
    rw [bind_of_ok (token_cons (by decide)),
      bind_of_ok (d := ofResult skipStringRest) (skipStringRest_of_stringRest htext)]
    exact hcolon
  have hend : skipMembers (n + 1) false (w'.1 ++ 0x7D :: r) = .ok () r := by
    rw [skipMembers, ahead_last _ _ _ (by decide)]
    rfl
  change skipMembers (n + 2) true (w.1 ++ 0x22 :: t) = _
  rw [skipMembers, ahead_blanks, ahead_cons _ (by decide), if_neg (by decide)]
  exact (bind_of_ok hkey).trans ((bind_of_ok (skipWithin_of_null hnull n)).trans hend)

lemma passes_choice (named? : String → Option α) : Passes (choice named?) := by
  refine passes_ahead (fun _ _ h => by cases h) fun {c s r a} hc h n => ?_
  generalize ho : some c = o at h
  split at h
  · exact passes_parsed named? h n
  · obtain rfl := Option.some.inj ho
    exact skipWithin_named h n
  · cases h

end Arbiter.Decoder
