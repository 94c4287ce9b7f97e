import Arbiter.Proofs.Session.Fair
import Arbiter.Proofs.Store.Tally

/-!
A problem's counter of accepted submissions in a session: it goes with the accepted rows move by
move (`Stir.accepted`), hence over every run (`accepted_after`), whatever fails and in whatever
order the tasks take their turns.
-/

namespace Arbiter.Session

variable {s : Session} {p : ProblemId} {q : Problem}

lemma Stir.accepted {m : Move} {x : Option Submission} {t : Store} (h : s.Stir m x t)
    (hs : s.store.Numbered) (hi : s.store.HasIds) (hc : s.store.HasCounts p)
    (hm : m.spares p = true) (hq : s.store.problems.find? p = some q) :
    ∃ q', t.problems.find? p = some q' ∧
      q'.acceptedCount.toInt + s.store.accepted p = q.acceptedCount.toInt + t.accepted p := by
  cases h with
  | effect h => exact h.accepted hq hc
  | created now d => exact ⟨q, hq, by rw [Store.accepted_create hs hi]⟩
  | user u => exact ⟨q, hq, rfl⟩
  | @problem r hr =>
    rw [hr] at hm
    exact ⟨q, (Table.find?_insert_of_ne _ (Move.ne_of_spares hm)).trans hq, rfl⟩

lemma accepted_after (hs : s.Sound) {ms : List Move} (hi : s.Throughout Store.HasIds ms)
    (hc : s.Throughout (Store.HasCounts p) ms) (hm : ∀ m ∈ ms, m.spares p = true)
    (hq : s.store.problems.find? p = some q) :
    ∃ q', (s.after ms).store.problems.find? p = some q' ∧
      q'.acceptedCount.toInt + s.store.accepted p =
        q.acceptedCount.toInt + (s.after ms).store.accepted p := by
  induction ms generalizing s q with
  | nil => exact ⟨q, hq, rfl⟩
  | cons m ms ih =>
    obtain ⟨hm, hms⟩ := List.forall_mem_cons.1 hm
    obtain ⟨r, hr, hstep⟩ := (hs.fair.stir m).accepted hs.numbered hi.1 hc.1 hm hq
    obtain ⟨q', hq', hrest⟩ := ih (hs.step hi.1 m) hi.2 hc.2 hms hr
    exact ⟨q', hq', by rw [after_cons]; omega⟩

/-- **The counter of accepted submissions is exact.** However the work is interleaved, and whatever
store calls fail, a problem's counter has grown by exactly the number that its stored accepted
submissions have grown by. -/
theorem acceptedCount_exact {s : Store} (hs : s.Numbered) (ms : List Move) {p : ProblemId}
    (hi : (opened s).Throughout Store.HasIds ms)
    (hc : (opened s).Throughout (Store.HasCounts p) ms) (hm : ∀ m ∈ ms, m.spares p = true)
    {q : Problem} (hq : s.problems.find? p = some q) :
    ∃ q', ((opened s).after ms).store.problems.find? p = some q' ∧
      q'.acceptedCount.toInt - q.acceptedCount.toInt =
        (((opened s).after ms).store.accepted p : Int) - s.accepted p := by
  obtain ⟨q', hq', h⟩ := accepted_after (sound_opened hs) hi hc hm hq
  have hopen : (opened s).store = s := rfl
  rw [hopen] at h
  exact ⟨q', hq', by omega⟩

theorem acceptedCount_exact_one : ∃ q, ((opened smallStore).after (submitMoves ++
    .turn (smoothTurn 0) :: judgeMoves)).store.problems.find? 10 = some q ∧
      q.acceptedCount.toInt - 0 = 1 - 0 := by
  have h := acceptedCount_exact (s := smallStore) (p := 10) Store.numbered_empty
    (submitMoves ++ .turn (smoothTurn 0) :: judgeMoves) (by decide) (by decide) (by decide) rfl
  obtain ⟨q, hq, hcount⟩ := h
  exact ⟨q, hq, hcount⟩

end Arbiter.Session
