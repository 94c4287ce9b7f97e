import Arbiter.Proofs.Judging.Terms
import Arbiter.Proofs.Session.Winner

/-!
Applied outcomes and discards take effect one after the other. A session in which their calls to
the store are interleaved is followed by a serial one (`Follows`), where each task has one turn
and does all of its work in it: the turn in which a discard makes its call, in which the first
look of an apply ends it, or in which an apply tries to write its verdict. An apply that has only
looked so far knows what it will write, as long as the submission is pending (`Known`); one whose
verdict was not written is bound to see what it would have seen in that turn.
-/

namespace Arbiter

/-! ### What lasts -/

namespace Store

variable {s t : Store} {id : SubmissionId}

/-- Nothing is pending under the id, for callers. -/
def Settled (s : Store) (id : SubmissionId) : Prop := ∀ x, s.find? id = some x → x.isPending = false

/-- What is pending under the id, for callers, is this submission. -/
def PendingIs (s : Store) (id : SubmissionId) (x : Submission) : Prop :=
  ∀ y, s.find? id = some y → y.isPending = true → y = x

lemma PendingIs.effect {x : Submission} (hk : s.PendingIs id x) (h : s.Effect t) :
    t.PendingIs id x := by
  intro y hy hp
  obtain ⟨hy, hlive⟩ := find?_eq_some.1 hy
  have hfate := h.fate id
  rw [hy] at hfate
  generalize hr : s.row? id = r at hfate
  cases hfate with
  | same => exact hk y (find?_eq_some.2 ⟨hr, hlive⟩) hp
  | judged hx v hv now => rw [Fate.isPending_judged hv] at hp; cases hp

/-- What callers find under an id where nothing is pending is what they find ever after. -/
lemma Settled.find?_eq (hs : s.Settled id) (h : s.Effect t) : t.find? id = s.find? id := by
  have hfate := h.fate id
  unfold Settled find? at hs
  unfold find?
  change Fate (s.submissions.find? id) (t.submissions.find? id) at hfate
  generalize s.submissions.find? id = q at hs hfate
  generalize t.submissions.find? id = r at hfate
  cases hfate with
  | same => rfl
  | @judged x hp v hv now =>
    cases hx : x.isDeleted
    · rw [hs x (by simp [hx])] at hp; cases hp
    · simp [Option.filter_some, hx, Submission.judged]
  | @removed x hp =>
    cases hx : x.isDeleted
    · rw [hs x (by simp [hx])] at hp; cases hp
    · simp [Option.filter_some, hx]

end Store

/-- What an apply that has not tried to write its verdict knows. -/
def ApplyPlace.Known (o : Outcome) (s : Store) : ApplyPlace → Prop
  | .arriving => True
  | .found x => o.status.isFinal = true ∧ s.PendingIs o.submissionId x
  | .informed x p => o.status.isFinal = true ∧ s.PendingIs o.submissionId x ∧
      p.map (·.terms) = (s.problems.find? x.problemId).map (·.terms)
  | .outrun => False
  | .ended _ => False

lemma ApplyPlace.Known.effect {o : Outcome} {s t : Store} {p : ApplyPlace} (hk : p.Known o s)
    (h : s.Effect t) : p.Known o t := by
  cases p with
  | arriving => trivial
  | found x => exact ⟨hk.1, hk.2.effect h⟩
  | informed x p => exact ⟨hk.1, hk.2.1.effect h, hk.2.2.trans (h.terms _).symm⟩
  | outrun | ended => exact hk.elim

/-! ### Two sessions -/

/-- How a task stands beside the same task of the serial session. -/
inductive Stands (s : Store) : Task → Task → Prop
  /-- An apply that had no effect yet. -/
  | applying {o : Outcome} {w : Work Ended} {p : ApplyPlace} (hw : ApplyingAt reportedScore o w p)
      (hk : p.Known o s) :
      Stands s ⟨.apply reportedScore o, w⟩
        ⟨.apply reportedScore o, (Duty.apply reportedScore o).work⟩
  /-- An apply that lost, and is bound to see why. -/
  | losing {o : Outcome} {w : Work Ended} {r : Except ApplyFailure Applied}
      (hw : ApplyingAt reportedScore o w .outrun) (hs : s.Settled o.submissionId)
      (hr : ApplyPlace.seenAgain o (s.find? o.submissionId) = .ended r) :
      Stands s ⟨.apply reportedScore o, w⟩ ⟨.apply reportedScore o, .done (.applied r)⟩
  | discarding (id : SubmissionId) :
      Stands s ⟨.discard id, (Duty.discard id).work⟩ ⟨.discard id, (Duty.discard id).work⟩
  | ended (d : Duty) (e : Ended) : Stands s ⟨d, .done e⟩ ⟨d, .done e⟩

lemma Stands.effect {s t : Store} {x y : Task} (hst : Stands s x y) (h : s.Effect t) :
    Stands t x y := by
  cases hst with
  | applying hw hk => exact .applying hw (hk.effect h)
  | losing hw hs hr =>
    have hfind := hs.find?_eq h
    refine .losing hw ?_ (by rw [hfind, hr])
    unfold Store.Settled
    rw [hfind]
    exact hs
  | discarding id => exact .discarding id
  | ended d e => exact .ended d e

namespace Session

/-- A serial session that is as far as a session: its store is the same, and its tasks are through
or at their start. -/
structure Follows (s s' : Session) : Prop where
  store : s'.store = s.store
  tasks : ∀ i : Nat, Option.Rel (Stands s.store) s.tasks[i]? s'.tasks[i]?

variable {s s' : Session} {t : Turn} {x y : Task}

/-- A turn that the serial session does not follow changes nothing but its task. -/
lemma Follows.stutter (h : Follows s s') (hy : s'.tasks[t.task]? = some y)
    (ht : t.task < s.tasks.length) (htake : s.take t = ⟨s.store, s.tasks.set t.task x⟩)
    (hst : Stands s.store x y) : Follows (s.take t) s' := by
  rw [htake]
  refine ⟨h.store, fun i => ?_⟩
  by_cases hi : t.task = i
  · subst hi
    rw [List.getElem?_set_self ht, hy]
    exact .some hst
  · rw [List.getElem?_set_ne hi]
    exact h.tasks i

/-- A turn that the serial session follows with the whole of the task. -/
lemma Follows.whole (h : Follows s s') (hy : s'.tasks[t.task]? = some y)
    (ht : t.task < s.tasks.length) {e : Ended} {u : Store}
    (hwhole : t.whole y.rest s.store = (e, u)) (heff : s.store.Effect u)
    (htake : s.take t = ⟨u, s.tasks.set t.task x⟩) (hst : Stands u x ⟨y.duty, .done e⟩) :
    Follows (s.take t) (s'.takeWhole t) := by
  rw [htake, takeWhole_of_some hy, h.store, hwhole]
  refine ⟨rfl, fun i => ?_⟩
  by_cases hi : t.task = i
  · subst hi
    rw [List.getElem?_set_self ht, List.getElem?_set_self (List.getElem?_eq_some_iff.1 hy).1]
    exact .some hst
  · rw [List.getElem?_set_ne hi, List.getElem?_set_ne hi]
    have hother := h.tasks i
    generalize s.tasks[i]? = a at hother
    generalize s'.tasks[i]? = b at hother
    cases hother with
    | none => exact .none
    | some hother => exact .some (hother.effect heff)

lemma take_of_applying {scoring : Scoring} {o : Outcome} {w : Work Ended} {p p' : ApplyPlace}
    {u : Store} (hx : s.tasks[t.task]? = some ⟨.apply scoring o, w⟩)
    (hw : ApplyingAt scoring o w p) (hp : ∀ r, p ≠ .ended r) (hf : t.fault = none)
    (hturn : p.turn scoring o t.now s.store = (p', u)) :
    ∃ w', ApplyingAt scoring o w' p' ∧
      s.take t = ⟨u, s.tasks.set t.task ⟨.apply scoring o, w'⟩⟩ := by
  rcases hw.turn hf s.store with ⟨r, hr, -⟩ | ⟨op, next, rfl, hstore, hnext⟩
  · exact absurd hr (hp r)
  · rw [hturn] at hstore hnext
    refine ⟨_, hnext, ?_⟩
    rw [take_of_ask hx, hstore]

/-- The turns of an apply that had no effect yet. -/
lemma Follows.take_applying {o : Outcome} {w : Work Ended} {p : ApplyPlace} (h : Follows s s')
    (hf : t.fault = none) (hx : s.tasks[t.task]? = some ⟨.apply reportedScore o, w⟩)
    (hy : s'.tasks[t.task]? =
      some ⟨.apply reportedScore o, (Duty.apply reportedScore o).work⟩)
    (hw : ApplyingAt reportedScore o w p) (hk : p.Known o s.store) :
    Follows (s.take t) s' ∨ Follows (s.take t) (s'.takeWhole t) := by
  have ht := (List.getElem?_eq_some_iff.1 hx).1
  cases p with
  | arriving =>
    rcases ApplyPlace.seen_cases o (s.store.find? o.submissionId) with
      ⟨r, hr⟩ | ⟨z, hz, hpending, ho, hseen⟩
    · obtain ⟨w', hw', htake⟩ := take_of_applying hx hw (by simp) hf (congrArg (·, s.store) hr)
      rw [hw'.eq_done] at htake
      exact .inr (h.whole hy ht (whole_of_seen _ hf hr) .nothing htake (.ended _ _))
    · obtain ⟨w', hw', htake⟩ := take_of_applying hx hw (by simp) hf (congrArg (·, s.store) hseen)
      have hknown : ApplyPlace.Known o s.store (.found z) := by
        refine ⟨ho, fun z' hz' _ => ?_⟩
        rw [hz] at hz'
        exact (Option.some.inj hz').symm
      exact .inl (h.stutter hy ht htake (.applying hw' hknown))
  | found z =>
    obtain ⟨w', hw', htake⟩ := take_of_applying hx hw (by simp) hf rfl
    exact .inl (h.stutter hy ht htake (.applying hw' ⟨hk.1, hk.2, rfl⟩))
  | informed z q =>
    obtain ⟨ho, honly, hterms⟩ := hk
    rcases Store.pending_or_not (s.store.find? o.submissionId) with ⟨z', hz, hpending⟩ | hs
    · obtain rfl := honly z' hz hpending
      obtain ⟨w', hw', htake⟩ := take_of_applying hx hw (by simp) hf
        (ApplyPlace.turn_informed_of_isPending hz hpending t.now z' q)
      have hwhole := whole_of_isPending _ hf hz hpending ho (Verdict.ofOutcome_congr o hterms.symm)
      rw [hw'.eq_done] at htake
      rw [← Store.id_of_row? (Store.find?_eq_some.1 hz).1] at hz
      exact .inr (h.whole hy ht hwhole (.judged hz hpending _ ho t.now) htake (.ended _ _))
    · -- the verdict came too late
      obtain ⟨r, hr⟩ := ApplyPlace.seenAgain_eq_ended o (s.store.find? o.submissionId)
      obtain ⟨w', hw', htake⟩ := take_of_applying hx hw (by simp) hf
        (ApplyPlace.turn_informed_of_not_isPending hs t.now z q)
      have hseen := (ApplyPlace.seen_of_not_pending hs).trans hr
      exact .inr (h.whole hy ht (whole_of_seen _ hf hseen) .nothing htake (.losing hw' hs hr))
  | outrun | ended => exact hk.elim

lemma Follows.take_discarding {id : SubmissionId} (h : Follows s s') (hf : t.fault = none)
    (hx : s.tasks[t.task]? = some ⟨.discard id, (Duty.discard id).work⟩)
    (hy : s'.tasks[t.task]? = some ⟨.discard id, (Duty.discard id).work⟩) :
    Follows (s.take t) (s'.takeWhole t) := by
  have ht := (List.getElem?_eq_some_iff.1 hx).1
  have hask : s.tasks[t.task]? = some ⟨.discard id, .ask (.store (.discard id)) _⟩ := hx
  have htake := take_of_ask hask
  rw [Turn.answer_store hf] at htake
  exact h.whole hy ht (whole_discard hf id) (s.store.effect_discard id) htake (.ended _ _)

/-- The task has not begun. -/
def Unbegun (s : Session) (i : Nat) : Prop :=
  ∃ d op next, s.tasks[i]? = some ⟨d, .ask op next⟩

/-- **One turn is followed by no turn, or by the whole of a task that had not begun.** -/
theorem Follows.take (h : Follows s s') (hf : t.fault = none) :
    Follows (s.take t) s' ∨ Follows (s.take t) (s'.takeWhole t) ∧ s'.Unbegun t.task := by
  have htask := h.tasks t.task
  generalize hx : s.tasks[t.task]? = a at htask
  generalize hy : s'.tasks[t.task]? = b at htask
  cases htask with
  | none =>
    rw [take_of_none hx]
    exact .inl h
  | some hst =>
    cases hst with
    | @applying o w p hw hk =>
      exact (h.take_applying hf hx hy hw hk).imp_right fun hnext => ⟨hnext, _, _, _, hy⟩
    | @losing o w r hw hs hr =>
      have ht := (List.getElem?_eq_some_iff.1 hx).1
      obtain ⟨w', hw', htake⟩ := take_of_applying hx hw (by simp) hf (congrArg (·, s.store) hr)
      rw [hw'.eq_done] at htake
      exact .inl (h.stutter hy ht htake (.ended _ _))
    | discarding id => exact .inr ⟨h.take_discarding hf hx hy, _, _, _, hy⟩
    | ended d e =>
      rw [take_of_done hx]
      exact .inl h

lemma not_unbegun_takeWhole {i : Nat} (h : s.Unbegun i) (ht : t.task = i) :
    ¬ (s.takeWhole t).Unbegun i := by
  subst ht
  obtain ⟨d, op, next, hx⟩ := h
  rintro ⟨d', op', next', hx'⟩
  rw [takeWhole_of_some hx, List.getElem?_set_self (List.getElem?_eq_some_iff.1 hx).1] at hx'
  cases hx'

/-- **A run is followed by a serial one.** Its turns are turns of the run, in the order of the run,
and each is the whole of another task. -/
theorem Follows.afterTurns {ts : List Turn} (h : Follows s s') (hf : ∀ t ∈ ts, t.fault = none) :
    ∃ order : List Turn, order.Sublist ts ∧ Follows (s.afterTurns ts) (s'.afterWhole order) ∧
      (order.map Turn.task).Nodup ∧ ∀ i ∈ order.map Turn.task, s'.Unbegun i := by
  induction ts generalizing s s' with
  | nil => exact ⟨[], .slnil, h, .nil, by simp⟩
  | cons t ts ih =>
    obtain ⟨hft, hfs⟩ := List.forall_mem_cons.1 hf
    rcases h.take hft with hnext | ⟨hnext, hbegun⟩
    · obtain ⟨order, hsub, hfollows, hnodup, hun⟩ := ih hnext hfs
      exact ⟨order, hsub.cons t, hfollows, hnodup, hun⟩
    · obtain ⟨order, hsub, hfollows, hnodup, hun⟩ := ih hnext hfs
      have hnew : t.task ∉ order.map Turn.task := fun hmem =>
        not_unbegun_takeWhole hbegun rfl (hun _ hmem)
      refine ⟨t :: order, hsub.cons_cons t, hfollows, List.nodup_cons.2 ⟨hnew, hnodup⟩, ?_⟩
      intro i hi
      rcases List.mem_cons.1 hi with rfl | hi
      · exact hbegun
      · obtain ⟨d, op, next, hx⟩ := hun i hi
        have hne : t.task ≠ i := fun ht => hnew (ht ▸ hi)
        rw [tasks_takeWhole_of_ne hne] at hx
        exact ⟨d, op, next, hx⟩

/-! ### Errands -/

/-- A session in which errands were taken on, and no call was made yet. -/
def ofErrands (s : Store) (rs : List Errand) : Session := withDuties s (rs.map Errand.duty)

lemma tasks_ofErrands (s : Store) (rs : List Errand) (i : Nat) :
    (ofErrands s rs).tasks[i]? = rs[i]?.map fun r => ⟨r.duty, r.duty.work⟩ := by
  unfold ofErrands withDuties
  rw [List.getElem?_map, List.getElem?_map, Option.map_map]
  rfl

lemma follows_ofErrands (s : Store) (rs : List Errand) :
    Follows (ofErrands s rs) (ofErrands s rs) := by
  refine ⟨rfl, fun i => ?_⟩
  rw [tasks_ofErrands]
  rcases rs[i]? with _ | _ | _
  · exact .none
  · exact .some (.applying (applyingAt_work _ _) trivial)
  · exact .some (.discarding _)

lemma serves_ofErrands (s : Store) (rs : List Errand) : Serves rs (ofErrands s rs) := by
  intro i
  rw [tasks_ofErrands]
  rcases rs[i]? with _ | r
  · exact .none
  · exact .some ⟨rfl, .inl rfl⟩

lemma came?_ofErrands (s : Store) (rs : List Errand) (i : Nat) :
    (ofErrands s rs).came? i = none := by
  unfold came?
  rw [tasks_ofErrands]
  rcases rs[i]? with _ | _ | _ <;> rfl

/-- When all tasks are through, the serial session has come to the same. -/
lemma Follows.eq (h : Follows s s') (hend : ∀ x ∈ s.tasks, ∃ e, x.rest = .done e) : s' = s := by
  have htasks : s'.tasks = s.tasks := by
    refine List.ext_getElem? fun i => ?_
    have hst := h.tasks i
    generalize hx : s.tasks[i]? = a at hst
    generalize s'.tasks[i]? = b at hst
    cases hst with
    | none => rfl
    | some hst =>
      obtain ⟨e, he⟩ := hend _ (List.mem_of_getElem? hx)
      cases hst with
      | @applying o w p hw hk =>
        obtain rfl : w = .done e := he
        obtain ⟨r, rfl, -⟩ := hw
        exact hk.elim
      | @losing o w r hw =>
        obtain rfl : w = .done e := he
        obtain ⟨r', hr, -⟩ := hw
        cases hr
      | discarding => cases he
      | ended => rfl
  cases s
  cases s'
  obtain rfl := h.store
  obtain rfl := htasks
  rfl

/-- **Errands that are interleaved are as good as errands one after the other.** -/
lemma linearization (s : Store) (rs : List Errand) {ts : List Turn}
    (hf : ∀ t ∈ ts, t.fault = none)
    (hend : ∀ x ∈ ((ofErrands s rs).after (ts.map .turn)).tasks, ∃ e, x.rest = .done e) :
    ∃ order : List Turn, order.Sublist ts ∧
      (order.map Turn.task).Perm (List.range rs.length) ∧
      (ofErrands s rs).afterWhole order = (ofErrands s rs).after (ts.map .turn) := by
  obtain ⟨order, hsub, hfollows, hnodup, hun⟩ := (follows_ofErrands s rs).afterTurns hf
  rw [afterTurns_eq] at hfollows
  have heq := hfollows.eq hend
  refine ⟨order, hsub, (List.perm_ext_iff_of_nodup hnodup List.nodup_range).2 fun i => ?_, heq⟩
  rw [List.mem_range]
  refine ⟨fun hi => ?_, fun hi => ?_⟩
  · obtain ⟨d, op, next, hx⟩ := hun i hi
    rw [tasks_ofErrands] at hx
    obtain ⟨r, hr, -⟩ := Option.map_eq_some_iff.1 hx
    exact (List.getElem?_eq_some_iff.1 hr).1
  · -- a task without a turn would still be at its start
    by_contra hmem
    have hx := tasks_afterWhole_of_notMem (s := ofErrands s rs) hmem
    rw [heq, tasks_ofErrands, List.getElem?_eq_getElem hi, Option.map_some] at hx
    obtain ⟨e, he⟩ := hend _ (List.mem_of_getElem? hx)
    generalize rs[i] = r at he
    cases r <;> cases he

/-- **Applied outcomes and discards are linearizable.** Let errands to apply outcomes and to
discard submissions be taken on together, and let their calls to the store be interleaved in any
way until all of them are through. Then there is an order of the errands in which each of them,
done as a whole in one of its own turns, comes to the same, and leaves the same store; an errand
that was through before another began comes first there. And where a submission was pending and
was not discarded, and a final outcome for it was among the errands, exactly one of the outcomes
for it was written, and all other final ones were answered with the status of that one. -/
theorem apply_linearizable (s : Store) (rs : List Errand) (ts : List Turn)
    (hf : ∀ t ∈ ts, t.fault = none)
    (hend : ∀ x ∈ ((ofErrands s rs).after (ts.map .turn)).tasks, x.ended?.isSome = true) :
    (∃ order : List Turn, order.Sublist ts ∧
      (order.map Turn.task).Perm (List.range rs.length) ∧
      (∀ i j, Precedes ts i j → Precedes order i j) ∧
      (ofErrands s rs).afterWhole order = (ofErrands s rs).after (ts.map .turn)) ∧
    ∀ id x, s.find? id = some x → x.isPending = true →
      (∀ i, rs[i]? = some (.discard id) →
        ((ofErrands s rs).after (ts.map .turn)).came? i ≠ some (.discarded (.ok true))) →
      (∃ o, .apply o ∈ rs ∧ o.submissionId = id ∧ o.status.isFinal = true) →
      ∃ i o y, rs[i]? = some (.apply o) ∧ o.submissionId = id ∧ y.status = o.status ∧
        ((ofErrands s rs).after (ts.map .turn)).store.find? id = some y ∧
        ((ofErrands s rs).after (ts.map .turn)).came? i = some (.applied (.ok (.now y))) ∧
        ∀ j o', j ≠ i → rs[j]? = some (.apply o') → o'.submissionId = id →
          (∀ z, ((ofErrands s rs).after (ts.map .turn)).came? j ≠
            some (.applied (.ok (.now z)))) ∧
          (o'.status.isFinal = true → ((ofErrands s rs).after (ts.map .turn)).came? j =
            some (.applied (.ok (.before y.status)))) := by
  have hdone : ∀ x ∈ ((ofErrands s rs).after (ts.map .turn)).tasks, ∃ e, x.rest = .done e := by
    intro x hx
    have h := hend x hx
    unfold Task.ended? at h
    rcases hrest : x.rest with e | ⟨op, next⟩
    · exact ⟨e, rfl⟩
    · rw [hrest] at h
      cases h
  obtain ⟨order, hsub, hperm, heq⟩ := linearization s rs hf hdone
  refine ⟨⟨order, hsub, hperm, fun i j h => h.sublist hsub, heq⟩, fun id x hx hp hd ho => ?_⟩
  -- the race is run by the serial session, which comes to the same
  have hstart : Race rs id (ofErrands s rs) := by
    refine .undecided x hx hp fun i o e _ _ he => ?_
    rw [came?_ofErrands] at he
    cases he
  have hserves := (serves_ofErrands s rs).afterWhole order
  have hrace := hstart.afterWhole (serves_ofErrands s rs)
    (fun t ht => hf t (hsub.subset ht)) (by rw [heq]; exact hd)
  rw [heq] at hrace hserves
  cases hrace with
  | undecided x' hx' hp' h =>
    obtain ⟨o, hmem, hid, hfinal⟩ := ho
    obtain ⟨i, hi⟩ := List.getElem?_of_mem hmem
    obtain ⟨e, he⟩ := hserves.came? hdone hi
    rw [(h i o e hi hid he).1] at hfinal
    cases hfinal
  | won i o y hy hpy hi hid hstatus hcame h =>
    refine ⟨i, o, y, hi, hid, hstatus, hy, hcame, fun j o' hj hrj hid' => ?_⟩
    obtain ⟨e, he⟩ := hserves.came? hdone hrj
    obtain ⟨hbefore, hnow⟩ := h j o' e hj hrj hid' he
    rw [he]
    refine ⟨fun z hz => hnow z (Option.some.inj hz), fun hfinal => ?_⟩
    rw [hbefore hfinal]

/-- A store with one submission, which is pending. -/
def pendingStore : Store := (smallStore.create ⟨0, 0⟩ ⟨10, 1, "lean", "example"⟩).2

/-- The first submission is accepted by one judge, and not by another. -/
def rivals : List Errand := [.apply firstAccepted, .apply (.ofStatus 1 .systemError)]

/-- Both outcomes are about to be written when the first one is. -/
def rivalTurns : List Turn := [0, 1, 0, 1, 0, 1, 1].map smoothTurn

theorem apply_linearizable_rivals :
    (∃ order, (ofErrands pendingStore rivals).afterWhole order =
      (ofErrands pendingStore rivals).after (rivalTurns.map .turn)) ∧
    ∃ i y, ((ofErrands pendingStore rivals).after (rivalTurns.map .turn)).came? i =
      some (.applied (.ok (.now y))) := by
  have h := apply_linearizable pendingStore rivals rivalTurns (by decide) (by decide)
  obtain ⟨⟨order, -, -, -, heq⟩, hwon⟩ := h
  refine ⟨⟨order, heq⟩, ?_⟩
  have hno : ∀ i : Nat, rivals[i]? = some (.discard 1) → False := by
    intro i hi
    have hmem := List.mem_of_getElem? hi
    simp [rivals] at hmem
  obtain ⟨i, o, y, -, -, -, -, hcame, -⟩ := hwon 1 _ rfl rfl (fun i hi => (hno i hi).elim)
    ⟨firstAccepted, List.mem_cons_self, rfl, rfl⟩
  exact ⟨i, y, hcame⟩

end Session

end Arbiter
