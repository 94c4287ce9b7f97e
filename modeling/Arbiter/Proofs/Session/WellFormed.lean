import Arbiter.Proofs.Judging.WellFormed
import Arbiter.Proofs.Session.Created
import Arbiter.Proofs.Session.Grounds
import Mathlib.Algebra.Group.Nat.Defs
import Mathlib.Data.List.Nodup

/-!
Stored submissions are well formed at every moment of a run that begins with none
(`stored_well_formed`). What a task was told lasts (`Grounds.Hold`): a submission keeps its problem
for as long as it is stored, its id is not given out again, and problems keep their terms. So the
verdict that is written into a submission is one that was made with the terms of its own problem.
-/

namespace Arbiter

/-! ### Calls -/

namespace Store

variable {s t : Store}

theorem row?_run {now : Instant} {c : StoreCall} {id : SubmissionId} {y : Submission}
    (hy : (s.run now c).2.row? id = some y) :
    s.row? id = some y ∨ (∃ d, c = .create d ∧ id = s.lastId + 1 ∧ y = (s.create now d).1) ∨
      ∃ x v, c = .complete id v ∧ s.row? id = some x ∧ y = x.judged v now := by
  cases c with
  | create d =>
    change (s.create now d).2.row? id = some y at hy
    rw [row?_create] at hy
    split at hy
    · rename_i hid
      exact .inr (.inl ⟨d, rfl, hid, (Option.some.inj hy).symm⟩)
    · exact .inl hy
  | discard j =>
    change (s.discard j).2.row? id = some y at hy
    rcases s.discard_cases j with ⟨x, -, -, h⟩ | h
    · rw [h, row?_drop] at hy
      split at hy
      · cases hy
      · exact .inl hy
    · rw [h] at hy
      exact .inl hy
  | complete j v =>
    change (s.complete now j v).2.row? id = some y at hy
    rcases pending_or_not (s.find? j) with ⟨x, hx, hp⟩ | hn
    · obtain ⟨hrow, -⟩ := find?_eq_some.1 hx
      obtain rfl := id_of_row? hrow
      rw [complete_of_isPending hx hp, row?_settle] at hy
      split at hy
      · rename_i hid
        obtain rfl : id = x.id := hid
        exact .inr (.inr ⟨x, v, rfl, hrow, (Option.some.inj hy).symm⟩)
      · exact .inl hy
    · rw [complete_of_not_isPending hn] at hy
      exact .inl hy
  | countSubmit p =>
    rcases hp : s.countSubmit p with _ | t
    · simp only [run, hp] at hy
      exact .inl hy
    · simp only [run, hp] at hy
      obtain ⟨q, -, rfl⟩ := Option.map_eq_some_iff.1 hp
      exact .inl hy
  | _ => exact .inl hy

lemma termsOf_run (now : Instant) {c : StoreCall} (hc : c.IsFair) :
    (s.run now c).2.termsOf = s.termsOf := by
  rcases effect_run now s hc with ⟨d, rfl⟩ | h
  · rfl
  · exact h.termsOf_eq

/-- Every stored submission has an id that was given out and a problem that is there, and what
judging has written into it is well formed. -/
def IsTidy (s : Store) (given : List SubmissionId) : Prop :=
  ∀ id x, s.row? id = some x → id ∈ given ∧
    ∃ q, s.termsOf x.problemId = some q ∧ x.verdict.IsWellFormed (some q)

/-- Problems keep their terms, and submissions of these ids keep their problems. -/
structure Keeps (given : List SubmissionId) (s t : Store) : Prop where
  terms : ∀ p q, s.termsOf p = some q → t.termsOf p = some q
  problem : ∀ id ∈ given, ∀ y, t.row? id = some y →
    ∃ x, s.row? id = some x ∧ x.problemId = y.problemId

end Store

/-- What was told is so still. -/
def Grounds.Hold (s : Store) (given : List SubmissionId) : Grounds → Prop
  | .none => True
  | .problem p => ∃ q, s.termsOf p = some q
  | .found id p => id ∈ given ∧ (∃ q, s.termsOf p = some q) ∧
      ∀ x, s.row? id = some x → x.problemId = p
  | .informed id p => id ∈ given ∧
      ∃ q, p = some q ∧ ∀ x, s.row? id = some x → s.termsOf x.problemId = some q.terms

namespace Grounds

variable {s t : Store} {given given' : List SubmissionId} {g : Grounds}

lemma Hold.mono (h : g.Hold s given) (hst : s.Keeps given t) (hgiven : given ⊆ given') :
    g.Hold t given' := by
  cases g with
  | none => trivial
  | problem p =>
    obtain ⟨q, hq⟩ := h
    exact ⟨q, hst.terms p q hq⟩
  | found id p =>
    obtain ⟨hid, ⟨q, hq⟩, hrow⟩ := h
    refine ⟨hgiven hid, ⟨q, hst.terms p q hq⟩, ?_⟩
    intro y hy
    obtain ⟨x, hx, hxy⟩ := hst.problem id hid y hy
    rw [← hxy, hrow x hx]
  | informed id p =>
    obtain ⟨hid, q, hp, hrow⟩ := h
    refine ⟨hgiven hid, q, hp, ?_⟩
    intro y hy
    obtain ⟨x, hx, hxy⟩ := hst.problem id hid y hy
    rw [← hxy]
    exact hst.terms _ _ (hrow x hx)

lemma Bear.isFair {c : StoreCall} (h : g.Bear (.store c)) : c.IsFair := by
  cases c with
  | complete id v =>
    obtain ⟨p, scoring, o, -, ho, rfl⟩ := h
    exact ho
  | _ => trivial

end Grounds

/-- The ids that a call gives out. -/
def StoreCall.givenOut (s : Store) : StoreCall → List SubmissionId
  | create _ => [s.lastId + 1]
  | _ => []

section Call

variable {s : Store} {given : List SubmissionId} {g : Grounds} {c : StoreCall}
  (hs : s.IsTidy given) (hg : g.Hold s given) (hc : g.Bear (.store c))
  (hnew : ∀ id ∈ c.givenOut s, id ∉ given) (now : Instant)

include hc hnew in
lemma keeps_of_bear : s.Keeps given (s.run now c).2 := by
  refine ⟨?_, ?_⟩
  · intro p q hq
    rw [Store.termsOf_run now hc.isFair, hq]
  · intro id hid y hy
    rcases Store.row?_run hy with hy | ⟨d, rfl, rfl, -⟩ | ⟨x, v, -, hx, rfl⟩
    · exact ⟨y, hy, rfl⟩
    · exact absurd hid (hnew _ List.mem_cons_self)
    · exact ⟨x, hx, rfl⟩

include hs hg hc in
theorem isTidy_run : (s.run now c).2.IsTidy (given ++ c.givenOut s) := by
  intro id y hy
  rw [Store.termsOf_run now hc.isFair]
  rcases Store.row?_run hy with hy | ⟨d, rfl, rfl, rfl⟩ | ⟨x, v, rfl, hx, rfl⟩
  · obtain ⟨hid, hproblem⟩ := hs id y hy
    exact ⟨List.mem_append_left _ hid, hproblem⟩
  · obtain rfl : g = .problem d.problemId := hc
    obtain ⟨q, hq⟩ := hg
    refine ⟨List.mem_append_right _ List.mem_cons_self, q, hq, ?_⟩
    exact Submission.isWellFormed_ofDraft _ _ _ _
  · obtain ⟨p, scoring, o, rfl, ho, rfl⟩ := hc
    obtain ⟨hid, q, rfl, hrow⟩ := hg
    refine ⟨List.mem_append_left _ hid, q.terms, hrow x hx, ?_⟩
    -- the verdict was made with a problem of the same terms
    have hterms : (some q).map (·.terms) = (some q.terms).map (·.terms) := rfl
    exact (Verdict.isWellFormed_ofOutcome scoring (some q) ho).congr hterms

include hs hg in
theorem hold_told : (g.told (.store c) (s.run now c).1).Hold s given := by
  have hproblem : ∀ p q, s.problems.find? p = some q → s.termsOf p = some q.terms := by
    intro p q hq
    unfold Store.termsOf
    rw [hq, Option.map_some]
  cases c with
  | find id =>
    show (g.told (.store (.find id)) (.ok (s.find? id))).Hold s given
    rcases hx : s.find? id with _ | x
    · cases g <;> trivial
    · obtain ⟨hrow, -⟩ := Store.find?_eq_some.1 hx
      obtain ⟨hid, q, hq, -⟩ := hs id x hrow
      have hsame : ∀ y, s.row? id = some y → y.problemId = x.problemId := by
        intro y hy
        rw [hrow] at hy
        cases hy
        rfl
      cases g <;> exact ⟨hid, ⟨q, hq⟩, hsame⟩
  | findProblem p =>
    show (g.told (.store (.findProblem p)) (.ok (s.problems.find? p))).Hold s given
    cases g with
    | found id p' =>
      obtain ⟨hid, ⟨q, hq⟩, hrow⟩ := hg
      show Grounds.Hold s given (if p = p' then _ else _)
      split
      · subst p'
        obtain ⟨r, hr, -⟩ := Option.map_eq_some_iff.1 hq
        refine ⟨hid, r, hr, ?_⟩
        intro x hx
        rw [hrow x hx]
        exact hproblem p r hr
      · trivial
    | _ =>
      rcases hq : s.problems.find? p with _ | q
      · trivial
      · exact ⟨q.terms, hproblem p q hq⟩
  | _ => cases g <;> trivial

end Call

/-- The ids that are given out by a call and its answer. -/
def Event.givenOut (e : Event) : List SubmissionId := e.created?.toList.map (·.id)

lemma givenOut_run (d : Duty) (now : Instant) (s : Store) (c : StoreCall) :
    Event.givenOut ⟨d, .store c, (s.run now c).1⟩ = c.givenOut s := by
  cases c <;> rfl

lemma givenOut_error (d : Duty) (c : StoreCall) (f : Failure) :
    Event.givenOut ⟨d, .store c, .error f⟩ = [] := by
  cases c <;> rfl

/-- What a turn may be, as far as tidiness goes. -/
structure Turn.KeepsTidy (t : Turn) (s : Store) (given given' : List SubmissionId) (g : Grounds)
    (op : WorkCall) : Prop where
  tidy : (t.answer s op).2.IsTidy given'
  keeps : s.Keeps given (t.answer s op).2
  told : (g.told op (t.answer s op).1).Hold (t.answer s op).2 given'

theorem keepsTidy {s : Store} {given : List SubmissionId} {g : Grounds} (hs : s.IsTidy given)
    (hg : g.Hold s given) {op : WorkCall} (hop : g.Bear op) (t : Turn) (d : Duty)
    (hnew : ∀ id ∈ Event.givenOut ⟨d, op, (t.answer s op).1⟩, id ∉ given) :
    t.KeepsTidy s given (given ++ Event.givenOut ⟨d, op, (t.answer s op).1⟩) g op := by
  have hself : s.Keeps given s := ⟨fun _ _ h => h, fun _ _ y hy => ⟨y, hy, rfl⟩⟩
  rcases op with c | c
  · cases hf : t.fault with
    | none =>
      rw [Turn.answer_store hf, givenOut_run] at hnew ⊢
      have hkeeps := keeps_of_bear hop hnew t.now
      constructor <;> rw [Turn.answer_store hf]
      · exact isTidy_run hs hg hop t.now
      · exact hkeeps
      · exact (hold_told hs hg t.now).mono hkeeps (List.subset_append_left _ _)
    | some f =>
      have ha : t.answer s (.store c) = (.error f, s) := by
        unfold Turn.answer
        rw [hf]
      rw [ha, givenOut_error, List.append_nil]
      constructor <;> rw [ha]
      · exact hs
      · exact hself
      · cases c <;> cases g <;> trivial
  · show t.KeepsTidy s given (given ++ []) g (.outer c)
    rw [List.append_nil]
    exact ⟨hs, hself, by cases g <;> trivial⟩

namespace Session

/-! ### Sessions -/

/-- Problems are put in under ids that no problem has. -/
def AddsNew (s : Session) : Move → Prop
  | .insertProblem p => s.store.problems.find? p.id = none
  | _ => True

instance (s : Session) : DecidablePred s.AddsNew
  | .insertProblem p => inferInstanceAs (Decidable (s.store.problems.find? p.id = none))
  | .start _ | .turn _ | .insertUser _ => inferInstanceAs (Decidable True)

/-- No problem is put in place of another one in a run. -/
def AlwaysAddsNew : Session → List Move → Prop
  | _, [] => True
  | s, m :: ms => s.AddsNew m ∧ AlwaysAddsNew (s.step m) ms

instance decidableAlwaysAddsNew : ∀ (s : Session) (ms : List Move), Decidable (s.AlwaysAddsNew ms)
  | _, [] => inferInstanceAs (Decidable True)
  | s, m :: ms =>
    have := decidableAlwaysAddsNew (s.step m) ms
    inferInstanceAs (Decidable (s.AddsNew m ∧ (s.step m).AlwaysAddsNew ms))

/-- The store is tidy, and what every task was told is so. -/
structure IsTidy (s : Session) (given : List SubmissionId) : Prop where
  store : s.store.IsTidy given
  tasks : ∀ x ∈ s.tasks, ∃ g : Grounds, g.Hold s.store given ∧
    x.rest.Keeps groundedCourse (fun _ _ => True) g

/-- The ids that are given out in a move. -/
def givenOut (s : Session) (m : Move) : List SubmissionId :=
  (s.event? m).toList.flatMap Event.givenOut

variable {s : Session} {given : List SubmissionId}

lemma IsTidy.tasks_mono (hs : s.IsTidy given) {t : Store} {given' : List SubmissionId}
    (hkeeps : s.store.Keeps given t) (hgiven : given ⊆ given') :
    ∀ x ∈ s.tasks, ∃ g : Grounds, g.Hold t given' ∧
      x.rest.Keeps groundedCourse (fun _ _ => True) g := by
  intro x hx
  obtain ⟨g, hg, hrest⟩ := hs.tasks x hx
  exact ⟨g, hg.mono hkeeps hgiven, hrest⟩

lemma IsTidy.start (hs : s.IsTidy given) (d : Duty) : (s.step (.start d)).IsTidy given := by
  refine ⟨hs.store, ?_⟩
  intro x hx
  rcases List.mem_append.1 hx with hx | hx
  · exact hs.tasks x hx
  · rw [List.mem_singleton.1 hx]
    exact ⟨.none, trivial, grounded_work d .none⟩

lemma IsTidy.insertProblem (hs : s.IsTidy given) {p : Problem}
    (hp : s.store.problems.find? p.id = none) : (s.step (.insertProblem p)).IsTidy given := by
  have hterms : ∀ i q, s.store.termsOf i = some q →
      (s.store.insertProblem p).termsOf i = some q := by
    intro i q hq
    show ((s.store.problems.insert p).find? i).map _ = some q
    rw [Table.find?_insert, if_neg]
    · exact hq
    · rintro rfl
      unfold Store.termsOf at hq
      rw [show s.store.problems.find? (Keyed.key p) = none from hp] at hq
      cases hq
  refine ⟨?_, hs.tasks_mono ⟨hterms, fun id _ y hy => ⟨y, hy, rfl⟩⟩ (List.Subset.refl _)⟩
  intro id x hx
  obtain ⟨hid, q, hq, hverdict⟩ := hs.store id x hx
  exact ⟨hid, q, hterms _ q hq, hverdict⟩

lemma IsTidy.turn (hs : s.IsTidy given) (t : Turn)
    (hnew : ∀ id ∈ s.givenOut (.turn t), id ∉ given) :
    (s.step (.turn t)).IsTidy (given ++ s.givenOut (.turn t)) := by
  show (s.take t).IsTidy _
  unfold givenOut at hnew ⊢
  rcases s.take_cases t with ⟨h, he⟩ | ⟨d, op, next, hget, h, he⟩
  · rw [h, show s.event? (.turn t) = _ from he]
    show s.IsTidy (given ++ [])
    rw [List.append_nil]
    exact hs
  · rw [show s.event? (.turn t) = _ from he, Option.toList_some, List.flatMap_singleton] at hnew ⊢
    rw [h]
    obtain ⟨g, hg, hmay, hnext⟩ := hs.tasks _ (List.mem_of_getElem? hget)
    have hturn := keepsTidy hs.store hg hmay t d hnew
    refine ⟨hturn.tidy, ?_⟩
    intro x hx
    rcases List.mem_or_eq_of_mem_set hx with hx | rfl
    · exact hs.tasks_mono hturn.keeps (List.subset_append_left _ _) x hx
    · exact ⟨_, hturn.told, hnext _⟩

theorem IsTidy.step (hs : s.IsTidy given) {m : Move} (hm : s.AddsNew m)
    (hnew : ∀ id ∈ s.givenOut m, id ∉ given) : (s.step m).IsTidy (given ++ s.givenOut m) := by
  have hnone : s.givenOut m = [] → (s.step m).IsTidy given →
      (s.step m).IsTidy (given ++ s.givenOut m) := by
    intro h hs
    rwa [h, List.append_nil]
  cases m with
  | start d => exact hnone rfl (hs.start d)
  | turn t => exact hs.turn t hnew
  | insertUser u =>
    have hkeeps : s.store.Keeps given (s.store.insertUser u) :=
      ⟨fun _ _ h => h, fun _ _ y hy => ⟨y, hy, rfl⟩⟩
    exact hnone rfl ⟨hs.store, hs.tasks_mono hkeeps (List.Subset.refl _)⟩
  | insertProblem p => exact hnone rfl (hs.insertProblem hm)

lemma created_cons_ids (s : Session) (m : Move) (ms : List Move) :
    (s.created (m :: ms)).map (·.id) = s.givenOut m ++ ((s.step m).created ms).map (·.id) := by
  rw [created_cons, List.map_append]
  unfold givenOut
  rcases s.event? m with _ | e
  · rfl
  · rw [Option.toList_some, List.flatMap_singleton]
    rfl

/-- **A run keeps a session tidy**, as long as no id is given out twice. -/
theorem IsTidy.after (hs : s.IsTidy given) {ms : List Move} (hms : s.AlwaysAddsNew ms)
    (hnew : (given ++ (s.created ms).map (·.id)).Nodup) :
    (s.after ms).IsTidy (given ++ (s.created ms).map (·.id)) := by
  induction ms generalizing s given with
  | nil =>
    show s.IsTidy (given ++ [])
    rw [List.append_nil]
    exact hs
  | cons m ms ih =>
    rw [created_cons_ids, ← List.append_assoc] at hnew ⊢
    refine ih (hs.step hms.1 ?_) hms.2 hnew
    intro id hid hgiven
    have hpart := (List.nodup_append.1 hnew).1
    exact (List.nodup_append.1 hpart).2.2 id hgiven id hid rfl

/-! ### Ids -/

lemma Stir.lastId_next {m : Move} {x : Submission} {t : Store} (h : s.Stir m (some x) t) :
    x.id = s.store.lastId + 1 ∧ t.lastId = s.store.lastId + 1 := by
  cases h with
  | created now d => exact ⟨rfl, rfl⟩

/-- Ids are given out one after the other. -/
lemma created_ids (hs : s.IsFair) (ms : List Move) : (s.created ms).map (·.id) =
    (List.range (s.created ms).length).map fun k => s.store.lastId + 1 + Int64.ofNat k := by
  induction ms generalizing s with
  | nil => rfl
  | cons m ms ih =>
    have hstir := hs.stir m
    rw [created_cons]
    cases hx : (s.event? m).bind Event.created? with
    | none =>
      rw [hx] at hstir
      rw [← hstir.lastId_eq]
      exact ih (hs.step m)
    | some x =>
      rw [hx] at hstir
      obtain ⟨hid, hlast⟩ := hstir.lastId_next
      have hnext : ∀ k, s.store.lastId + 1 + 1 + Int64.ofNat k =
          s.store.lastId + 1 + Int64.ofNat (k + 1) := by
        intro k
        rw [Int64.ofNat_add]
        grind
      show x.id :: ((s.step m).created ms).map _ =
        (List.range (((s.step m).created ms).length + 1)).map _
      rw [ih (hs.step m), hlast, List.range_succ_eq_map, List.map_cons, List.map_map, hid]
      simp only [Function.comp_def, hnext]
      exact congrArg (· :: _) (Int64.add_zero _).symm

/-- The ids last for two to the sixty-fourth submissions. -/
lemma nodup_created_ids (hs : s.IsFair) {ms : List Move} (h : (s.created ms).length ≤ 2 ^ 64) :
    ((s.created ms).map (·.id)).Nodup := by
  rw [created_ids hs]
  refine List.Nodup.map_on ?_ List.nodup_range
  intro j hj k hk hjk
  have hbits : j % 2 ^ 64 = k % 2 ^ 64 := by
    simpa using congrArg (fun i : Int64 => i.toBitVec.toNat) ((Int64.add_right_inj _).1 hjk)
  rw [List.mem_range] at hj hk
  omega

/-! ### Every moment of a run -/

/-- **Stored submissions are well formed.** Let a run begin with a store without submissions, and
let everyone do their work in any order, with whatever scoring, reports and failures; let problems
be put in, but none in place of another, and no more submissions be created than there are ids.
Then all that is stored at the end of the run is well formed for its problem: nothing is written
into pending submissions, and into those that are final all that belongs to their status. -/
theorem stored_well_formed {s : Store} (hs : s.submissions = ∅) (ms : List Move)
    (hms : (opened s).AlwaysAddsNew ms) (hids : ((opened s).created ms).length ≤ 2 ^ 64) :
    ∀ x ∈ ((opened s).after ms).store.submissions.rows,
      x.verdict.IsWellFormed (((opened s).after ms).store.problems.find? x.problemId) := by
  have hopened : (opened s).IsTidy [] := by
    refine ⟨?_, fun x hx => by cases hx⟩
    intro id x hx
    change s.submissions.find? id = some x at hx
    rw [hs] at hx
    cases hx
  have htidy := hopened.after hms (nodup_created_ids (isFair_opened s) hids)
  intro x hx
  obtain ⟨-, q, hq, hverdict⟩ := htidy.store x.id x (Table.find?_of_mem hx)
  obtain ⟨r, hr, rfl⟩ := Option.map_eq_some_iff.1 hq
  rw [hr]
  have hterms : (some r.terms).map (·.terms) = (some r).map (·.terms) := rfl
  exact hverdict.congr hterms

theorem stored_well_formed_first : ∃ x q,
    ((opened smallStore).after (refusedMoves ++
      [.insertProblem ⟨11, .everyone, 1, 1000, 256, .scored, 100, 0, 0⟩])).store.row? 1 = some x ∧
    x.status = .accepted ∧ x.verdict.IsWellFormed (some q) := by
  have h := stored_well_formed (s := smallStore) rfl (refusedMoves ++
    [.insertProblem ⟨11, .everyone, 1, 1000, 256, .scored, 100, 0, 0⟩]) (by decide) (by decide)
  exact ⟨_, _, rfl, rfl, h _ List.mem_cons_self⟩

end Session

end Arbiter
