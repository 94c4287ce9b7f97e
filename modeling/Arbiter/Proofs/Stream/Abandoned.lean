import Arbiter.Proofs.Stream.Group
import Arbiter.Proofs.Text.Numeral

/-!
Taking over what other members of a group abandoned. One listing of a hundred entries is asked for,
and the abandoned ones among these are claimed one after the other (`takes_of_claimAll`). When that
goes through, they are owned by the consumer and all other entries by whom they were
(`takes_over_listed`): an entry that was idle for less stays with its owner, and so does an
abandoned one that stands behind a hundred others (`takes_over_listed_behind`).
-/

namespace Arbiter

namespace Group

variable {g m : Group} {c : Consumer} {a : Answered}

lemma text_hundred : Numeral.text (100 : Nat) = "100" := by decide +kernel

/-- A listing that is answered shows the first hundred entries. -/
lemma Obeys.listed (h : g.Obeys c.listPending a m) :
    m = g ∧ (a = .ok (g.listing 100) ∨ ∃ text, a = .error text) := by
  generalize hw : c.listPending = words at h
  cases h with
  | lists count =>
    have hcount : Numeral.text (100 : Nat) = Numeral.text count := by
      unfold Consumer.listPending at hw
      simp only [List.cons.injEq, and_true, true_and] at hw
      exact text_hundred.trans hw.2.2
    refine ⟨rfl, .inl ?_⟩
    rw [Numeral.text_inj hcount]
  | hands => exact absurd (List.head_eq_of_cons_eq hw) (by decide)
  | fails _ text => exact ⟨rfl, .inr ⟨text, rfl⟩⟩

lemma Obeys.claimed {id : String} (h : g.Obeys (c.claim id) a m) :
    m = g.handOver c.name Consumer.claimIdleTime id ∨ m = g ∧ ∃ text, a = .error text := by
  generalize hw : c.claim id = words at h
  cases h with
  | lists => exact absurd (List.head_eq_of_cons_eq hw) (by decide)
  | hands consumer id' least =>
    unfold Consumer.claim at hw
    simp only [List.cons.injEq, and_true, true_and] at hw
    obtain ⟨-, -, rfl, hleast, rfl⟩ := hw
    rw [Numeral.text_inj hleast]
    exact .inl rfl
  | fails _ text => exact .inr ⟨rfl, text, rfl⟩

lemma Obeys.listing (h : c.IsMember g) : g.Obeys c.listPending (.ok (g.listing 100)) g := by
  have hlists := Obeys.lists (g := g) 100
  rwa [← h.stream, ← h.group, text_hundred] at hlists

lemma Obeys.handing (h : c.IsMember g) (id : String) (a : Answered) :
    g.Obeys (c.claim id) a (g.handOver c.name Consumer.claimIdleTime id) := by
  have hhands := Obeys.hands (g := g) c.name id Consumer.claimIdleTime a
  rwa [← h.stream, ← h.group] at hhands

end Group

namespace Consumer

variable {c : Consumer} {g g' : Group} {log : List (Exchange ConsumerInterface)}
  {r : Except String Unit}

lemma isAbandoned_iff (c : Consumer) {e : PendingEntry} :
    c.isAbandoned e = true ↔ e.owner ≠ c.name ∧ claimIdleTime ≤ e.idle := by
  simp only [isAbandoned, Bool.and_eq_true, bne_iff_ne, decide_eq_true_eq]

lemma run_claimAll_cons (c : Consumer) (e : PendingEntry) (es : List PendingEntry) :
    (c.claimAll (e :: es)).run = if c.isAbandoned e then
        .ask (.command (c.claim e.id)) fun
          | .error text => .done (.error text)
          | .ok _ => (c.claimAll es).run
      else (c.claimAll es).run := by
  rw [claimAll]
  split
  · refine congrArg (Program.ask _) (funext fun a => ?_)
    rcases a with text | reply <;> rfl
  · rfl

lemma run_claimAbandoned (c : Consumer) : c.claimAbandoned.run =
    .ask (.command c.listPending) fun
      | .error text => .done (.error text)
      | .ok reply =>
        match PendingEntry.ofReply reply with
        | .error text => .done (.error text)
        | .ok es => (c.claimAll es).run := by
  refine congrArg (Program.ask _) (funext fun a => ?_)
  rcases a with text | reply
  · rfl
  · change (Program.done (PendingEntry.ofReply reply)).bind (ExceptT.bindCont c.claimAll) = _
    dsimp only
    rcases PendingEntry.ofReply reply with text | es <;> rfl

/-- What claiming some entries comes to. The abandoned ones are asked for up to one, and those up to
the same one or the one before are handed over; all of them when it goes through. -/
structure Takes (c : Consumer) (es : List PendingEntry) (r : Except String Unit)
    (calls : List ConsumerCall) (before after : List (String × String))
    (asked taken : List PendingEntry) : Prop where
  front : taken <+: asked
  among : asked <+: es.filter c.isAbandoned
  ops : calls = asked.map fun e => .command (c.claim e.id)
  owners : after = Group.handed c.name (taken.map (·.id)) before
  whole : r = .ok () → taken = es.filter c.isAbandoned

section Takes

variable {e : PendingEntry} {es asked taken : List PendingEntry} {calls : List ConsumerCall}
  {before middle after : List (String × String)}

lemma takes_nothing (h : r = .ok () → es.filter c.isAbandoned = []) :
    c.Takes es r [] before before [] [] :=
  ⟨List.prefix_rfl, List.nil_prefix, rfl, (Group.handed_nil _).symm, fun hr => (h hr).symm⟩

lemma Takes.cons (h : c.Takes es r calls middle after asked taken) (he : c.isAbandoned e = true)
    (hmiddle : middle = Group.handed c.name [e.id] before) :
    c.Takes (e :: es) r (.command (c.claim e.id) :: calls) before after (e :: asked)
      (e :: taken) where
  front := (List.prefix_cons_inj e).2 h.front
  among := by
    rw [List.filter_cons_of_pos he]
    exact (List.prefix_cons_inj e).2 h.among
  ops := by rw [h.ops, List.map_cons]
  owners := by rw [h.owners, hmiddle, Group.handed_handed, List.map_cons]
  whole := fun hr => by rw [List.filter_cons_of_pos he, h.whole hr]

lemma Takes.cons_of_neg (h : c.Takes es r calls before after asked taken)
    (he : ¬ c.isAbandoned e = true) : c.Takes (e :: es) r calls before after asked taken := by
  obtain ⟨hfront, hamong, hops, howners, hwhole⟩ := h
  refine ⟨hfront, ?_, hops, howners, ?_⟩
  · rwa [List.filter_cons_of_neg he]
  · rwa [List.filter_cons_of_neg he]

lemma takes_failing (he : c.isAbandoned e = true) {text : String} (hfront : taken <+: [e])
    (howners : after = Group.handed c.name (taken.map (·.id)) before) :
    c.Takes (e :: es) (.error text) [.command (c.claim e.id)] before after [e] taken := by
  refine ⟨hfront, ?_, rfl, howners, nofun⟩
  rw [List.filter_cons_of_pos he]
  exact List.prefix_append [e] _

end Takes

/-- Whatever is answered, claiming takes some of the entries. -/
lemma takes_of_claimAll {es : List PendingEntry} (hw : (c.claimAll es).run.Leads log (.done r))
    (hs : g.Serves log g') (hi : g.LeavesIdle es) (hd : (es.map (·.id)).Nodup) :
    ∃ asked taken, c.Takes es r (log.map (·.op)) g.owners g'.owners asked taken := by
  induction es generalizing g log with
  | nil =>
    obtain ⟨rfl, -⟩ := Program.leads_done.1 hw
    cases hs
    exact ⟨[], [], takes_nothing fun _ => rfl⟩
  | cons e es ih =>
    rw [List.map_cons, List.nodup_cons] at hd
    have hrest : g.LeavesIdle es := fun x hx => hi x (List.mem_cons_of_mem _ hx)
    rw [run_claimAll_cons] at hw
    split at hw
    · rename_i habandoned
      obtain ⟨a, log, rfl, hnext⟩ := Program.leads_ask_done.1 hw
      cases hs with
      | next h milliseconds hlog =>
        have hidle : ∀ x ∈ g.pending, x.id = e.id → claimIdleTime ≤ x.idle := fun x hx hid =>
          Nat.le_trans (c.isAbandoned_iff.1 habandoned).2 (hi e List.mem_cons_self x hx hid)
        have hhanded : (g.handOver c.name claimIdleTime e.id).owners =
            Group.handed c.name [e.id] g.owners := Group.owners_handOver hidle
        rcases a with text | reply
        · -- a claim that fails may have been carried out
          obtain ⟨rfl, hr⟩ := Program.leads_done.1 hnext
          cases hr
          cases hlog
          rcases h.claimed with rfl | ⟨rfl, -⟩
          · refine ⟨[e], [e], takes_failing habandoned List.prefix_rfl ?_⟩
            rw [Group.owners_later, hhanded]
            rfl
          · refine ⟨[e], [], takes_failing habandoned List.nil_prefix ?_⟩
            rw [Group.owners_later]
            exact (Group.handed_nil _).symm
        · rcases h.claimed with rfl | ⟨-, text, hanswer⟩
          · have hstill : (g.handOver c.name claimIdleTime e.id).LeavesIdle es :=
              hrest.handOver fun x hx hid => hd.1 (hid ▸ List.mem_map_of_mem hx)
            obtain ⟨asked, taken, htakes⟩ := ih hnext hlog (hstill.later milliseconds) hd.2
            rw [Group.owners_later] at htakes
            exact ⟨e :: asked, e :: taken, htakes.cons habandoned hhanded⟩
          · cases hanswer
    · rename_i hleft
      obtain ⟨asked, taken, htakes⟩ := ih hw hs hrest hd.2
      exact ⟨asked, taken, htakes.cons_of_neg hleft⟩

/-- What taking over asks for, and whom the entries belong to after it. -/
lemma takes_of_claimAbandoned (hd : (g.pending.map (·.id)).Nodup) (hf : ∀ e ∈ g.pending, e.Fits)
    (hw : c.claimAbandoned.run.Leads log (.done r)) (hs : g.Serves log g') :
    ∃ calls asked taken, log.map (·.op) = .command c.listPending :: calls ∧
      c.Takes (g.pending.take 100) r calls g.owners g'.owners asked taken := by
  rw [run_claimAbandoned] at hw
  obtain ⟨a, log, rfl, hnext⟩ := Program.leads_ask_done.1 hw
  cases hs with
  | @next _ m _ _ _ _ h milliseconds hlog =>
    obtain ⟨hm, rfl | ⟨text, rfl⟩⟩ := h.listed <;> subst m
    · dsimp only at hnext
      rw [PendingEntry.ofReply_listing hf] at hnext
      have hidle : (g.later milliseconds).LeavesIdle (g.pending.take 100) :=
        (Group.leavesIdle_of_nodup hd (List.take_subset _ _)).later milliseconds
      have hnodup := hd.sublist ((List.take_sublist 100 _).map PendingEntry.id)
      obtain ⟨asked, taken, htakes⟩ := takes_of_claimAll hnext hlog hidle hnodup
      rw [Group.owners_later] at htakes
      exact ⟨_, asked, taken, rfl, htakes⟩
    · obtain ⟨rfl, hr⟩ := Program.leads_done.1 hnext
      cases hr
      cases hlog
      rw [Group.owners_later]
      exact ⟨[], [], [], rfl, takes_nothing nofun⟩

lemma exists_claimAll (h : c.IsMember g) (es : List PendingEntry) : ∃ log g', g.Serves log g' ∧
    (c.claimAll es).run.Leads log (.done (.ok ())) := by
  induction es generalizing g with
  | nil => exact ⟨[], g, .nil g, .here _⟩
  | cons e es ih =>
    rw [run_claimAll_cons]
    split
    · obtain ⟨log, g', hs, hw⟩ :=
        ih (g := (g.handOver c.name claimIdleTime e.id).later 0) ⟨h.stream, h.group⟩
      exact ⟨_, g', .next (Group.Obeys.handing h e.id (.ok .nil)) 0 hs, .ask hw⟩
    · exact ih h

/-- Taking over can go through, whatever is pending. -/
lemma exists_claimAbandoned (h : c.IsMember g) (hf : ∀ e ∈ g.pending, e.Fits) : ∃ log g',
    g.Serves log g' ∧ c.claimAbandoned.run.Leads log (.done (.ok ())) := by
  rw [run_claimAbandoned]
  have hlater : c.IsMember (g.later 0) := ⟨h.stream, h.group⟩
  obtain ⟨log, g', hs, hw⟩ := exists_claimAll hlater (g.pending.take 100)
  refine ⟨_, g', .next (Group.Obeys.listing h) 0 hs, .ask ?_⟩
  dsimp only
  rw [PendingEntry.ofReply_listing hf]
  exact hw

/-- **What taking over does.** Whatever is answered, an entry that was idle for less stays with its
owner, and an entry of the consumer's own is not claimed. When it goes through, the entries that
were idle for long enough belong to the consumer just in case they did before or are among the first
hundred. -/
theorem takes_over_listed (hd : (g.pending.map (·.id)).Nodup) (hf : ∀ e ∈ g.pending, e.Fits)
    (hw : c.claimAbandoned.run.Leads log (.done r)) (hs : g.Serves log g') :
    (r = .ok () → ∀ e ∈ g.pending, claimIdleTime ≤ e.idle →
      ((e.id, c.name) ∈ g'.owners ↔ e.owner = c.name ∨ e ∈ g.pending.take 100)) ∧
    (∀ e ∈ g.pending, e.idle < claimIdleTime → (e.id, e.owner) ∈ g'.owners) ∧
    (∀ e ∈ g.pending, e.owner = c.name → ∀ x ∈ log, x.op ≠ .command (c.claim e.id)) ∧
    g'.owners.map (·.1) = g.pending.map (·.id) := by
  obtain ⟨calls, asked, taken, hops, hfront, hamong, hcalls, howners, hall⟩ :=
    takes_of_claimAbandoned hd hf hw hs
  have hlisted : ∀ e ∈ asked, e ∈ g.pending.take 100 ∧ c.isAbandoned e = true := fun e he =>
    List.mem_filter.1 (hamong.subset he)
  have hpending : ∀ e ∈ asked, e ∈ g.pending := fun e he => List.mem_of_mem_take (hlisted e he).1
  -- what is handed over is told by ids, and the ids of the group tell its entries
  have hid : ∀ {e}, e ∈ g.pending → (e.id ∈ taken.map (·.id) ↔ e ∈ taken) := by
    intro e he
    refine ⟨fun h => ?_, List.mem_map_of_mem⟩
    obtain ⟨x, hx, hxe⟩ := List.mem_map.1 h
    rwa [← List.inj_on_of_nodup_map hd (hpending x (hfront.subset hx)) he hxe]
  have howner : ∀ {e}, e ∈ g.pending → ∀ x, (e.id, x) ∈ g'.owners ↔
      x = if e ∈ taken then c.name else e.owner := by
    intro e he x
    rw [howners, Group.mem_handed hd he]
    simp only [hid he]
  refine ⟨fun hr e he hidle => ?_, fun e he hidle => ?_, fun e he hown x hx hop => ?_, ?_⟩
  · have htaken : e ∈ taken ↔ e ∈ g.pending.take 100 ∧ e.owner ≠ c.name := by
      rw [hall hr, List.mem_filter, c.isAbandoned_iff, and_iff_left hidle]
    rw [howner he]
    split
    · rename_i hmem
      exact ⟨fun _ => .inr (htaken.1 hmem).1, fun _ => rfl⟩
    · rename_i hmem
      rw [htaken, not_and, not_not] at hmem
      exact ⟨fun h => .inl h.symm, fun h => (h.elim id hmem).symm⟩
  · have hnot : e ∉ taken := fun h => Nat.not_le.2 hidle
      (c.isAbandoned_iff.1 (hlisted e (hfront.subset h)).2).2
    rw [howner he, if_neg hnot]
  · have hmem : (ConsumerCall.command (c.claim e.id)) ∈ log.map (·.op) :=
      hop ▸ List.mem_map_of_mem hx
    rw [hops, hcalls, List.mem_cons] at hmem
    rcases hmem with hlist | hclaim
    · exact absurd (List.head_eq_of_cons_eq (ConsumerCall.command.inj hlist)) (by decide)
    · obtain ⟨y, hy, hyx⟩ := List.mem_map.1 hclaim
      have hsame : y.id = e.id := by
        have hwords := ConsumerCall.command.inj hyx
        unfold claim at hwords
        simpa using hwords
      obtain rfl := List.inj_on_of_nodup_map hd (hpending y hy) he hsame
      exact (c.isAbandoned_iff.1 (hlisted y hy).2).1 hown
  · rw [howners, Group.handed_owners, List.map_map]
    rfl

theorem takes_over_listed_one :
    ∃ (g : Group) (log : List (Exchange ConsumerInterface)) (g' : Group),
    g.pending = [⟨"1-0", "gone", 60000, 1⟩, ⟨"2-0", "here", 5, 1⟩] ∧ g.Serves log g' ∧
    (Consumer.mk "results" "appliers" "here").claimAbandoned.run.Leads log (.done (.ok ())) ∧
    ("1-0", "here") ∈ g'.owners ∧ ("2-0", "here") ∈ g'.owners := by
  have hf : ∀ e ∈ [PendingEntry.mk "1-0" "gone" 60000 1, ⟨"2-0", "here", 5, 1⟩], e.Fits := by
    intro e he
    simp only [List.mem_cons, List.not_mem_nil, or_false] at he
    rcases he with rfl | rfl <;> exact ⟨by decide, by decide⟩
  obtain ⟨log, g', hs, hw⟩ := exists_claimAbandoned
    (c := ⟨"results", "appliers", "here"⟩) (g := ⟨"results", "appliers", _⟩) ⟨rfl, rfl⟩ hf
  obtain ⟨htaken, hkept, -⟩ := takes_over_listed (by decide) hf hw hs
  refine ⟨_, log, g', rfl, hs, hw, ?_, ?_⟩
  · exact (htaken rfl _ List.mem_cons_self (Nat.le_refl _)).2 (.inr List.mem_cons_self)
  · exact hkept _ (List.mem_cons_of_mem _ List.mem_cons_self) (by decide)

/-- A hundred entries that one member has just read, and one that another left a minute ago. -/
def overHundred : Group :=
  ⟨"results", "appliers",
    ((List.range 100).map fun n => ⟨Numeral.text n ++ "-0", "here", 0, 1⟩) ++
      [⟨"100-0", "gone", 60000, 1⟩]⟩

/-- Behind a hundred entries an abandoned one stays with its owner, though all goes through. -/
theorem takes_over_listed_behind : ∃ (log : List (Exchange ConsumerInterface)) (g' : Group),
    (overHundred.pending.map (·.id)).Nodup ∧ (∀ e ∈ overHundred.pending, e.Fits) ∧
    overHundred.Serves log g' ∧
    (Consumer.mk "results" "appliers" "here").claimAbandoned.run.Leads log (.done (.ok ())) ∧
    ⟨"100-0", "gone", claimIdleTime, 1⟩ ∈ overHundred.pending ∧ ("100-0", "gone") ∈ g'.owners := by
  have hd : (overHundred.pending.map (·.id)).Nodup := by decide +kernel
  have hf : ∀ e ∈ overHundred.pending, e.Fits := by
    intro e he
    rcases List.mem_append.1 he with he | he
    · obtain ⟨n, -, rfl⟩ := List.mem_map.1 he
      exact ⟨(by decide : 0 < UInt64.size), (by decide : 1 < UInt64.size)⟩
    · rw [List.mem_singleton.1 he]
      exact ⟨by decide, by decide⟩
  have hlast : ⟨"100-0", "gone", claimIdleTime, 1⟩ ∈ overHundred.pending :=
    List.mem_append_right _ (List.mem_singleton_self _)
  obtain ⟨log, g', hs, hw⟩ := exists_claimAbandoned
    (c := ⟨"results", "appliers", "here"⟩) (g := overHundred) ⟨rfl, rfl⟩ hf
  obtain ⟨calls, asked, taken, -, htakes⟩ := takes_of_claimAbandoned hd hf hw hs
  have hnone : taken = [] := by
    rw [htakes.whole rfl]
    decide +kernel
  refine ⟨log, g', hd, hf, hs, hw, hlast, ?_⟩
  rw [htakes.owners, hnone]
  exact (Group.mem_handed hd hlast).2 rfl

end Consumer

end Arbiter
