import Arbiter.Proofs.Json.Compact
import Arbiter.Wire.Record

/-!
Judge outcomes on the wire. Every object that fills the fields of an outcome is read as the outcome,
so what one side writes the other reads, in whatever order and however the text is laid out.
-/

namespace Arbiter

open Decoder

lemma Status.ofName?_name (s : Status) : ofName? s.name = some s := by cases s <;> rfl

lemma Status.reads (s : Status) : Reads Status.decoder s.json s :=
  reads_choice s.ofName?_name

lemma Json.ofInt32_ne_null (n : Int32) : ofInt32 n ≠ .null := nofun

lemma Json.str_ne_null (s : String) : Json.str s ≠ .null := nofun

lemma Decoder.reads_ofOption {α : Type} {d : Decoder α} {f : α → Json}
    (h : ∀ a, Reads d (f a) a) (hf : ∀ a, f a ≠ .null) (x : Option α) :
    Reads (optional d) (Json.ofOption f x) x := by
  cases x with
  | none => exact reads_optional_null d
  | some a => exact (h a).optional (hf a)

lemma Json.isPlain_ofOption {α : Type} {f : α → Json} (hf : ∀ a, Layout.IsPlain (f a))
    (x : Option α) : Layout.IsPlain (ofOption f x) := by
  cases x with
  | none => trivial
  | some a => exact hf a

lemma Json.ite_of_given {α : Type} {f : α → Json} {x : Option α} {p : Prop} [Decidable p]
    (hf : ∀ a, f a ≠ .null) (h : ofOption f x ≠ .null → p) : (if p then x else none) = x := by
  cases x with
  | none => exact ite_self none
  | some a => exact if_pos (h (hf a))

namespace Outcome

/-- An outcome when the fields of some names were read. -/
def upTo (o : Outcome) (seen : List String) : Outcome where
  submissionId := if "submissionId" ∈ seen then o.submissionId else default
  status := if "status" ∈ seen then o.status else default
  runTime := if "runTime" ∈ seen then o.runTime else none
  memory := if "memory" ∈ seen then o.memory else none
  errorMessage := if "errorMessage" ∈ seen then o.errorMessage else none
  score := if "score" ∈ seen then o.score else none
  judgeInfo := if "judgeInfo" ∈ seen then o.judgeInfo else none

lemma decoder_eq (o : Outcome) : decoder = record (o.upTo []) fields := by
  have hnil : o.upTo [] = default := rfl
  rw [hnil, decoder]

lemma builds (o : Outcome) : Builds fields o.json.members o.upTo o where
  puts := by
    have hint := reads_ofOption reads_int32 Json.ofInt32_ne_null
    have hstr := reads_ofOption reads_string Json.str_ne_null
    refine .cons (.required (reads_int64 o.submissionId) nofun fun seen => ?_)
      (.cons (.required o.status.reads nofun fun seen => ?_)
      (.cons (.trailing (hint o.runTime) fun seen => ?_)
      (.cons (.trailing (hint o.memory) fun seen => ?_)
      (.cons (.trailing (hstr o.errorMessage) fun seen => ?_)
      (.cons (.trailing (hint o.score) fun seen => ?_)
      (.cons (.trailing (hstr o.judgeInfo) fun seen => ?_) .nil))))))
    all_goals simp [upTo]
  whole := by
    intro seen hgiven
    simp only [json, Json.members, List.forall_mem_cons] at hgiven
    obtain ⟨hid, hstatus, hrunTime, hmemory, herror, hscore, hinfo, -⟩ := hgiven
    unfold upTo
    rw [if_pos (hid nofun), if_pos (hstatus nofun),
      Json.ite_of_given Json.ofInt32_ne_null hrunTime,
      Json.ite_of_given Json.ofInt32_ne_null hmemory,
      Json.ite_of_given Json.str_ne_null herror, Json.ite_of_given Json.ofInt32_ne_null hscore,
      Json.ite_of_given Json.str_ne_null hinfo]

lemma isPlain_of_mem_members {o : Outcome} : ∀ field ∈ o.json.members, Layout.IsPlain field.2 := by
  have hint : ∀ n : Int32, Layout.IsPlain (.ofInt32 n) := fun _ => trivial
  have hstr : ∀ s : String, Layout.IsPlain (.str s) := fun _ => trivial
  simp only [json, Json.members, List.forall_mem_cons]
  exact ⟨trivial, trivial, Json.isPlain_ofOption hint _, Json.isPlain_ofOption hint _,
    Json.isPlain_ofOption hstr _, Json.isPlain_ofOption hint _, Json.isPlain_ofOption hstr _, nofun⟩

lemma nodup_names (o : Outcome) : (o.json.members.map (·.1)).Nodup := by
  have hnames : (fields.map (·.name)).Nodup := by decide
  exact o.builds.names ▸ hnames

lemma passes_of_mem_fields : ∀ f ∈ fields, ∀ o, Passes (f.put o) := by
  have hint (range : Span) : Passes (optional (Int32.ofInt <$> int range)) :=
    ((passes_int range).map _).optional
  simp only [fields, List.forall_mem_cons]
  exact ⟨fun o => ((passes_int _).map _).map _, fun o => (passes_choice _).map _,
    fun o => (hint _).map _, fun o => (hint _).map _, fun o => passes_string.optional.map _,
    fun o => (hint _).map _, fun o => passes_string.optional.map _, nofun⟩

/-- **Outcomes come through the wire.** An outcome is read from its own text, and from every object
that fills its fields, whatever the order and whatever else stands in it. An object that leaves out
the submission or the status, or names a field twice, is never read. -/
theorem comes_through :
    (∀ o : Outcome, decode decoder o.json.bytes = .ok o) ∧
      (∀ (o : Outcome) (ms : List (Key × Layout)) (last w w' : Blanks), Fills o.json.members ms →
        decode decoder (w.1 ++ ((Layout.object ms last).bytes ++ w'.1)) = .ok o) ∧
      ∀ (ms : List (Key × Layout)) (last w w' : Blanks),
        ("submissionId" ∉ namesIn ms ∨ "status" ∉ namesIn ms ∨
          ∃ f ∈ fields, 1 < (namesIn ms).count f.name) →
        ∀ o : Outcome, decode decoder (w.1 ++ ((Layout.object ms last).bytes ++ w'.1)) ≠ .ok o := by
  refine ⟨fun o => ?_, fun o ms last w w' hf => ?_, fun ms last w w' hbad o h => ?_⟩
  · rw [o.decoder_eq]
    exact decode_bytes o.builds o.nodup_names isPlain_of_mem_members (.refl _)
  · rw [o.decoder_eq]
    exact decode_of_fills o.builds hf last w w'
  · have hseen := seen_of_decode passes_of_mem_fields h
    have hgiven : ∀ f ∈ fields, f.mayMiss = false → f.name ∈ namesIn ms := fun f hf hmiss =>
      (hseen f hf).2.resolve_left (Bool.eq_false_iff.1 hmiss)
    simp only [fields, List.forall_mem_cons] at hgiven
    obtain ⟨hid, hstatus, -⟩ := hgiven
    rcases hbad with hbad | hbad | ⟨f, hf, htwice⟩
    · exact hbad (hid rfl)
    · exact hbad (hstatus rfl)
    · exact absurd (hseen f hf).1 (Nat.not_le.2 htwice)

/-- The members of a verdict after one that no outcome has, and only those that are not null. -/
def verdictMembers : List (Key × Layout) :=
  [(.ofString "judgedBy", .array [(.none, .object [] .none), (.none, .null)] ⟨[0x20], rfl⟩),
    (.ofString "status", .ofJson (.str "ACCEPTED")), (.ofString "submissionId", .ofJson (.int 5))]

lemma namesIn_verdictMembers :
    namesIn verdictMembers = ["judgedBy", "status", "submissionId"] := by
  decide

lemma fills_verdictMembers : Fills (ofStatus 5 .accepted).json.members verdictMembers where
  named := by
    simp only [verdictMembers, List.forall_mem_cons]
    exact ⟨⟨_, Key.name?_ofString _⟩, ⟨_, Key.name?_ofString _⟩, ⟨_, Key.name?_ofString _⟩, nofun⟩
  once := by
    rw [namesIn_verdictMembers]
    decide
  writes := by
    have hid : (Layout.ofJson (.int 5)).Writes (.ofInt64 5) := Layout.writes_ofJson trivial
    have hstatus : (Layout.ofJson (.str "ACCEPTED")).Writes Status.accepted.json :=
      Layout.writes_ofJson trivial
    simp [verdictMembers, json, Json.members, ofStatus, Key.name?_ofString, hid, hstatus]
  given := by
    rw [namesIn_verdictMembers]
    simp [json, Json.members, ofStatus, Json.ofOption]

theorem comes_through_verdict :
    Fills (ofStatus 5 .accepted).json.members verdictMembers ∧
      decode decoder (Layout.object verdictMembers .none).bytes = .ok (ofStatus 5 .accepted) ∧
      "submissionId" ∉ namesIn (verdictMembers.take 2) ∧
      ∀ o, decode decoder (Layout.object (verdictMembers.take 2) .none).bytes ≠ .ok o := by
  have hmissing : "submissionId" ∉ namesIn (verdictMembers.take 2) := by decide
  obtain ⟨-, hread, hrefused⟩ := comes_through
  have hok := hread _ _ .none .none .none fills_verdictMembers
  have hnone := hrefused _ .none .none .none (.inl hmissing)
  simp only [Blanks.none, List.nil_append, List.append_nil] at hok hnone
  exact ⟨fills_verdictMembers, hok, hmissing, hnone⟩

end Outcome

end Arbiter
