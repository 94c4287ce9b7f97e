import Arbiter.Json.Record
import Arbiter.Proofs.Json.Passing
import Arbiter.Proofs.Json.Values
import Mathlib.Data.List.Forall2
import Mathlib.Data.List.Nodup

/-!
Records from objects. Member after member is read, known ones into the record (`members_known`) and
others passed (`members_other`). An object that fills the fields of a record gives the record
whatever the order of its members and whatever stands between them (`decode_of_fills`); an object
that names a known member twice, or none of a name that must be given, gives nothing
(`seen_of_decode`).
-/

namespace Arbiter.Decoder

variable {α : Type} {known : List (Member α)} {n : Nat} {first : Bool} {seen : List String}
  {a b : α}
  {k : Key} {v : Layout} {ms : List (Key × Layout)} {last : Blanks} {s r : Bytes}

/-! ### One member -/

lemma taken_name (k : Key) (s : Bytes) : taken (stringRest (k.rest ++ s)) =
    k.name?.map fun name => (name, k.inner.1 ++ 0x3A :: (k.outer.1 ++ s)) := by
  rw [rest_append, taken_stringRest, Key.name?, Option.map_map]
  rfl

/-- The members of an object up to its closing brace, and what comes after it. -/
def membersText (first : Bool) (ms : List (Key × Layout)) (last : Blanks) (s : Bytes) : Bytes :=
  Layout.memberBytes first ms ++ (last.1 ++ 0x7D :: s)

lemma members_cons : members known (n + 1) first seen a (membersText first ((k, v) :: ms) last s) =
    (do
      let name ← stringRest
      match known.find? fun f => f.name == name with
      | some f =>
        if seen.contains name then mismatch
        else
          token 0x3A
          let a ← f.put a
          members known n false (name :: seen) a
      | none =>
        token 0x3A
        skip n
        members known n false seen a : Decoder α)
      (k.rest ++ (v.bytes ++ membersText false ms last s)) := by
  unfold membersText
  rw [Layout.memberBytes, Key.bytes]
  simp only [List.append_assoc, List.cons_append]
  rw [members, ahead_gap k.gap first _ _ (by decide) (by decide) (by decide)]
  exact bind_of_ok (token_blanks _ (by decide))

/-- A member whose name spells no text is refused. -/
lemma members_unnamed (hname : k.name? = none) :
    members known (n + 1) first seen a (membersText first ((k, v) :: ms) last s) ≠ .ok b r := by
  intro h
  rw [members_cons] at h
  obtain ⟨name, t, hread, -⟩ := bind_eq_ok.1 h
  have htaken := taken_name k (v.bytes ++ membersText false ms last s)
  rw [hread, hname] at htaken
  cases htaken

section Named

variable {name : String} (hname : k.name? = some name)
include hname

lemma stringRest_name (s : Bytes) :
    stringRest (k.rest ++ s) = .ok name (k.inner.1 ++ 0x3A :: (k.outer.1 ++ s)) := by
  have htaken := taken_name k s
  rwa [hname, Option.map_some, taken_eq_some] at htaken

/-- A known member that was not seen yet is read into the record. -/
lemma members_known {f : Member α} (hf : (known.find? fun f => f.name == name) = some f)
    (hseen : seen.contains name = false) :
    members known (n + 1) first seen a (membersText first ((k, v) :: ms) last s) =
      (f.put a >>= members known n false (name :: seen))
        (k.outer.1 ++ (v.bytes ++ membersText false ms last s)) := by
  rw [members_cons, bind_of_ok (stringRest_name hname _), hf]
  dsimp only
  rw [hseen, if_neg Bool.false_ne_true]
  exact bind_of_ok (token_blanks k.inner (by decide))

lemma members_again {f : Member α} (hf : (known.find? fun f => f.name == name) = some f)
    (hseen : seen.contains name = true) :
    members known (n + 1) first seen a (membersText first ((k, v) :: ms) last s) ≠ .ok b r := by
  rw [members_cons, bind_of_ok (stringRest_name hname _), hf]
  dsimp only
  rw [hseen, if_pos rfl]
  exact nofun

/-- Any other member is passed, as far as the bytes that are left allow. -/
lemma members_other (hf : (known.find? fun f => f.name == name) = none)
    (hn : v.bytes.length ≤ n) :
    members known (n + 1) first seen a (membersText first ((k, v) :: ms) last s) =
      members known n false seen a (membersText false ms last s) := by
  have hskip := skipWithin_layout v k.outer (n := 2 * n + 2) (by omega) (ends_members ms last s)
  rw [members_cons, bind_of_ok (stringRest_name hname _), hf]
  dsimp only
  rw [bind_of_ok (token_blanks k.inner (by decide))]
  exact bind_of_ok hskip

end Named

lemma members_nil : members known (n + 1) first seen a (membersText first [] last s) =
    if known.all fun f => f.mayMiss || seen.contains f.name then .ok a s else
      .error .mismatch (0x7D :: s) := by
  unfold membersText
  rw [members, Layout.memberBytes, List.nil_append, ahead_last _ _ _ (by decide)]
  split <;> rfl

/-! ### Names -/

/-- The names of an object's members that are among some names. -/
def namesAmong (names : List String) (ms : List (Key × Layout)) : List String :=
  (namesIn ms).filter names.contains

lemma mem_namesAmong {names : List String} {name : String} (h : name ∈ names) :
    name ∈ namesAmong names ms ↔ name ∈ namesIn ms := by
  unfold namesAmong
  rw [List.mem_filter, List.contains_iff_mem, and_iff_left h]

lemma nodup_namesAmong_iff {names : List String} :
    (namesAmong names ms).Nodup ↔ ∀ name ∈ names, (namesIn ms).count name ≤ 1 := by
  unfold namesAmong
  rw [List.nodup_iff_count_le_one]
  refine forall_congr' fun name => ?_
  by_cases h : name ∈ names
  · rw [List.count_filter (List.contains_iff_mem.2 h)]
    exact ⟨fun hle _ => hle, fun hle => hle h⟩
  · have hzero : ((namesIn ms).filter names.contains).count name = 0 :=
      List.count_eq_zero.2 fun hmem => h (List.contains_iff_mem.1 (List.mem_filter.1 hmem).2)
    rw [hzero]
    exact ⟨fun _ hmem => absurd hmem h, fun _ => Nat.zero_le _⟩

/-- The known names seen when some members were read, last first, after some seen before. -/
def seenIn (known : List (Member α)) (ms : List (Key × Layout)) (seen : List String) :
    List String :=
  (namesAmong (known.map (·.name)) ms).reverse ++ seen

lemma seenIn_nil : seenIn known ms [] = (namesAmong (known.map (·.name)) ms).reverse :=
  List.append_nil _

lemma mem_of_find {name : String} {f : Member α}
    (hf : (known.find? fun f => f.name == name) = some f) : f ∈ known ∧ f.name = name :=
  ⟨List.mem_of_find?_eq_some hf, beq_iff_eq.1 (List.find?_some hf :)⟩

lemma namesAmong_cons {names : List String} {name : String} (hname : k.name? = some name) :
    namesAmong names ((k, v) :: ms) =
      if names.contains name then name :: namesAmong names ms else namesAmong names ms := by
  have hcons : namesIn ((k, v) :: ms) = name :: namesIn ms := List.filterMap_cons_some hname
  unfold namesAmong
  rw [hcons, List.filter_cons]

section Seen

variable {name : String} (hname : k.name? = some name)
include hname

lemma seenIn_known {f : Member α} (hf : (known.find? fun f => f.name == name) = some f) :
    seenIn known ((k, v) :: ms) seen = seenIn known ms (name :: seen) := by
  obtain ⟨hknown, rfl⟩ := mem_of_find hf
  unfold seenIn
  rw [namesAmong_cons hname, if_pos (List.contains_iff_mem.2 (List.mem_map_of_mem hknown)),
    List.reverse_cons, List.append_assoc]
  rfl

lemma seenIn_other (hf : (known.find? fun f => f.name == name) = none) :
    seenIn known ((k, v) :: ms) seen = seenIn known ms seen := by
  have hmem : name ∉ known.map (·.name) := by
    intro hmem
    obtain ⟨f, hk, hfname⟩ := List.mem_map.1 hmem
    exact List.find?_eq_none.1 hf f hk (beq_iff_eq.2 hfname)
  unfold seenIn
  rw [namesAmong_cons hname, if_neg fun h => hmem (List.contains_iff_mem.1 h)]

end Seen

lemma length_memberBytes_cons (k : Key) (v : Layout) (ms : List (Key × Layout)) (first : Bool) :
    v.bytes.length + (Layout.memberBytes false ms).length <
      (Layout.memberBytes first ((k, v) :: ms)).length := by
  rw [Layout.memberBytes, Key.bytes]
  simp only [List.length_append, List.length_cons]
  omega

/-! ### Records in the making -/

/-- A member reads a field into a record that is built up; `upTo` says what the record is when the
fields of some names were read. Only a field that is null may be left out. -/
structure Puts (upTo : List String → α) (f : Member α) (field : String × Json) : Prop where
  name : f.name = field.1
  reads : ∀ seen, Reads (f.put (upTo seen)) field.2 (upTo (f.name :: seen))
  given : f.mayMiss = false → field.2 ≠ .null

/-- The members read the fields of a record, one each, and give the whole of it if only fields that
are null were left out. -/
structure Builds (known : List (Member α)) (fields : List (String × Json)) (upTo : List String → α)
    (whole : α) : Prop where
  puts : List.Forall₂ (Puts upTo) known fields
  whole : ∀ seen, (∀ field ∈ fields, field.2 ≠ .null → field.1 ∈ seen) → upTo seen = whole

variable {fields : List (String × Json)} {upTo : List String → α} {whole : α}

lemma Puts.required {β : Type} {name : String} {d : Decoder β} {set : α → β → α} {j : Json} {x : β}
    (h : Reads d j x) (hj : j ≠ .null) (hset : ∀ seen, set (upTo seen) x = upTo (name :: seen)) :
    Puts upTo (.required name d set) (name, j) :=
  ⟨rfl, fun seen => hset seen ▸ h.map (set (upTo seen)), fun _ => hj⟩

lemma Puts.trailing {β : Type} {name : String} {d : Decoder β} {set : α → Option β → α} {j : Json}
    {x : Option β} (h : Reads (optional d) j x)
    (hset : ∀ seen, set (upTo seen) x = upTo (name :: seen)) :
    Puts upTo (.trailing name d set) (name, j) :=
  ⟨rfl, fun seen => hset seen ▸ h.map (set (upTo seen)), nofun⟩

lemma Builds.names (hb : Builds known fields upTo whole) :
    known.map (·.name) = fields.map (·.1) := by
  rw [← List.forall₂_eq_eq_eq, List.forall₂_map_left_iff, List.forall₂_map_right_iff]
  exact hb.puts.imp fun _ _ hput => hput.name

lemma exists_puts {f : Member α} (h : List.Forall₂ (Puts upTo) known fields) (hf : f ∈ known) :
    ∃ field ∈ fields, Puts upTo f field := by
  induction h with
  | nil => cases hf
  | cons hput _ ih =>
    rcases List.mem_cons.1 hf with rfl | hf
    · exact ⟨_, List.mem_cons_self, hput⟩
    · obtain ⟨field, hfield, hput⟩ := ih hf
      exact ⟨field, List.mem_cons_of_mem _ hfield, hput⟩

/-! ### All members -/

lemma members_of_fills (hb : Builds known fields upTo whole)
    (hnamed : ∀ m ∈ ms, ∃ name, m.1.name? = some name)
    (hwrites : ∀ m ∈ ms, ∀ f ∈ fields, m.1.name? = some f.1 → m.2.Writes f.2)
    (honce : (seenIn known ms seen).Nodup)
    (hgiven : ∀ f ∈ known, f.mayMiss = true ∨ f.name ∈ seenIn known ms seen)
    (hn : (Layout.memberBytes first ms).length < n) :
    members known n first seen (upTo seen) (membersText first ms last s) =
      .ok (upTo (seenIn known ms seen)) s := by
  induction ms generalizing n first seen with
  | nil =>
    obtain ⟨n, rfl⟩ := Nat.exists_eq_add_one.2 (Nat.zero_lt_of_lt hn)
    have hall : (known.all fun f => f.mayMiss || seen.contains f.name) = true := by
      refine List.all_eq_true.2 fun f hf => ?_
      rw [Bool.or_eq_true, List.contains_iff_mem]
      exact hgiven f hf
    rw [members_nil, if_pos hall]
    rfl
  | cons m ms ih =>
    obtain ⟨k, v⟩ := m
    obtain ⟨n, rfl⟩ := Nat.exists_eq_add_one.2 (Nat.zero_lt_of_lt hn)
    have hlength := length_memberBytes_cons k v ms first
    obtain ⟨name, hname⟩ := hnamed _ List.mem_cons_self
    have hnamed' := fun m hm => hnamed m (List.mem_cons_of_mem _ hm)
    have hwrites' := fun m hm => hwrites m (List.mem_cons_of_mem _ hm)
    -- a name that is not known is passed, and one that is known was not seen before
    rcases hf : known.find? fun f => f.name == name with _ | f
    · rw [seenIn_other hname hf] at honce hgiven ⊢
      rw [members_other hname hf (by omega)]
      exact ih hnamed' hwrites' honce hgiven (by omega)
    · obtain ⟨hknown, rfl⟩ := mem_of_find hf
      rw [seenIn_known hname hf] at honce hgiven ⊢
      have hunseen : seen.contains f.name = false := by
        rw [← Bool.not_eq_true, List.contains_iff_mem]
        exact (List.nodup_cons.1 (List.nodup_append.1 honce).2.1).1
      obtain ⟨field, hfield, hput⟩ := exists_puts hb.puts hknown
      have hwritten := hwrites (k, v) List.mem_cons_self field hfield (hput.name ▸ hname)
      have hread := hput.reads seen hwritten k.outer (ends_members ms last s)
      rw [members_known hname hf hunseen, membersText, bind_of_ok hread]
      exact ih hnamed' hwrites' honce hgiven (by omega)

lemma seen_of_members (hp : ∀ f ∈ known, ∀ a, Passes (f.put a)) (hseen : seen.Nodup)
    (hn : (Layout.memberBytes first ms).length < n)
    (h : members known n first seen a (membersText first ms last s) = .ok b r) :
    (seenIn known ms seen).Nodup ∧
      ∀ f ∈ known, f.mayMiss = true ∨ f.name ∈ seenIn known ms seen := by
  induction ms generalizing n first seen a with
  | nil =>
    obtain ⟨n, rfl⟩ := Nat.exists_eq_add_one.2 (Nat.zero_lt_of_lt hn)
    rw [members_nil] at h
    split at h
    · rename_i hall
      refine ⟨hseen, fun f hf => ?_⟩
      have hgiven := List.all_eq_true.1 hall f hf
      rwa [Bool.or_eq_true, List.contains_iff_mem] at hgiven
    · cases h
  | cons m ms ih =>
    obtain ⟨k, v⟩ := m
    obtain ⟨n, rfl⟩ := Nat.exists_eq_add_one.2 (Nat.zero_lt_of_lt hn)
    have hlength := length_memberBytes_cons k v ms first
    rcases hname : k.name? with _ | name
    · exact absurd h (members_unnamed hname)
    rcases hf : known.find? fun f => f.name == name with _ | f
    · rw [members_other hname hf (by omega)] at h
      rw [seenIn_other hname hf]
      exact ih hseen (by omega) h
    · rcases hagain : seen.contains name with _ | _
      · rw [members_known hname hf hagain] at h
        obtain ⟨a', t, hput, hrest⟩ := bind_eq_ok.1 h
        obtain rfl := (hp f (mem_of_find hf).1 a).eq_rest (ends_members ms last s) hput
        rw [seenIn_known hname hf]
        refine ih (List.nodup_cons.2 ⟨fun hmem => ?_, hseen⟩) (by omega) hrest
        rw [List.contains_iff_mem.2 hmem] at hagain
        cases hagain
      · exact absurd h (members_again hname hf hagain)

/-! ### Records -/

lemma record_object (w : Blanks) (blank : α) :
    record blank known (w.1 ++ ((Layout.object ms last).bytes ++ s)) =
      members known ((membersText true ms last s).length + 1) true [] blank
        (membersText true ms last s) := by
  have hbytes : (Layout.object ms last).bytes ++ s = 0x7B :: membersText true ms last s := by
    unfold membersText
    rw [Layout.bytes, List.cons_append, List.append_assoc, List.append_assoc]
    rfl
  unfold record
  rw [ahead_blanks, hbytes, ahead_cons _ (by decide)]
  rfl

lemma length_memberBytes_lt (first : Bool) (ms : List (Key × Layout)) (last : Blanks) (s : Bytes) :
    (Layout.memberBytes first ms).length < (membersText first ms last s).length + 1 := by
  unfold membersText
  rw [List.length_append]
  omega

/-- **An object that fills the fields of a record is read as the record**, with blanks around it or
not. -/
theorem decode_of_fills (hb : Builds known fields upTo whole) (hf : Fills fields ms)
    (last w w' : Blanks) :
    decode (record (upTo []) known) (w.1 ++ ((Layout.object ms last).bytes ++ w'.1)) =
      .ok whole := by
  have hseen : seenIn known ms [] = (namesAmong (fields.map (·.1)) ms).reverse := by
    rw [seenIn_nil, hb.names]
  have honce : (seenIn known ms []).Nodup := by
    rw [hseen, List.nodup_reverse, nodup_namesAmong_iff]
    intro name hname
    obtain ⟨field, hfield, rfl⟩ := List.mem_map.1 hname
    exact hf.once field hfield
  have hgiven : ∀ field ∈ fields, field.2 ≠ .null → field.1 ∈ seenIn known ms [] := by
    intro field hfield hj
    rw [hseen, List.mem_reverse, mem_namesAmong (List.mem_map_of_mem hfield)]
    exact hf.given field hfield hj
  have hrequired : ∀ f ∈ known, f.mayMiss = true ∨ f.name ∈ seenIn known ms [] := by
    intro f hknown
    rcases hmiss : f.mayMiss with _ | _
    · obtain ⟨field, hfield, hput⟩ := exists_puts hb.puts hknown
      exact .inr (hput.name ▸ hgiven field hfield (hput.given hmiss))
    · exact .inl rfl
  unfold decode
  rw [record_object,
    members_of_fills hb hf.named hf.writes honce hrequired (length_memberBytes_lt ..),
    hb.whole _ hgiven]
  dsimp only
  rw [if_pos w'.2]

/-- **What an object gives a record for**: no known name stands twice in it, and every one that must
be given stands in it. -/
theorem seen_of_decode (hp : ∀ f ∈ known, ∀ a, Passes (f.put a)) {w w' : Blanks} {blank : α}
    (h : decode (record blank known) (w.1 ++ ((Layout.object ms last).bytes ++ w'.1)) = .ok b) :
    ∀ f ∈ known, (namesIn ms).count f.name ≤ 1 ∧ (f.mayMiss = true ∨ f.name ∈ namesIn ms) := by
  unfold decode at h
  rw [record_object] at h
  rcases hread : members known ((membersText true ms last w'.1).length + 1) true [] blank
    (membersText true ms last w'.1) with ⟨b', r⟩ | ⟨f, r⟩
  · obtain ⟨honce, hgiven⟩ := seen_of_members hp List.nodup_nil (length_memberBytes_lt ..) hread
    rw [seenIn_nil, List.nodup_reverse, nodup_namesAmong_iff] at honce
    intro f hf
    have hknown : f.name ∈ known.map (·.name) := List.mem_map_of_mem hf
    have hmem := hgiven f hf
    rw [seenIn_nil, List.mem_reverse, mem_namesAmong hknown] at hmem
    exact ⟨honce _ hknown, hmem⟩
  · rw [hread] at h
    cases h

end Arbiter.Decoder
