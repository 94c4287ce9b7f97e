import Arbiter.Proofs.Text.Utf8
import Arbiter.Stream.Entry

/-!
What the reply to a read of one stream is read as. An entry comes as its id and a flat list of names
and values, in which a value may well look like a name; they are taken two by two
(`payloadOf_flatPairs`), so each entry gets the first value that is named `payload`
(`mapM_ofReply_reply`). Either all elements of the reply are entries, and as many are read, or the
first that is none is the fault of the whole (`mapM_ofReply_cases`).
-/

namespace Arbiter

/-- An entry as a stream keeps it. -/
structure StreamEntry where
  id : Bytes
  /-- Names and values, or none when the entry was trimmed. -/
  fields : Option (List (Bytes × Bytes))

namespace StreamEntry

/-- Names and values in one list. -/
def flatPairs (ps : List (Bytes × Bytes)) : List Reply := ps.flatMap fun p => [.bulk p.1, .bulk p.2]

/-- An entry as it is sent. -/
def reply (e : StreamEntry) : Reply :=
  .array [.bulk e.id, match e.fields with
    | some ps => .array (flatPairs ps)
    | none => .nil]

/-- The first value with the name `payload`. -/
def payload? (e : StreamEntry) : Option Bytes :=
  ((e.fields.getD []).find? fun p => p.1 == Utf8.encode Entry.payloadField).map (·.2)

/-- What is to be read of an entry. -/
def entry (e : StreamEntry) : Entry := ⟨Utf8.readLossy e.id, e.payload?.map Utf8.readLossy⟩

end StreamEntry

namespace Reply

/-- The reply to a read of one stream, with some elements for entries. -/
def ofStream (name : Reply) (elements : List Reply) : Reply :=
  .array [.array [name, .array elements]]

/-- The reply is an array that starts with an id. -/
def isEntry : Reply → Bool
  | .array (.bulk _ :: _) => true
  | _ => false

end Reply

namespace Entry

/-- What is wrong with an element that is no entry. -/
def faultOf : Reply → EntryFault
  | .array _ => .id
  | _ => .entry

/-! ### One entry -/

lemma payloadOf_flatPairs (ps : List (Bytes × Bytes)) : payloadOf (StreamEntry.flatPairs ps) =
    ((ps.find? fun p => p.1 == Utf8.encode payloadField).map (·.2)).map Utf8.readLossy := by
  induction ps with
  | nil => rfl
  | cons p ps ih =>
    show payloadOf (.bulk p.1 :: .bulk p.2 :: StreamEntry.flatPairs ps) = _
    rw [payloadOf, List.find?_cons, ih]
    by_cases h : p.1 = Utf8.encode payloadField
    · rw [if_pos h, beq_iff_eq.2 h]
      rfl
    · rw [if_neg h, beq_eq_false_iff_ne.2 h]

lemma ofReply_reply (e : StreamEntry) : ofReply e.reply = .ok e.entry := by
  obtain ⟨id, _ | ps⟩ := e
  · rfl
  · show Except.ok (Entry.mk _ (payloadOf (StreamEntry.flatPairs ps))) = _
    rw [payloadOf_flatPairs]
    rfl

lemma ofReply_of_isEntry {r : Reply} (h : r.isEntry = true) : ∃ e, ofReply r = .ok e := by
  unfold Reply.isEntry at h
  split at h
  · exact ⟨_, rfl⟩
  · cases h

lemma ofReply_of_not_isEntry {r : Reply} (h : r.isEntry = false) :
    ofReply r = .error (faultOf r) := by
  cases r with
  | array items =>
    rcases items with _ | ⟨x, rest⟩
    · rfl
    · cases x with
      | bulk id => cases h
      | _ => rfl
  | _ => rfl

/-! ### All entries -/

lemma mapM_ofReply_reply (es : List StreamEntry) :
    (es.map (·.reply)).mapM ofReply = .ok (es.map (·.entry)) := by
  induction es with
  | nil => rfl
  | cons e es ih =>
    rw [List.map_cons, List.mapM_cons, ofReply_reply, ih]
    rfl

/-- **All elements are entries, and as many are read; or the first that is none is the fault.** -/
lemma mapM_ofReply_cases (rs : List Reply) :
    (∀ r ∈ rs, r.isEntry = true) ∧ (∃ es, rs.mapM ofReply = .ok es ∧ es.length = rs.length) ∨
      ∃ before r rest, rs = before ++ r :: rest ∧ (∀ x ∈ before, x.isEntry = true) ∧
        r.isEntry = false ∧ rs.mapM ofReply = .error (faultOf r) := by
  induction rs with
  | nil => exact .inl ⟨nofun, [], rfl, rfl⟩
  | cons r rs ih =>
    rw [List.mapM_cons]
    cases hr : r.isEntry with
    | false =>
      refine .inr ⟨[], r, rs, rfl, nofun, hr, ?_⟩
      rw [ofReply_of_not_isEntry hr]
      rfl
    | true =>
      obtain ⟨e, he⟩ := ofReply_of_isEntry hr
      rw [he]
      rcases ih with ⟨hall, es, hes, hlength⟩ | ⟨before, x, rest, rfl, hbefore, hx, hfault⟩
      · refine .inl ⟨List.forall_mem_cons.2 ⟨hr, hall⟩, e :: es, ?_, congrArg (· + 1) hlength⟩
        rw [hes]
        rfl
      · refine .inr ⟨r :: before, x, rest, rfl, List.forall_mem_cons.2 ⟨hr, hbefore⟩, hx, ?_⟩
        rw [hfault]
        rfl

/-- **Entries are read without loss.** The reply that holds some entries of a stream is read as
these entries, each with its id and the first value that is named `payload`, if it has one; and
what was a text is that text. Whatever the elements of a reply are: if all of them are arrays that
start with an id, as many entries are read, and otherwise the first that is none makes the whole
reading fail. -/
theorem reads_without_loss (name : Reply) :
    (∀ es : List StreamEntry,
      ofRead (.ofStream name (es.map (·.reply))) = .ok (es.map (·.entry))) ∧
    (∀ (e : StreamEntry) (id : String) (payload : Option String),
      e.id = Utf8.encode id → e.payload? = payload.map Utf8.encode → e.entry = ⟨id, payload⟩) ∧
    ∀ elements : List Reply,
      (∀ r ∈ elements, r.isEntry = true) ∧
          (∃ es, ofRead (.ofStream name elements) = .ok es ∧ es.length = elements.length) ∨
        ∃ before r rest, elements = before ++ r :: rest ∧ (∀ x ∈ before, x.isEntry = true) ∧
          r.isEntry = false ∧ ofRead (.ofStream name elements) = .error (faultOf r) := by
  refine ⟨mapM_ofReply_reply, fun e id payload hid hpayload => ?_, mapM_ofReply_cases⟩
  unfold StreamEntry.entry
  rw [hid, hpayload, Utf8.readLossy_encode]
  rcases payload with _ | text
  · rfl
  · rw [Option.map_some, Option.map_some, Utf8.readLossy_encode]

/-- An entry with a value that looks like the name, and with the name twice. -/
def misleading : StreamEntry :=
  ⟨Utf8.encode "1-0", some [(Utf8.encode "note", Utf8.encode payloadField),
    (Utf8.encode payloadField, Utf8.encode "first"),
    (Utf8.encode payloadField, Utf8.encode "second")]⟩

/-- The first value of the name is read, and what was trimmed is not left out. With something else
between the two, nothing is read. -/
theorem reads_without_loss_misleading :
    ofRead (.ofStream .nil [misleading.reply, StreamEntry.reply ⟨Utf8.encode "2-0", none⟩]) =
      .ok [⟨"1-0", some "first"⟩, ⟨"2-0", none⟩] ∧
    ∃ f, ofRead (.ofStream .nil
      [misleading.reply, .nil, StreamEntry.reply ⟨Utf8.encode "2-0", none⟩]) = .error f := by
  obtain ⟨hread, hentry, hcases⟩ := reads_without_loss .nil
  constructor
  · have hboth := hread [misleading, ⟨Utf8.encode "2-0", none⟩]
    have hfirst := hentry misleading "1-0" (some "first") rfl (by decide)
    have hsecond := hentry ⟨Utf8.encode "2-0", none⟩ "2-0" none rfl rfl
    simp only [List.map_cons, List.map_nil, hfirst, hsecond] at hboth
    exact hboth
  · rcases hcases [misleading.reply, .nil, _] with ⟨hall, -⟩ | ⟨_, _, _, -, -, -, hfault⟩
    · exact absurd (hall .nil (List.mem_cons_of_mem _ List.mem_cons_self)) nofun
    · exact ⟨_, hfault⟩

end Entry

end Arbiter
