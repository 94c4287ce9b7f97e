import Arbiter.Proofs.Json.Compact

/-!
Reading back what was written: the compact text of a value is read as that value (`read?_bytes`), if
its numbers are whole ones of 64 bits and its brackets do not nest too deep (`Json.IsReadable`).
-/

namespace Arbiter

namespace Json

mutual

/-- The numbers are whole ones of 64 bits, and the brackets nest less than `depth` deep. -/
def IsReadable : Nat → Json → Prop
  | _, .null | _, .bool _ | _, .str _ => True
  | _, .int n => Span.int64.holds n = true
  | _, .real _ _ => False
  | depth, .arr items => 1 < depth ∧ ItemsReadable (depth - 1) items
  | depth, .obj members => 1 < depth ∧ MembersReadable (depth - 1) members

def ItemsReadable : Nat → List Json → Prop
  | _, [] => True
  | depth, v :: vs => IsReadable depth v ∧ ItemsReadable depth vs

def MembersReadable : Nat → List (String × Json) → Prop
  | _, [] => True
  | depth, (_, v) :: ms => IsReadable depth v ∧ MembersReadable depth ms

end

end Json

namespace Decoder

variable {α : Type} {n depth : Nat} {s r : Bytes} {b close : UInt8}

lemma closedBy_of_ok {d : Decoder α} {a : α} (h : d s = .ok a (close :: r))
    (hclose : isBlank close = false) : closedBy close d s = .ok a r := by
  have hinside : (tryCatch (Except.ok <$> d) fun f => pure (.error f) :
      Decoder (Except Fault α)) s = .ok (.ok a) (close :: r) := by
    change EStateM.tryCatch _ _ s = _
    unfold EStateM.tryCatch
    rw [map_of_ok h]
  unfold closedBy
  rw [bind_of_ok hinside]
  exact bind_of_ok (token_cons hclose)

lemma valueWithin_digit {m : Number} (hdigit : isDigit b = true)
    (h : numberRest false (b :: s) = .ok m r) :
    valueWithin (n + 1) depth (b :: s) = .ok m.json r := by
  rw [valueWithin, ahead_cons _ (isBlank_of_isDigit hdigit)]
  dsimp only
  rw [if_neg, if_neg, if_neg, if_neg, if_neg, if_neg, if_neg, if_pos hdigit]
  · exact map_of_ok h
  all_goals
    rintro rfl
    cases hdigit

lemma literal_pure (word : Bytes) (v : Json) (s : Bytes) :
    (literal word >>= fun _ => pure v : Decoder Json) (word ++ s) = .ok v s :=
  bind_of_ok (literal_append word s)

lemma valueWithin_ofInt {m : Int} (hm : Span.int64.holds m = true) (hs : Ends s) :
    valueWithin (n + 1) depth ((Figure.ofInt m).bytes ++ s) = .ok (.int m) s := by
  have hrest := numberRest_ofInt hm hs
  rw [Figure.bytes_ofInt_eq]
  by_cases hneg : m < 0
  · rw [decide_eq_true hneg] at hrest
    rw [if_pos hneg, List.append_assoc, List.singleton_append, valueWithin,
      ahead_cons _ (by decide)]
    exact map_of_ok hrest
  · rw [decide_eq_false hneg] at hrest
    obtain ⟨d, ds, hds, hdigit⟩ := digits_eq_cons (.ofNat m.natAbs)
    rw [hds] at hrest
    rw [if_neg hneg, List.nil_append, hds]
    exact valueWithin_digit hdigit hrest

lemma stringRest_ofString (text : String) (s : Bytes) :
    stringRest (Piece.inside (Piece.ofString text) ++ 0x22 :: s) = .ok text s :=
  stringRest_of_text (Piece.text?_ofString text) s

lemma stringRest_key (k : String) (s : Bytes) :
    stringRest ((Key.ofString k).rest ++ s) = .ok k (0x3A :: s) := by
  rw [rest_append]
  exact stringRest_ofString k _

lemma leftOf_none (first : Bool) (s : Bytes) : (leftOf .none first).1 ++ s = s := by
  cases first <;> rfl

mutual

theorem valueWithin_ofJson : ∀ (v : Json) {n depth : Nat} {s : Bytes}, v.IsReadable depth →
    (Layout.ofJson v).bytes.length ≤ n → Ends s →
    valueWithin n depth ((Layout.ofJson v).bytes ++ s) = .ok v s
  | v, 0, depth, s, hv, hn, hs => absurd hn (Nat.not_le.2 (Layout.ofJson v).bytes_length_pos)
  | .null, n + 1, depth, s, hv, hn, hs => by
    rw [valueWithin]
    exact literal_pure [0x75, 0x6C, 0x6C] .null s
  | .bool true, n + 1, depth, s, hv, hn, hs => by
    rw [valueWithin]
    exact literal_pure [0x72, 0x75, 0x65] (.bool true) s
  | .bool false, n + 1, depth, s, hv, hn, hs => by
    rw [valueWithin]
    exact literal_pure [0x61, 0x6C, 0x73, 0x65] (.bool false) s
  | .int m, n + 1, depth, s, hv, hn, hs => valueWithin_ofInt hv hs
  | .real _ _, n + 1, depth, s, hv, hn, hs => hv.elim
  | .str text, n + 1, depth, s, hv, hn, hs => by
    rw [valueWithin, Layout.ofJson, Layout.bytes, List.cons_append, List.append_assoc]
    exact map_of_ok (stringRest_ofString text s)
  | .arr items, n + 1, depth, s, hv, hn, hs => by
    rw [Layout.ofJson, Layout.bytes] at hn ⊢
    simp only [List.length_cons, List.length_append] at hn
    have hitems : valueItems n (depth - 1) true []
        (Layout.itemBytes true (Layout.ofItems items) ++ 0x5D :: s) = .ok items (0x5D :: s) :=
      valueItems_ofItems items hv.2 (by omega)
    rw [valueWithin, List.cons_append, List.append_assoc, ahead_cons _ (by decide)]
    dsimp only
    rw [if_neg (by decide), if_pos rfl, if_neg (Nat.not_le.2 hv.1)]
    exact map_of_ok (closedBy_of_ok hitems (by decide))
  | .obj members, n + 1, depth, s, hv, hn, hs => by
    rw [Layout.ofJson, Layout.bytes] at hn ⊢
    simp only [List.length_cons, List.length_append] at hn
    have hmembers : valueMembers n (depth - 1) true []
        (Layout.memberBytes true (Layout.ofMembers members) ++ 0x7D :: s) =
          .ok members (0x7D :: s) :=
      valueMembers_ofMembers members hv.2 (by omega)
    rw [valueWithin, List.cons_append, List.append_assoc, ahead_cons _ (by decide)]
    dsimp only
    rw [if_neg (by decide), if_neg (by decide), if_pos rfl, if_neg (Nat.not_le.2 hv.1)]
    exact map_of_ok (closedBy_of_ok hmembers (by decide))

theorem valueItems_ofItems : ∀ (vs : List Json) {first : Bool} {n depth : Nat} {acc : List Json}
    {s : Bytes}, Json.ItemsReadable depth vs →
    (Layout.itemBytes first (Layout.ofItems vs)).length < n →
    valueItems n depth first acc (Layout.itemBytes first (Layout.ofItems vs) ++ 0x5D :: s) =
      .ok (acc.reverse ++ vs) (0x5D :: s)
  | _, _, 0, _, _, _, _, hn => absurd hn (Nat.not_lt_zero _)
  | [], first, n + 1, depth, acc, s, hvs, hn => by
    rw [valueItems, Layout.ofItems, Layout.itemBytes, List.nil_append, List.append_nil]
    exact ahead_last .none _ _ (by decide)
  | v :: vs, first, n + 1, depth, acc, s, hvs, hn => by
    obtain ⟨b, t, hb, hblank, hclose, -⟩ := (Layout.ofJson v).bytes_eq_cons
    have hpos := (Layout.ofJson v).bytes_length_pos
    rw [Layout.ofItems, Layout.itemBytes] at hn ⊢
    simp only [List.length_append] at hn
    have hvalue : valueWithin n depth ((Layout.ofJson v).bytes ++
        (Layout.itemBytes false (Layout.ofItems vs) ++ 0x5D :: s)) =
          .ok v (Layout.itemBytes false (Layout.ofItems vs) ++ 0x5D :: s) :=
      valueWithin_ofJson v hvs.1 (by omega) (ends_items _ .none s)
    have hrest : valueItems n depth false (v :: acc)
        (Layout.itemBytes false (Layout.ofItems vs) ++ 0x5D :: s) =
          .ok ((v :: acc).reverse ++ vs) (0x5D :: s) :=
      valueItems_ofItems vs hvs.2 (by omega)
    rw [List.reverse_cons, List.append_assoc] at hrest
    rw [valueItems, List.append_assoc, List.append_assoc]
    rw [hb, List.cons_append] at hvalue ⊢
    rw [ahead_gap .none first _ _ hblank hclose (by decide), leftOf_none, bind_of_ok hvalue]
    exact hrest

theorem valueMembers_ofMembers : ∀ (ms : List (String × Json)) {first : Bool} {n depth : Nat}
    {acc : List (String × Json)} {s : Bytes}, Json.MembersReadable depth ms →
    (Layout.memberBytes first (Layout.ofMembers ms)).length < n →
    valueMembers n depth first acc
      (Layout.memberBytes first (Layout.ofMembers ms) ++ 0x7D :: s) =
      .ok (acc.reverse ++ ms) (0x7D :: s)
  | _, _, 0, _, _, _, _, hn => absurd hn (Nat.not_lt_zero _)
  | [], first, n + 1, depth, acc, s, hms, hn => by
    rw [valueMembers, Layout.ofMembers, Layout.memberBytes, List.nil_append, List.append_nil]
    exact ahead_last .none _ _ (by decide)
  | (k, v) :: ms, first, n + 1, depth, acc, s, hms, hn => by
    have hpos := (Layout.ofJson v).bytes_length_pos
    rw [Layout.ofMembers, Layout.memberBytes, Key.bytes] at hn ⊢
    simp only [List.length_append] at hn
    have hvalue : valueWithin n depth ((Layout.ofJson v).bytes ++
        (Layout.memberBytes false (Layout.ofMembers ms) ++ 0x7D :: s)) =
          .ok v (Layout.memberBytes false (Layout.ofMembers ms) ++ 0x7D :: s) :=
      valueWithin_ofJson v hms.1 (by omega) (ends_members _ .none s)
    have hrest : valueMembers n depth false ((k, v) :: acc)
        (Layout.memberBytes false (Layout.ofMembers ms) ++ 0x7D :: s) =
          .ok (((k, v) :: acc).reverse ++ ms) (0x7D :: s) :=
      valueMembers_ofMembers ms hms.2 (by omega)
    rw [List.reverse_cons, List.append_assoc] at hrest
    rw [valueMembers, List.append_assoc, List.append_assoc, List.append_assoc, List.cons_append]
    rw [ahead_gap (Key.ofString k).gap first _ _ (by decide) (by decide) (by decide),
      bind_of_ok (token_blanks _ (by decide)), bind_of_ok (stringRest_key k _),
      bind_of_ok (token_cons (by decide)), bind_of_ok hvalue]
    exact hrest

end

end Decoder

theorem Json.read?_bytes {v : Json} (h : v.IsReadable Decoder.depthLimit) :
    Json.read? v.bytes = some v := by
  have hvalue : Decoder.value v.bytes = .ok v [] := by
    have hlength : (Layout.ofJson v).bytes.length ≤ 2 * v.bytes.length + 2 := by
      rw [Layout.bytes_ofJson]
      omega
    have hread := Decoder.valueWithin_ofJson v h hlength (s := []) nofun
    rwa [Layout.bytes_ofJson, List.append_nil] at hread
  unfold Json.read? Decoder.decode
  rw [hvalue]
  rfl

end Arbiter
