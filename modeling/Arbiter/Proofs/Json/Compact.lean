import Arbiter.Proofs.Json.Members
import Mathlib.Data.List.Nodup

/-!
The compact text of a value is well formed: it is the text of a layout without blanks
(`bytes_ofJson`), by recursion on the value. The members of an object so laid out fill the fields
that they write, in whatever order they are taken (`fills_ofMembers`).
-/

namespace Arbiter

open Json (escapeChar hexDigit)

/-! ### Strings -/

namespace Piece

lemma hex4_control : ∀ n < 0x20, Decoder.hex4 0x30 0x30 (.ofNat (hexDigit (n / 16)).toNat)
    (.ofNat (hexDigit (n % 16)).toNat) = some n := by decide

lemma encodeChar_hexDigit : ∀ n < 16,
    Utf8.encodeChar (hexDigit n) = [.ofNat (hexDigit n).toNat] := by decide

/-- A character as compact texts spell it. -/
def ofChar (c : Char) : Piece :=
  if hquote : c = '"' then .short 0x22 0x22 rfl
  else if hslash : c = '\\' then .short 0x5C 0x5C rfl
  else if c.toNat = 0x08 then .short 0x62 0x08 rfl
  else if c.toNat = 0x09 then .short 0x74 0x09 rfl
  else if c.toNat = 0x0A then .short 0x6E 0x0A rfl
  else if c.toNat = 0x0C then .short 0x66 0x0C rfl
  else if c.toNat = 0x0D then .short 0x72 0x0D rfl
  else if hspace : c.toNat < 0x20 then .unit _ _ _ _ c.toNat (hex4_control c.toNat hspace)
  else .plain c ⟨Nat.not_lt.1 hspace, hquote, hslash⟩

lemma bytes_ofChar (c : Char) : (ofChar c).bytes = Utf8.encodeChars (escapeChar c) := by
  unfold ofChar escapeChar
  iterate 7
    split
    · rfl
  split
  · rename_i hspace
    simp only [bytes, Utf8.encodeChars_cons, Utf8.encodeChars_nil,
      encodeChar_hexDigit (c.toNat / 16) (by omega), encodeChar_hexDigit (c.toNat % 16) (by omega)]
    rfl
  · exact (List.append_nil _).symm

lemma text?_short {e b : UInt8} (h : Decoder.shortEscape e = some b) {c : Char}
    (hc : c.toNat = b.toNat) (ps : List Piece) :
    text? (.short e b h :: ps) = (text? ps).map (c :: ·) := by
  rw [text?, ← hc, Char.ofNat_toNat]

lemma text?_ofChar (c : Char) (ps : List Piece) :
    text? (ofChar c :: ps) = (text? ps).map (c :: ·) := by
  unfold ofChar
  -- quotes and backslashes, and the control characters with an escape of their own
  iterate 2
    split
    · rename_i hc
      exact text?_short rfl (by rw [hc]; rfl) ps
  iterate 5
    split
    · rename_i hc
      exact text?_short rfl hc ps
  split
  · rename_i hspace
    have htrail : ¬ Decoder.isTrailSurrogate c.toNat = true := by
      unfold Decoder.isTrailSurrogate
      rw [Bool.and_eq_true, decide_eq_true_eq, decide_eq_true_eq]
      omega
    have hlead : ¬ Decoder.isLeadSurrogate c.toNat = true := by
      unfold Decoder.isLeadSurrogate
      rw [Bool.and_eq_true, decide_eq_true_eq, decide_eq_true_eq]
      omega
    rw [text?.eq_def]
    dsimp only
    rw [if_neg htrail, if_neg hlead, Char.ofNat_toNat]
  · rfl

/-- A text as compact texts spell it. -/
def ofString (s : String) : List Piece := s.toList.map ofChar

lemma inside_ofString (s : String) :
    inside (ofString s) = Utf8.encodeChars (s.toList.flatMap escapeChar) := by
  unfold ofString inside Utf8.encodeChars
  rw [List.flatMap_map, List.flatMap_assoc]
  exact congrArg (List.flatMap · _) (funext bytes_ofChar)

lemma text?_ofString (s : String) : text? (ofString s) = some s.toList := by
  unfold ofString
  induction s.toList with
  | nil => rfl
  | cons c cs ih => rw [List.map_cons, text?_ofChar, ih, Option.map_some]

end Piece

/-! ### Numbers -/

/-- The power of ten that ends a compact number. -/
def Power.ofInt (e : Int) : Power := ⟨false, if e < 0 then some true else none, .ofNat e.natAbs⟩

/-- A number that is no whole number. -/
def Figure.ofReal (m e : Int) : Figure := { Figure.ofInt m with power := some (.ofInt e) }

lemma Power.bytes_ofInt (e : Int) : (ofInt e).bytes = 0x65 :: (Figure.ofInt e).bytes := by
  rw [Figure.bytes_ofInt_eq]
  unfold bytes ofInt
  by_cases he : e < 0
  · rw [if_pos he, if_pos he]
    rfl
  · rw [if_neg he, if_neg he]
    rfl

lemma Figure.bytes_ofReal (m e : Int) :
    (ofReal m e).bytes = Utf8.encodeChars (Numeral.ofInt m ++ 'e' :: Numeral.ofInt e) := by
  have htail : (ofReal m e).tail = 0x65 :: (ofInt e).bytes := Power.bytes_ofInt e
  have hletter : Utf8.encodeChar 'e' = [0x65] := rfl
  rw [Utf8.encodeChars_append, Utf8.encodeChars_cons, hletter, ← bytes_ofInt, ← bytes_ofInt,
    bytes, htail, bytes_ofInt_eq m, List.append_assoc]
  simp only [ofReal, ofInt, decide_eq_true_eq, List.singleton_append]

/-! ### Values -/

/-- Nothing but the comma. -/
def Gap.none : Gap := ⟨.none, .none⟩

lemma Gap.bytes_none (first : Bool) : Gap.none.bytes first = if first then [] else [0x2C] := by
  cases first <;> rfl

/-- A name without blanks around it. -/
def Key.ofString (s : String) : Key := ⟨.none, Piece.ofString s, .none, .none⟩

lemma Key.name?_ofString (s : String) : (ofString s).name? = some s := by
  unfold name? ofString
  rw [Piece.text?_ofString, Option.map_some, String.ofList_toList]

lemma encodeChars_quoted (s : String) : Utf8.encodeChars (Json.quoted s) =
    0x22 :: (Piece.inside (Piece.ofString s) ++ [0x22]) := by
  have hquote : Utf8.encodeChar '"' = [0x22] := rfl
  unfold Json.quoted
  rw [Piece.inside_ofString, Utf8.encodeChars_append, Utf8.encodeChars_cons, hquote,
    Utf8.encodeChars_cons, hquote, Utf8.encodeChars_nil]
  rfl

lemma Key.bytes_ofString (s : String) (first : Bool) : (ofString s).bytes first =
    (if first then [] else [0x2C]) ++ Utf8.encodeChars (Json.quoted s ++ [':']) := by
  have hcolon : Utf8.encodeChar ':' = [0x3A] := rfl
  rw [Utf8.encodeChars_append, encodeChars_quoted, Utf8.encodeChars_cons, hcolon, ← Gap.bytes_none]
  unfold bytes rest ofString
  simp [Blanks.none]

namespace Layout

mutual

/-- The compact layout of a value. -/
def ofJson : Json → Layout
  | .null => .null
  | .bool b => .bool b
  | .int n => .number (.ofInt n)
  | .real m e => .number (.ofReal m e)
  | .str s => .string (Piece.ofString s)
  | .arr items => .array (ofItems items) .none
  | .obj members => .object (ofMembers members) .none

def ofItems : List Json → List (Gap × Layout)
  | [] => []
  | v :: vs => (.none, ofJson v) :: ofItems vs

def ofMembers : List (String × Json) → List (Key × Layout)
  | [] => []
  | (k, v) :: ms => (.ofString k, ofJson v) :: ofMembers ms

end

lemma flatten_intersperse (p : List Char) (ps : List (List Char)) :
    (List.intersperse [','] (p :: ps)).flatten = p ++ ps.flatMap (',' :: ·) := by
  induction ps generalizing p with
  | nil => simp
  | cons q ps ih =>
    rw [List.intersperse_cons_cons, List.flatten_cons, List.flatten_cons, ih]
    rfl

/-- Parts between marks, with commas between them. -/
lemma encodeChars_enclosed (c d : Char) (p : List Char) (ps : List (List Char)) :
    Utf8.encodeChars (Json.enclosed c d (p :: ps)) = Utf8.encodeChar c ++
      (Utf8.encodeChars p ++ (Utf8.encodeChars (ps.flatMap (',' :: ·)) ++ Utf8.encodeChar d)) := by
  unfold Json.enclosed
  rw [flatten_intersperse, List.cons_append, Utf8.encodeChars_cons, Utf8.encodeChars_append,
    Utf8.encodeChars_append, Utf8.encodeChars_cons, Utf8.encodeChars_nil, List.append_nil,
    List.append_assoc]

lemma encodeChars_flatMap_cons (p : List Char) (ps : List (List Char)) :
    Utf8.encodeChars ((p :: ps).flatMap (',' :: ·)) =
      0x2C :: (Utf8.encodeChars p ++ Utf8.encodeChars (ps.flatMap (',' :: ·))) := by
  have hcomma : Utf8.encodeChar ',' = [0x2C] := rfl
  rw [List.flatMap_cons, List.cons_append, Utf8.encodeChars_cons, hcomma, Utf8.encodeChars_append]
  rfl

lemma encodeChars_member (k : String) (v : Json) :
    Utf8.encodeChars (Json.quoted k ++ ':' :: v.chars) =
      Utf8.encodeChars (Json.quoted k ++ [':']) ++ v.bytes := by
  rw [List.append_cons, Utf8.encodeChars_append]
  rfl

mutual

theorem bytes_ofJson : ∀ v : Json, (ofJson v).bytes = v.bytes
  | .null => rfl
  | .bool true => rfl
  | .bool false => rfl
  | .int n => Figure.bytes_ofInt n
  | .real m e => Figure.bytes_ofReal m e
  | .str s => (encodeChars_quoted s).symm
  | .arr [] => rfl
  | .arr (v :: vs) => by
    rw [Json.bytes, Json.chars, Json.itemChars, encodeChars_enclosed, ← itemBytes_ofItems vs,
      ofJson, bytes, ofItems, itemBytes, bytes_ofJson v, Gap.bytes_none, if_pos rfl,
      List.nil_append, List.append_assoc]
    rfl
  | .obj [] => rfl
  | .obj ((k, v) :: ms) => by
    rw [Json.bytes, Json.chars, Json.memberChars, encodeChars_enclosed, ← memberBytes_ofMembers ms,
      encodeChars_member, ofJson, bytes, ofMembers, memberBytes, bytes_ofJson v,
      Key.bytes_ofString, if_pos rfl, List.nil_append, List.append_assoc, List.append_assoc,
      List.append_assoc]
    rfl

theorem itemBytes_ofItems : ∀ vs : List Json, itemBytes false (ofItems vs) =
    Utf8.encodeChars ((Json.itemChars vs).flatMap (',' :: ·))
  | [] => rfl
  | v :: vs => by
    rw [ofItems, itemBytes, bytes_ofJson v, itemBytes_ofItems vs, Json.itemChars,
      encodeChars_flatMap_cons, Gap.bytes_none]
    rfl

theorem memberBytes_ofMembers : ∀ ms : List (String × Json), memberBytes false (ofMembers ms) =
    Utf8.encodeChars ((Json.memberChars ms).flatMap (',' :: ·))
  | [] => rfl
  | (k, v) :: ms => by
    rw [ofMembers, memberBytes, bytes_ofJson v, memberBytes_ofMembers ms, Json.memberChars,
      encodeChars_flatMap_cons, encodeChars_member, Key.bytes_ofString,
      if_neg Bool.false_ne_true, List.append_assoc, List.append_assoc]
    rfl

end

/-! ### Objects -/

/-- The values that have a way to be written: whole numbers, texts and null. -/
def IsPlain : Json → Prop
  | .null | .int _ | .str _ => True
  | _ => False

lemma writes_ofJson {j : Json} (h : IsPlain j) : (ofJson j).Writes j := by
  cases j with
  | null => exact .null
  | int n => exact .int (Figure.bytes_ofInt n)
  | str s => exact .str (Piece.text?_ofString s)
  | _ => cases h

lemma mem_ofMembers {ms : List (String × Json)} {m : Key × Layout} (h : m ∈ ofMembers ms) :
    ∃ field ∈ ms, m = (.ofString field.1, ofJson field.2) := by
  induction ms with
  | nil => cases h
  | cons field ms ih =>
    rcases List.mem_cons.1 h with rfl | h
    · exact ⟨field, List.mem_cons_self, rfl⟩
    · obtain ⟨field', hfield, rfl⟩ := ih h
      exact ⟨field', List.mem_cons_of_mem _ hfield, rfl⟩

lemma namesIn_ofMembers (ms : List (String × Json)) : namesIn (ofMembers ms) = ms.map (·.1) := by
  induction ms with
  | nil => rfl
  | cons field ms ih =>
    have hcons : namesIn (ofMembers (field :: ms)) = field.1 :: namesIn (ofMembers ms) :=
      List.filterMap_cons_some (Key.name?_ofString field.1)
    rw [hcons, ih, List.map_cons]

theorem fills_ofMembers {fields ms : List (String × Json)} (hnodup : (fields.map (·.1)).Nodup)
    (hplain : ∀ field ∈ fields, IsPlain field.2) (hperm : ms.Perm fields) :
    Fills fields (ofMembers ms) := by
  refine ⟨fun m hm => ?_, fun field _ => ?_, fun m hm field hfield hname => ?_,
    fun field hfield _ => ?_⟩
  · obtain ⟨field, -, rfl⟩ := mem_ofMembers hm
    exact ⟨_, Key.name?_ofString _⟩
  · rw [namesIn_ofMembers, (hperm.map _).count_eq]
    exact List.nodup_iff_count_le_one.1 hnodup _
  · obtain ⟨field', hfield', rfl⟩ := mem_ofMembers hm
    have hsame : field'.1 = field.1 := Option.some.inj ((Key.name?_ofString _).symm.trans hname)
    obtain rfl := List.inj_on_of_nodup_map hnodup (hperm.mem_iff.1 hfield') hfield hsame
    exact writes_ofJson (hplain _ hfield)
  · rw [namesIn_ofMembers]
    exact List.mem_map_of_mem (hperm.mem_iff.2 hfield)

end Layout

namespace Decoder

/-- **A record is read from the compact text of its fields**, in any order. -/
theorem decode_bytes {α : Type} {known : List (Member α)} {fields ms : List (String × Json)}
    {upTo : List String → α} {whole : α} (hb : Builds known fields upTo whole)
    (hnodup : (fields.map (·.1)).Nodup) (hplain : ∀ field ∈ fields, Layout.IsPlain field.2)
    (hperm : ms.Perm fields) : decode (record (upTo []) known) (Json.obj ms).bytes = .ok whole := by
  have hread := decode_of_fills hb (Layout.fills_ofMembers hnodup hplain hperm) .none .none .none
  have hbytes : (Layout.object (Layout.ofMembers ms) .none).bytes = (Json.obj ms).bytes :=
    Layout.bytes_ofJson (.obj ms)
  rwa [hbytes, Blanks.none, List.nil_append, List.append_nil] at hread

end Decoder

end Arbiter
