import Arbiter.Http.Message
import Arbiter.Proofs.Json.Length
import Arbiter.Wire.Request

/-!
Bodies of submits. What the desk admits, the body says within the length that is accepted
(`SubmitRequest.length_le`), and it is read back as it was written (`SubmitRequest.decode_eq`) and
has no faults in length (`SubmitRequest.lengthFaults_eq_nil`).
-/

namespace Arbiter

open Decoder

/-! ### What is admitted -/

lemma length_of_checkLanguage {language : String} (h : checkLanguage language = .ok ()) :
    1 ≤ language.length ∧ language.length ≤ maxLanguageLength := by
  unfold checkLanguage at h
  split at h
  · cases h
  · rename_i hempty
    split at h
    · cases h
    · rename_i hlong
      have hpos : language.length ≠ 0 := fun hzero =>
        hempty (String.isEmpty_iff.2 (String.length_eq_zero_iff.1 hzero))
      omega

lemma length_of_checkCode {code : String} (h : checkCode code = .ok ()) :
    1 ≤ code.length ∧ code.length ≤ maxCodeLength := by
  unfold checkCode at h
  split at h
  · cases h
  · rename_i hblank
    split at h
    · cases h
    · rename_i hlong
      have hpos : code.length ≠ 0 := by
        intro hzero
        rw [String.length_eq_zero_iff.1 hzero] at hblank
        exact hblank rfl
      omega

namespace SubmitRequest

variable {r : SubmitRequest} {ms : List (String × Json)}

/-! ### Reading -/

/-- A submit when the fields of some names were read. -/
def upTo (r : SubmitRequest) (seen : List String) : SubmitRequest where
  problemId := if "problemId" ∈ seen then r.problemId else default
  language := if "language" ∈ seen then r.language else default
  code := if "code" ∈ seen then r.code else default

lemma decoder_eq (r : SubmitRequest) : decoder = record (r.upTo []) fields := by
  have hnil : r.upTo [] = default := rfl
  rw [hnil, decoder]

lemma builds (r : SubmitRequest) : Builds fields r.json.members r.upTo r where
  puts := by
    refine .cons (.required (reads_int64 r.problemId) nofun fun seen => ?_)
      (.cons (.required (reads_string r.language) nofun fun seen => ?_)
      (.cons (.required (reads_string r.code) nofun fun seen => ?_) .nil))
    all_goals simp [upTo]
  whole := by
    intro seen hgiven
    simp only [json, Json.members, List.forall_mem_cons] at hgiven
    obtain ⟨hproblem, hlanguage, hcode, -⟩ := hgiven
    unfold upTo
    rw [if_pos (hproblem nofun), if_pos (hlanguage nofun), if_pos (hcode nofun)]

theorem decode_eq (hms : ms.Perm r.json.members) : decode decoder (Json.obj ms).bytes = .ok r := by
  have hnodup : (fields.map (·.name)).Nodup := by decide
  have hplain : ∀ field ∈ r.json.members, Layout.IsPlain field.2 := by
    simp only [json, Json.members, List.forall_mem_cons]
    exact ⟨trivial, trivial, trivial, nofun⟩
  rw [r.decoder_eq]
  exact decode_bytes r.builds (r.builds.names ▸ hnodup) hplain hms

/-! ### Lengths -/

variable (hlanguage : checkLanguage r.language = .ok ()) (hcode : checkCode r.code = .ok ())
include hlanguage hcode

theorem length_le (hms : ms.Perm r.json.members) :
    (Json.obj ms).bytes.length ≤ Request.maxBodyLength := by
  have hobj := Json.length_obj_le ms
  have hnumber := Json.length_ofInt64_le r.problemId
  have htag : (Json.str r.language).bytes.length ≤ 6 * r.language.length + 2 :=
    Json.length_quoted_le r.language
  have hsource : (Json.str r.code).bytes.length ≤ 6 * r.code.length + 2 :=
    Json.length_quoted_le r.code
  have hnames : (Utf8.encodeChars (Json.quoted "problemId")).length = 11 ∧
      (Utf8.encodeChars (Json.quoted "language")).length = 10 ∧
      (Utf8.encodeChars (Json.quoted "code")).length = 6 := by decide
  have hsum : (ms.map Json.memberLength).sum = (r.json.members.map Json.memberLength).sum :=
    (hms.map _).sum_nat
  have hshort := (length_of_checkLanguage hlanguage).2
  have hfits := (length_of_checkCode hcode).2
  simp only [json, Json.members, List.map_cons, List.map_nil, List.sum_cons, List.sum_nil,
    Json.memberLength] at hsum
  unfold maxLanguageLength at hshort
  unfold maxCodeLength at hfits
  unfold Request.maxBodyLength
  omega

lemma lengthFaults_eq_nil : r.lengthFaults = [] := by
  unfold lengthFaults
  rw [if_pos (length_of_checkCode hcode), if_pos (length_of_checkLanguage hlanguage)]
  rfl

end SubmitRequest

end Arbiter
