import AcmeClient.Proofs.Client.Replies
import AcmeClient.Proofs.Json.Standard

namespace AcmeClient.Response

open Json

variable {response : Response} {value : Json} {text : List Char} {count : Nat} {kind : String}

theorem json_eq_ok_iff_document : response.json = .ok value ↔
    ∃ text, Text.decodeDetected response.body = .ok text ∧ Document .accepted response.room text value :=
  json_eq_ok_iff.trans read_eq_ok_iff

theorem json_eq_ok_iff_of_decoded (decoded : Text.decodeDetected response.body = .ok text) :
    response.json = .ok value ↔ Document .accepted response.room text value := by
  simp only [json_eq_ok_iff_document, decoded, Except.ok.injEq, exists_eq_left']

/-- A body comes to a limit of the reader exactly if its text stops there. -/
theorem json_eq_defect_iff_stalls {fault : TextFault} {defect : Defect} (correct : ¬Mistaken fault)
    (escapes : (fault.locate []).Escapes defect) : response.json = .error (.defect defect) ↔
      ∃ text, Text.decodeDetected response.body = .ok text ∧ StallsIn fault response.room text := by
  rw [← read_eq_error_iff correct, json_eq_defect_iff]
  constructor
  · rintro ⟨e, read, others⟩
    rw [read, others.unique escapes]
  · exact fun read => ⟨_, read, escapes⟩

theorem json_eq_longInteger_iff : response.json = .error (.defect (.longInteger (some count))) ↔
    ∃ text, Text.decodeDetected response.body = .ok text ∧
      StallsIn (.longInteger count) response.room text :=
  json_eq_defect_iff_stalls (not_mistaken_longInteger count) (.longInteger count)

theorem json_eq_tooDeep_iff : response.json = .error (.defect (.tooDeep kind)) ↔
    ∃ text, Text.decodeDetected response.body = .ok text ∧
      StallsIn (.tooDeep kind) response.room text :=
  json_eq_defect_iff_stalls (not_mistaken_tooDeep kind) (.tooDeep kind)

/-- Reading fails for a body that cannot be read, or at a limit of the reader. -/
theorem json_eq_error {failure : Failure} (failed : response.json = .error failure) :
    (∃ message, failure = .fault (.unreadableBody message)) ∨
      (∃ count, failure = .defect (.longInteger (some count))) ∨
      ∃ kind, failure = .defect (.tooDeep kind) := by
  unfold json at failed
  split at failed <;> cases failed
  · exact .inr (.inl ⟨_, rfl⟩)
  · exact .inr (.inr ⟨_, rfl⟩)
  · exact .inl ⟨_, rfl⟩

/-- A document of the standard in UTF-8 is read as its value, unless it goes beyond a limit. -/
theorem json_standard (body : response.body = Text.Utf8.encode text)
    (document : Document .standard .ample text value) :
    response.json = .ok value ∨
      (∃ count, 4300 < count ∧ HasRun count text ∧
        response.json = .error (.defect (.longInteger (some count)))) ∨
      ∃ kind, response.room.IsExceeded text ∧ response.json = .error (.defect (.tooDeep kind)) := by
  have decoded : Text.decodeDetected response.body = .ok text := body ▸ document.decodeDetected
  obtain accepted | ⟨fault, stalls⟩ := document.accepted_or_stalls response.room
  · exact .inl ((json_eq_ok_iff_of_decoded decoded).mpr accepted)
  · have shows := stalls.shows
    cases fault with
    | mistake => exact shows.elim
    | longInteger count =>
        exact .inr (.inl ⟨count, shows.1, shows.2, json_eq_longInteger_iff.mpr ⟨text, decoded, stalls⟩⟩)
    | tooDeep kind => exact .inr (.inr ⟨kind, shows, json_eq_tooDeep_iff.mpr ⟨text, decoded, stalls⟩⟩)

/-- Every body comes to its value or to a failure. It is read exactly if it is a document in the encoding
that it is taken for, where words for what is no finite number and halves of pairs are all that goes beyond
the standard; and every document of the standard in UTF-8 is read, but for those in which an integer has
more than 4300 digits or more brackets are opened than there is room for. All the others are reported, but
for those that go beyond these limits. Of a text with halves, which a text in Unicode cannot have, only
whether it is read is said. -/
theorem json_reads (response : Response) :
    ((∃ value, response.json = .ok value) ↔ ∃ text value,
      Text.decodeDetected response.body = .ok text ∧ Document .accepted response.room text value) ∧
    (∀ text value, Text.decodeDetected response.body = .ok text → ¬HoldsHalf text →
      (response.json = .ok value ↔ Document .accepted response.room text value)) ∧
    (∀ value, response.json = .ok value → ∃ text, Text.decodeDetected response.body = .ok text ∧
      (Document .standard response.room text value ∨ IsForeign text)) ∧
    (∀ text value, response.body = Text.Utf8.encode text → Document .standard .ample text value →
      response.json = .ok value ∨
        (∃ count, 4300 < count ∧ HasRun count text ∧
          response.json = .error (.defect (.longInteger (some count)))) ∨
        ∃ kind, response.room.IsExceeded text ∧ response.json = .error (.defect (.tooDeep kind))) ∧
    (∀ failure, response.json = .error failure →
      (∃ message, failure = .fault (.unreadableBody message)) ∨
        (∃ count, failure = .defect (.longInteger (some count))) ∨
        ∃ kind, failure = .defect (.tooDeep kind)) ∧
    (∀ count, response.json = .error (.defect (.longInteger (some count))) ↔
      ∃ text, Text.decodeDetected response.body = .ok text ∧
        StallsIn (.longInteger count) response.room text) ∧
    ∀ kind, response.json = .error (.defect (.tooDeep kind)) ↔
      ∃ text, Text.decodeDetected response.body = .ok text ∧
        StallsIn (.tooDeep kind) response.room text := by
  refine ⟨?_, fun _ _ decoded _ => json_eq_ok_iff_of_decoded decoded, fun value known => ?_,
    fun _ _ => json_standard, fun _ => json_eq_error, fun _ => json_eq_longInteger_iff,
    fun _ => json_eq_tooDeep_iff⟩
  · simp only [json_eq_ok_iff_document]
    exact exists_comm
  · obtain ⟨text, decoded, document⟩ := json_eq_ok_iff_document.mp known
    exact ⟨text, decoded, document.standard_or_isForeign⟩

/-- A body in UTF-16, which is no text in UTF-8, is read as the document that it is there. -/
theorem json_of_other_encoding :
    (∀ text, Text.Utf8.encode text ≠ [0xFF, 0xFE, 0x31, 0x00]) ∧
      json ⟨200, [], [0xFF, 0xFE, 0x31, 0x00]⟩ = .ok (.int 1) := by
  constructor
  · intro text same
    have read := Text.Utf8.decode_eq_ok_iff.mpr same
    contradiction
  · have few : 1 ≤ maxIntegerDigits := by decide
    have one : Spells .accepted .ample (Numeral.spelled false ['1'] [] [] ++ []) _ [] :=
      .int (Numeral.isWhole_digits 1) few
    exact json_eq_ok_iff_document.mpr ⟨['1'], rfl, .value blank_nil one blank_nil⟩

end AcmeClient.Response
