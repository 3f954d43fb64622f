import AcmeClient.Proofs.Json.Documents
import AcmeClient.Settings.File

namespace AcmeClient.Settings

open Json

variable {entries : Section} {value : Datum} {given : Option Datum} {defect : Defect}
  {content : Bytes} {settings : Settings} {loader : Yaml.Loader}

/-- A value is refused where a positive number is asked for, and cannot be shown. -/
def Unshowable (given : Option Datum) : Prop :=
  ∃ value, given = some value ∧ (∀ count, value = .int count → count < 1) ∧ hasLongInteger value

/-- What about the entries of a settings file is not foreseen, in the order in which they are read. -/
inductive Section.Unforeseen (entries : Section) : Defect → Prop
  | attempts :
      Unshowable (entries.find? "nonce_retry_attempts") → Unforeseen entries (.longInteger none)
  | timeout {attempts : Int} :
      readAttempts (entries.find? "nonce_retry_attempts") = .ok attempts →
      Unshowable (entries.find? "timeout_seconds") → Unforeseen entries (.longInteger none)
  /-- The time limit is an integer, and too large for one. -/
  | hugeInteger {attempts count : Int} {url : String} {userAgent : Option String} :
      readAttempts (entries.find? "nonce_retry_attempts") = .ok attempts →
      checkTimeout (entries.find? "timeout_seconds") = .ok (.int count) →
      readUrl (entries.find? "directory_url") = .ok url →
      readText "user_agent" (entries.find? "user_agent") = .ok userAgent →
      Binary64.ofInt? count = none → Unforeseen entries .hugeInteger
  | format {attempts : Int} {timeout value : Datum} {seconds : Binary64} {url level : String}
      {userAgent storagePath : Option String} {logging : Section} :
      readAttempts (entries.find? "nonce_retry_attempts") = .ok attempts →
      checkTimeout (entries.find? "timeout_seconds") = .ok timeout →
      readUrl (entries.find? "directory_url") = .ok url →
      readText "user_agent" (entries.find? "user_agent") = .ok userAgent →
      toSeconds timeout = .ok seconds →
      readText "storage_path" (entries.find? "storage_path") = .ok storagePath →
      readSection "logging" ((entries.find? "logging").getD .null) = .ok logging →
      readLevel (logging.find? "level") = .ok level →
      logging.find? "format" = some value → hasLongInteger value →
      Unforeseen entries (.longInteger none)

/-- What about a settings file is not foreseen. -/
inductive Unforeseen (loader : Yaml.Loader) (content : Bytes) : Defect → Prop
  | undecodable {e : Text.DecodeError} :
      Text.Utf8.decode content = .error e → Unforeseen loader content (.undecodable e)
  | unloadable {text : List Char} {fault : Yaml.Fault} :
      Text.Utf8.decode content = .ok text → loader (unifyLines text) = .error fault →
      (∀ reason, fault ≠ .malformed reason) → Unforeseen loader content (.unloadable fault)
  | entries {text : List Char} {value : Datum} {entries : Section} {defect : Defect} :
      Text.Utf8.decode content = .ok text → loader (unifyLines text) = .ok value →
      readSection "configuration root" value = .ok entries → entries.Unforeseen defect →
      Unforeseen loader content defect

theorem refuse_eq_defect_iff {α : Type} {cause : String → SettingFault} :
    (refuse value cause : Except Failure α) = .error (.defect defect) ↔
      hasLongInteger value ∧ defect = .longInteger none := by
  unfold refuse
  split
  · rename_i long
    simp [long, eq_comm (a := defect)]
  · rename_i short
    simp [short]

theorem refuse_few_eq_defect_iff {α : Type} {cause : String → SettingFault}
    (few : ∀ count, value = .int count → count < 1) :
    (refuse value cause : Except Failure α) = .error (.defect defect) ↔
      Unshowable (some value) ∧ defect = .longInteger none := by
  have unshowable : Unshowable (some value) ↔ hasLongInteger value := by
    constructor
    · rintro ⟨_, ⟨⟩, -, long⟩
      exact long
    · exact fun long => ⟨value, rfl, few, long⟩
  rw [refuse_eq_defect_iff, unshowable]

theorem refuse_ne_ok {α : Type} (value : Datum) (cause : String → SettingFault) (result : α) :
    refuse value cause ≠ .ok result := by
  unfold refuse
  split <;> simp

theorem readSection_ne_defect (name : String) (value : Datum) (defect : Defect) :
    readSection name value ≠ .error (.defect defect) := by
  unfold readSection
  split
  · simp
  · split <;> simp [fail]

theorem readText_ne_defect (name : String) (given : Option Datum) (defect : Defect) :
    readText name given ≠ .error (.defect defect) := by
  unfold readText
  split <;> simp [fail]

theorem readUrl_ne_defect (given : Option Datum) (defect : Defect) :
    readUrl given ≠ .error (.defect defect) := by
  unfold readUrl
  split
  · simp
  · rw [ne_eq, bind_eq_error_iff]
    rintro (failed | ⟨url, -, failed⟩)
    · exact readText_ne_defect _ _ _ failed
    · split at failed <;> cases failed

theorem readLevel_ne_defect (given : Option Datum) (defect : Defect) :
    readLevel given ≠ .error (.defect defect) := by
  unfold readLevel
  split <;> simp [fail]

theorem readAttempts_eq_defect_iff :
    readAttempts given = .error (.defect defect) ↔
      Unshowable given ∧ defect = .longInteger none := by
  unfold readAttempts
  split
  · simp [Unshowable]
  · split
    · rename_i few
      exact refuse_few_eq_defect_iff fun _ same => Datum.int.inj same ▸ few
    · rename_i enough
      simp [Unshowable, enough]
  · rename_i noInteger
    exact refuse_few_eq_defect_iff fun count same => absurd same (noInteger count)

theorem one_le_of_readAttempts {count : Int} (read : readAttempts given = .ok count) :
    1 ≤ count := by
  unfold readAttempts at read
  split at read
  · cases read
    decide
  · split at read
    · exact absurd read (refuse_ne_ok _ _ _)
    · cases read
      omega
  · exact absurd read (refuse_ne_ok _ _ _)

theorem checkTimeout_eq_defect_iff :
    checkTimeout given = .error (.defect defect) ↔
      Unshowable given ∧ defect = .longInteger none := by
  unfold checkTimeout
  split
  · simp [Unshowable]
  · split
    · rename_i few
      exact refuse_few_eq_defect_iff fun _ same => Datum.int.inj same ▸ Int.lt_add_one_of_le few
    · rename_i enough
      simp only [Unshowable, Option.some.injEq, exists_eq_left', Datum.int.injEq, forall_eq',
        reduceCtorEq, false_iff]
      omega
  · split <;> simp [refuse_eq_defect_iff, Unshowable, hasLongInteger]
  · rename_i noInteger _
    exact refuse_few_eq_defect_iff fun count same => absurd same (noInteger count)

theorem checkTimeout_ok (checked : checkTimeout given = .ok value) :
    (∃ x, value = .float x) ∨ ∃ count, value = .int count := by
  unfold checkTimeout at checked
  split at checked
  · exact .inl ⟨_, (Except.ok.inj checked).symm⟩
  · split at checked
    · exact absurd checked (refuse_ne_ok _ _ _)
    · exact .inr ⟨_, (Except.ok.inj checked).symm⟩
  · split at checked
    · exact absurd checked (refuse_ne_ok _ _ _)
    · exact .inl ⟨_, (Except.ok.inj checked).symm⟩
  · exact absurd checked (refuse_ne_ok _ _ _)

theorem toSeconds_eq_defect_iff (checked : checkTimeout given = .ok value) :
    toSeconds value = .error (.defect defect) ↔
      ∃ count, value = .int count ∧ Binary64.ofInt? count = none ∧ defect = .hugeInteger := by
  -- The conversion gets a name, since to look into it would be to convert an integer that is not known.
  obtain ⟨convert, named⟩ : ∃ convert, convert = Binary64.ofInt? := ⟨_, rfl⟩
  unfold toSeconds
  rw [← named]
  obtain ⟨x, rfl⟩ | ⟨count, rfl⟩ := checkTimeout_ok checked
  · simp
  · cases converted : convert count <;> simp [converted, eq_comm (a := defect)]

theorem readFormat_eq_defect_iff :
    readFormat given = .error (.defect defect) ↔
      ∃ value, given = some value ∧ hasLongInteger value ∧ defect = .longInteger none := by
  unfold readFormat
  split
  · simp
  · simp [hasLongInteger]
  · simp [hasLongInteger]
  · simp [refuse_eq_defect_iff]

theorem readLogging_eq_defect_iff :
    readLogging value = .error (.defect defect) ↔
      ∃ logging level shown, readSection "logging" value = .ok logging ∧
        readLevel (logging.find? "level") = .ok level ∧
        logging.find? "format" = some shown ∧ hasLongInteger shown ∧
        defect = .longInteger none := by
  simp [readLogging, bind_eq_error_iff, readSection_ne_defect, readLevel_ne_defect,
    readFormat_eq_defect_iff, pure, Except.pure]

theorem ofDatum_eq_defect_iff :
    ofDatum value = .error (.defect defect) ↔
      ∃ entries, readSection "configuration root" value = .ok entries ∧
        entries.Unforeseen defect := by
  simp only [ofDatum, bind_eq_error_iff, readSection_ne_defect, readUrl_ne_defect,
    readText_ne_defect, readAttempts_eq_defect_iff, checkTimeout_eq_defect_iff,
    readLogging_eq_defect_iff, false_or]
  constructor
  · rintro ⟨entries, opened, unforeseen⟩
    refine ⟨entries, opened, ?_⟩
    obtain ⟨refused, rfl⟩ | ⟨attempts, counted, unforeseen⟩ := unforeseen
    · exact .attempts refused
    obtain ⟨refused, rfl⟩ | ⟨timeout, checked, unforeseen⟩ := unforeseen
    · exact .timeout counted refused
    obtain ⟨url, addressed, userAgent, named, unforeseen⟩ := unforeseen
    rw [toSeconds_eq_defect_iff checked] at unforeseen
    obtain ⟨count, rfl, huge, rfl⟩ | ⟨seconds, timed, storagePath, placed, unforeseen⟩ := unforeseen
    · exact .hugeInteger counted checked addressed named huge
    obtain ⟨logging, level, shown, opens, leveled, found, long, rfl⟩ | ⟨_, _, done⟩ := unforeseen
    · exact .format counted checked addressed named timed placed opens leveled found long
    · cases done
  · rintro ⟨entries, opened, unforeseen⟩
    refine ⟨entries, opened, ?_⟩
    cases unforeseen with
    | attempts refused => exact .inl ⟨refused, rfl⟩
    | timeout counted refused => exact .inr ⟨_, counted, .inl ⟨refused, rfl⟩⟩
    | hugeInteger counted checked addressed named huge =>
        exact .inr ⟨_, counted, .inr ⟨_, checked, _, addressed, _, named,
          .inl ((toSeconds_eq_defect_iff checked).mpr ⟨_, rfl, huge, rfl⟩)⟩⟩
    | format counted checked addressed named timed placed opens leveled found long =>
        exact .inr ⟨_, counted, .inr ⟨_, checked, _, addressed, _, named,
          .inr ⟨_, timed, _, placed, .inl ⟨_, _, _, opens, leveled, found, long, rfl⟩⟩⟩⟩

theorem ofBytes_eq_defect_iff {path : String} :
    ofBytes path content loader = .error (.defect defect) ↔ Unforeseen loader content defect := by
  unfold ofBytes
  constructor
  · intro failed
    split at failed
    · rename_i e undecodable
      cases failed
      exact .undecodable undecodable
    · rename_i text decoded
      split at failed
      · rename_i value loaded
        obtain ⟨entries, opened, unforeseen⟩ := ofDatum_eq_defect_iff.mp failed
        exact .entries decoded loaded opened unforeseen
      · cases failed
      · rename_i fault other loaded
        cases failed
        exact .unloadable decoded loaded fun reason same => other reason same
  · intro unforeseen
    cases unforeseen with
    | undecodable undecodable => simp [undecodable]
    | unloadable decoded loaded other => simp only [decoded, loaded]
    | entries decoded loaded opened unforeseen =>
        simp only [decoded, loaded]
        exact ofDatum_eq_defect_iff.mpr ⟨_, opened, unforeseen⟩

theorem load_eq_defect_iff {files : FileTree} {place : Location} (nameable : place.hasNull = false) :
    load files place loader = .error (.defect defect) ↔
      ∃ content, files.read place = .ok content ∧ Unforeseen loader content defect := by
  rw [load, if_neg (by simp [nameable])]
  cases read : files.read place with
  | error e => simp
  | ok content => simp [ofBytes_eq_defect_iff]

theorem one_le_attempts_of_ofDatum (read : ofDatum value = .ok settings) : 1 ≤ settings.attempts := by
  obtain ⟨entries, -, read⟩ := exists_of_bind_eq_ok read
  obtain ⟨attempts, counted, read⟩ := exists_of_bind_eq_ok read
  obtain ⟨_, -, read⟩ := exists_of_bind_eq_ok read
  obtain ⟨_, -, read⟩ := exists_of_bind_eq_ok read
  obtain ⟨_, -, read⟩ := exists_of_bind_eq_ok read
  obtain ⟨_, -, read⟩ := exists_of_bind_eq_ok read
  obtain ⟨_, -, read⟩ := exists_of_bind_eq_ok read
  obtain ⟨_, -, read⟩ := exists_of_bind_eq_ok read
  cases read
  exact one_le_of_readAttempts counted

theorem one_le_attempts {files : FileTree} {place : Location}
    (loaded : load files place loader = .ok settings) : 1 ≤ settings.attempts := by
  unfold load ofBytes at loaded
  split at loaded
  · cases loaded
  · split at loaded
    · split at loaded
      · cases loaded
      · split at loaded
        · exact one_le_attempts_of_ofDatum loaded
        · cases loaded
        · cases loaded
    · cases loaded

end AcmeClient.Settings
