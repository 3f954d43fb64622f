import AcmeClient.Proofs.Settings.Values
import AcmeClient.Proofs.Text.Utf8

namespace AcmeClient

/-- A loader that fails in no other way than that it finds a text malformed. -/
def Yaml.Loader.Reports (loader : Yaml.Loader) : Prop :=
  ∀ text fault, loader text = .error fault → ∃ reason, fault = .malformed reason

namespace Settings

open Json

variable {value : Datum} {given : Option Datum} {settings : Settings} {content : Bytes} {defect : Defect}
  {files : FileTree} {place : Location} {loader : Yaml.Loader}

/-- The ordinary endings: settings, or a failure that is reported as one of settings. -/
def Foreseen {α : Type} : Except Failure α → Prop
  | .ok _ => True
  | .error (.fault fault) => fault.area = .settings
  | .error (.defect _) => False

/-- What is reported belongs to the area of settings. -/
def Refuses {α : Type} (read : Except Failure α) : Prop :=
  ∀ fault, read = .error (.fault fault) → fault.area = .settings

theorem foreseen_iff {α : Type} {read : Except Failure α} (refuses : Refuses read) :
    Foreseen read ↔ ∀ defect, read ≠ .error (.defect defect) := by
  cases read with
  | ok result => simp [Foreseen]
  | error failure =>
      cases failure with
      | fault fault => simp [Foreseen, refuses fault rfl]
      | defect defect => simp [Foreseen]

theorem Refuses.bind {α β : Type} {read : Except Failure α} {next : α → Except Failure β}
    (first : Refuses read) (later : ∀ result, Refuses (next result)) : Refuses (read >>= next) := by
  intro fault failed
  obtain failed | ⟨result, -, failed⟩ := bind_eq_error_iff.mp failed
  · exact first fault failed
  · exact later result fault failed

@[simp] theorem refuses_ok {α : Type} (result : α) : Refuses (.ok result : Except Failure α) := nofun

@[simp] theorem refuses_defect {α : Type} (defect : Defect) :
    Refuses (.error (.defect defect) : Except Failure α) := nofun

@[simp] theorem refuses_fail {α : Type} (cause : SettingFault) : Refuses (fail cause : Except Failure α) := by
  rintro _ ⟨⟩
  rfl

@[simp] theorem refuses_refuse {α : Type} (value : Datum) (cause : String → SettingFault) :
    Refuses (refuse value cause : Except Failure α) := by
  unfold refuse
  split
  · exact refuses_defect _
  · rintro _ ⟨⟩
    rfl

theorem refuses_readSection (name : String) (value : Datum) : Refuses (readSection name value) := by
  unfold readSection
  split
  · simp
  · split <;> simp

theorem refuses_readAttempts (given : Option Datum) : Refuses (readAttempts given) := by
  unfold readAttempts
  split
  · simp
  · split <;> simp
  · simp

theorem refuses_checkTimeout (given : Option Datum) : Refuses (checkTimeout given) := by
  unfold checkTimeout
  split
  · exact refuses_ok _
  · split <;> simp
  · split <;> simp
  · simp

theorem refuses_toSeconds (value : Datum) : Refuses (toSeconds value) := by
  obtain ⟨read, opened⟩ : ∃ read, read = toSeconds := ⟨_, rfl⟩
  obtain ⟨convert, named⟩ : ∃ convert, convert = Binary64.ofInt? := ⟨_, rfl⟩
  rw [← opened]
  delta toSeconds at opened
  rw [← named] at opened
  subst opened
  cases value with
  | int count => cases converted : convert count <;> simp [converted]
  | _ => simp

theorem refuses_readText (name : String) (given : Option Datum) : Refuses (readText name given) := by
  unfold readText
  split <;> simp

theorem refuses_readUrl (given : Option Datum) : Refuses (readUrl given) := by
  unfold readUrl
  split
  · simp
  · refine (refuses_readText _ _).bind fun url => ?_
    split <;> simp [pure, Except.pure]

theorem refuses_readLogging (value : Datum) : Refuses (readLogging value) := by
  have level (given : Option Datum) : Refuses (readLevel given) := by
    unfold readLevel
    split <;> simp
  have format (given : Option Datum) : Refuses (readFormat given) := by
    unfold readFormat
    split <;> simp
  exact (refuses_readSection _ _).bind fun _ => (level _).bind fun _ => (format _).bind fun _ =>
    refuses_ok _

theorem refuses_ofDatum (value : Datum) : Refuses (ofDatum value) :=
  (refuses_readSection _ _).bind fun _ => (refuses_readAttempts _).bind fun _ =>
    (refuses_checkTimeout _).bind fun _ => (refuses_readUrl _).bind fun _ =>
    (refuses_readText _ _).bind fun _ => (refuses_toSeconds _).bind fun _ =>
    (refuses_readText _ _).bind fun _ => (refuses_readLogging _).bind fun _ => refuses_ok _

theorem refuses_load (files : FileTree) (place : Location) (loader : Yaml.Loader) :
    Refuses (load files place loader) := by
  unfold load ofBytes
  split
  · simp
  · split
    · split
      · simp
      · split
        · exact refuses_ofDatum _
        · rintro _ ⟨⟩
          rfl
        · simp
    · rintro _ ⟨⟩
      rfl

theorem load_eq_ok_iff : load files place loader = .ok settings ↔ place.hasNull = false ∧
    ∃ content text value entries, files.read place = .ok content ∧
      Text.Utf8.decode content = .ok text ∧ loader (unifyLines text) = .ok value ∧
      Opens value entries ∧ entries.Gives settings := by
  unfold load ofBytes
  constructor
  · intro loaded
    split at loaded
    · contradiction
    rename_i nameable
    split at loaded
    · rename_i content read
      split at loaded
      · contradiction
      rename_i text decoded
      split at loaded
      · rename_i value parsed
        obtain ⟨entries, opens, gives⟩ := ofDatum_eq_ok_iff.mp loaded
        exact ⟨by simpa using nameable, content, text, value, entries, read, decoded, parsed, opens, gives⟩
      · contradiction
      · contradiction
    · contradiction
  · rintro ⟨nameable, content, text, value, entries, read, decoded, parsed, opens, gives⟩
    simp [nameable, read, decoded, parsed, ofDatum_eq_ok_iff.mpr ⟨entries, opens, gives⟩]

theorem load_eq_defect_iff_unforeseen : load files place loader = .error (.defect defect) ↔
    (place.hasNull ∧ defect = .nullInPath) ∨ place.hasNull = false ∧
      ∃ content, files.read place = .ok content ∧ Unforeseen loader content defect := by
  cases nameable : place.hasNull
  · simp [load_eq_defect_iff nameable]
  · simp [load, nameable, eq_comm (a := defect)]

theorem exists_undecodable_iff :
    (∃ e, Unforeseen loader content (.undecodable e)) ↔ ¬content.toByteArray.IsValidUTF8 := by
  rw [Text.Utf8.isValidUTF8_iff]
  constructor
  · rintro ⟨e, unforeseen⟩ ⟨text, decoded⟩
    cases unforeseen with
    | undecodable failed => simp [failed] at decoded
    | entries _ _ _ unforeseen => cases unforeseen
  · intro noText
    cases decoded : Text.Utf8.decode content with
    | error e => exact ⟨e, .undecodable decoded⟩
    | ok text => exact absurd ⟨text, decoded⟩ noText

/-- Beside bytes that are no text only numbers are not foreseen. -/
theorem Unforeseen.cases (reports : loader.Reports) (unforeseen : Unforeseen loader content defect) :
    (∃ e, defect = .undecodable e) ∨ defect = .hugeInteger ∨ defect = .longInteger none := by
  cases unforeseen with
  | undecodable => exact .inl ⟨_, rfl⟩
  | unloadable _ failed other =>
      obtain ⟨reason, same⟩ := reports _ _ failed
      exact absurd same (other reason)
  | entries _ _ _ unforeseen => cases unforeseen <;> simp

/-- Reading a settings file gives settings or a failure of their area, exactly if its path can be named and
nothing about its bytes is unforeseen. That leaves bytes that are no text, and numbers. -/
theorem load_ends (files : FileTree) (place : Location) (loader : Yaml.Loader) (reports : loader.Reports) :
    (Foreseen (load files place loader) ↔ place.hasNull = false ∧
      ∀ content, files.read place = .ok content → ∀ defect, ¬Unforeseen loader content defect) ∧
    (∀ settings, load files place loader = .ok settings ↔ place.hasNull = false ∧
      ∃ content text value entries, files.read place = .ok content ∧
        Text.Utf8.decode content = .ok text ∧ loader (unifyLines text) = .ok value ∧
        Opens value entries ∧ entries.Gives settings) ∧
    (∀ defect, load files place loader = .error (.defect defect) ↔
      (place.hasNull ∧ defect = .nullInPath) ∨ place.hasNull = false ∧
        ∃ content, files.read place = .ok content ∧ Unforeseen loader content defect) ∧
    (∀ content, (∃ e, Unforeseen loader content (.undecodable e)) ↔ ¬content.toByteArray.IsValidUTF8) ∧
    ∀ content defect, Unforeseen loader content defect →
      (∃ e, defect = .undecodable e) ∨ defect = .hugeInteger ∨ defect = .longInteger none := by
  refine ⟨?_, fun _ => load_eq_ok_iff, fun _ => load_eq_defect_iff_unforeseen, fun _ => exists_undecodable_iff,
    fun _ _ => Unforeseen.cases reports⟩
  rw [foreseen_iff (refuses_load files place loader)]
  simp only [ne_eq, load_eq_defect_iff_unforeseen]
  constructor
  · intro none
    have nameable := Bool.eq_false_iff.mpr fun null => none _ (.inl ⟨null, rfl⟩)
    exact ⟨nameable, fun content read defect unforeseen =>
      none defect (.inr ⟨nameable, content, read, unforeseen⟩)⟩
  · rintro ⟨nameable, none⟩ defect (⟨null, -⟩ | ⟨-, content, read, unforeseen⟩)
    · simp [nameable] at null
    · exact none content read defect unforeseen

/-- With a loader that knows one line, a file of this line gives its setting. -/
theorem load_ends_of_line :
    let line := "nonce_retry_attempts: 2\n"
    let loader : Yaml.Loader := fun text =>
      if text = line.toList then .ok (.map [(.text "nonce_retry_attempts", .int 2)])
      else .error (.malformed "another line")
    let content := Text.bytesOf line
    let files : FileTree := ⟨[(["client"], .file FileTree.publicMode content)], fun _ => none⟩
    loader.Reports ∧ load files ⟨"", ["client"]⟩ loader = .ok { attempts := 2 } ∧
      ∀ defect, ¬Unforeseen loader content defect := by
  intro line loader content files
  have reports : loader.Reports := by
    intro text fault failed
    simp only [loader] at failed
    split at failed
    · contradiction
    · exact ⟨_, (Except.error.inj failed).symm⟩
  obtain ⟨foreseen_iff, gives_iff, -⟩ := load_ends files ⟨"", ["client"]⟩ loader reports
  have gives : Section.Gives [(.text "nonce_retry_attempts", .int 2)] { attempts := 2 } :=
    ⟨.given (.int (by decide)), .absent, .absent, .absent, .absent, [], .null, .absent, .absent⟩
  have unified : unifyLines line.toList = line.toList := by simp [line, unifyLines]
  have known : loader (unifyLines line.toList) = .ok (.map [(.text "nonce_retry_attempts", .int 2)]) := by
    rw [unified]
    exact if_pos rfl
  have loaded := (gives_iff { attempts := 2 }).mpr
    ⟨rfl, content, line.toList, _, _, rfl, Text.Utf8.decode_encode _, known, .map, gives⟩
  exact ⟨reports, loaded, (foreseen_iff.mp (loaded ▸ trivial)).2 content rfl⟩

/-- A file that holds no text is not refused, and neither is one with a time limit beyond all numbers. -/
theorem undecodable_file_not_refused :
    let files : FileTree := ⟨[(["client"], .file FileTree.publicMode [0xff])], fun _ => none⟩
    ¬Foreseen (load files ⟨"", ["client"]⟩) ∧
      ¬Foreseen (ofDatum (.map [(.text "timeout_seconds", .int (Nat.pow 10 200 * Nat.pow 10 200))])) := by
  intro files
  have undecodable : ∃ defect, load files ⟨"", ["client"]⟩ = .error (.defect defect) := ⟨_, rfl⟩
  have unconvertible : Binary64.ofInt? (Nat.pow 10 200 * Nat.pow 10 200) = none := by decide +kernel
  have huge : ofDatum (.map [(.text "timeout_seconds", .int (Nat.pow 10 200 * Nat.pow 10 200))]) =
      .error (.defect .hugeInteger) :=
    ofDatum_eq_defect_iff.mpr ⟨_, rfl, .hugeInteger rfl rfl rfl rfl unconvertible⟩
  rw [foreseen_iff (refuses_load _ _ _), foreseen_iff (refuses_ofDatum _)]
  exact ⟨fun foreseen => undecodable.elim foreseen, fun foreseen => foreseen _ huge⟩

end Settings

end AcmeClient
