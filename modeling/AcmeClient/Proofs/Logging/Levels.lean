import AcmeClient.Logging.Logger
import AcmeClient.Proofs.Settings.Values
import AcmeClient.Proofs.Text.LetterCase

namespace AcmeClient

namespace Settings

/-- The level text and the format that a section asks for, with the defaults for what it leaves out. -/
def Asks (value : Datum) (text : String) (format : LogFormat) : Prop :=
  ∃ entries, Opens value entries ∧
    Sets ({} : LogSettings).level (fun given text => given = .text text) (Section.find? "level" entries)
      text ∧
    Sets ({} : LogSettings).format IsFormat (Section.find? "format" entries) format

theorem sets_isLevel_iff {given : Option Datum} {level : String} :
    Sets ({} : LogSettings).level IsLevel given level ↔
      ∃ text, Sets ({} : LogSettings).level (fun given text => given = .text text) given text ∧
        level = Text.upperString text := by
  constructor
  · rintro (_ | _ | _)
    · exact ⟨_, .absent, by decide +kernel⟩
    · exact ⟨_, .given rfl, rfl⟩
  · rintro ⟨text, _ | ⟨rfl⟩, rfl⟩
    · have same : Text.upperString ({} : LogSettings).level = ({} : LogSettings).level := by
        decide +kernel
      exact same ▸ .absent
    · exact .given .text

/-- A section is accepted exactly if it asks for a level text and a format. The text is kept in
capitals. -/
theorem readLogging_eq_ok_iff_asks {value : Datum} {settings : LogSettings} :
    readLogging value = .ok settings ↔
      ∃ text format, Asks value text format ∧ settings = ⟨Text.upperString text, format⟩ := by
  rw [readLogging_eq_ok_iff]
  constructor
  · rintro ⟨entries, opens, leveled, formatted⟩
    obtain ⟨text, given, same⟩ := sets_isLevel_iff.mp leveled
    exact ⟨text, settings.format, ⟨entries, opens, given, formatted⟩, by rw [← same]⟩
  · rintro ⟨text, format, ⟨entries, opens, given, formatted⟩, rfl⟩
    exact ⟨entries, opens, sets_isLevel_iff.mpr ⟨text, given, rfl⟩, formatted⟩

end Settings

namespace Logging.Logger

variable {defect : Defect} {text : String} {level : Int} {logger : Logger} {settings : LogSettings}

/-- The level that a text names in any letter case. A text that names nothing stands for the level of
plain information. -/
inductive Stands (text : String) : Int → Prop
  | named {level : Int} : (Text.upperString text, level) ∈ Level.names → Stands text level
  | unnamed :
      Text.upperString text ∉ Level.names.map Prod.fst → Text.upperString text ≠ "BASIC_FORMAT" →
      Text.upperString text ≠ "_STYLES" → Stands text Level.info

theorem notMem_names_of_find?_eq_none {word : String}
    (absent : Level.names.find? (fun entry => entry.1 == word) = none) :
    word ∉ Level.names.map Prod.fst := by
  intro member
  obtain ⟨entry, listed, rfl⟩ := List.mem_map.mp member
  exact List.find?_eq_none.mp absent entry listed (beq_self_eq_true _)

/-- A name stands once among those of levels. -/
theorem find?_names_eq_some_iff {word : String} :
    Level.names.find? (fun entry => entry.1 == word) = some (word, level) ↔
      (word, level) ∈ Level.names := by
  refine ⟨List.mem_of_find?_eq_some, fun member => ?_⟩
  have found : ∀ entry ∈ Level.names,
      Level.names.find? (fun other => other.1 == entry.1) = some entry := by decide
  exact found (word, level) member

theorem levelOf_eq_error_iff :
    levelOf text = .error defect ↔
      (Text.upperString text = "BASIC_FORMAT" ∧ defect = .unknownLevel (Text.quotedString lineStyle)) ∨
        (Text.upperString text = "_STYLES" ∧ defect = .levelNotNumber styleTable) := by
  have unlisted (word : String) (other : word = "BASIC_FORMAT" ∨ word = "_STYLES") :
      Level.names.find? (fun entry => entry.1 == word) = none := by
    obtain rfl | rfl := other <;> decide
  unfold levelOf
  generalize Text.upperString text = word
  dsimp only
  cases found : Level.names.find? (fun entry => entry.1 == word) with
  | some entry =>
      have named : ¬ (word = "BASIC_FORMAT" ∨ word = "_STYLES") := fun other => by
        rw [unlisted word other] at found
        contradiction
      rw [not_or] at named
      simp [named]
  | none =>
      by_cases isStyle : word = "BASIC_FORMAT"
      · simp [isStyle, eq_comm (a := defect)]
      · by_cases isTable : word = "_STYLES" <;> simp [isStyle, isTable, eq_comm (a := defect)]

theorem levelOf_eq_ok_iff : levelOf text = .ok level ↔ Stands text level := by
  constructor
  · intro stood
    unfold levelOf at stood
    dsimp only at stood
    split at stood
    · rename_i name level' found
      have same : name = Text.upperString text := by simpa using List.find?_some found
      cases stood
      exact .named (same ▸ List.mem_of_find?_eq_some found)
    · rename_i absent
      split at stood
      · cases stood
      · rename_i noStyle
        split at stood
        · cases stood
        · rename_i noTable
          cases stood
          exact .unnamed (notMem_names_of_find?_eq_none absent) noStyle noTable
  · rintro (member | ⟨unlisted, noStyle, noTable⟩)
    · rw [levelOf, find?_names_eq_some_iff.mpr member]
    · have absent : Level.names.find? (fun entry => entry.1 == Text.upperString text) = none :=
        List.find?_eq_none.mpr fun entry listed same =>
          unlisted (List.mem_map.mpr ⟨entry, listed, beq_iff_eq.mp same⟩)
      simp only [levelOf]
      rw [absent]
      simp only [noStyle, noTable, if_false]

/-- A text that is in capitals already stands for what it stood for. -/
theorem levelOf_upperString (text : String) : levelOf (Text.upperString text) = levelOf text := by
  rw [levelOf, levelOf, Text.upperString_upperString]

theorem configure_eq_error_iff :
    logger.configure settings = .error defect ↔ levelOf settings.level = .error defect := by
  simp [configure, Json.bind_eq_error_iff, pure, Except.pure]

theorem configure_eq_ok_iff {next : Logger} :
    logger.configure settings = .ok next ↔
      ∃ level, Stands settings.level level ∧ next = ⟨logger.name, level, false, [settings.format]⟩ := by
  simp [configure, Json.bind_eq_ok_iff, pure, Except.pure, levelOf_eq_ok_iff, eq_comm (a := next)]

/-- The logger after a call. One that fails leaves it as it was. -/
def after (logger : Logger) (settings : LogSettings) : Logger :=
  match logger.configure settings with
  | .ok next => next
  | .error _ => logger

/-- The logger after some calls. -/
def afterAll (calls : List LogSettings) : Logger := calls.foldl after initial

theorem name_after (logger : Logger) (settings : LogSettings) :
    (logger.after settings).name = logger.name := by
  unfold after
  split
  · rename_i next configured
    obtain ⟨level, -, rfl⟩ := configure_eq_ok_iff.mp configured
    rfl
  · rfl

theorem name_foldl_after (logger : Logger) (calls : List LogSettings) :
    (calls.foldl after logger).name = logger.name := by
  induction calls generalizing logger with
  | nil => rfl
  | cons call calls ih => rw [List.foldl_cons, ih, name_after]

theorem name_afterAll (calls : List LogSettings) : (afterAll calls).name = "acmelib" :=
  name_foldl_after initial calls

theorem stands_upperString : Stands (Text.upperString text) level ↔ Stands text level := by
  rw [← levelOf_eq_ok_iff, levelOf_upperString, levelOf_eq_ok_iff]

/-- Whatever calls came before, a call with settings that were read from a section comes to the one
logger with the level that the text there stands for, one handler of the format there, and nothing
handed on; it fails exactly for the two words that stand where the names of levels do. -/
theorem configure_afterAll (earlier : List LogSettings) (text : String) (format : LogFormat) :
    (∀ value settings, Settings.readLogging value = .ok settings ↔
      ∃ text format, Settings.Asks value text format ∧ settings = ⟨Text.upperString text, format⟩) ∧
    (∀ logger, (afterAll earlier).configure ⟨Text.upperString text, format⟩ = .ok logger ↔
      ∃ level, Stands text level ∧ logger = ⟨"acmelib", level, false, [format]⟩) ∧
    ∀ defect, (afterAll earlier).configure ⟨Text.upperString text, format⟩ = .error defect ↔
      (Text.upperString text = "BASIC_FORMAT" ∧
          defect = .unknownLevel (Text.quotedString lineStyle)) ∨
        (Text.upperString text = "_STYLES" ∧ defect = .levelNotNumber styleTable) := by
  refine ⟨fun _ _ => Settings.readLogging_eq_ok_iff_asks, fun logger => ?_, fun defect => ?_⟩
  · simp only [configure_eq_ok_iff, name_afterAll, stands_upperString]
  · rw [configure_eq_error_iff, levelOf_upperString, levelOf_eq_error_iff]

/-- A call with settings that were read may fail. -/
theorem style_as_level_fails :
    ¬ ∀ (earlier : List LogSettings) (value : Datum) (settings : LogSettings),
      Settings.readLogging value = .ok settings →
        ∃ logger, (afterAll earlier).configure settings = .ok logger := by
  intro configures
  have capitals : Text.upperString "basic_format" = "BASIC_FORMAT" := by decide +kernel
  have named : levelOf "basic_format" = .error (.unknownLevel (Text.quotedString lineStyle)) :=
    levelOf_eq_error_iff.mpr (.inl ⟨capitals, rfl⟩)
  have failed : (afterAll []).configure ⟨Text.upperString "basic_format", .text⟩ =
      .error (.unknownLevel (Text.quotedString lineStyle)) :=
    configure_eq_error_iff.mpr ((levelOf_upperString _).trans named)
  obtain ⟨logger, configured⟩ := configures [] (.map [(.text "level", .text "basic_format")])
    ⟨Text.upperString "basic_format", .text⟩ rfl
  rw [failed] at configured
  cases configured

end Logging.Logger

end AcmeClient
