import AcmeClient.Proofs.Number.Shortest
import AcmeClient.Proofs.Settings

namespace AcmeClient

namespace Binary64

theorem isPositive_eq_not_isNonpositive {x : Binary64} (number : x ≠ .nan) :
    x.isPositive = !x.isNonpositive := by
  cases x with
  | nan => exact absurd rfl number
  | infinite negative => rfl
  | finite negative magnitude => simp [isPositive, isNonpositive, bne]

theorem isPositive_iff {x : Binary64} : x.isPositive ↔ x ≠ .nan ∧ x.isNonpositive = false := by
  by_cases number : x = .nan
  · simp [number, isPositive]
  · simp [number, isPositive_eq_not_isNonpositive number]

theorem nearest_pos {num : Nat} (large : 2 ^ 53 ≤ num) : 0 < nearest num 1 := by
  have exponent : 1 ≤ Nat.log2 num - 52 := by
    have bits := (Nat.le_log2 (by omega)).mpr large
    omega
  have scaled := Nat.mul_le_mul_right (Nat.pow 2 52) exponent
  have some : 0 < Nat.pow 2 52 := by decide
  rw [nearest, Nat.div_one]
  omega

theorem isPositive_ofUnits {num : Nat} (large : 2 ^ 53 ≤ num) : (ofUnits false num 1).isPositive := by
  have above := nearest_pos large
  simp only [ofUnits]
  split
  · simp only [isPositive, Bool.not_false, Bool.true_and, bne_iff_ne, ne_eq, Fin.ext_iff, Fin.val_zero]
    omega
  · rfl

theorem isPositive_ofRatio {size : Nat} (positive : 0 < size) : (ofRatio false size 1).isPositive := by
  have scale : 2 ^ 53 ≤ one := by decide +kernel
  unfold ofRatio
  generalize one = unit at scale ⊢
  exact isPositive_ofUnits (scale.trans (Nat.le_mul_of_pos_left unit positive))

theorem ofRatio_of_ofInt? {count : Int} {x : Binary64} (positive : 0 < count)
    (converted : ofInt? count = some x) : ofRatio false count.natAbs 1 = x := by
  -- The conversion and the rounding in it get names before the one is opened, since what is left of a
  -- named function is never evaluated, and to evaluate these would be to round an unknown integer.
  obtain ⟨convert, opened⟩ : ∃ convert, convert = ofInt? := ⟨_, rfl⟩
  obtain ⟨round, named⟩ : ∃ round, round = ofRatio := ⟨_, rfl⟩
  rw [← opened] at converted
  delta ofInt? at opened
  rw [← named] at opened ⊢
  subst opened
  simp only [decide_eq_false positive.not_gt] at converted
  generalize round false count.natAbs 1 = nearby at converted ⊢
  cases nearby <;> cases converted <;> rfl

theorem isPositive_of_ofInt? {count : Int} {x : Binary64} (positive : 0 < count)
    (converted : ofInt? count = some x) : x.isPositive :=
  ofRatio_of_ofInt? positive converted ▸ isPositive_ofRatio (Int.natAbs_pos.mpr positive.ne')

end Binary64

namespace Settings

open Json

variable {value : Datum} {given : Option Datum} {settings : Settings} {entries : Section}

/-- A setting is the default if nothing is given for it, and otherwise what the given value stands for. -/
inductive Sets {α : Type} (default : α) (stands : Datum → α → Prop) : Option Datum → α → Prop
  | absent : Sets default stands none default
  | given {value : Datum} {setting : α} :
      stands value setting → Sets default stands (some value) setting

inductive IsCount : Datum → Int → Prop
  | int {count : Int} : 1 ≤ count → IsCount (.int count) count

/-- A time limit is a positive number. What is no number by the rules of arithmetic passes for one. -/
inductive IsDuration : Datum → Binary64 → Prop
  | int {count : Int} {x : Binary64} :
      0 < count → Binary64.ofInt? count = some x → IsDuration (.int count) x
  | float {x : Binary64} : x.isPositive → IsDuration (.float x) x
  | nan : IsDuration (.float .nan) .nan

inductive IsAddress : Datum → String → Prop
  | text {url : String} : url ≠ "" → IsAddress (.text url) url

inductive IsText : Datum → Option String → Prop
  | null : IsText .null none
  | text {s : String} : IsText (.text s) (some s)

inductive IsLevel : Datum → String → Prop
  | text {s : String} : IsLevel (.text s) (Text.upperString s)

inductive IsFormat : Datum → LogFormat → Prop
  | text {f : LogFormat} : IsFormat (.text f.name) f

/-- A section is a mapping or left out. An empty text or list, a zero and a negative answer pass for one
that is left out. -/
inductive Opens : Datum → Section → Prop
  | null : Opens .null []
  | map {entries : Section} : Opens (.map entries) entries
  | falsy {value : Datum} : value.isTruthy = false → Opens value []

/-- The settings that the entries of a file give. -/
structure Section.Gives (entries : Section) (settings : Settings) : Prop where
  attempts : Sets ({} : Settings).attempts IsCount (entries.find? "nonce_retry_attempts")
    settings.attempts
  timeout : Sets ({} : Settings).timeout IsDuration (entries.find? "timeout_seconds") settings.timeout
  directoryUrl : Sets ({} : Settings).directoryUrl IsAddress (entries.find? "directory_url")
    settings.directoryUrl
  userAgent : Sets ({} : Settings).userAgent IsText (entries.find? "user_agent") settings.userAgent
  storagePath : Sets ({} : Settings).storagePath IsText (entries.find? "storage_path")
    settings.storagePath
  logging : ∃ logging, Opens ((entries.find? "logging").getD .null) logging ∧
    Sets ({} : LogSettings).level IsLevel (Section.find? "level" logging) settings.logging.level ∧
    Sets ({} : LogSettings).format IsFormat (Section.find? "format" logging) settings.logging.format

@[simp] theorem sets_none_iff {α : Type} {default setting : α} {stands : Datum → α → Prop} :
    Sets default stands none setting ↔ default = setting :=
  ⟨fun | .absent => rfl, fun | rfl => .absent⟩

@[simp] theorem sets_some_iff {α : Type} {default setting : α} {stands : Datum → α → Prop} :
    Sets default stands (some value) setting ↔ stands value setting :=
  ⟨fun | .given stands => stands, .given⟩

theorem Sets.satisfies {α : Type} {default setting : α} {stands : Datum → α → Prop} {p : α → Prop}
    (sets : Sets default stands given setting) (absent : p default)
    (present : ∀ value, stands value setting → p setting) : p setting := by
  cases sets with
  | absent => exact absent
  | given stood => exact present _ stood

theorem readSection_eq_ok_iff {name : String} :
    readSection name value = .ok entries ↔ Opens value entries := by
  unfold readSection
  split
  · rename_i empty
    rw [Bool.not_eq_true'] at empty
    constructor
    · rintro ⟨⟩
      exact .falsy empty
    · rintro (_ | _ | _)
      · rfl
      · simpa [Datum.isTruthy] using empty
      · rfl
  · rename_i filled
    rw [Bool.not_eq_true', Bool.not_eq_false] at filled
    split
    · constructor
      · rintro ⟨⟩
        exact .map
      · rintro (_ | _ | empty)
        · rfl
        · simp [empty] at filled
    · rename_i noMapping
      constructor
      · exact fun read => absurd read (by simp [fail])
      · rintro (_ | _ | empty)
        · simp [Datum.isTruthy] at filled
        · exact absurd rfl (noMapping _)
        · simp [empty] at filled

theorem readAttempts_eq_ok_iff {count : Int} :
    readAttempts given = .ok count ↔ Sets ({} : Settings).attempts IsCount given count := by
  unfold readAttempts
  split
  · simp
  · rename_i count'
    rw [sets_some_iff]
    split
    · rename_i few
      refine ⟨fun read => absurd read (refuse_ne_ok _ _ _), ?_⟩
      rintro ⟨enough⟩
      omega
    · rename_i enough
      constructor
      · rintro ⟨⟩
        exact .int (by omega)
      · rintro ⟨-⟩
        rfl
  · rename_i noInteger
    rw [sets_some_iff]
    refine ⟨fun read => absurd read (refuse_ne_ok _ _ _), ?_⟩
    rintro ⟨-⟩
    exact absurd rfl (noInteger _)

theorem readText_eq_ok_iff {name : String} {text : Option String} :
    readText name given = .ok text ↔ Sets none IsText given text := by
  unfold readText
  split
  · simp
  · rw [sets_some_iff]
    exact ⟨fun | rfl => .null, fun | .null => rfl⟩
  · rw [sets_some_iff]
    exact ⟨fun | rfl => .text, fun | .text => rfl⟩
  · rename_i noNull noText
    rw [sets_some_iff]
    refine ⟨fun read => absurd read (by simp [fail]), ?_⟩
    rintro (_ | _)
    · exact absurd rfl noNull
    · exact absurd rfl (noText _)

theorem readUrl_eq_ok_iff {url : String} :
    readUrl given = .ok url ↔ Sets ({} : Settings).directoryUrl IsAddress given url := by
  cases given with
  | none => simp [readUrl]
  | some value =>
      simp only [readUrl, bind_eq_ok_iff, readText_eq_ok_iff, sets_some_iff]
      constructor
      · rintro ⟨_, _ | _, named⟩
        · simp [fail] at named
        · split at named
          · simp [fail] at named
          · simp [fail] at named
          · rename_i some noneEmpty same
            cases same
            cases named
            exact .text noneEmpty
      · rintro @⟨url, filled⟩
        exact ⟨some url, .text, by simp [pure, Except.pure]⟩

theorem readLevel_eq_ok_iff {level : String} :
    readLevel given = .ok level ↔ Sets ({} : LogSettings).level IsLevel given level := by
  unfold readLevel
  split
  · simp
  · rw [sets_some_iff]
    exact ⟨fun | rfl => .text, fun | .text => rfl⟩
  · rename_i noText
    rw [sets_some_iff]
    refine ⟨fun read => absurd read (by simp [fail]), ?_⟩
    rintro ⟨-⟩
    exact absurd rfl (noText _)

theorem readFormat_eq_ok_iff {format : LogFormat} :
    readFormat given = .ok format ↔ Sets ({} : LogSettings).format IsFormat given format := by
  unfold readFormat
  split
  · simp
  · rw [sets_some_iff]
    constructor
    · rintro ⟨⟩
      exact IsFormat.text (f := .text)
    · generalize named : Datum.text "text" = value
      rintro ⟨-⟩
      cases format
      · rfl
      · simp [LogFormat.name] at named
  · rw [sets_some_iff]
    constructor
    · rintro ⟨⟩
      exact IsFormat.text (f := .json)
    · generalize named : Datum.text "json" = value
      rintro ⟨-⟩
      cases format
      · simp [LogFormat.name] at named
      · rfl
  · rename_i noText noJson
    rw [sets_some_iff]
    refine ⟨fun read => absurd read (refuse_ne_ok _ _ _), ?_⟩
    rintro ⟨-⟩
    cases format
    · exact absurd rfl noText
    · exact absurd rfl noJson

theorem toSeconds_int_eq_ok_iff {count : Int} {seconds : Binary64} :
    toSeconds (.int count) = .ok seconds ↔ Binary64.ofInt? count = some seconds := by
  obtain ⟨read, opened⟩ : ∃ read, read = toSeconds := ⟨_, rfl⟩
  obtain ⟨convert, named⟩ : ∃ convert, convert = Binary64.ofInt? := ⟨_, rfl⟩
  rw [← opened, ← named]
  delta toSeconds at opened
  rw [← named] at opened
  subst opened
  cases converted : convert count <;> simp [converted]

@[simp] theorem toSeconds_float (x : Binary64) : toSeconds (.float x) = .ok x := rfl

/-- The time limit is checked first and converted after other settings are read. -/
theorem toSeconds_eq_ok_iff {seconds : Binary64} :
    (∃ timeout, checkTimeout given = .ok timeout ∧ toSeconds timeout = .ok seconds) ↔
      Sets ({} : Settings).timeout IsDuration given seconds := by
  unfold checkTimeout
  split
  · generalize Binary64.ofRatio false 30 1 = limit
    simp
  · rename_i count
    rw [sets_some_iff]
    split
    · rename_i few
      constructor
      · rintro ⟨_, checked, -⟩
        exact absurd checked (refuse_ne_ok _ _ _)
      · rintro (⟨some, -⟩ | _ | _)
        omega
    · rename_i some
      constructor
      · rintro ⟨_, ⟨⟩, converted⟩
        exact .int (by omega) (toSeconds_int_eq_ok_iff.mp converted)
      · rintro (⟨-, converted⟩ | _ | _)
        exact ⟨_, rfl, toSeconds_int_eq_ok_iff.mpr converted⟩
  · rename_i x
    rw [sets_some_iff]
    split
    · rename_i low
      constructor
      · rintro ⟨_, checked, -⟩
        exact absurd checked (refuse_ne_ok _ _ _)
      · rintro (_ | high | _)
        · simp [Binary64.isPositive_iff, low] at high
        · simp [Binary64.isNonpositive] at low
    · rename_i high
      constructor
      · rintro ⟨_, ⟨⟩, ⟨⟩⟩
        by_cases number : seconds = .nan
        · exact number ▸ .nan
        · exact .float (Binary64.isPositive_iff.mpr ⟨number, by simpa using high⟩)
      · rintro (_ | _ | _) <;> exact ⟨_, rfl, rfl⟩
  · rename_i noInteger noFloat
    rw [sets_some_iff]
    constructor
    · rintro ⟨_, checked, -⟩
      exact absurd checked (refuse_ne_ok _ _ _)
    · rintro (_ | _ | _)
      · exact absurd rfl (noInteger _)
      · exact absurd rfl (noFloat _)
      · exact absurd rfl (noFloat _)

theorem readLogging_eq_ok_iff {logging : LogSettings} :
    readLogging value = .ok logging ↔ ∃ entries, Opens value entries ∧
      Sets ({} : LogSettings).level IsLevel (Section.find? "level" entries) logging.level ∧
      Sets ({} : LogSettings).format IsFormat (Section.find? "format" entries) logging.format := by
  simp only [readLogging, bind_eq_ok_iff, readSection_eq_ok_iff, readLevel_eq_ok_iff, readFormat_eq_ok_iff]
  constructor
  · rintro ⟨entries, opens, level, leveled, format, formatted, ⟨⟩⟩
    exact ⟨entries, opens, leveled, formatted⟩
  · rintro ⟨entries, opens, leveled, formatted⟩
    exact ⟨entries, opens, _, leveled, _, formatted, rfl⟩

theorem ofDatum_eq_ok_iff :
    ofDatum value = .ok settings ↔ ∃ entries, Opens value entries ∧ entries.Gives settings := by
  simp only [ofDatum, bind_eq_ok_iff, readSection_eq_ok_iff, readAttempts_eq_ok_iff, readUrl_eq_ok_iff,
    readText_eq_ok_iff, readLogging_eq_ok_iff]
  refine exists_congr fun entries => and_congr_right fun _ => ?_
  constructor
  · rintro ⟨attempts, counted, timeout, checked, url, addressed, userAgent, named, seconds, timed,
      storagePath, placed, logging, logged, ⟨⟩⟩
    exact ⟨counted, toSeconds_eq_ok_iff.mp ⟨timeout, checked, timed⟩, addressed, named, placed, logged⟩
  · intro gives
    obtain ⟨timeout, checked, timed⟩ := toSeconds_eq_ok_iff.mpr gives.timeout
    exact ⟨_, gives.attempts, timeout, checked, _, gives.directoryUrl, _, gives.userAgent, _, timed, _,
      gives.storagePath, _, gives.logging, rfl⟩

namespace Section.Gives

variable (gives : entries.Gives settings)
include gives

theorem one_le_attempts : 1 ≤ settings.attempts :=
  gives.attempts.satisfies (by decide) fun | _, .int enough => enough

theorem directoryUrl_ne_empty : settings.directoryUrl ≠ "" :=
  gives.directoryUrl.satisfies (p := (· ≠ "")) (by decide) fun | _, .text filled => filled

theorem isPositive_timeout_iff :
    settings.timeout.isPositive ↔ entries.find? "timeout_seconds" ≠ some (.float .nan) := by
  have timeout := gives.timeout
  generalize settings.timeout = seconds at timeout ⊢
  generalize entries.find? "timeout_seconds" = given at timeout ⊢
  cases timeout with
  | absent => simp [Binary64.isPositive_ofRatio]
  | given duration =>
      cases duration with
      | int positive converted => simp [Binary64.isPositive_of_ofInt? positive converted]
      | float positive =>
          have number := (Binary64.isPositive_iff.mp positive).1
          simp [positive, number]
      | nan => simp [Binary64.isPositive]

end Section.Gives

/-- Settings are built exactly from a mapping, or something that passes for none, whose entries give them.
They then ask for one attempt at least and have an address, and their time limit is positive unless the
given one is no number. -/
theorem ofDatum_validates (value : Datum) (settings : Settings) :
    (ofDatum value = .ok settings ↔ ∃ entries, Opens value entries ∧ entries.Gives settings) ∧
    ∀ entries : Section, entries.Gives settings → 1 ≤ settings.attempts ∧ settings.directoryUrl ≠ "" ∧
      (settings.timeout.isPositive ↔ entries.find? "timeout_seconds" ≠ some (.float .nan)) :=
  ⟨ofDatum_eq_ok_iff, fun _ gives =>
    ⟨gives.one_le_attempts, gives.directoryUrl_ne_empty, gives.isPositive_timeout_iff⟩⟩

/-- A time limit that is no number is not refused, and neither is a list that is empty. -/
theorem no_number_accepted :
    (∃ settings, ofDatum (.map [(.text "timeout_seconds", .float .nan)]) = .ok settings ∧
      settings.timeout = .nan) ∧
    ∃ settings, ofDatum (.list []) = .ok settings := by
  constructor
  · exact ⟨_, rfl, rfl⟩
  · exact ⟨_, rfl⟩

end Settings

end AcmeClient
