import AcmeClient.Logging.Formatter
import AcmeClient.Proofs.Json.Documents
import AcmeClient.Proofs.Json.Members

namespace AcmeClient

namespace Json

/-- The names in an object differ, at any depth. -/
inductive IsDistinct : Json → Prop
  | null : IsDistinct .null
  | bool (b : Bool) : IsDistinct (.bool b)
  | int (i : Int) : IsDistinct (.int i)
  | float (x : Binary64) : IsDistinct (.float x)
  | str (s : String) : IsDistinct (.str s)
  | arr (items : List Json) : (∀ item ∈ items, IsDistinct item) → IsDistinct (.arr items)
  | obj (members : List (String × Json)) : (members.map Prod.fst).Nodup →
      (∀ member ∈ members, IsDistinct member.2) → IsDistinct (.obj members)

theorem exists_hasLongInteger : ∃ i : Int, (Json.int i).hasLongInteger := by
  simp only [hasLongInteger_int]
  generalize 10 ^ maxIntegerDigits = limit
  exact ⟨limit, (Int.natAbs_natCast limit).ge⟩

theorem hasLongInteger_arr {items : List Json} :
    (Json.arr items).hasLongInteger ↔ ∃ item ∈ items, item.hasLongInteger := by
  induction items with
  | nil => simp [hasLongInteger, hasLongInteger.anyLong]
  | cons item items ih =>
      rw [hasLongInteger] at ih ⊢
      rw [hasLongInteger.anyLong, Bool.or_eq_true, ih]
      simp only [List.mem_cons, exists_eq_or_imp]

theorem hasLongInteger_obj {members : List (String × Json)} :
    (Json.obj members).hasLongInteger ↔ ∃ member ∈ members, member.2.hasLongInteger := by
  induction members with
  | nil => simp [hasLongInteger, hasLongInteger.anyMemberLong]
  | cons member members ih =>
      rw [hasLongInteger] at ih ⊢
      rw [hasLongInteger.anyMemberLong, Bool.or_eq_true, ih]
      simp only [List.mem_cons, exists_eq_or_imp]

theorem IsDistinct.isReadable {value : Json} (distinct : IsDistinct value)
    (short : value.hasLongInteger = false) : IsReadable value := by
  induction distinct with
  | null => exact .null
  | bool b => exact .bool b
  | int i =>
      rw [Bool.eq_false_iff, ne_eq, hasLongInteger_int, not_le] at short
      exact isReadable_int_iff.mpr short
  | float x => exact .float x
  | str s => exact .str s
  | arr items _ ih =>
      rw [Bool.eq_false_iff, ne_eq, hasLongInteger_arr] at short
      exact .arr items fun item member =>
        ih item member (Bool.eq_false_iff.mpr fun long => short ⟨item, member, long⟩)
  | obj members names _ ih =>
      rw [Bool.eq_false_iff, ne_eq, hasLongInteger_obj] at short
      exact .obj members names fun member listed =>
        ih member listed (Bool.eq_false_iff.mpr fun long => short ⟨member, listed, long⟩)

end Json

namespace Logging

variable {r : Record} {name : String} {value : Json} {time : List Char} {message : String}
  {defect : Defect} {moment : Moment}

/-- An extra is bytes or a value whose objects do not name a member twice. -/
def Extra.IsValue : Extra → Prop
  | .value content => content.IsDistinct
  | .bytes _ => True

theorem Extra.IsValue.isDistinct {extra : Extra} (isValue : extra.IsValue) : extra.toJson.IsDistinct := by
  cases extra with
  | value content => exact isValue
  | bytes content => exact .str _

namespace Record

/-- What an extra of a record says: nothing if its name is one of a record's own or starts with an
underscore, and otherwise the last value that the name was given. -/
def extra? (r : Record) (name : String) : Option Json :=
  if name ∈ ownNames ∨ name.toList.head? = some '_' then none
  else (Assoc.find? name r.extras.reverse).map Extra.toJson

/-- What a record says of the failure that it tells of, if it tells of one. -/
def failure? (r : Record) : Option Json :=
  match r.incident with
  | some (.raised name text) => some (.str (Incident.raised name text).text)
  | _ => none

/-- The names that no extra can take from a record. -/
def basicNames : List String := ["timestamp", "level", "logger", "message"]

end Record

/-- The members that every record has. -/
def basicMembers (r : Record) (time : List Char) (message : String) : List (String × Json) :=
  [("timestamp", .str (String.ofList time)), ("level", .str (Level.name r.level)),
    ("logger", .str r.logger), ("message", .str message)]

/-- The members that the extras of a record make. -/
def extraMembers (r : Record) : List (String × Json) :=
  ((Assoc.ofList r.extras).filter fun extra => isTold extra.1).map
    fun extra => (extra.1, extra.2.toJson)

theorem isTold_eq_false_iff : isTold name = false ↔ name ∈ ownNames ∨ name.toList.head? = some '_' := by
  simp [isTold, or_iff_not_imp_left]

theorem find?_extraMembers (r : Record) (name : String) :
    Assoc.find? name (extraMembers r) = r.extra? name := by
  rw [extraMembers, Assoc.find?_map, Assoc.find?_filter, Assoc.find?_ofList, Record.extra?]
  simp only [← isTold_eq_false_iff]
  cases isTold name <;> rfl

theorem lineMembers_eq (r : Record) (time : List Char) (message : String) :
    lineMembers r time message =
      let gathered := Assoc.addNew (extraMembers r) (basicMembers r time message)
      let members := match r.failure? with
        | some told => Assoc.insert "exception" told gathered
        | none => gathered
      if r.stack = "" then members else Assoc.insert "stack_info" (.str r.stack) members := by
  rw [extraMembers, Assoc.addNew, List.foldl_map, lineMembers, Record.failure?]
  cases r.incident with
  | none => rfl
  | some incident => cases incident <;> rfl

theorem find?_lineMembers (r : Record) (time : List Char) (message name : String) :
    Assoc.find? name (lineMembers r time message) =
      if name = "stack_info" ∧ r.stack ≠ "" then some (.str r.stack)
      else if name = "exception" ∧ r.failure?.isSome then r.failure?
      else (Assoc.find? name (basicMembers r time message)).or (r.extra? name) := by
  rw [lineMembers_eq, ← find?_extraMembers, ← Assoc.find?_addNew]
  cases r.failure? with
  | none => by_cases stack : r.stack = "" <;> simp [stack, Assoc.find?_insert]
  | some told => by_cases stack : r.stack = "" <;> simp [stack, Assoc.find?_insert]

theorem nodup_lineMembers (r : Record) (time : List Char) (message : String) :
    ((lineMembers r time message).map Prod.fst).Nodup := by
  have basic : ((basicMembers r time message).map Prod.fst).Nodup := by
    change ["timestamp", "level", "logger", "message"].Nodup
    decide
  have gathered := Assoc.nodup_addNew (extraMembers r) basic
  rw [lineMembers_eq]
  cases r.failure? with
  | none =>
      dsimp only
      split
      · exact gathered
      · exact Assoc.nodup_insert gathered
  | some told =>
      dsimp only
      split
      · exact Assoc.nodup_insert gathered
      · exact Assoc.nodup_insert (Assoc.nodup_insert gathered)

/-- An extra says something under a name that nothing else of the record takes. -/
structure Record.Yields (r : Record) (name : String) (value : Json) : Prop where
  free : name ∉ basicNames
  unfailed : ¬ (name = "exception" ∧ r.failure?.isSome)
  given : r.extra? name = some value

theorem find?_basicMembers_eq_none (other : name ∉ Record.basicNames) :
    Assoc.find? name (basicMembers r time message) = none := by
  simp only [Record.basicNames, List.mem_cons, List.not_mem_nil, or_false, not_or] at other
  obtain ⟨timestamp, level, logger, message⟩ := other
  simp only [basicMembers, Assoc.find?, if_neg (Ne.symm timestamp), if_neg (Ne.symm level),
    if_neg (Ne.symm logger), if_neg (Ne.symm message)]

theorem exists_str_of_basicMembers
    (found : Assoc.find? name (basicMembers r time message) = some value) : ∃ s, value = .str s := by
  have member := Assoc.mem_of_find? found
  simp only [basicMembers, List.mem_cons, List.not_mem_nil, or_false, Prod.mk.injEq] at member
  obtain ⟨-, rfl⟩ | ⟨-, rfl⟩ | ⟨-, rfl⟩ | ⟨-, rfl⟩ := member <;> exact ⟨_, rfl⟩

theorem exists_str_of_failure? (told : r.failure? = some value) : ∃ s, value = .str s := by
  unfold Record.failure? at told
  split at told
  · exact ⟨_, (Option.some.inj told).symm⟩
  · cases told

/-- A member of a line is text of the record's own, or what an extra of its name says. -/
theorem exists_str_or_extra (found : Assoc.find? name (lineMembers r time message) = some value) :
    (∃ s, value = .str s) ∨ r.Yields name value := by
  rw [find?_lineMembers] at found
  split at found
  · exact .inl ⟨_, (Option.some.inj found).symm⟩
  · rename_i noStack
    split at found
    · exact .inl (exists_str_of_failure? found)
    · rename_i noFailure
      obtain basic | ⟨absent, extra⟩ := Option.or_eq_some_iff.mp found
      · exact .inl (exists_str_of_basicMembers basic)
      · have free : name ∉ Record.basicNames := fun listed => by
          simp only [Record.basicNames, List.mem_cons, List.not_mem_nil, or_false] at listed
          obtain rfl | rfl | rfl | rfl := listed <;> simp [basicMembers, Assoc.find?] at absent
        exact .inr ⟨free, noFailure, extra⟩

theorem Record.Yields.find?_lineMembers (yields : r.Yields name value) :
    Assoc.find? name (lineMembers r time message) = some value := by
  have other : name ≠ "stack_info" := by
    rintro rfl
    have given := yields.given
    rw [Record.extra?, if_pos (by decide)] at given
    cases given
  rw [Logging.find?_lineMembers, if_neg (by simp [other]), if_neg yields.unfailed,
    find?_basicMembers_eq_none yields.free, Option.none_or, yields.given]

/-- How the members of a line tell of a record: what is always said stands under its own name, a failure
and a stack stand under theirs, and everything else is what the extras say. -/
structure Record.Tells (r : Record) (moment : Moment) (message : String)
    (members : List (String × Json)) : Prop where
  timestamp : Assoc.find? "timestamp" members = some (.str (String.ofList (exactTime moment)))
  level : Assoc.find? "level" members = some (.str (Level.name r.level))
  logger : Assoc.find? "logger" members = some (.str r.logger)
  message : Assoc.find? "message" members = some (.str message)
  exception : Assoc.find? "exception" members = r.failure?.or (r.extra? "exception")
  stack : Assoc.find? "stack_info" members = if r.stack = "" then none else some (.str r.stack)
  extra : ∀ name, name ∉ Record.basicNames ++ ["exception", "stack_info"] →
    Assoc.find? name members = r.extra? name
  distinct : (members.map Prod.fst).Nodup

theorem tells_lineMembers (r : Record) (moment : Moment) (message : String) :
    r.Tells moment message (lineMembers r (exactTime moment) message) where
  timestamp := by
    rw [find?_lineMembers, if_neg (by simp), if_neg (by simp)]
    rfl
  level := by
    rw [find?_lineMembers, if_neg (by simp), if_neg (by simp)]
    rfl
  logger := by
    rw [find?_lineMembers, if_neg (by simp), if_neg (by simp)]
    rfl
  message := by
    rw [find?_lineMembers, if_neg (by simp), if_neg (by simp)]
    rfl
  exception := by
    rw [find?_lineMembers, if_neg (by simp), find?_basicMembers_eq_none (by decide)]
    cases r.failure? <;> simp
  stack := by
    have own : r.extra? "stack_info" = none := if_pos (by decide)
    rw [find?_lineMembers, find?_basicMembers_eq_none (by decide), own]
    by_cases stack : r.stack = "" <;> simp [stack]
  extra := by
    intro name other
    simp only [List.mem_append, List.mem_cons, List.not_mem_nil, or_false, not_or] at other
    obtain ⟨free, noFailure, noStack⟩ := other
    rw [find?_lineMembers, if_neg (by simp [noStack]), if_neg (by simp [noFailure]),
      find?_basicMembers_eq_none free, Option.none_or]
  distinct := nodup_lineMembers r _ _

/-- What keeps a record from being told in a line: its message or its time cannot be told, or an extra
holds an integer that is too long. -/
inductive Record.Untold (r : Record) : Defect → Prop
  | message {defect : Defect} : r.message = .error defect → Untold r defect
  | time {message : String} {fault : TimestampFault} :
      r.message = .ok message → Calendar.exactMoment r.created = .error fault →
      Untold r (.timestamp fault)
  | integer {message : String} {moment : Moment} {name : String} {value : Json} :
      r.message = .ok message → Calendar.exactMoment r.created = .ok moment →
      r.Yields name value → value.hasLongInteger → Untold r (.longInteger none)

theorem hasLongInteger_lineMembers :
    (Json.obj (lineMembers r time message)).hasLongInteger ↔
      ∃ name value, r.Yields name value ∧ value.hasLongInteger := by
  rw [Json.hasLongInteger_obj]
  constructor
  · rintro ⟨⟨name, value⟩, member, long⟩
    have found := (Assoc.find?_eq_some_iff_mem (nodup_lineMembers r time message)).mpr member
    obtain ⟨s, rfl⟩ | yields := exists_str_or_extra found
    · cases long
    · exact ⟨name, value, yields, long⟩
  · rintro ⟨name, value, yields, long⟩
    exact ⟨(name, value), Assoc.mem_of_find? yields.find?_lineMembers, long⟩

theorem jsonLine_eq_error_iff : jsonLine r = .error defect ↔ r.Untold defect := by
  rw [jsonLine, Json.bind_eq_error_iff]
  constructor
  · rintro (failed | ⟨message, rendered, failed⟩)
    · exact .message failed
    · split at failed
      · rename_i fault timed
        cases failed
        exact .time rendered timed
      · rename_i moment timed
        dsimp only at failed
        split at failed
        · rename_i long
          obtain ⟨name, value, yields, long⟩ := hasLongInteger_lineMembers.mp long
          cases failed
          exact .integer rendered timed yields long
        · cases failed
  · rintro (failed | ⟨rendered, timed⟩ | ⟨rendered, timed, yields, long⟩)
    · exact .inl failed
    · refine .inr ⟨_, rendered, ?_⟩
      rw [timed]
      rfl
    · refine .inr ⟨_, rendered, ?_⟩
      rw [timed]
      dsimp only
      rw [if_pos (hasLongInteger_lineMembers.mpr ⟨_, _, yields, long⟩)]
      rfl

theorem exists_of_jsonLine_eq_ok {line : String} (told : jsonLine r = .ok line) :
    ∃ message moment, r.message = .ok message ∧ Calendar.exactMoment r.created = .ok moment ∧
      (Json.obj (lineMembers r (exactTime moment) message)).hasLongInteger = false ∧
      line.toList = Json.write .spaced (.obj (lineMembers r (exactTime moment) message)) := by
  obtain ⟨message, rendered, told⟩ := Json.bind_eq_ok_iff.mp told
  split at told
  · cases told
  · rename_i moment timed
    dsimp only at told
    split at told
    · cases told
    · rename_i short
      cases told
      exact ⟨message, moment, rendered, timed, Bool.eq_false_iff.mpr short, String.toList_ofList⟩

theorem isDistinct_of_extra? (values : ∀ extra ∈ r.extras, extra.2.IsValue)
    (given : r.extra? name = some value) : value.IsDistinct := by
  unfold Record.extra? at given
  split at given
  · cases given
  · obtain ⟨extra, found, rfl⟩ := Option.map_eq_some_iff.mp given
    have member := List.mem_reverse.mp (Assoc.mem_of_find? found)
    exact (values _ member).isDistinct

theorem isReadable_lineMembers (values : ∀ extra ∈ r.extras, extra.2.IsValue)
    (short : (Json.obj (lineMembers r time message)).hasLongInteger = false) :
    Json.IsReadable (.obj (lineMembers r time message)) := by
  have distinct : Json.IsDistinct (.obj (lineMembers r time message)) := by
    refine .obj _ (nodup_lineMembers r time message) fun member listed => ?_
    have found := (Assoc.find?_eq_some_iff_mem (nodup_lineMembers r time message)).mpr listed
    obtain ⟨s, text⟩ | yields := exists_str_or_extra found
    · rw [text]
      exact .str s
    · exact isDistinct_of_extra? values yields.given
  exact distinct.isReadable short

/-- A record is told in a line, unless its message or its time cannot be told or an extra holds an integer
that is too long. The line is printable and is read as one object, which tells what the record tells. The
extras are taken to nest no deeper than the stack of their writer allows. -/
theorem jsonLine_tells (r : Record) (values : ∀ extra ∈ r.extras, extra.2.IsValue) :
    (∀ defect, jsonLine r = .error defect ↔ r.Untold defect) ∧
      ∀ line, jsonLine r = .ok line → ∃ message moment members,
        r.message = .ok message ∧ Calendar.exactMoment r.created = .ok moment ∧
        (∀ c ∈ line.toList, IsPrintable c) ∧ Json.readText line.toList = .ok (.obj members) ∧
        r.Tells moment message members := by
  refine ⟨fun _ => jsonLine_eq_error_iff, fun line told => ?_⟩
  obtain ⟨message, moment, rendered, timed, short, written⟩ := exists_of_jsonLine_eq_ok told
  have readable := isReadable_lineMembers values short
  refine ⟨message, moment, _, rendered, timed, ?_, ?_, tells_lineMembers r moment message⟩
  · rw [written]
    exact fun c member => Json.isPrintable_writeAt Json.Layout.prints_spaced readable member
  · rw [written]
    exact Json.readText_write Json.Layout.separates_spaced readable

/-- A record of a failure, with extras of several kinds, among them such as nothing is told of. -/
def failedLogin : Record where
  level := 25
  logger := "acmelib\nforged"
  template := "no \"%s\""
  arguments := [.str "Zoë"]
  created := .whole 1700000000
  extras := [("timestamp", .value (.str "1970")), ("user", .value (.obj [("id", .int 7)])),
    ("raw", .bytes [0x0A, 0xFF]), ("exception", .value .null), ("_cached", .value (.bool true)),
    ("user", .value (.arr [.int 7, .null]))]
  incident := some (.raised "ValueError" "line\nbreak")
  stack := "Stack:\n  here"

theorem jsonLine_tells_failedLogin :
    (∀ extra ∈ failedLogin.extras, extra.2.IsValue) ∧
      ∃ line message moment members, jsonLine failedLogin = .ok line ∧
        failedLogin.message = .ok message ∧ Calendar.exactMoment failedLogin.created = .ok moment ∧
        (∀ c ∈ line.toList, IsPrintable c) ∧ Json.readText line.toList = .ok (.obj members) ∧
        failedLogin.Tells moment message members := by
  have values : ∀ extra ∈ failedLogin.extras, extra.2.IsValue := by
    have user : Json.IsDistinct (.obj [("id", .int 7)]) :=
      .obj _ (by decide) (List.forall_mem_singleton.mpr (.int 7))
    have users : Json.IsDistinct (.arr [.int 7, .null]) :=
      .arr _ (List.forall_mem_cons.mpr ⟨.int 7, List.forall_mem_singleton.mpr .null⟩)
    simp only [failedLogin, List.forall_mem_cons]
    exact ⟨.str _, user, trivial, .null, .bool _, users, List.forall_mem_nil _⟩
  refine ⟨values, ?_⟩
  cases told : jsonLine failedLogin with
  | ok line =>
      obtain ⟨message, moment, members, whole⟩ := (jsonLine_tells failedLogin values).2 line told
      exact ⟨line, message, moment, members, rfl, whole⟩
  | error defect =>
      have some : (jsonLine failedLogin).toOption.isSome := by decide +kernel
      rw [told] at some
      cases some

/-- A record of a year with five digits is not told in a line, and neither is one with an integer that
is too long. -/
theorem records_untold :
    ¬ (∀ r : Record, (∀ extra ∈ r.extras, extra.2.IsValue) → (∃ message, r.message = .ok message) →
        ∃ line, jsonLine r = .ok line) ∧
      ¬ ∀ r : Record, (∀ extra ∈ r.extras, extra.2.IsValue) → r.created = .whole 0 →
        (∃ message, r.message = .ok message) → ∃ line, jsonLine r = .ok line := by
  constructor
  · intro tells
    let late : Record :=
      { level := 20, logger := "acmelib", template := "m", created := .whole 253402300800 }
    have timed : Calendar.exactMoment late.created = .error (.year 10000) := by decide +kernel
    obtain ⟨line, told⟩ := tells late (List.forall_mem_nil _) ⟨"m", rfl⟩
    rw [jsonLine_eq_error_iff.mpr (.time rfl timed)] at told
    cases told
  · intro tells
    obtain ⟨size, tooLong⟩ := Json.exists_hasLongInteger
    let long : Record :=
      { level := 20, logger := "acmelib", template := "m", created := .whole 0
        extras := [("size", .value (.int size))] }
    have values : ∀ extra ∈ long.extras, extra.2.IsValue :=
      List.forall_mem_singleton.mpr (.int size)
    have yields : long.Yields "size" (.int size) :=
      ⟨by decide, fun named => absurd named.1 (by decide), rfl⟩
    obtain ⟨line, told⟩ := tells long values rfl ⟨"m", rfl⟩
    rw [jsonLine_eq_error_iff.mpr (.integer rfl rfl yields tooLong)] at told
    cases told

end Logging

end AcmeClient
