import AcmeClient.Proofs.Json.Members
import AcmeClient.Proofs.Json.Numerals

/-!
The grammar of JSON text, apart from its reader: which texts stand for which values. A phrase is said to
stand at the start of a text, with what comes after it, so that phrases follow each other without a text
being cut into pieces.
-/

namespace AcmeClient.Json

variable {c : Char} {text rest blanks : List Char} {position : Nat} {room inner : Room}

theorem Room.enter_of_inner? (opens : room.inner? = some inner) (kind : String) :
    room.enter kind = .ok inner := by
  rw [enter, opens]

theorem Room.enter_of_none (full : room.inner? = none) (kind : String) :
    room.enter kind = .error (.tooDeep kind) := by
  rw [enter, full]

/-- Whether a text is made of blanks. -/
def Blank (text : List Char) : Prop := ∀ c ∈ text, isBlank c = true

theorem blank_nil : Blank [] := List.all_eq_true.mp rfl

theorem blank_space : Blank [' '] := List.all_eq_true.mp rfl

theorem blank_append {first second : List Char} (before : Blank first) (after : Blank second) :
    Blank (first ++ second) := by
  intro c member
  obtain member | member := List.mem_append.mp member
  · exact before c member
  · exact after c member

/-- Whether a text starts with something else than a blank. -/
def Begins (text : List Char) : Prop := ∃ c rest, text = c :: rest ∧ isBlank c = false

theorem begins_cons (visible : isBlank c = false) : Begins (c :: rest) := ⟨c, rest, rfl, visible⟩

theorem skipBlank_visible (visible : isBlank c = false) :
    skipBlank position (c :: rest) = ⟨position, c :: rest⟩ := by
  rw [skipBlank, if_neg (by simp [visible])]

theorem skipBlank_append (position : Nat) (blank : Blank blanks) (begins : Begins rest) :
    ∃ next, skipBlank position (blanks ++ rest) = ⟨next, rest⟩ := by
  induction blanks generalizing position with
  | nil =>
      obtain ⟨c, rest, rfl, visible⟩ := begins
      exact ⟨position, skipBlank_visible visible⟩
  | cons c blanks ih =>
      rw [Blank, List.forall_mem_cons] at blank
      rw [List.cons_append, skipBlank, if_pos blank.1]
      exact ih (position + 1) blank.2

theorem skipBlank_mark (position : Nat) (blank : Blank blanks) (c : Char) (rest : List Char)
    (visible : isBlank c = false) : ∃ next, skipBlank position (blanks ++ c :: rest) = ⟨next, c :: rest⟩ :=
  skipBlank_append position blank (begins_cons visible)

theorem skipBlank_blank (position : Nat) (blank : Blank blanks) :
    ∃ next, skipBlank position blanks = ⟨next, []⟩ := by
  induction blanks generalizing position with
  | nil => exact ⟨position, rfl⟩
  | cons c blanks ih =>
      rw [Blank, List.forall_mem_cons] at blank
      rw [skipBlank, if_pos blank.1]
      exact ih (position + 1) blank.2

/-- What is skipped is blank. -/
theorem exists_blanks (position : Nat) (text : List Char) :
    ∃ blanks, Blank blanks ∧ text = blanks ++ (skipBlank position text).rest := by
  induction text generalizing position with
  | nil => exact ⟨[], blank_nil, rfl⟩
  | cons c text ih =>
      rw [skipBlank]
      split
      · rename_i blank
        obtain ⟨blanks, all, split⟩ := ih (position + 1)
        refine ⟨c :: blanks, List.forall_mem_cons.mpr ⟨blank, all⟩, ?_⟩
        rw [List.cons_append, ← split]
      · exact ⟨[], blank_nil, rfl⟩

theorem ends_cons (other : isBlank c = true ∨ c ∈ [',', ']', '}']) : Ends (c :: rest) := by
  rintro c ⟨⟩
  have listed : c ∈ [' ', '\t', '\n', '\r', ',', ']', '}'] := by
    obtain blank | closing := other
    · simp only [isBlank, Bool.or_eq_true, beq_iff_eq] at blank
      simp only [List.mem_cons]
      tauto
    · exact List.mem_append_right [' ', '\t', '\n', '\r'] closing
  simp only [List.mem_cons, List.not_mem_nil, or_false] at listed
  obtain rfl | rfl | rfl | rfl | rfl | rfl | rfl := listed <;> decide

theorem ends_append (blank : Blank blanks) (closing : c ∈ [',', ']', '}']) :
    Ends (blanks ++ c :: rest) := by
  cases blanks with
  | nil => exact ends_cons (.inr closing)
  | cons first blanks => exact ends_cons (.inl (blank first List.mem_cons_self))

theorem ends_blank (blank : Blank blanks) : Ends blanks := by
  cases blanks with
  | nil =>
      rintro c ⟨⟩
  | cons first blanks => exact ends_cons (.inl (blank first List.mem_cons_self))

/-- What a string is made of: characters, and codes of which two may make one character. -/
inductive StringPart where
  | char (c : Char)
  | code (unit : Nat)
deriving DecidableEq, Repr

/-- The characters that the parts of a string stand for. -/
def StringPart.meant : List StringPart → List Char
  | [] => []
  | .char c :: parts => c :: meant parts
  | .code high :: .code low :: parts =>
    if Text.Utf16.isHigh high && Text.Utf16.isLow low then
      Char.ofNat (Text.Utf16.join high low) :: meant parts
    else Text.Utf16.single high :: meant (.code low :: parts)
  | .code unit :: parts => Text.Utf16.single unit :: meant parts

/-- Whether a code is half of a pair that makes a character. -/
def IsHalf (unit : Nat) : Prop := (Text.Utf16.isHigh unit || Text.Utf16.isLow unit) = true

/-- Whether no half of a pair stands alone, so that the parts of a string make characters. -/
def StringPart.Paired : List StringPart → Prop
  | [] => True
  | .char _ :: parts => Paired parts
  | .code high :: .code low :: parts =>
    if Text.Utf16.isHigh high && Text.Utf16.isLow low then Paired parts
    else ¬IsHalf high ∧ Paired (.code low :: parts)
  | .code unit :: parts => ¬IsHalf unit ∧ Paired parts

theorem StringPart.paired_code {unit : Nat} {parts : List StringPart} (whole : ¬IsHalf unit)
    (paired : Paired parts) : Paired (.code unit :: parts) := by
  cases parts with
  | nil => exact ⟨whole, paired⟩
  | cons part parts =>
      cases part with
      | char c => exact ⟨whole, paired⟩
      | code low =>
          rw [Paired, if_neg]
          · exact ⟨whole, paired⟩
          · rw [Bool.and_eq_true]
            exact fun both => whole (by rw [IsHalf, both.1, Bool.true_or])

/-- The parts of a string stand at the start of a text, up to the quote that closes it. -/
inductive Quoted : List Char → List StringPart → List Char → Prop
  | close {rest : List Char} : Quoted ('"' :: rest) [] rest
  | char {c : Char} {text rest : List Char} {parts : List StringPart} :
      c ≠ '"' → c ≠ '\\' → 0x20 ≤ c.toNat → Quoted text parts rest →
      Quoted (c :: text) (.char c :: parts) rest
  | letter {name c : Char} {text rest : List Char} {parts : List StringPart} :
      escapeLetter? name = some c → Quoted text parts rest →
      Quoted ('\\' :: name :: text) (.char c :: parts) rest
  | code {first second third fourth : Char} {unit : Nat} {text rest : List Char}
      {parts : List StringPart} :
      hexCode? [first, second, third, fourth] = some unit → Quoted text parts rest →
      Quoted ('\\' :: 'u' :: first :: second :: third :: fourth :: text) (.code unit :: parts) rest

/-- A code that makes no character with the part after it stands for one by itself. -/
theorem StringPart.meant_code {unit : Nat} {parts : List StringPart}
    (alone : ∀ low later, parts = .code low :: later →
      Text.Utf16.isHigh unit = false ∨ Text.Utf16.isLow low = false) :
    meant (.code unit :: parts) = Text.Utf16.single unit :: meant parts := by
  cases parts with
  | nil => rfl
  | cons part parts =>
      cases part with
      | char c => rfl
      | code low =>
          rw [meant, if_neg]
          obtain noHigh | noLow := alone low parts rfl <;> simp [*]

/-- Whether a text adds a character to what the string after it stands for. -/
def Adds (c : Char) (text after : List Char) : Prop :=
  ∀ {parts rest}, Quoted after parts rest →
    ∃ more, Quoted text more rest ∧ StringPart.meant more = c :: StringPart.meant parts

theorem adds_letter {name c : Char} (known : escapeLetter? name = some c) (text : List Char) :
    Adds c ('\\' :: name :: text) text :=
  fun quoted => ⟨_, .letter known quoted, rfl⟩

/-- The standard's language, and the one that is read. -/
inductive Dialect where
  | standard
  | accepted
deriving DecidableEq, Repr

/-- What a string may be made of. By the standard no half of a pair stands alone; a half that does is
shown as the replacement character here, as it is where it is read. -/
def Dialect.Allows : Dialect → List StringPart → Prop
  | .standard, parts => StringPart.Paired parts
  | .accepted, _ => True

/-- A name stands at the start of a text, up to the colon after it and the blanks after this. -/
inductive Named (dialect : Dialect) : List Char → String → List Char → Prop
  | quoted {text before after rest : List Char} {parts : List StringPart} :
      dialect.Allows parts → Quoted text parts (before ++ ':' :: (after ++ rest)) → Blank before →
      Blank after → Named dialect ('"' :: text) (String.ofList (StringPart.meant parts)) rest

/-- The words that stand for values; the standard has none for what is no finite number. -/
def Dialect.words : Dialect → List (List Char × Json)
  | .standard => [("null".toList, .null), ("true".toList, .bool true), ("false".toList, .bool false)]
  | .accepted => Json.words

/-- How many digits an integer may have. -/
def Dialect.Admits : Dialect → Nat → Prop
  | .standard, _ => True
  | .accepted, count => count ≤ maxIntegerDigits

/-- What a text can start with: a value, or the items or members of one up to the mark that closes it. -/
inductive Phrase where
  | value (value : Json)
  | items (items : List Json)
  | members (members : List (String × Json))

/-- A phrase stands at the start of a text, in which no more brackets are open than there is room for. -/
inductive Spells (dialect : Dialect) : Room → List Char → Phrase → List Char → Prop
  | word {room : Room} {word rest : List Char} {value : Json} :
      (word, value) ∈ dialect.words → Spells dialect room (word ++ rest) (.value value) rest
  | int {room : Room} {negative : Bool} {whole rest : List Char} :
      Numeral.IsWhole whole → dialect.Admits whole.length →
      Spells dialect room (Numeral.spelled negative whole [] [] ++ rest)
        (.value (.int (if negative then -(ofDigits whole : Int) else ofDigits whole))) rest
  | float {room : Room} {negative : Bool} {whole fraction marks rest : List Char}
      {exponent : Option Int} :
      Numeral.IsWhole whole → (∀ c ∈ fraction, c.isDigit) → Numeral.Marks marks exponent →
      fraction ≠ [] ∨ exponent ≠ none →
      Spells dialect room (Numeral.spelled negative whole fraction marks ++ rest)
        (.value (.float (Binary64.ofDecimal negative (ofDigits (whole ++ fraction))
          (exponent.getD 0 - fraction.length)))) rest
  | str {room : Room} {text rest : List Char} {parts : List StringPart} :
      dialect.Allows parts → Quoted text parts rest →
      Spells dialect room ('"' :: text) (.value (.str (String.ofList (StringPart.meant parts)))) rest
  | emptyList {room inner : Room} {blanks rest : List Char} :
      room.inner? = some inner → Blank blanks →
      Spells dialect room ('[' :: (blanks ++ ']' :: rest)) (.value (.arr [])) rest
  | list {room inner : Room} {blanks text rest : List Char} {items : List Json} :
      room.inner? = some inner → Blank blanks → Spells dialect inner text (.items items) rest →
      Spells dialect room ('[' :: (blanks ++ text)) (.value (.arr items)) rest
  | emptyObject {room inner : Room} {blanks rest : List Char} :
      room.inner? = some inner → Blank blanks →
      Spells dialect room ('{' :: (blanks ++ '}' :: rest)) (.value (.obj [])) rest
  | object {room inner : Room} {blanks text rest : List Char} {members : List (String × Json)} :
      room.inner? = some inner → Blank blanks → Spells dialect inner text (.members members) rest →
      Spells dialect room ('{' :: (blanks ++ text)) (.value (.obj (Assoc.ofList members))) rest
  | lastItem {room : Room} {text blanks rest : List Char} {value : Json} :
      Spells dialect room text (.value value) (blanks ++ ']' :: rest) → Blank blanks →
      Spells dialect room text (.items [value]) rest
  | item {room : Room} {text before after later rest : List Char} {value : Json} {items : List Json} :
      Spells dialect room text (.value value) (before ++ ',' :: (after ++ later)) →
      Blank before → Blank after → Spells dialect room later (.items items) rest →
      Spells dialect room text (.items (value :: items)) rest
  | lastMember {room : Room} {text start blanks rest : List Char} {name : String} {value : Json} :
      Named dialect text name start →
      Spells dialect room start (.value value) (blanks ++ '}' :: rest) → Blank blanks →
      Spells dialect room text (.members [(name, value)]) rest
  | member {room : Room} {text start before after later rest : List Char} {name : String} {value : Json}
      {members : List (String × Json)} :
      Named dialect text name start →
      Spells dialect room start (.value value) (before ++ ',' :: (after ++ later)) →
      Blank before → Blank after → Spells dialect room later (.members members) rest →
      Spells dialect room text (.members ((name, value) :: members)) rest

/-- A text is that of one value, with blanks around it. -/
inductive Document (dialect : Dialect) (room : Room) : List Char → Json → Prop
  | value {before text after : List Char} {value : Json} :
      Blank before → Spells dialect room text (.value value) after → Blank after →
      Document dialect room (before ++ text) value

/-- What is being read: a value, or items or members up to the mark that closes them. -/
inductive Place where
  | value
  | items
  | members

/-- The brackets that open values, with the kinds of these. -/
def brackets : List (Char × String) := [('[', "array"), ('{', "object")]

theorem mem_brackets_list : ('[', "array") ∈ brackets := by decide

theorem mem_brackets_object : ('{', "object") ∈ brackets := by decide

/-- A text that starts as it may up to what cannot be read although it is no mistake: an integer with too
many digits, or a bracket for which there is no room. -/
inductive Stalls (fault : TextFault) : Room → Place → List Char → Prop
  | number {room : Room} {negative : Bool} {whole rest : List Char} :
      Numeral.IsWhole whole → fault = .longInteger whole.length → maxIntegerDigits < whole.length →
      Numeral.Stops rest → Stalls fault room .value (Numeral.spelled negative whole [] [] ++ rest)
  | bracket {room : Room} {opening : Char} {kind : String} {rest : List Char} :
      (opening, kind) ∈ brackets → fault = .tooDeep kind → room.inner? = none →
      Stalls fault room .value (opening :: rest)
  | list {room inner : Room} {blanks text : List Char} :
      room.inner? = some inner → Blank blanks → Stalls fault inner .items text →
      Stalls fault room .value ('[' :: (blanks ++ text))
  | object {room inner : Room} {blanks text : List Char} :
      room.inner? = some inner → Blank blanks → Stalls fault inner .members text →
      Stalls fault room .value ('{' :: (blanks ++ text))
  | item {room : Room} {text : List Char} :
      Stalls fault room .value text → Stalls fault room .items text
  | laterItem {room : Room} {text before after later : List Char} {value : Json} :
      Spells .accepted room text (.value value) (before ++ ',' :: (after ++ later)) →
      Blank before → Blank after → Stalls fault room .items later → Stalls fault room .items text
  | member {room : Room} {text start : List Char} {name : String} :
      Named .accepted text name start → Stalls fault room .value start → Stalls fault room .members text
  | laterMember {room : Room} {text start before after later : List Char} {name : String} {value : Json} :
      Named .accepted text name start →
      Spells .accepted room start (.value value) (before ++ ',' :: (after ++ later)) →
      Blank before → Blank after → Stalls fault room .members later → Stalls fault room .members text

/-- A text whose value is read up to where it stalls. -/
inductive StallsIn (fault : TextFault) (room : Room) : List Char → Prop
  | value {before text : List Char} :
      Blank before → Stalls fault room .value text → StallsIn fault room (before ++ text)

end AcmeClient.Json
