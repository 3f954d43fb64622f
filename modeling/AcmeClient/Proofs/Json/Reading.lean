import AcmeClient.Proofs.Json.Grammar
import Mathlib.Tactic.IntervalCases

namespace AcmeClient.Json

variable {c : Char} {text rest blanks : List Char} {opening position steps : Nat} {room inner : Room}

namespace Quoted

variable {parts : List StringPart} {unit : Nat} {first second third fourth : Char}

theorem suffix (quoted : Quoted text parts rest) : rest <:+ text := by
  induction quoted with
  | close => exact List.suffix_cons _ _
  | char _ _ _ _ ih => exact ih.trans (List.suffix_cons _ _)
  | letter _ _ ih => exact ih.trans ⟨['\\', _], rfl⟩
  | code _ _ ih => exact ih.trans ⟨['\\', 'u', _, _, _, _], rfl⟩

theorem ne_nil (quoted : Quoted text parts rest) : text ≠ [] := by
  cases quoted <;> exact List.cons_ne_nil _ _

/-- The escape of a code is that of a part. -/
theorem ne_code (quoted : Quoted text parts rest) (noCode : ∀ unit later, parts ≠ .code unit :: later)
    (low : List Char) : text ≠ '\\' :: 'u' :: low := by
  rintro rfl
  cases quoted with
  | char _ noBackslash => exact noBackslash rfl
  | letter known => contradiction
  | code => exact noCode _ _ rfl

theorem readString_letter {name : Char} (known : escapeLetter? name = some c) (read text : List Char) :
    ∃ next, readString opening position 0 read ('\\' :: name :: text) =
      readString opening next 0 (c :: read) text := by
  have escaped : escape? opening position ([name] ++ text) = .ok (c, 1) := escape?_letter known text
  exact readString_escape opening position read rfl escaped

theorem readString_single (read : List Char)
    (meant : codeEscape? (position + 1) (first :: second :: third :: fourth :: text) = .ok (c, 4)) :
    ∃ next, readString opening position 0 read
        ('\\' :: 'u' :: first :: second :: third :: fourth :: text) =
      readString opening next 0 (c :: read) text := by
  have escaped : escape? opening position (['u', first, second, third, fourth] ++ text) = .ok (c, 5) :=
    escape?_code meant
  exact readString_escape opening position read rfl escaped

/-- Whether an escaped code after a high half is taken together with it. -/
theorem codeEscape?_low {fifth sixth seventh eighth : Char} {high low : Nat}
    (code : hexCode? [first, second, third, fourth] = some high)
    (isHigh : Text.Utf16.isHigh high = true)
    (next : hexCode? [fifth, sixth, seventh, eighth] = some low) (follows : text ≠ []) :
    codeEscape? position
        (first :: second :: third :: fourth :: '\\' :: 'u' :: fifth :: sixth :: seventh :: eighth :: text) =
      if Text.Utf16.isLow low then .ok (Char.ofNat (Text.Utf16.join high low), 10)
      else .ok (Text.Utf16.single high, 4) := by
  have enough : 5 ≤ (fifth :: sixth :: seventh :: eighth :: text).length := by
    have some := List.length_pos_iff.mpr follows
    simp only [List.length_cons]
    omega
  have code : hexCode? (first :: second :: third :: fourth ::
      '\\' :: 'u' :: fifth :: sixth :: seventh :: eighth :: text) = some high := code
  exact codeEscape?_two position code isHigh rfl next enough

/-- A string is read up to the quote that closes it. -/
theorem reads (quoted : Quoted text parts rest) (opening position : Nat) (read : List Char) :
    Reads (readString opening position 0 read text)
      (String.ofList (read.reverse ++ StringPart.meant parts)) rest := by
  -- The induction follows the parts as they are taken together, two halves at a time.
  induction parts using StringPart.meant.induct generalizing text position read with
  | case1 =>
      cases quoted
      rw [readString, if_pos rfl, StringPart.meant, List.append_nil]
      exact ⟨position + 1, rfl⟩
  | case2 c parts ih =>
      obtain ⟨next, later, quoted, step⟩ : ∃ next later, Quoted later parts rest ∧
          readString opening position 0 read text = readString opening next 0 (c :: read) later := by
        cases quoted with
        | char noQuote noBackslash visible quoted =>
            refine ⟨position + 1, _, quoted, ?_⟩
            rw [readString, if_neg noQuote, if_neg noBackslash, if_neg (Nat.not_lt.mpr visible)]
        | letter known quoted =>
            obtain ⟨next, step⟩ := readString_letter known read _
            exact ⟨next, _, quoted, step⟩
      have reads := ih quoted next (c :: read)
      rwa [List.reverse_cons, List.append_assoc, List.singleton_append, ← step] at reads
  | case3 high low parts both ih =>
      rw [Bool.and_eq_true] at both
      obtain _ | _ | _ | ⟨code, _ | _ | _ | ⟨second, quoted⟩⟩ := quoted
      rename_i a b c d e f g h later
      have meant : codeEscape? (position + 1) (a :: b :: c :: d :: '\\' :: 'u' :: e :: f :: g :: h :: later) =
          .ok (Char.ofNat (Text.Utf16.join high low), 10) :=
        (codeEscape?_low code both.1 second quoted.ne_nil).trans (if_pos both.2)
      have escaped : escape? opening position
          (['u', a, b, c, d, '\\', 'u', e, f, g, h] ++ later) = .ok _ := escape?_code meant
      obtain ⟨next, step⟩ := readString_escape opening position read rfl escaped
      have reads := ih quoted next (Char.ofNat (Text.Utf16.join high low) :: read)
      rw [List.reverse_cons, List.append_assoc, List.singleton_append, ← step] at reads
      rwa [StringPart.meant, if_pos (by simp [both])]
  | case4 high low parts apart ih =>
      obtain _ | _ | _ | ⟨code, quoted⟩ := quoted
      rename_i a b c d later
      have meant : codeEscape? (position + 1) (a :: b :: c :: d :: later) =
          .ok (Text.Utf16.single high, 4) := by
        cases isHigh : Text.Utf16.isHigh high with
        | false => exact codeEscape?_single _ code quoted.ne_nil (.inl isHigh)
        | true =>
            have noLow : Text.Utf16.isLow low ≠ true := by simpa [isHigh] using apart
            obtain _ | _ | _ | ⟨second, after⟩ := quoted
            exact (codeEscape?_low code isHigh second after.ne_nil).trans (if_neg noLow)
      obtain ⟨next, step⟩ := readString_single read meant
      have reads := ih quoted next (Text.Utf16.single high :: read)
      rw [List.reverse_cons, List.append_assoc, List.singleton_append, ← step] at reads
      rwa [StringPart.meant, if_neg apart]
  | case5 unit parts alone ih =>
      obtain _ | _ | _ | ⟨code, quoted⟩ := quoted
      rename_i a b c d later
      have meant : codeEscape? (position + 1) (a :: b :: c :: d :: later) =
          .ok (Text.Utf16.single unit, 4) :=
        codeEscape?_single _ code quoted.ne_nil
          (.inr (quoted.ne_code fun low more same => alone low more same))
      obtain ⟨next, step⟩ := readString_single read meant
      have reads := ih quoted next (Text.Utf16.single unit :: read)
      rw [List.reverse_cons, List.append_assoc, List.singleton_append, ← step] at reads
      rwa [StringPart.meant]
      exact alone

end Quoted

theorem mem_decimals (digit : c.isDigit) : c ∈ "0123456789".toList := by
  obtain ⟨low, high⟩ := Char.isDigit_iff_toNat.mp digit
  have bounds : '0'.toNat = 48 ∧ '9'.toNat = 57 := by decide
  rw [bounds.1] at low
  rw [bounds.2] at high
  rw [← Char.ofNat_toNat c]
  interval_cases c.toNat <;> decide

/-- The characters that a phrase can start with. -/
def starters : List Char := "\"[\x7b-0123456789ntfNI".toList

theorem starter {p : Char → Prop} [DecidablePred p] (all : starters.all (fun c => decide (p c)) = true)
    (member : c ∈ starters) : p c :=
  of_decide_eq_true (List.all_eq_true.mp all c member)

/-- A text that starts with such a character, and goes on to a rest. -/
def Starts (text rest : List Char) : Prop := ∃ c more, text = c :: more ∧ c ∈ starters ∧ rest <:+ more

theorem Starts.begins (starts : Starts text rest) : Begins text := by
  obtain ⟨c, more, rfl, member, -⟩ := starts
  exact begins_cons (starter (p := (isBlank · = false)) (by decide) member)

theorem Starts.suffix (starts : Starts text rest) : rest <:+ text := by
  obtain ⟨c, more, rfl, -, left⟩ := starts
  exact left.trans (List.suffix_cons c more)

theorem Starts.length_lt (starts : Starts text rest) : rest.length < text.length := by
  obtain ⟨c, more, rfl, -, left⟩ := starts
  exact Nat.lt_succ_of_le left.length_le

theorem Starts.trans {later : List Char} (starts : Starts text rest) (left : later <:+ rest) :
    Starts text later := by
  obtain ⟨c, more, shape, member, within⟩ := starts
  exact ⟨c, more, shape, member, left.trans within⟩

theorem suffix_between (before : List Char) (mark : Char) (after rest : List Char) :
    rest <:+ before ++ mark :: (after ++ rest) :=
  (List.suffix_append after rest).trans ((List.suffix_cons mark _).trans (List.suffix_append before _))

theorem starts_spelled {negative : Bool} {whole : List Char} (isWhole : Numeral.IsWhole whole)
    (fraction marks : List Char) : Starts (Numeral.spelled negative whole fraction marks ++ rest) rest := by
  cases negative with
  | true => exact ⟨'-', _, rfl, by decide, List.suffix_append _ _⟩
  | false =>
      obtain ⟨first, more, rfl, -⟩ := isWhole.starts
      have digit := mem_decimals (isWhole.decimal first List.mem_cons_self)
      exact ⟨first, _, rfl, (by decide : "0123456789".toList ⊆ starters) digit, List.suffix_append _ _⟩

theorem starts_word {dialect : Dialect} {word : List Char} {value : Json}
    (listed : (word, value) ∈ dialect.words) : Starts (word ++ rest) rest := by
  cases dialect <;>
    simp only [Dialect.words, words, List.mem_cons, Prod.mk.injEq, List.not_mem_nil, or_false] at listed
  · obtain ⟨rfl, -⟩ | ⟨rfl, -⟩ | ⟨rfl, -⟩ := listed <;>
      exact ⟨_, _, rfl, by decide, List.suffix_append _ _⟩
  · obtain ⟨rfl, -⟩ | ⟨rfl, -⟩ | ⟨rfl, -⟩ | ⟨rfl, -⟩ | ⟨rfl, -⟩ | ⟨rfl, -⟩ := listed <;>
      exact ⟨_, _, rfl, by decide, List.suffix_append _ _⟩

theorem Named.starts {dialect : Dialect} {name : String} (named : Named dialect text name rest) :
    Starts text rest := by
  cases named with
  | quoted _ quoted => exact ⟨_, _, rfl, by decide, (suffix_between _ _ _ _).trans quoted.suffix⟩

theorem Spells.starts {dialect : Dialect} {phrase : Phrase}
    (spells : Spells dialect room text phrase rest) : Starts text rest := by
  induction spells with
  | word listed => exact starts_word listed
  | int isWhole => exact starts_spelled isWhole [] []
  | float isWhole => exact starts_spelled isWhole _ _
  | str _ quoted => exact ⟨_, _, rfl, by decide, quoted.suffix⟩
  | emptyList | emptyObject => exact ⟨_, _, rfl, by decide, suffix_between _ _ [] _⟩
  | list _ _ _ ih | object _ _ _ ih =>
      exact ⟨_, _, rfl, by decide, ih.suffix.trans (List.suffix_append _ _)⟩
  | lastItem _ _ ih => exact ih.trans (suffix_between _ _ [] _)
  | item _ _ _ _ first later => exact first.trans (later.suffix.trans (suffix_between _ _ _ _))
  | lastMember named _ _ ih => exact named.starts.trans ((suffix_between _ _ [] _).trans ih.suffix)
  | member named _ _ _ _ first later =>
      exact named.starts.trans ((later.suffix.trans (suffix_between _ _ _ _)).trans first.suffix)

variable {value : Json} {read items : List Json} {cursor : Cursor} {name : String}
  {members : List (String × Json)} {before after start later : List Char}

theorem readItems_last (first : Reads (readValue room steps cursor) value (blanks ++ ']' :: rest))
    (blank : Blank blanks) :
    Reads (readItems room (steps + 1) read cursor) (read.reverse ++ [value]) rest := by
  obtain ⟨next, first⟩ := first
  obtain ⟨last, skipped⟩ := skipBlank_mark next blank ']' rest rfl
  rw [readItems]
  simp only [first, bind, Except.bind, Cursor.skipBlank, skipped, pure, Except.pure,
    List.reverse_cons]
  exact ⟨_, rfl⟩

/-- After an item and a comma, reading goes on with the next one. -/
theorem readItems_more (first : Reads (readValue room steps cursor) value (before ++ ',' :: (after ++ text)))
    (blankBefore : Blank before) (blankAfter : Blank after) (begins : Begins text) :
    ∃ position, readItems room (steps + 1) read cursor =
      readItems room steps (value :: read) ⟨position, text⟩ := by
  obtain ⟨next, first⟩ := first
  obtain ⟨comma, found⟩ := skipBlank_mark next blankBefore ',' (after ++ text) rfl
  obtain ⟨start, skipped⟩ := skipBlank_append (comma + 1) blankAfter begins
  refine ⟨start, ?_⟩
  rw [readItems]
  simp only [first, bind, Except.bind, Cursor.skipBlank, found, skipped]

theorem Named.reads {dialect : Dialect} (named : Named dialect text name rest) (begins : Begins rest)
    (position : Nat) :
    Reads (readName ⟨position, text⟩) name rest := by
  obtain @⟨text, before, after, rest, parts, -, quoted, blankBefore, blankAfter⟩ := named
  obtain ⟨next, read⟩ := quoted.reads position (position + 1) []
  obtain ⟨colon, found⟩ := skipBlank_mark next blankBefore ':' (after ++ rest) rfl
  obtain ⟨start, skipped⟩ := skipBlank_append (colon + 1) blankAfter begins
  rw [readName]
  simp only [read, bind, Except.bind, pure, Except.pure, Cursor.skipBlank, found, skipped]
  exact ⟨start, rfl⟩

theorem listMembers_last {after : Cursor} (named : readName cursor = .ok (name, after))
    (first : Reads (readValue room steps after) value (blanks ++ '}' :: rest)) (blank : Blank blanks) :
    Reads (listMembers room (steps + 1) cursor) [(name, value)] rest := by
  obtain ⟨next, first⟩ := first
  obtain ⟨last, skipped⟩ := skipBlank_mark next blank '}' rest rfl
  rw [listMembers]
  simp only [named, first, bind, Except.bind, Cursor.skipBlank, skipped, pure, Except.pure]
  exact ⟨_, rfl⟩

theorem listMembers_more {found : Cursor} (named : readName cursor = .ok (name, found))
    (first : Reads (readValue room steps found) value (before ++ ',' :: (after ++ text)))
    (blankBefore : Blank before) (blankAfter : Blank after) (begins : Begins text) :
    ∃ position, listMembers room (steps + 1) cursor =
      (listMembers room steps ⟨position, text⟩).map fun (others, c) => ((name, value) :: others, c) := by
  obtain ⟨next, first⟩ := first
  obtain ⟨comma, found⟩ := skipBlank_mark next blankBefore ',' (after ++ text) rfl
  obtain ⟨start, skipped⟩ := skipBlank_append (comma + 1) blankAfter begins
  refine ⟨start, ?_⟩
  rw [listMembers]
  simp only [named, first, bind, Except.bind, Cursor.skipBlank, found, skipped]
  cases listMembers room steps ⟨start, text⟩ <;> rfl

/-- A list that does not close at once is read as its items. -/
theorem readValue_list (position steps : Nat) (opens : room.inner? = some inner) (blank : Blank blanks)
    (starts : Starts text rest) : ∃ next,
    readValue room (steps + 1) ⟨position, '[' :: (blanks ++ text)⟩ =
      (readItems inner steps [] ⟨next, text⟩).map fun (items, c) => (.arr items, c) := by
  obtain ⟨next, skipped⟩ := skipBlank_append (position + 1) blank starts.begins
  refine ⟨next, ?_⟩
  rw [readValue]
  simp only [Room.enter_of_inner? opens, bind, Except.bind, skipped]
  split
  · obtain ⟨c, more, opened, member, -⟩ := starts
    cases opened
    exact absurd member (by decide)
  · cases readItems inner steps [] ⟨next, text⟩ <;> rfl

/-- An object that does not close at once is read as its members. -/
theorem readValue_object (position steps : Nat) (opens : room.inner? = some inner) (blank : Blank blanks)
    (starts : Starts text rest) : ∃ next,
    readValue room (steps + 1) ⟨position, '{' :: (blanks ++ text)⟩ =
      (listMembers inner steps ⟨next, text⟩).map fun (members, c) => (.obj (Assoc.ofList members), c) := by
  obtain ⟨next, skipped⟩ := skipBlank_append (position + 1) blank starts.begins
  refine ⟨next, ?_⟩
  rw [readValue]
  simp only [Room.enter_of_inner? opens, bind, Except.bind, skipped]
  split
  · obtain ⟨c, more, opened, member, -⟩ := starts
    cases opened
    exact absurd member (by decide)
  · rw [readMembers_eq_listMembers]
    cases listMembers inner steps ⟨next, text⟩ <;> rfl

/-- What reading a phrase comes to, with enough steps. -/
def Phrase.IsRead (room : Room) : Phrase → List Char → List Char → Prop
  | .value value, text, rest => ∀ steps position, 2 * text.length ≤ steps → Ends rest →
    Reads (readValue room steps ⟨position, text⟩) value rest
  | .items items, text, rest => ∀ steps position read, 2 * text.length < steps →
    Reads (readItems room steps read ⟨position, text⟩) (read.reverse ++ items) rest
  | .members members, text, rest => ∀ steps position, 2 * text.length < steps →
    Reads (listMembers room steps ⟨position, text⟩) members rest

/-- The characters that no word and no number starts with, of those that matter. -/
def foreign : List Char := ['"', '[', '\x7b', ' ', '\t', '\n', '\r', ']']

theorem readPlain_foreign (other : c ∈ foreign) :
    readPlain ⟨position, c :: rest⟩ = .error (.mistake .noValue position) := by
  simp only [foreign, List.mem_cons, List.not_mem_nil, or_false] at other
  obtain rfl | rfl | rfl | rfl | rfl | rfl | rfl | rfl := other <;> rfl

theorem readValue_eq_readPlain (other : c ∉ foreign) (steps : Nat) :
    readValue room (steps + 1) ⟨position, c :: rest⟩ = readPlain ⟨position, c :: rest⟩ := by
  rw [readValue]
  split
  · rename_i opened
    cases opened
    exact absurd (by decide) other
  · rename_i opened
    cases opened
    exact absurd (by decide) other
  · rename_i opened
    cases opened
    exact absurd (by decide) other
  · rfl

/-- A value that is read as a word or a number, or fails as one, is read so. -/
theorem readValue_plain (known : readPlain ⟨position, text⟩ ≠ .error (.mistake .noValue position))
    (enough : 2 * text.length ≤ steps) : readValue room steps ⟨position, text⟩ = readPlain ⟨position, text⟩ := by
  cases text with
  | nil => exact absurd rfl known
  | cons c more =>
      rw [List.length_cons] at enough
      obtain ⟨steps, rfl⟩ : ∃ fewer, steps = fewer + 1 := ⟨steps - 1, by omega⟩
      exact readValue_eq_readPlain (fun other => known (readPlain_foreign other)) steps

theorem isRead_plain (reads : Ends rest → ∀ position, Reads (readPlain ⟨position, text⟩) value rest) :
    (Phrase.value value).IsRead room text rest := by
  intro steps position enough ends
  obtain ⟨last, read⟩ := reads ends position
  rw [readValue_plain (by simp [read]) enough]
  exact ⟨last, read⟩

theorem readPlain_word {word : List Char} (listed : (word, value) ∈ words) (position : Nat)
    (rest : List Char) : Reads (readPlain ⟨position, word ++ rest⟩) value rest := by
  simp only [words, List.mem_cons, Prod.mk.injEq, List.not_mem_nil, or_false] at listed
  obtain ⟨rfl, rfl⟩ | ⟨rfl, rfl⟩ | ⟨rfl, rfl⟩ | ⟨rfl, rfl⟩ | ⟨rfl, rfl⟩ | ⟨rfl, rfl⟩ := listed <;>
    exact ⟨_, rfl⟩

/-- What stands at the start of a text is read from it. -/
theorem Spells.isRead {phrase : Phrase} (spells : Spells .accepted room text phrase rest) :
    phrase.IsRead room text rest := by
  induction spells with
  | word listed => exact isRead_plain fun _ position => readPlain_word listed position _
  | @int room negative whole rest isWhole few =>
      exact isRead_plain fun ends position =>
        reads_spelled position isWhole (List.forall_mem_nil _) .none ends fun _ => if_neg (Nat.not_lt.mpr few)
  | @float room negative whole fraction marks rest exponent isWhole decimal marked broken =>
      have noInteger : ¬(fraction.isEmpty && exponent.isNone) = true := by
        cases fraction <;> cases exponent <;> simp_all
      exact isRead_plain fun ends position =>
        reads_spelled position isWhole decimal marked ends fun _ => if_neg noInteger
  | @str room text rest parts _ quoted =>
      intro steps position enough ends
      obtain ⟨next, read⟩ := quoted.reads position (position + 1) []
      rw [List.length_cons] at enough
      obtain ⟨steps, rfl⟩ : ∃ fewer, steps = fewer + 1 := ⟨steps - 1, by omega⟩
      rw [readValue]
      simp only [read, bind, Except.bind, pure, Except.pure]
      exact ⟨next, rfl⟩
  | @emptyList room inner blanks rest opens blank =>
      intro steps position enough ends
      rw [List.length_cons] at enough
      obtain ⟨steps, rfl⟩ : ∃ fewer, steps = fewer + 1 := ⟨steps - 1, by omega⟩
      obtain ⟨next, skipped⟩ := skipBlank_mark (position + 1) blank ']' rest rfl
      rw [readValue]
      simp only [Room.enter_of_inner? opens, bind, Except.bind, skipped]
      exact ⟨_, rfl⟩
  | @list room inner blanks text rest items opens blank spells ih =>
      intro steps position enough ends
      rw [List.length_cons, List.length_append] at enough
      obtain ⟨steps, rfl⟩ : ∃ fewer, steps = fewer + 1 := ⟨steps - 1, by omega⟩
      obtain ⟨next, step⟩ := readValue_list position steps opens blank spells.starts
      obtain ⟨last, read⟩ := ih steps next [] (by omega)
      rw [step, read]
      exact ⟨last, rfl⟩
  | @emptyObject room inner blanks rest opens blank =>
      intro steps position enough ends
      rw [List.length_cons] at enough
      obtain ⟨steps, rfl⟩ : ∃ fewer, steps = fewer + 1 := ⟨steps - 1, by omega⟩
      obtain ⟨next, skipped⟩ := skipBlank_mark (position + 1) blank '}' rest rfl
      rw [readValue]
      simp only [Room.enter_of_inner? opens, bind, Except.bind, skipped]
      exact ⟨_, rfl⟩
  | @object room inner blanks text rest members opens blank spells ih =>
      intro steps position enough ends
      rw [List.length_cons, List.length_append] at enough
      obtain ⟨steps, rfl⟩ : ∃ fewer, steps = fewer + 1 := ⟨steps - 1, by omega⟩
      obtain ⟨next, step⟩ := readValue_object position steps opens blank spells.starts
      obtain ⟨last, listed⟩ := ih steps next (by omega)
      rw [step, listed]
      exact ⟨last, rfl⟩
  | @lastItem room text blanks rest value spells blank ih =>
      intro steps position read enough
      obtain ⟨steps, rfl⟩ : ∃ fewer, steps = fewer + 1 := ⟨steps - 1, by omega⟩
      exact readItems_last (ih steps position (by omega) (ends_append blank (by decide))) blank
  | @item room text before after later rest value items first blankBefore blankAfter more ihFirst ihMore =>
      intro steps position read enough
      obtain ⟨steps, rfl⟩ : ∃ fewer, steps = fewer + 1 := ⟨steps - 1, by omega⟩
      have shorter := first.starts.length_lt
      simp only [List.length_append, List.length_cons] at shorter
      have reads := ihFirst steps position (by omega) (ends_append blankBefore (by decide))
      obtain ⟨next, step⟩ := readItems_more reads blankBefore blankAfter more.starts.begins
      have later := ihMore steps next (value :: read) (by omega)
      rwa [List.reverse_cons, List.append_assoc, List.singleton_append, ← step] at later
  | @lastMember room text start blanks rest name value named spells blank ih =>
      intro steps position enough
      obtain ⟨steps, rfl⟩ : ∃ fewer, steps = fewer + 1 := ⟨steps - 1, by omega⟩
      have shorter := named.starts.length_lt
      obtain ⟨next, read⟩ := named.reads spells.starts.begins position
      exact listMembers_last read (ih steps next (by omega) (ends_append blank (by decide))) blank
  | @member room text start before after later rest name value members named first blankBefore blankAfter
      more ihFirst ihMore =>
      intro steps position enough
      obtain ⟨steps, rfl⟩ : ∃ fewer, steps = fewer + 1 := ⟨steps - 1, by omega⟩
      have shorter := named.starts.length_lt
      have shortest := first.starts.length_lt
      simp only [List.length_append, List.length_cons] at shortest
      obtain ⟨next, read⟩ := named.reads first.starts.begins position
      have reads := ihFirst steps next (by omega) (ends_append blankBefore (by decide))
      obtain ⟨place, step⟩ := listMembers_more read reads blankBefore blankAfter more.starts.begins
      obtain ⟨last, listed⟩ := ihMore steps place (by omega)
      rw [step, listed]
      exact ⟨last, rfl⟩

theorem Document.readText (document : Document .accepted room text value) :
    Json.readText text room = .ok value := by
  obtain @⟨before, text, after, value, blankBefore, spells, blankAfter⟩ := document
  obtain ⟨next, skipped⟩ := skipBlank_append 0 blankBefore spells.starts.begins
  have enough : 2 * text.length ≤ 2 * (before ++ text).length + 2 := by
    rw [List.length_append]
    omega
  obtain ⟨last, read⟩ := spells.isRead _ next enough (ends_blank blankAfter)
  obtain ⟨ended, done⟩ := skipBlank_blank last blankAfter
  simp only [Json.readText, skipped, read, bind, Except.bind, Cursor.skipBlank, done, List.isEmpty_nil,
    if_true, pure, Except.pure]

variable {fault : TextFault}

/-- Reading comes to a fault, with enough steps. -/
def Place.IsStuck (fault : TextFault) (room : Room) : Place → List Char → Prop
  | .value, text => ∀ steps position, 2 * text.length ≤ steps →
    readValue room steps ⟨position, text⟩ = .error fault
  | .items, text => ∀ steps position read, 2 * text.length < steps →
    readItems room steps read ⟨position, text⟩ = .error fault
  | .members, text => ∀ steps position, 2 * text.length < steps →
    listMembers room steps ⟨position, text⟩ = .error fault

namespace Stalls

variable {place : Place}

theorem starts (stalls : Stalls fault room place text) : Starts text [] := by
  induction stalls with
  | number isWhole => exact (starts_spelled isWhole [] []).trans List.nil_suffix
  | bracket listed =>
      simp only [brackets, List.mem_cons, Prod.mk.injEq, List.not_mem_nil, or_false] at listed
      obtain ⟨rfl, -⟩ | ⟨rfl, -⟩ := listed <;> exact ⟨_, _, rfl, by decide, List.nil_suffix⟩
  | list | object => exact ⟨_, _, rfl, by decide, List.nil_suffix⟩
  | item _ ih => exact ih
  | laterItem first => exact first.starts.trans List.nil_suffix
  | member named | laterMember named => exact named.starts.trans List.nil_suffix

theorem isStuck (stalls : Stalls fault room place text) : place.IsStuck fault room text := by
  induction stalls with
  | @number room negative whole rest isWhole same long stops =>
      intro steps position enough
      subst same
      obtain ⟨length, read⟩ :=
        readPlain_spelled position negative isWhole (List.forall_mem_nil _) .none stops
      have counted : Numeral.value ⟨negative, whole, [], none, length⟩ =
          .error (.longInteger whole.length) := if_pos long
      rw [counted] at read
      rw [readValue_plain (by rw [read]; simp [Except.map]) enough, read]
      rfl
  | @bracket room opening kind rest listed same full =>
      intro steps position enough
      subst same
      rw [List.length_cons] at enough
      obtain ⟨steps, rfl⟩ : ∃ fewer, steps = fewer + 1 := ⟨steps - 1, by omega⟩
      simp only [brackets, List.mem_cons, Prod.mk.injEq, List.not_mem_nil, or_false] at listed
      obtain ⟨rfl, rfl⟩ | ⟨rfl, rfl⟩ := listed <;>
        (rw [readValue]; simp only [Room.enter_of_none full, bind, Except.bind])
  | @list room inner blanks text opens blank stalls ih =>
      intro steps position enough
      rw [List.length_cons, List.length_append] at enough
      obtain ⟨steps, rfl⟩ : ∃ fewer, steps = fewer + 1 := ⟨steps - 1, by omega⟩
      obtain ⟨next, step⟩ := readValue_list position steps opens blank stalls.starts
      rw [step, ih steps next [] (by omega)]
      rfl
  | @object room inner blanks text opens blank stalls ih =>
      intro steps position enough
      rw [List.length_cons, List.length_append] at enough
      obtain ⟨steps, rfl⟩ : ∃ fewer, steps = fewer + 1 := ⟨steps - 1, by omega⟩
      obtain ⟨next, step⟩ := readValue_object position steps opens blank stalls.starts
      rw [step, ih steps next (by omega)]
      rfl
  | item stalls ih =>
      intro steps position read enough
      obtain ⟨steps, rfl⟩ : ∃ fewer, steps = fewer + 1 := ⟨steps - 1, by omega⟩
      rw [readItems, ih steps position (by omega)]
      rfl
  | @laterItem room text before after later value first blankBefore blankAfter stalls ih =>
      intro steps position read enough
      obtain ⟨steps, rfl⟩ : ∃ fewer, steps = fewer + 1 := ⟨steps - 1, by omega⟩
      have shorter := first.starts.length_lt
      simp only [List.length_append, List.length_cons] at shorter
      have reads := first.isRead steps position (by omega) (ends_append blankBefore (by decide))
      obtain ⟨next, step⟩ := readItems_more reads blankBefore blankAfter stalls.starts.begins
      rw [step]
      exact ih steps next _ (by omega)
  | @member room text start name named stalls ih =>
      intro steps position enough
      obtain ⟨steps, rfl⟩ : ∃ fewer, steps = fewer + 1 := ⟨steps - 1, by omega⟩
      have shorter := named.starts.length_lt
      obtain ⟨next, read⟩ := named.reads stalls.starts.begins position
      rw [listMembers]
      simp only [read, bind, Except.bind, ih steps next (by omega)]
  | @laterMember room text start before after later name value named first blankBefore blankAfter stalls ih =>
      intro steps position enough
      obtain ⟨steps, rfl⟩ : ∃ fewer, steps = fewer + 1 := ⟨steps - 1, by omega⟩
      have shorter := named.starts.length_lt
      have shortest := first.starts.length_lt
      simp only [List.length_append, List.length_cons] at shortest
      obtain ⟨next, read⟩ := named.reads first.starts.begins position
      have reads := first.isRead steps next (by omega) (ends_append blankBefore (by decide))
      obtain ⟨place, step⟩ := listMembers_more read reads blankBefore blankAfter stalls.starts.begins
      rw [step, ih steps place (by omega)]
      rfl

end Stalls

theorem StallsIn.readText (stalls : StallsIn fault room text) :
    Json.readText text room = .error fault := by
  obtain @⟨before, text, blank, stalls⟩ := stalls
  obtain ⟨next, skipped⟩ := skipBlank_append 0 blank stalls.starts.begins
  have enough : 2 * text.length ≤ 2 * (before ++ text).length + 2 := by
    rw [List.length_append]
    omega
  have stuck := stalls.isStuck _ next enough
  simp only [Json.readText, skipped, stuck, bind, Except.bind]

end AcmeClient.Json
