import AcmeClient.Proofs.Json.RoundTrip
import AcmeClient.Proofs.Json.Soundness
import AcmeClient.Proofs.Text.Utf8

namespace AcmeClient

variable {c : Char} {text : List Char} {bytes : Bytes}

/-- The characters that are one byte each, other than null. -/
def IsPlain (c : Char) : Prop := 0 < c.toNat ∧ c.toNat < 0x80

instance (c : Char) : Decidable (IsPlain c) := inferInstanceAs (Decidable (_ ∧ _))

/-- The plain characters that are shown on a line, the blank among them. -/
def IsPrintable (c : Char) : Prop := ' ' ≤ c ∧ c ≤ '~'

instance (c : Char) : Decidable (IsPrintable c) := inferInstanceAs (Decidable (_ ∧ _))

theorem isPlain_of_isPrintable (printable : IsPrintable c) : IsPlain c := by
  have low : 32 ≤ c.toNat := printable.1
  have high : c.toNat ≤ 126 := printable.2
  exact ⟨by omega, by omega⟩

theorem isPlain_of_all (all : text.all (fun c => decide (IsPlain c)) = true) (member : c ∈ text) :
    IsPlain c :=
  of_decide_eq_true (List.all_eq_true.mp all c member)

theorem isPrintable_of_all (all : text.all (fun c => decide (IsPrintable c)) = true)
    (member : c ∈ text) : IsPrintable c :=
  of_decide_eq_true (List.all_eq_true.mp all c member)

theorem isPrintable_of_isDigit (digit : c.isDigit) : IsPrintable c := by
  obtain ⟨low, high⟩ := Char.isDigit_iff_toNat.mp digit
  have bounds : ' '.toNat ≤ '0'.toNat ∧ '9'.toNat ≤ '~'.toNat := by decide
  exact ⟨bounds.1.trans low, high.trans bounds.2⟩

theorem isPlain_of_isDigit (digit : c.isDigit) : IsPlain c :=
  isPlain_of_isPrintable (isPrintable_of_isDigit digit)

/-- Bytes are taken for UTF-8 if the first one is that of a plain character and the second one is not
null. -/
theorem Text.detect_of_plain {first : UInt8} (plain : 0 < first.toNat ∧ first.toNat < 0x80)
    (visible : ∀ b ∈ bytes.head?, b ≠ 0) : Encoding.detect (first :: bytes) = .utf8 0 := by
  have unmarked {mark : UInt8} {rest : Bytes} (foreign : mark.toNat = 0 ∨ 0x80 ≤ mark.toNat) :
      ¬ (mark :: rest).isPrefixOf (first :: bytes) = true := by
    intro starts
    obtain ⟨later, same⟩ := List.isPrefixOf_iff_prefix.mp starts
    cases same
    omega
  have present : first ≠ 0 := by
    rintro rfl
    exact absurd plain.1 (by decide)
  unfold Encoding.detect
  rw [if_neg (unmarked (by decide)), if_neg (unmarked (by decide)), if_neg (unmarked (by decide)),
    if_neg (unmarked (by decide)), if_neg (unmarked (by decide))]
  split
  · rename_i same
    cases same
    rw [if_neg present, if_neg (visible _ rfl)]
  · rename_i same
    cases same
    rw [if_neg present, if_neg (visible _ rfl)]
  · rfl

theorem Text.decodeDetected_encode (plain : IsPlain c) (visible : ∀ d ∈ text.head?, d ≠ '\x00') :
    decodeDetected (Utf8.encode (c :: text)) = .ok (c :: text) := by
  have bytes : Utf8.encode (c :: text) = UInt8.ofNat c.toNat :: Utf8.encode text := by
    rw [Utf8.encode_cons, Utf8.encodeChar_of_lt plain.2, List.singleton_append]
  have first : (UInt8.ofNat c.toNat).toNat = c.toNat :=
    Utf8.toNat_ofNat_of_lt (Nat.lt_trans plain.2 (by decide))
  have second : ∀ b ∈ (Utf8.encode text).head?, b ≠ 0 := by
    cases text with
    | nil =>
        rintro b ⟨⟩
    | cons d more =>
        obtain ⟨first, tail, written, read⟩ := Utf8.front_encodeChar d []
        rw [Utf8.encode_cons, written]
        rintro b ⟨⟩ rfl
        -- A null byte is read as the null character.
        have null : Utf8.front 0 (tail ++ []) = .char '\x00' 1 := rfl
        rw [null, Utf8.Front.char.injEq] at read
        exact visible d rfl read.1.symm
  have detected : Encoding.detect (UInt8.ofNat c.toNat :: Utf8.encode text) = .utf8 0 :=
    detect_of_plain (first.symm ▸ plain) second
  rw [decodeDetected, bytes, detected, ← bytes]
  exact Utf8.decodeFrom_encode true 0 _

namespace Json

variable {layout : Layout} {depth : Nat}

theorem isPlain_of_blank (blank : isBlank c = true) : IsPlain c := by
  simp only [isBlank, Bool.or_eq_true, beq_iff_eq] at blank
  obtain ((rfl | rfl) | rfl) | rfl := blank <;> decide

theorem isPrintable_hexDigits {code : Nat} (member : c ∈ hexDigits code) : IsPrintable c := by
  have digit (value : Nat) : IsPrintable (Bytes.hexDigit (value % 16)) :=
    Bytes.hexDigit_isPrintable (Nat.mod_lt _ (by decide))
  simp only [hexDigits, List.mem_cons, List.not_mem_nil, or_false] at member
  obtain rfl | rfl | rfl | rfl := member <;> exact digit _

theorem isPrintable_writeCode {written : Char} (member : written ∈ writeCode c) : IsPrintable written := by
  simp only [writeCode] at member
  by_cases small : c.toNat < 0x10000
  · rw [if_pos small, List.mem_cons, List.mem_cons] at member
    obtain rfl | rfl | member := member
    · decide
    · decide
    · exact isPrintable_hexDigits member
  · rw [if_neg small, List.mem_append, List.mem_cons, List.mem_cons, List.mem_cons,
      List.mem_cons] at member
    obtain (rfl | rfl | member) | rfl | rfl | member := member
    · decide
    · decide
    · exact isPrintable_hexDigits member
    · decide
    · decide
    · exact isPrintable_hexDigits member

theorem isPrintable_writeChar {written : Char} (member : written ∈ writeChar c) : IsPrintable written := by
  have pair {letter : Char} (printable : IsPrintable letter) (listed : written ∈ ['\\', letter]) :
      IsPrintable written := by
    simp only [List.mem_cons, List.not_mem_nil, or_false] at listed
    obtain rfl | rfl := listed
    · decide
    · exact printable
  unfold writeChar at member
  split_ifs at member with quote backslash newline carriage tab formFeed backspace printable
  · exact pair (by decide) member
  · exact pair (by decide) member
  · exact pair (by decide) member
  · exact pair (by decide) member
  · exact pair (by decide) member
  · exact pair (by decide) member
  · exact pair (by decide) member
  · rw [List.mem_singleton.mp member]
    exact printable
  · exact isPrintable_writeCode member

theorem isPrintable_writeString {s : String} (member : c ∈ writeString s) : IsPrintable c := by
  simp only [writeString, List.cons_append, List.mem_cons, List.mem_append, List.mem_flatMap,
    List.not_mem_nil, or_false] at member
  obtain rfl | ⟨letter, -, member⟩ | rfl := member
  · decide
  · exact isPrintable_writeChar member
  · decide

theorem isPrintable_signedDigits {i : Int} (member : c ∈ signedDigits i) : IsPrintable c := by
  unfold signedDigits at member
  split at member
  · obtain rfl | member := List.mem_cons.mp member
    · decide
    · exact isPrintable_of_isDigit (isDigit_of_mem_digits member)
  · exact isPrintable_of_isDigit (isDigit_of_mem_digits member)

theorem isPrintable_writeFloat {x : Binary64} (member : c ∈ writeFloat x) : IsPrintable c := by
  cases x with
  | nan => exact isPrintable_of_all (by decide : "NaN".toList.all _ = true) member
  | infinite negative =>
      cases negative
      · exact isPrintable_of_all (by decide : "Infinity".toList.all _ = true) member
      · exact isPrintable_of_all (by decide : "-Infinity".toList.all _ = true) member
  | finite negative magnitude =>
      change c ∈ Binary64.text (.finite negative magnitude) at member
      obtain digit | mark := Binary64.mem_text member
      · exact isPrintable_of_isDigit digit
      · exact isPrintable_of_all (by decide : Binary64.marks.all _ = true) mark

/-- A layout that stays on one line of printable characters. -/
structure Layout.Prints (layout : Layout) : Prop where
  comma : ∀ c ∈ layout.comma, IsPrintable c
  colon : ∀ c ∈ layout.colon, IsPrintable c
  lineBreak : ∀ depth, ∀ c ∈ layout.lineBreak depth, IsPrintable c

theorem Layout.prints_spaced : Layout.spaced.Prints := by
  refine ⟨?_, ?_, fun _ => List.forall_mem_nil _⟩
  · exact fun _ => isPrintable_of_all (by decide)
  · exact fun _ => isPrintable_of_all (by decide)

theorem mem_bracketed {opening closing : Char} {parts : List (List Char)} (prints : layout.Prints)
    (member : c ∈ bracketed layout depth opening closing parts) :
    c = opening ∨ c = closing ∨ IsPrintable c ∨ ∃ part ∈ parts, c ∈ part := by
  cases parts with
  | nil =>
      simp only [bracketed, List.mem_cons, List.not_mem_nil, or_false] at member
      tauto
  | cons part parts =>
      simp only [bracketed, List.cons_append, List.mem_cons, List.mem_append, List.mem_flatMap,
        List.not_mem_nil, or_false] at member
      obtain rfl | (((member | member) | ⟨other, listed, (member | member) | member⟩) | member) | rfl :=
        member
      · exact .inl rfl
      · exact .inr (.inr (.inl (prints.lineBreak _ c member)))
      · exact .inr (.inr (.inr ⟨part, List.mem_cons_self, member⟩))
      · exact .inr (.inr (.inl (prints.comma c member)))
      · exact .inr (.inr (.inl (prints.lineBreak _ c member)))
      · exact .inr (.inr (.inr ⟨other, List.mem_cons_of_mem _ listed, member⟩))
      · exact .inr (.inr (.inl (prints.lineBreak _ c member)))
      · exact .inr (.inl rfl)

theorem exists_of_mem_writeItems {items : List Json}
    (member : text ∈ writeAt.writeItems layout depth items) :
    ∃ item ∈ items, text = writeAt layout depth item := by
  induction items with
  | nil => contradiction
  | cons item items ih =>
      obtain rfl | member := List.mem_cons.mp member
      · exact ⟨item, List.mem_cons_self, rfl⟩
      · obtain ⟨other, listed, written⟩ := ih member
        exact ⟨other, List.mem_cons_of_mem _ listed, written⟩

theorem exists_of_mem_writeMembers {members : List (String × Json)}
    (member : text ∈ writeAt.writeMembers layout depth members) :
    ∃ entry ∈ members, text = writeMember layout depth entry := by
  induction members with
  | nil => contradiction
  | cons entry members ih =>
      obtain rfl | member := List.mem_cons.mp member
      · exact ⟨entry, List.mem_cons_self, rfl⟩
      · obtain ⟨other, listed, written⟩ := ih member
        exact ⟨other, List.mem_cons_of_mem _ listed, written⟩

theorem isPrintable_writeAt (prints : layout.Prints) {value : Json} (readable : IsReadable value)
    (member : c ∈ writeAt layout depth value) : IsPrintable c := by
  induction readable generalizing depth c with
  | null => exact isPrintable_of_all (by decide : "null".toList.all _ = true) member
  | bool b =>
      cases b
      · exact isPrintable_of_all (by decide : "false".toList.all _ = true) member
      · exact isPrintable_of_all (by decide : "true".toList.all _ = true) member
  | int i short => exact isPrintable_signedDigits member
  | float x => exact isPrintable_writeFloat member
  | str s => exact isPrintable_writeString member
  | arr items _ ih =>
      obtain rfl | rfl | printable | ⟨part, listed, member⟩ := mem_bracketed prints member
      · decide
      · decide
      · exact printable
      · obtain ⟨item, present, rfl⟩ := exists_of_mem_writeItems listed
        exact ih item present member
  | obj members _ _ ih =>
      obtain rfl | rfl | printable | ⟨part, listed, member⟩ := mem_bracketed prints member
      · decide
      · decide
      · exact printable
      · obtain ⟨entry, present, rfl⟩ := exists_of_mem_writeMembers listed
        simp only [writeMember, List.mem_append] at member
        obtain (member | member) | member := member
        · exact isPrintable_writeString member
        · exact prints.colon c member
        · exact ih entry present member

variable {rest : List Char} {room : Room}

/-- Whether no null character stands before the rest of a text. -/
def Shows (text rest : List Char) : Prop := ∀ c ∈ text, c ≠ '\x00' ∨ c ∈ rest

theorem Shows.trans {later : List Char} (shows : Shows text later) (more : Shows later rest) :
    Shows text rest := by
  intro c member
  obtain visible | member := shows c member
  · exact .inl visible
  · exact more c member

theorem shows_append (visible : ∀ c ∈ text, c ≠ '\x00') : Shows (text ++ rest) rest := by
  intro c member
  obtain member | member := List.mem_append.mp member
  · exact .inl (visible c member)
  · exact .inr member

theorem shows_cons (visible : c ≠ '\x00') : Shows (c :: rest) rest := by
  have single : ∀ d ∈ [c], d ≠ '\x00' := List.forall_mem_singleton.mpr visible
  exact shows_append single

theorem ne_null_of_isPlain (plain : IsPlain c) : c ≠ '\x00' := by
  rintro rfl
  exact absurd plain (by decide)

theorem shows_blank {blanks : List Char} (blank : Blank blanks) : Shows (blanks ++ rest) rest :=
  shows_append fun c member => ne_null_of_isPlain (isPlain_of_blank (blank c member))

theorem shows_between {before after : List Char} {mark : Char} (blankBefore : Blank before)
    (visible : mark ≠ '\x00') (blankAfter : Blank after) :
    Shows (before ++ mark :: (after ++ rest)) rest :=
  (shows_blank blankBefore).trans ((shows_cons visible).trans (shows_blank blankAfter))

theorem Quoted.shows {parts : List StringPart} (quoted : Quoted text parts rest) : Shows text rest := by
  have digit {c : Char} {value : Nat} (known : Bytes.hexValue? c = some value) : c ≠ '\x00' := by
    rintro rfl
    contradiction
  have digits {first second third fourth : Char} {unit : Nat}
      (code : hexCode? [first, second, third, fourth] = some unit) :
      ∀ c ∈ ['\\', 'u', first, second, third, fourth], c ≠ '\x00' := by
    simp only [hexCode?, Option.bind_eq_bind, Option.bind_eq_some_iff] at code
    obtain ⟨_, first, _, second, _, third, _, fourth, -⟩ := code
    simp only [List.forall_mem_cons]
    exact ⟨by decide, by decide, digit first, digit second, digit third, digit fourth,
      List.forall_mem_nil _⟩
  induction quoted with
  | close => exact shows_cons (by decide)
  | char _ _ visible _ ih =>
      refine (shows_cons ?_).trans ih
      rintro rfl
      exact absurd visible (by decide)
  | letter known _ ih =>
      refine (shows_cons (by decide)).trans ((shows_cons ?_).trans ih)
      rintro rfl
      simp [escapeLetter?] at known
  | code code _ ih => exact (shows_append (digits code)).trans ih

theorem Named.shows {dialect : Dialect} {name : String} (named : Named dialect text name rest) :
    Shows text rest := by
  cases named with
  | quoted _ quoted blankBefore blankAfter =>
      exact (shows_cons (by decide)).trans
        (quoted.shows.trans (shows_between blankBefore (by decide) blankAfter))

theorem shows_word {dialect : Dialect} {word : List Char} {value : Json}
    (listed : (word, value) ∈ dialect.words) : Shows (word ++ rest) rest := by
  have all : dialect.words.all (fun word => word.1.all (fun c => decide (c ≠ '\x00'))) = true := by
    cases dialect <;> decide
  refine shows_append fun c member => ?_
  exact of_decide_eq_true (List.all_eq_true.mp (List.all_eq_true.mp all _ listed) c member)

theorem isPlain_marks {exponent : Option Int} (marks : Numeral.Marks text exponent) (member : c ∈ text) :
    IsPlain c := by
  cases marks with
  | none => contradiction
  | some known listed _ places =>
      simp only [Numeral.signs, List.mem_cons, Prod.mk.injEq, List.not_mem_nil, or_false] at listed
      obtain rfl | member := List.mem_cons.mp member
      · obtain rfl | rfl := known <;> decide
      · obtain sign | place := List.mem_append.mp member
        · obtain ⟨rfl, -⟩ | ⟨rfl, -⟩ | ⟨rfl, -⟩ := listed
          · contradiction
          · exact isPlain_of_all (by decide : ['+'].all _ = true) sign
          · exact isPlain_of_all (by decide : ['-'].all _ = true) sign
        · exact isPlain_of_isDigit (places c place)

theorem shows_spelled {negative : Bool} {whole fraction marks : List Char} {exponent : Option Int}
    (isWhole : Numeral.IsWhole whole) (decimal : ∀ c ∈ fraction, c.isDigit)
    (spells : Numeral.Marks marks exponent) :
    Shows (Numeral.spelled negative whole fraction marks ++ rest) rest := by
  refine shows_append fun c member => ne_null_of_isPlain ?_
  simp only [Numeral.spelled, List.mem_append] at member
  obtain ((sign | member) | point) | mark := member
  · cases negative
    · contradiction
    · exact isPlain_of_all (by decide : ['-'].all _ = true) sign
  · exact isPlain_of_isDigit (isWhole.decimal c member)
  · unfold Numeral.pointed at point
    split at point
    · contradiction
    · obtain rfl | member := List.mem_cons.mp point
      · decide
      · exact isPlain_of_isDigit (decimal c member)
  · exact isPlain_marks spells mark

theorem Spells.shows {dialect : Dialect} {phrase : Phrase}
    (spells : Spells dialect room text phrase rest) : Shows text rest := by
  induction spells with
  | word listed => exact shows_word listed
  | int isWhole => exact shows_spelled isWhole (List.forall_mem_nil _) .none
  | float isWhole decimal marks => exact shows_spelled isWhole decimal marks
  | str _ quoted => exact (shows_cons (by decide)).trans quoted.shows
  | emptyList _ blank | emptyObject _ blank =>
      exact (shows_cons (by decide)).trans ((shows_blank blank).trans (shows_cons (by decide)))
  | list _ blank _ ih | object _ blank _ ih =>
      exact (shows_cons (by decide)).trans ((shows_blank blank).trans ih)
  | lastItem _ blank ih => exact ih.trans ((shows_blank blank).trans (shows_cons (by decide)))
  | item _ before after _ first later =>
      exact first.trans ((shows_between before (by decide) after).trans later)
  | lastMember named _ blank ih =>
      exact named.shows.trans (ih.trans ((shows_blank blank).trans (shows_cons (by decide))))
  | member named _ before after _ first later =>
      exact named.shows.trans (first.trans ((shows_between before (by decide) after).trans later))

/-- A document is taken for UTF-8 where it is written so. -/
theorem Document.decodeDetected {dialect : Dialect} {value : Json}
    (document : Document dialect room text value) :
    Text.decodeDetected (Text.Utf8.encode text) = .ok text := by
  obtain @⟨before, text, after, value, blankBefore, spells, blankAfter⟩ := document
  have shows : Shows (before ++ text) [] := by
    have blank : Shows (after ++ []) [] := shows_blank blankAfter
    rw [List.append_nil] at blank
    exact (shows_blank blankBefore).trans (spells.shows.trans blank)
  obtain ⟨c, more, shape, plain⟩ : ∃ c more, before ++ text = c :: more ∧ IsPlain c := by
    cases before with
    | nil =>
        obtain ⟨c, more, rfl, member, -⟩ := spells.starts
        exact ⟨c, more, rfl, starter (p := IsPlain) (by decide) member⟩
    | cons c before => exact ⟨c, before ++ text, rfl, isPlain_of_blank (blankBefore c List.mem_cons_self)⟩
  rw [shape] at shows ⊢
  refine Text.decodeDetected_encode plain fun d first => ?_
  have member := List.mem_cons_of_mem c (List.mem_of_mem_head? first)
  exact (shows d member).resolve_right (List.not_mem_nil)

theorem isReadable_int_iff {i : Int} : IsReadable (.int i) ↔ i.natAbs < 10 ^ maxIntegerDigits := by
  rw [← length_digits_le_iff (by decide)]
  constructor
  · intro readable
    cases readable with
    | int _ short => exact short
  · exact .int i

theorem hasLongInteger_int {i : Int} : (Json.int i).hasLongInteger ↔ 10 ^ maxIntegerDigits ≤ i.natAbs := by
  -- The limit is never written out.
  rw [hasLongInteger]
  generalize maxIntegerDigits = count
  exact decide_eq_true_iff

theorem isReadable_int {whole : List Char} (negative : Bool) (isWhole : Numeral.IsWhole whole)
    (short : whole.length ≤ maxIntegerDigits) :
    IsReadable (.int (if negative then -(ofDigits whole : Int) else ofDigits whole)) := by
  have size : (if negative = true then -(ofDigits whole : Int) else ofDigits whole).natAbs =
      ofDigits whole := by
    split <;> omega
  obtain ⟨first, more, shape, -⟩ := isWhole.starts
  have some : 0 < whole.length := by
    rw [shape]
    exact Nat.succ_pos _
  have length := (length_digits_le_iff some).mpr (ofDigits_lt isWhole.decimal)
  apply IsReadable.int
  rw [size]
  omega

theorem isReadable_ofList {listed : List (String × Json)}
    (readable : ∀ member ∈ listed, IsReadable member.2) : IsReadable (.obj (Assoc.ofList listed)) := by
  have kept (entries : List (String × Json)) (distinct : (entries.map Prod.fst).Nodup)
      (before : ∀ member ∈ entries, IsReadable member.2) :
      IsReadable (.obj (listed.foldl (fun kept entry => Assoc.insert entry.1 entry.2 kept) entries)) := by
    induction listed generalizing entries with
    | nil => exact .obj entries distinct before
    | cons entry listed ih =>
        rw [List.forall_mem_cons] at readable
        apply ih readable.2 _ (Assoc.nodup_insert distinct)
        intro member present
        obtain rfl | present := Assoc.eq_or_mem_of_mem_insert present
        · exact readable.1
        · exact before member present
  exact kept [] List.nodup_nil (by simp)

/-- Whether everything in a phrase can be written and read again. -/
def Phrase.IsReadable : Phrase → Prop
  | .value found => Json.IsReadable found
  | .items found => ∀ item ∈ found, Json.IsReadable item
  | .members found => ∀ member ∈ found, Json.IsReadable member.2

theorem isReadable_word {word : List Char} {value : Json} (listed : (word, value) ∈ words) :
    IsReadable value := by
  simp only [words, List.mem_cons, List.not_mem_nil, or_false, Prod.mk.injEq] at listed
  obtain ⟨-, rfl⟩ | ⟨-, rfl⟩ | ⟨-, rfl⟩ | ⟨-, rfl⟩ | ⟨-, rfl⟩ | ⟨-, rfl⟩ := listed <;> constructor

theorem Spells.isReadable {text rest : List Char} {phrase : Phrase}
    (spells : Spells .accepted room text phrase rest) : phrase.IsReadable := by
  induction spells with
  | word listed => exact isReadable_word listed
  | int isWhole short => exact isReadable_int _ isWhole short
  | float => exact .float _
  | str => exact .str _
  | emptyList => exact .arr [] (List.forall_mem_nil _)
  | list _ _ _ ih => exact .arr _ ih
  | emptyObject => exact .obj [] List.nodup_nil (List.forall_mem_nil _)
  | object _ _ _ ih => exact isReadable_ofList ih
  | lastItem _ _ ih => exact List.forall_mem_singleton.mpr ih
  | item _ _ _ _ first later => exact List.forall_mem_cons.mpr ⟨first, later⟩
  | lastMember _ _ _ ih => exact List.forall_mem_singleton.mpr ih
  | member _ _ _ _ _ first later => exact List.forall_mem_cons.mpr ⟨first, later⟩

/-- Exactly the bodies that are documents of the grammar, in the encoding that they are taken for, are
read. -/
theorem read_eq_ok_iff {body : Bytes} {value : Json} : read body room = .ok value ↔
    ∃ text, Text.decodeDetected body = .ok text ∧ Document .accepted room text value := by
  unfold read
  cases Text.decodeDetected body with
  | error e => simp
  | ok text =>
      simp only [Except.ok.injEq, exists_eq_left', ← readText_eq_ok_iff]
      cases readText text room <;> simp

/-- Every document is read as the value that was written. -/
theorem read_write (separates : layout.Separates) {value : Json} (readable : IsReadable value) :
    read (Text.Utf8.encode (write layout value)) = .ok value := by
  have document := document_write separates readable
  exact read_eq_ok_iff.mpr ⟨_, document.decodeDetected, document⟩

theorem isReadable_of_read {body : Bytes} {value : Json} (known : read body room = .ok value) :
    IsReadable value := by
  obtain ⟨text, -, document⟩ := read_eq_ok_iff.mp known
  cases document with
  | value _ spells => exact spells.isReadable

end Json

end AcmeClient
