import AcmeClient.Json.Writer
import AcmeClient.Proofs.Json.Reading

namespace AcmeClient

namespace Json

variable {layout : Layout} {depth : Nat} {c : Char} {text rest blanks : List Char}

/-- What JSON text can hold: no integer is too long, and the names of an object differ. -/
inductive IsReadable : Json → Prop
  | null : IsReadable .null
  | bool (b : Bool) : IsReadable (.bool b)
  | int (i : Int) : (digits i.natAbs).length ≤ maxIntegerDigits → IsReadable (.int i)
  | float (x : Binary64) : IsReadable (.float x)
  | str (s : String) : IsReadable (.str s)
  | arr (items : List Json) : (∀ item ∈ items, IsReadable item) → IsReadable (.arr items)
  | obj (members : List (String × Json)) : (members.map Prod.fst).Nodup →
      (∀ member ∈ members, IsReadable member.2) → IsReadable (.obj members)

theorem adds_writeCode (c : Char) (text : List Char) : Adds c (writeCode c ++ text) text := by
  intro parts rest quoted
  by_cases small : c.toNat < 0x10000
  · have valid : c.toNat < 0xD800 ∨ 0xDFFF < c.toNat ∧ c.toNat < 0x110000 := c.valid
    have plain : Text.Utf16.isHigh c.toNat = false := isHigh_eq_false (by omega)
    rw [writeCode, if_pos small]
    refine ⟨_, .code (hexCode?_hexDigits small []) quoted, ?_⟩
    rw [StringPart.meant_code fun _ _ _ => .inl plain, single_toNat]
  · obtain ⟨high, low, written, isHigh, isLow, whole⟩ := exists_halves (Nat.le_of_not_lt small)
    have fits : high < 0x10000 ∧ low < 0x10000 := by
      simp [Text.Utf16.isHigh, Text.Utf16.isLow] at isHigh isLow
      omega
    rw [written]
    refine ⟨_, .code (hexCode?_hexDigits fits.1 []) (.code (hexCode?_hexDigits fits.2 []) quoted), ?_⟩
    rw [StringPart.meant, if_pos (by simp [isHigh, isLow]), whole]

theorem adds_writeChar (c : Char) (text : List Char) : Adds c (writeChar c ++ text) text := by
  unfold writeChar
  by_cases quote : c = '"'
  · subst c
    exact adds_letter rfl text
  by_cases backslash : c = '\\'
  · subst c
    exact adds_letter rfl text
  rw [if_neg quote, if_neg backslash]
  split_ifs with newline carriage tab formFeed backspace printable
  · subst c
    exact adds_letter rfl text
  · subst c
    exact adds_letter rfl text
  · subst c
    exact adds_letter rfl text
  · subst c
    exact adds_letter rfl text
  · subst c
    exact adds_letter rfl text
  · have visible : (' ' : Char).toNat ≤ c.toNat := printable.1
    exact fun quoted => ⟨_, .char quote backslash visible quoted, rfl⟩
  · exact adds_writeCode c text

theorem exists_quoted (s : List Char) (rest : List Char) :
    ∃ parts, Quoted (s.flatMap writeChar ++ '"' :: rest) parts rest ∧ StringPart.meant parts = s := by
  induction s with
  | nil => exact ⟨[], .close, rfl⟩
  | cons c s ih =>
      obtain ⟨parts, quoted, meant⟩ := ih
      obtain ⟨more, quoted, same⟩ := adds_writeChar c _ quoted
      refine ⟨more, ?_, by rw [same, meant]⟩
      rwa [List.flatMap_cons, List.append_assoc]

theorem exists_writeString (s : String) (rest : List Char) : ∃ text parts,
    writeString s ++ rest = '"' :: text ∧ Quoted text parts rest ∧
      String.ofList (StringPart.meant parts) = s := by
  obtain ⟨parts, quoted, meant⟩ := exists_quoted s.toList rest
  refine ⟨_, parts, ?_, quoted, by rw [meant, String.ofList_toList]⟩
  simp only [writeString, List.cons_append, List.append_assoc, List.nil_append]

theorem spells_word {w : List Char} {value : Json} (listed : (w, value) ∈ words) (rest : List Char) :
    Spells .accepted .ample (w ++ rest) (.value value) rest :=
  .word listed

theorem spells_int {i : Int} (short : (digits i.natAbs).length ≤ maxIntegerDigits) (rest : List Char) :
    Spells .accepted .ample (signedDigits i ++ rest) (.value (.int i)) rest := by
  have signed : (if decide (i < 0) = true then -(ofDigits (digits i.natAbs) : Int)
      else ofDigits (digits i.natAbs)) = i := by
    rw [ofDigits_digits]
    simp only [decide_eq_true_eq]
    omega
  have spells : Spells .accepted .ample (Numeral.spelled (decide (i < 0)) (digits i.natAbs) [] [] ++ rest) _ rest :=
    .int (Numeral.isWhole_digits _) short
  rw [signed] at spells
  rwa [signedDigits_eq_written]

theorem spells_zero (negative : Bool) (rest : List Char) :
    Spells .accepted .ample (Binary64.sign negative ++ "0.0".toList ++ rest)
      (.value (.float (.zero negative))) rest := by
  have nothing : ofDigits ['0', '0'] = 0 := rfl
  have spells : Spells .accepted .ample (Numeral.spelled negative ['0'] ['0'] [] ++ rest) _ rest :=
    .float Numeral.isWhole_zero Numeral.isWhole_zero.decimal .none (.inl (by simp))
  have text : Numeral.spelled negative ['0'] ['0'] [] = Binary64.sign negative ++ "0.0".toList := by
    cases negative <;> rfl
  simpa [text, Binary64.ofDecimal, nothing] using spells

theorem spells_finite {magnitude : Fin magnitudeCount} (negative : Bool) (positive : 0 < magnitude.val)
    (rest : List Char) :
    Spells .accepted .ample (Binary64.sign negative ++ (Scientific.shortest magnitude).text ++ rest)
      (.value (.float (.finite negative magnitude))) rest := by
  obtain ⟨whole, fraction, exponent, shown⟩ := Numeral.exists_shown positive
  have text : Binary64.sign negative ++ (Scientific.shortest magnitude).text =
      Numeral.written negative whole fraction exponent := by
    rw [shown.text]
    cases negative <;> simp [Numeral.written, Binary64.sign]
  have spells : Spells .accepted .ample (Numeral.written negative whole fraction exponent ++ rest) _ rest :=
    .float shown.isWhole shown.decimal (Numeral.marks_marked exponent) shown.noInteger
  rw [shown.value, Scientific.toBinary64_shortest negative positive] at spells
  rwa [text]

theorem spells_float (x : Binary64) (rest : List Char) :
    Spells .accepted .ample (writeFloat x ++ rest) (.value (.float x)) rest := by
  cases x with
  | nan => exact spells_word (w := "NaN".toList) (by simp [words]) rest
  | infinite negative =>
      cases negative
      · exact spells_word (w := "Infinity".toList) (by simp [words]) rest
      · exact spells_word (w := "-Infinity".toList) (by simp [words]) rest
  | finite negative magnitude =>
      rw [writeFloat, Binary64.text]
      · by_cases zero : magnitude.val = 0
        · rw [if_pos zero]
          have same : magnitude = 0 := Fin.ext zero
          rw [same]
          exact spells_zero negative rest
        · rw [if_neg zero]
          exact spells_finite negative (Nat.pos_of_ne_zero zero) rest
      · rintro ⟨⟩
      · rintro other ⟨⟩

/-- A layout whose separators are the marks of JSON, with nothing but blanks after them. -/
structure Layout.Separates (layout : Layout) : Prop where
  comma : ∃ blanks, layout.comma = ',' :: blanks ∧ Blank blanks
  colon : ∃ blanks, layout.colon = ':' :: blanks ∧ Blank blanks

theorem Layout.separates_spaced : Layout.spaced.Separates :=
  ⟨⟨[' '], rfl, blank_space⟩, ⟨[' '], rfl, blank_space⟩⟩

theorem Layout.separates_compact : Layout.compact.Separates :=
  ⟨⟨[], rfl, blank_nil⟩, ⟨[], rfl, blank_nil⟩⟩

theorem Layout.separates_indented : Layout.indented.Separates :=
  ⟨⟨[], rfl, blank_nil⟩, ⟨[' '], rfl, blank_space⟩⟩

theorem blank_lineBreak (layout : Layout) (depth : Nat) : Blank (layout.lineBreak depth) := by
  intro c member
  unfold Layout.lineBreak at member
  split at member
  · obtain rfl | member := List.mem_cons.mp member
    · rfl
    · rw [List.eq_of_mem_replicate member]
      rfl
  · contradiction

/-- What follows the first of the texts between brackets. -/
def following (layout : Layout) (depth : Nat) (closing : Char) (parts : List (List Char)) :
    List Char :=
  parts.flatMap (fun part => layout.comma ++ layout.lineBreak (depth + 1) ++ part)
    ++ layout.lineBreak depth ++ [closing]

theorem bracketed_cons (layout : Layout) (depth : Nat) (opening closing : Char) (part : List Char)
    (parts : List (List Char)) :
    bracketed layout depth opening closing (part :: parts) =
      opening :: (layout.lineBreak (depth + 1) ++ (part ++ following layout depth closing parts)) := by
  simp only [bracketed, following, List.cons_append, List.append_assoc]

theorem following_nil (layout : Layout) (depth : Nat) (closing : Char) :
    following layout depth closing [] = layout.lineBreak depth ++ [closing] := rfl

theorem exists_following_cons (separates : layout.Separates) (depth : Nat) (closing : Char)
    (part : List Char) (parts : List (List Char)) : ∃ blanks, Blank blanks ∧
      following layout depth closing (part :: parts) =
        ',' :: (blanks ++ (part ++ following layout depth closing parts)) := by
  obtain ⟨blanks, comma, blank⟩ := separates.comma
  refine ⟨blanks ++ layout.lineBreak (depth + 1),
    blank_append blank (blank_lineBreak layout (depth + 1)), ?_⟩
  simp only [following, List.flatMap_cons, comma, List.cons_append, List.append_assoc]

/-- Whether a value stands at the start of its text, in every place. -/
def IsSpelled (layout : Layout) (value : Json) : Prop :=
  ∀ depth rest, Spells .accepted .ample (writeAt layout depth value ++ rest) (.value value) rest

variable {items : List Json} {members : List (String × Json)}

theorem spells_items (separates : layout.Separates) (depth : Nat) {item : Json}
    (spelled : ∀ value ∈ item :: items, IsSpelled layout value) (rest : List Char) :
    Spells .accepted .ample (writeAt layout (depth + 1) item ++
        (following layout depth ']' (writeAt.writeItems layout (depth + 1) items) ++ rest))
      (.items (item :: items)) rest := by
  rw [List.forall_mem_cons] at spelled
  induction items generalizing item with
  | nil =>
      refine .lastItem ?_ (blank_lineBreak layout depth)
      rw [writeAt.writeItems, following_nil, List.append_assoc, List.singleton_append]
      exact spelled.1 _ _
  | cons second items ih =>
      obtain ⟨blanks, blank, written⟩ := exists_following_cons separates depth ']'
        (writeAt layout (depth + 1) second) (writeAt.writeItems layout (depth + 1) items)
      obtain ⟨first, later⟩ := spelled
      rw [List.forall_mem_cons] at later
      refine .item ?_ blank_nil blank (ih later)
      rw [writeAt.writeItems, written, List.cons_append, List.append_assoc, List.append_assoc]
      exact first _ _

/-- The text of a member. -/
def writeMember (layout : Layout) (depth : Nat) (member : String × Json) : List Char :=
  writeString member.1 ++ layout.colon ++ writeAt layout depth member.2

theorem named_writeMember (separates : layout.Separates) (member : String × Json) (rest : List Char) :
    Named .accepted (writeMember layout depth member ++ rest) member.1 (writeAt layout depth member.2 ++ rest) := by
  obtain ⟨blanks, colon, blank⟩ := separates.colon
  obtain ⟨text, parts, written, quoted, meant⟩ := exists_writeString member.1
    (':' :: (blanks ++ (writeAt layout depth member.2 ++ rest)))
  have named : Named .accepted ('"' :: text) _ _ := .quoted trivial quoted blank_nil blank
  rw [meant, ← written] at named
  simpa [writeMember, colon] using named

theorem spells_members (separates : layout.Separates) (depth : Nat) {member : String × Json}
    (spelled : ∀ other ∈ member :: members, IsSpelled layout other.2) (rest : List Char) :
    Spells .accepted .ample (writeMember layout (depth + 1) member ++
        (following layout depth '}' (writeAt.writeMembers layout (depth + 1) members) ++ rest))
      (.members (member :: members)) rest := by
  rw [List.forall_mem_cons] at spelled
  induction members generalizing member with
  | nil =>
      refine .lastMember (named_writeMember separates member _) ?_ (blank_lineBreak layout depth)
      rw [writeAt.writeMembers, following_nil, List.append_assoc, List.singleton_append]
      exact spelled.1 _ _
  | cons second members ih =>
      obtain ⟨blanks, blank, written⟩ := exists_following_cons separates depth '}'
        (writeMember layout (depth + 1) second) (writeAt.writeMembers layout (depth + 1) members)
      have opened : writeAt.writeMembers layout (depth + 1) (second :: members) =
          writeMember layout (depth + 1) second :: writeAt.writeMembers layout (depth + 1) members := rfl
      obtain ⟨first, later⟩ := spelled
      rw [List.forall_mem_cons] at later
      refine .member (named_writeMember separates member _) ?_ blank_nil blank (ih later)
      rw [opened, written, List.cons_append, List.append_assoc, List.append_assoc]
      exact first _ _

theorem isSpelled_arr (separates : layout.Separates) {items : List Json}
    (spelled : ∀ item ∈ items, IsSpelled layout item) : IsSpelled layout (.arr items) := by
  intro depth rest
  cases items with
  | nil => exact .emptyList rfl blank_nil
  | cons item items =>
      rw [writeAt, writeAt.writeItems, bracketed_cons, List.cons_append, List.append_assoc,
        List.append_assoc]
      exact .list rfl (blank_lineBreak layout (depth + 1)) (spells_items separates depth spelled rest)

theorem isSpelled_obj (separates : layout.Separates) (distinct : (members.map Prod.fst).Nodup)
    (spelled : ∀ member ∈ members, IsSpelled layout member.2) : IsSpelled layout (.obj members) := by
  intro depth rest
  cases members with
  | nil => exact .emptyObject rfl blank_nil
  | cons member members =>
      have opened : writeAt.writeMembers layout (depth + 1) (member :: members) =
          writeMember layout (depth + 1) member :: writeAt.writeMembers layout (depth + 1) members := rfl
      rw [writeAt, opened, bracketed_cons, List.cons_append, List.append_assoc, List.append_assoc,
        ← Assoc.ofList_of_nodup distinct]
      exact .object rfl (blank_lineBreak layout (depth + 1)) (spells_members separates depth spelled rest)

theorem IsReadable.isSpelled (separates : layout.Separates) {value : Json} (readable : IsReadable value) :
    IsSpelled layout value := by
  induction readable with
  | null => exact fun _ => spells_word (w := "null".toList) (by simp [words])
  | bool b =>
      cases b
      · exact fun _ => spells_word (w := "false".toList) (by simp [words])
      · exact fun _ => spells_word (w := "true".toList) (by simp [words])
  | int i short => exact fun _ => spells_int short
  | float x => exact fun _ => spells_float x
  | str s =>
      intro depth rest
      obtain ⟨text, parts, written, quoted, meant⟩ := exists_writeString s rest
      rw [writeAt, written, ← meant]
      exact .str trivial quoted
  | arr items _ ih => exact isSpelled_arr separates ih
  | obj members distinct _ ih => exact isSpelled_obj separates distinct ih

theorem document_write (separates : layout.Separates) {value : Json} (readable : IsReadable value) :
    Document .accepted .ample (write layout value) value := by
  have spells := readable.isSpelled separates 0 []
  rw [List.append_nil] at spells
  exact .value blank_nil spells blank_nil

theorem readText_write (separates : layout.Separates) {value : Json} (readable : IsReadable value) :
    readText (write layout value) = .ok value :=
  (document_write separates readable).readText

end Json

end AcmeClient
