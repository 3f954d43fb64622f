import AcmeClient.Key.Pem
import AcmeClient.Proofs.Base64
import AcmeClient.Proofs.Text.Utf8

namespace AcmeClient.Pem

variable {mark before after rest : Bytes} {first : UInt8} {label text : List Char} {c : Char}

/-- The mark is looked for behind whatever its first byte does not occur in. -/
theorem splitAt?_skip (absent : first ∉ before) :
    splitAt? (first :: mark) (before ++ rest) =
      (splitAt? (first :: mark) rest).map fun found => (before ++ found.1, found.2) := by
  induction before with
  | nil => simp
  | cons b before ih =>
      rw [List.mem_cons, not_or] at absent
      have different : (first == b) = false := by simpa using absent.1
      simp only [List.cons_append, splitAt?, List.isPrefixOf, different, Bool.false_and,
        Bool.false_eq_true, if_false, ih absent.2, Option.map_map]
      rfl

theorem splitAt?_mark : splitAt? (first :: mark) (first :: mark ++ after) = some ([], after) := by
  have starts : (first :: mark).isPrefixOf (first :: (mark ++ after)) := by
    rw [List.isPrefixOf_iff_prefix]
    exact List.prefix_append (first :: mark) after
  rw [List.cons_append, splitAt?, if_pos starts]
  simp

theorem splitAt?_append (absent : first ∉ before) :
    splitAt? (first :: mark) (before ++ first :: mark ++ after) = some (before, after) := by
  rw [List.append_assoc, splitAt?_skip absent, splitAt?_mark]
  simp

/-- A character that Base64 is written with. -/
def IsArmour (c : Char) : Prop := c = '=' ∨ ∃ value < 64, c = Base64.standardDigit value

theorem IsArmour.plain (armour : IsArmour c) :
    c.toNat < 0x80 ∧ c ≠ '-' ∧ c ≠ '\n' ∧ c ≠ '\r' ∧ Text.isWhiteSpace c = false ∧
      isBlank (UInt8.ofNat c.toNat) = false := by
  obtain rfl | ⟨value, below, rfl⟩ := armour
  · decide
  · exact (by decide : ∀ value : Fin 64, (Base64.standardDigit value).toNat < 0x80 ∧
      Base64.standardDigit value ≠ '-' ∧ Base64.standardDigit value ≠ '\n' ∧
      Base64.standardDigit value ≠ '\r' ∧
      Text.isWhiteSpace (Base64.standardDigit value) = false ∧
      isBlank (UInt8.ofNat (Base64.standardDigit value).toNat) = false) ⟨value, below⟩

theorem trimEnd_of_forall {blank : Char → Bool} (none : ∀ c ∈ text, blank c = false) :
    Text.trimEnd blank text = text := by
  cases last : text.reverse with
  | nil => simp [Text.trimEnd, List.reverse_eq_nil_iff.mp last]
  | cons c others =>
      have member : c ∈ text := by
        rw [← List.mem_reverse, last]
        exact List.mem_cons_self
      rw [Text.trimEnd, last, List.dropWhile_cons_of_neg (by simp [none c member]), ← last,
        List.reverse_reverse]

/-- A line ends at the first line feed, and keeps what is no carriage return. -/
theorem splitLines_go {line chunk rest : List Char} (noBreak : '\n' ∉ chunk)
    (noReturn : '\r' ∉ line.reverse ++ chunk) :
    splitLines.go line (chunk ++ '\n' :: rest) =
      (line.reverse ++ chunk) :: splitLines.go [] rest := by
  induction chunk generalizing line with
  | nil =>
      rw [List.append_nil, List.mem_reverse] at noReturn
      rw [List.nil_append, List.append_nil]
      cases line with
      | nil => rfl
      | cons c line =>
          rw [List.mem_cons, not_or] at noReturn
          rw [splitLines.go]
          intro before same
          rw [List.cons.injEq] at same
          exact noReturn.1 same.1.symm
  | cons c chunk ih =>
      rw [List.mem_cons, not_or] at noBreak
      rw [List.cons_append, splitLines.go, ih noBreak.2]
      · simp
      · simpa using noReturn
      · exact fun same => noBreak.1 same.symm

variable {steps : Nat}

theorem lines_cons (some : text ≠ []) :
    lines (steps + 1) text = text.take 64 ++ '\n' :: lines steps (text.drop 64) := by
  cases text with
  | nil => contradiction
  | cons c rest => rfl

theorem splitAt?_break (front : ∀ c ∈ text.head?, IsArmour c)
    (single : splitAt? [0x0A, 0x0A] (Text.Utf8.encode text) = none) :
    splitAt? [0x0A, 0x0A] (Text.Utf8.encode ('\n' :: text)) = none := by
  have next : [0x0A, 0x0A].isPrefixOf (0x0A :: Text.Utf8.encode text) = false := by
    cases text with
    | nil => rfl
    | cons c others =>
        obtain ⟨ascii, -, noBreak, -⟩ := (front c rfl).plain
        have absent : 0x0A ∉ Text.Utf8.encode [c] :=
          Text.Utf8.notMem_encode (c := '\n') (by simpa using ascii) (by decide)
            (by simpa using noBreak.symm)
        rw [Text.Utf8.encode_cons, Text.Utf8.encodeChar_of_lt ascii]
        rw [Text.Utf8.encode_cons, Text.Utf8.encodeChar_of_lt ascii] at absent
        have different := List.ne_of_not_mem_cons absent
        simpa [List.isPrefixOf] using different
  have starts : Text.Utf8.encode ('\n' :: text) = 0x0A :: Text.Utf8.encode text := rfl
  rw [starts, splitAt?, next, single]
  rfl

/-- What lines of armour are made of: a line is never empty, and their characters are the text's. -/
theorem lines_spec (armour : ∀ c ∈ text, IsArmour c) (enough : text.length ≤ steps) :
    (∀ c ∈ lines steps text, IsArmour c ∨ c = '\n') ∧
    (∀ c ∈ (lines steps text).head?, IsArmour c) ∧
    ((splitLines.go [] (lines steps text)).map (Text.trimEnd Text.isWhiteSpace)).flatten = text ∧
    splitAt? [0x0A, 0x0A] (Text.Utf8.encode (lines steps text)) = none := by
  induction steps generalizing text with
  | zero =>
      obtain rfl : text = [] := List.eq_nil_of_length_eq_zero (by omega)
      simp [lines, splitLines.go, Text.Utf8.encode, splitAt?]
  | succ steps ih =>
      by_cases empty : text = []
      · subst text
        simp [lines, splitLines.go, Text.Utf8.encode, splitAt?]
      · have drop : ∀ c ∈ text.drop 64, IsArmour c :=
          fun c member => armour c (List.mem_of_mem_drop member)
        have take : ∀ c ∈ text.take 64, IsArmour c :=
          fun c member => armour c (List.mem_of_mem_take member)
        have fewer : (text.drop 64).length ≤ steps := by
          have := List.length_pos_iff.mpr empty
          rw [List.length_drop]
          omega
        obtain ⟨marks, front, whole, single⟩ := ih drop fewer
        rw [lines_cons empty]
        refine ⟨?_, ?_, ?_, ?_⟩
        · intro c member
          rw [List.mem_append, List.mem_cons] at member
          obtain member | rfl | member := member
          · exact .inl (take c member)
          · exact .inr rfl
          · exact marks c member
        · intro c found
          obtain ⟨first, others, rfl⟩ := List.exists_cons_of_ne_nil empty
          rw [List.take_succ_cons, List.cons_append, List.head?_cons, Option.mem_some] at found
          exact armour c (found ▸ List.mem_cons_self)
        · have noBreak : '\n' ∉ text.take 64 := fun member =>
            (take _ member).plain.2.2.1 rfl
          have noReturn : '\r' ∉ ([] : List Char).reverse ++ text.take 64 := fun member =>
            (take _ member).plain.2.2.2.1 rfl
          have kept : Text.trimEnd Text.isWhiteSpace (text.take 64) = text.take 64 :=
            trimEnd_of_forall fun c member => (take c member).plain.2.2.2.2.1
          rw [splitLines_go noBreak noReturn, List.reverse_nil, List.nil_append, List.map_cons,
            List.flatten_cons, kept, whole, List.take_append_drop]
        · have noBreak : 0x0A ∉ Text.Utf8.encode (text.take 64) :=
            Text.Utf8.notMem_encode (c := '\n') (fun c member => (take c member).plain.1) (by decide)
              fun member => (take _ member).plain.2.2.1 rfl
          rw [Text.Utf8.encode_append, splitAt?_skip noBreak, Option.map_eq_none_iff]
          exact splitAt?_break front single

theorem splitAt?_eq_none (absent : first ∉ rest) : splitAt? (first :: mark) rest = none := by
  rw [← List.append_nil rest, splitAt?_skip absent]
  rfl

/-- A label of printed characters other than hyphens. -/
structure IsLabel (label : List Char) : Prop where
  ascii : ∀ c ∈ label, c.toNat < 0x80
  noHyphen : '-' ∉ label
  named : label ≠ []

theorem hyphen_notMem_encode (ascii : ∀ c ∈ text, c.toNat < 0x80) (absent : '-' ∉ text) :
    0x2D ∉ Text.Utf8.encode text :=
  Text.Utf8.notMem_encode (c := '-') ascii (by decide) absent

variable {body : List Char}

theorem Frame.read?_encode (isLabel : IsLabel label)
    (ascii : ∀ c ∈ body, c.toNat < 0x80) (noHyphen : '-' ∉ body)
    (front : ∀ c ∈ body.head?, IsArmour c) :
    Frame.read? (Text.Utf8.encode ("-----BEGIN ".toList ++ label ++ "-----\n".toList ++ body
        ++ "-----END ".toList ++ label ++ "-----\n".toList)) =
      some (⟨Text.Utf8.encode label, Text.Utf8.encode body, Text.Utf8.encode label⟩, [0x0A]) := by
  have opening : Text.bytesOf "-----BEGIN " = 0x2D :: [0x2D, 0x2D, 0x2D, 0x2D, 0x42, 0x45, 0x47,
      0x49, 0x4E, 0x20] := by decide
  have dashes : Text.bytesOf "-----" = 0x2D :: [0x2D, 0x2D, 0x2D, 0x2D] := by decide
  have closing : Text.bytesOf "-----END " = 0x2D :: [0x2D, 0x2D, 0x2D, 0x2D, 0x45, 0x4E, 0x44,
      0x20] := by decide
  have ending : Text.Utf8.encode "-----\n".toList = Text.bytesOf "-----" ++ [0x0A] := by decide
  have labelPlain := hyphen_notMem_encode isLabel.ascii isLabel.noHyphen
  have bodyPlain := hyphen_notMem_encode ascii noHyphen
  have split : Text.Utf8.encode ("-----BEGIN ".toList ++ label ++ "-----\n".toList ++ body
        ++ "-----END ".toList ++ label ++ "-----\n".toList) =
      [] ++ Text.bytesOf "-----BEGIN " ++ (Text.Utf8.encode label ++ Text.bytesOf "-----" ++
        (0x0A :: (Text.Utf8.encode body ++ Text.bytesOf "-----END " ++
          (Text.Utf8.encode label ++ Text.bytesOf "-----" ++ [0x0A])))) := by
    simp only [Text.Utf8.encode_append, ending, Text.bytesOf, List.append_assoc, List.nil_append,
      List.cons_append]
  have blank : (0x0A :: (Text.Utf8.encode body ++ Text.bytesOf "-----END " ++
        (Text.Utf8.encode label ++ Text.bytesOf "-----" ++ [0x0A]))).dropWhile isBlank =
      Text.Utf8.encode body ++ Text.bytesOf "-----END " ++
        (Text.Utf8.encode label ++ Text.bytesOf "-----" ++ [0x0A]) := by
    rw [List.dropWhile_cons_of_pos (by decide)]
    cases body with
    | nil => rfl
    | cons c others =>
        obtain ⟨plain, -, -, -, -, noBlank⟩ := (front c rfl).plain
        rw [Text.Utf8.encode_cons, Text.Utf8.encodeChar_of_lt plain]
        exact List.dropWhile_cons_of_neg (by simp [noBlank])
  rw [split]
  simp only [Frame.read?, opening, dashes, closing] at blank ⊢
  rw [splitAt?_append (by simp)]
  simp only [bind, Option.bind, splitAt?_append labelPlain, blank, splitAt?_append bodyPlain]
  rfl

theorem isArmour_of_mem_encodeStandard (content : Bytes) :
    ∀ c ∈ Base64.encodeStandard content, IsArmour c := fun _ => Base64.mem_encodeStandard

theorem plain_of_line (mark : IsArmour c ∨ c = '\n') : c.toNat < 0x80 ∧ c ≠ '-' ∧ c ≠ '\r' := by
  obtain armour | rfl := mark
  · exact ⟨armour.plain.1, armour.plain.2.1, armour.plain.2.2.2.1⟩
  · decide

theorem Frame.block?_encode (isLabel : IsLabel label) (content : Bytes) :
    Frame.block? ⟨Text.Utf8.encode label, Text.Utf8.encode (lines
        (Base64.encodeStandard content).length (Base64.encodeStandard content)),
      Text.Utf8.encode label⟩ = some ⟨label, [], content⟩ := by
  obtain ⟨marks, -, whole, single⟩ := lines_spec (isArmour_of_mem_encodeStandard content)
    (Nat.le_refl _)
  generalize lines _ _ = body at marks whole single ⊢
  have noReturn : 0x0D ∉ Text.Utf8.encode body :=
    Text.Utf8.notMem_encode (c := '\r') (fun c member => (plain_of_line (marks c member)).1)
      (by decide) fun member => (plain_of_line (marks _ member)).2.2 rfl
  have headers : splitHeaders (Text.Utf8.encode body) = ([], Text.Utf8.encode body) := by
    have feeds : Text.bytesOf "\n\n" = [0x0A, 0x0A] := by decide
    have returns : Text.bytesOf "\r\n\r\n" = 0x0D :: [0x0A, 0x0D, 0x0A] := by decide
    rw [splitHeaders, feeds, single]
    simp only [returns, splitAt?_eq_none noReturn, Option.getD_none]
  have noHeaders : readHeaders? (splitLines []) = some [] := rfl
  have decoded (text : List Char) :
      (Text.Utf8.decode (Text.Utf8.encode text)).toOption = some text := by
    rw [Text.Utf8.decode_encode]
    rfl
  have nothing : (Text.Utf8.decode []).toOption = some [] := rfl
  have lines : ((splitLines body).map (Text.trimEnd Text.isWhiteSpace)).flatten =
      Base64.encodeStandard content := whole
  have named : label.isEmpty = false := by simpa using isLabel.named
  simp only [Frame.block?, decoded, headers, nothing, noHeaders, lines,
    Base64.decodeStandard?_encodeStandard, named, bind, Option.bind]
  rfl

theorem Frame.readAll_break (steps : Nat) : Frame.readAll steps [0x0A] = [] := by
  cases steps with
  | zero => rfl
  | succ steps =>
      have none : Frame.read? [0x0A] = none := by decide
      rw [Frame.readAll, none]

theorem blocks?_encode (isLabel : IsLabel label) (content : Bytes) :
    blocks? (Text.Utf8.encode (encode label content)) = some [⟨label, [], content⟩] := by
  obtain ⟨marks, front, -, -⟩ := lines_spec (isArmour_of_mem_encodeStandard content)
    (Nat.le_refl _)
  have read := Frame.read?_encode isLabel (fun c member => (plain_of_line (marks c member)).1)
    (fun member => (plain_of_line (marks _ member)).2.1 rfl) front
  have written : encode label content = "-----BEGIN ".toList ++ label ++ "-----\n".toList
      ++ lines (Base64.encodeStandard content).length (Base64.encodeStandard content)
      ++ "-----END ".toList ++ label ++ "-----\n".toList := rfl
  rw [← written] at read
  have some : (Text.Utf8.encode (encode label content)).length ≠ 0 := by
    intro none
    rw [List.eq_nil_of_length_eq_zero none] at read
    contradiction
  obtain ⟨steps, length⟩ := Nat.exists_eq_succ_of_ne_zero some
  rw [blocks?, length, Frame.readAll]
  simp only [read, Frame.readAll_break, List.mapM_cons, Frame.block?_encode isLabel]
  rfl

theorem ascii_encode (isLabel : IsLabel label) (content : Bytes) :
    ∀ c ∈ encode label content, c.toNat < 0x80 := by
  obtain ⟨marks, -, -, -⟩ := lines_spec (isArmour_of_mem_encodeStandard content) (Nat.le_refl _)
  have literal (text : List Char) (ascii : text.all (fun c => decide (c.toNat < 0x80)) = true) :
      ∀ c ∈ text, c.toNat < 0x80 :=
    fun c member => of_decide_eq_true (List.all_eq_true.mp ascii c member)
  unfold encode
  simp only [List.forall_mem_append]
  exact ⟨⟨⟨⟨⟨⟨literal _ (by decide), isLabel.ascii⟩, literal _ (by decide)⟩,
    fun c member => (plain_of_line (marks c member)).1⟩, literal _ (by decide)⟩, isLabel.ascii⟩,
    literal _ (by decide)⟩

theorem length_lines_congr {text other : List Char} (same : text.length = other.length) (steps : Nat) :
    (lines steps text).length = (lines steps other).length := by
  induction steps generalizing text other with
  | zero => cases text <;> cases other <;> rfl
  | succ steps ih =>
      cases text with
      | nil =>
          obtain rfl : other = [] := List.eq_nil_of_length_eq_zero same.symm
          rfl
      | cons c rest =>
          have others : other ≠ [] := List.ne_nil_of_length_pos (by rw [← same]; simp)
          have shorter := @ih ((c :: rest).drop 64) (other.drop 64) (by simp only [List.length_drop, same])
          rw [lines_cons (List.cons_ne_nil c rest), lines_cons others]
          rw [List.length_append, List.length_append, List.length_cons, List.length_cons, shorter,
            List.length_take, List.length_take, same]

/-- The body of a block, as bytes. -/
theorem encode_lines (content : Bytes) :
    let text := Base64.encodeStandard content
    Text.Utf8.encode (lines text.length text) =
      (lines text.length text).map fun c => UInt8.ofNat c.toNat := by
  intro text
  obtain ⟨marks, -⟩ := lines_spec (isArmour_of_mem_encodeStandard content) (Nat.le_refl text.length)
  exact Text.Utf8.encode_of_ascii fun c member => (plain_of_line (marks c member)).1

/-- Blocks with one label and contents of one length are of one length. -/
theorem length_encode_congr {content other : Bytes} (same : content.length = other.length) :
    (Text.Utf8.encode (encode label content)).length =
      (Text.Utf8.encode (encode label other)).length := by
  have texts := Base64.length_encodeStandard_congr same
  have bodies := length_lines_congr texts (Base64.encodeStandard other).length
  unfold encode
  generalize "-----BEGIN ".toList = opening
  generalize "-----END ".toList = closing
  generalize "-----\n".toList = dashes
  simp only [Text.Utf8.encode_append, List.length_append]
  rw [encode_lines, encode_lines, List.length_map, List.length_map, texts, bodies]

end AcmeClient.Pem
