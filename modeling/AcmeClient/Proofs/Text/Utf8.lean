import AcmeClient.Text.Utf8

namespace AcmeClient.Text.Utf8

variable {text : List Char} {c : Char}

theorem encodeChar_of_lt (ascii : c.toNat < 0x80) : encodeChar c = [UInt8.ofNat c.toNat] := by
  rw [encodeChar, if_pos ascii]

theorem encode_cons (c : Char) (text : List Char) :
    encode (c :: text) = encodeChar c ++ encode text := rfl

theorem encode_append (first second : List Char) :
    encode (first ++ second) = encode first ++ encode second := List.flatMap_append

theorem encode_of_ascii (ascii : ∀ c ∈ text, c.toNat < 0x80) :
    encode text = text.map fun c => UInt8.ofNat c.toNat := by
  induction text with
  | nil => rfl
  | cons c rest ih =>
      rw [List.forall_mem_cons] at ascii
      rw [encode_cons, encodeChar_of_lt ascii.1, ih ascii.2]
      rfl

theorem notMem_encode (ascii : ∀ c ∈ text, c.toNat < 0x80) (plain : c.toNat < 0x80)
    (absent : c ∉ text) : UInt8.ofNat c.toNat ∉ encode text := by
  rw [encode_of_ascii ascii, List.mem_map]
  rintro ⟨other, member, same⟩
  have numbers := congrArg UInt8.toNat same
  rw [UInt8.toNat_ofNat', UInt8.toNat_ofNat', Nat.mod_eq_of_lt, Nat.mod_eq_of_lt] at numbers
  · rw [Char.toNat_inj] at numbers
    exact absent (numbers ▸ member)
  · exact Nat.lt_trans plain (by decide)
  · exact Nat.lt_trans (ascii other member) (by decide)

theorem toNat_ofNat_of_lt {n : Nat} (below : n < 0x100) : (UInt8.ofNat n).toNat = n := by
  rw [UInt8.toNat_ofNat', Nat.mod_eq_of_lt below]

theorem ascii_encode (ascii : ∀ c ∈ text, c.toNat < 0x80) : ∀ b ∈ encode text, b.toNat < 0x80 := by
  rw [encode_of_ascii ascii, List.forall_mem_map]
  intro c member
  have below := ascii c member
  rwa [toNat_ofNat_of_lt (Nat.lt_trans below (by decide))]

theorem width?_eq (first : UInt8) :
    width? first =
      if first.toNat < 0x80 then some 1
      else if 0xC2 ≤ first.toNat ∧ first.toNat ≤ 0xDF then some 2
      else if 0xE0 ≤ first.toNat ∧ first.toNat ≤ 0xEF then some 3
      else if 0xF0 ≤ first.toNat ∧ first.toNat ≤ 0xF4 then some 4
      else none := by
  simp only [width?, UInt8.lt_iff_toNat_lt, UInt8.le_iff_toNat_le, UInt8.reduceToNat]

theorem isTail_iff {b : UInt8} : isTail b ↔ 0x80 ≤ b.toNat ∧ b.toNat < 0xC0 := by
  simp only [isTail, Bool.and_eq_true, decide_eq_true_eq, UInt8.le_iff_toNat_le, UInt8.reduceToNat]
  omega

variable {first second third fourth : UInt8} {rest : Bytes}

/-- A second byte that makes the character neither longer than needed, nor a surrogate, nor too
large. -/
theorem not_outside_secondRange (tail : isTail second)
    (shortThree : first.toNat = 0xE0 → 0xA0 ≤ second.toNat)
    (surrogate : first.toNat = 0xED → second.toNat < 0xA0)
    (shortFour : first.toNat = 0xF0 → 0x90 ≤ second.toNat)
    (large : first.toNat = 0xF4 → second.toNat < 0x90) :
    ¬ (second < (secondRange first).1 ∨ (secondRange first).2 < second) := by
  rw [isTail_iff] at tail
  unfold secondRange
  simp only [← UInt8.toNat_inj, UInt8.lt_iff_toNat_lt, UInt8.reduceToNat]
  repeat' split
  all_goals
    simp only [UInt8.reduceToNat]
    omega

theorem front_two (width : width? first = some 2)
    (inside : ¬ (second < (secondRange first).1 ∨ (secondRange first).2 < second)) :
    front first (second :: rest) =
      .char (Char.ofNat ((first.toNat - 0xC0) * 64 + (second.toNat - 0x80))) 2 := by
  simp only [front, width]
  rw [if_neg inside]
  rfl

theorem front_three (width : width? first = some 3)
    (inside : ¬ (second < (secondRange first).1 ∨ (secondRange first).2 < second))
    (tail : isTail third) :
    front first (second :: third :: rest) =
      .char (Char.ofNat ((first.toNat - 0xE0) * 4096 + (second.toNat - 0x80) * 64
        + (third.toNat - 0x80))) 3 := by
  simp only [front, width, tail]
  rw [if_neg inside]
  rfl

theorem front_four (width : width? first = some 4)
    (inside : ¬ (second < (secondRange first).1 ∨ (secondRange first).2 < second))
    (tail : isTail third) (tailFourth : isTail fourth) :
    front first (second :: third :: fourth :: rest) =
      .char (Char.ofNat ((first.toNat - 0xF0) * 262144 + (second.toNat - 0x80) * 4096
        + (third.toNat - 0x80) * 64 + (fourth.toNat - 0x80))) 4 := by
  simp only [front, width, tail, tailFourth]
  rw [if_neg inside]
  rfl

/-- What one character is written as is read as this character, whatever follows. -/
theorem front_encodeChar (c : Char) (rest : Bytes) :
    ∃ first tail, encodeChar c = first :: tail ∧
      front first (tail ++ rest) = .char c (tail.length + 1) := by
  have valid : c.toNat < 0xD800 ∨ 0xDFFF < c.toNat ∧ c.toNat < 0x110000 := c.valid
  have whole : Char.ofNat c.toNat = c := Char.ofNat_toNat c
  simp only [encodeChar]
  generalize c.toNat = n at valid whole
  subst c
  have follows (m : Nat) : (UInt8.ofNat (0x80 + m % 64)).toNat = 0x80 + m % 64 :=
    toNat_ofNat_of_lt (by omega)
  have tail (m : Nat) : isTail (UInt8.ofNat (0x80 + m % 64)) := by
    rw [isTail_iff, follows]
    omega
  split
  · have first : (UInt8.ofNat n).toNat = n := toNat_ofNat_of_lt (by omega)
    refine ⟨_, _, rfl, ?_⟩
    have width : width? (UInt8.ofNat n) = some 1 := by
      rw [width?_eq, first, if_pos (by omega)]
    simp only [front, width, first]
    rfl
  · split
    · have first : (UInt8.ofNat (0xC0 + n / 64)).toNat = 0xC0 + n / 64 :=
        toNat_ofNat_of_lt (by omega)
      have width : width? (UInt8.ofNat (0xC0 + n / 64)) = some 2 := by
        rw [width?_eq, first, if_neg (by omega), if_pos (by omega)]
      have read : (0xC0 + n / 64 - 0xC0) * 64 + (0x80 + n % 64 - 0x80) = n := by omega
      refine ⟨_, _, rfl, ?_⟩
      rw [List.cons_append, front_two width, first, follows, read]
      · rfl
      · apply not_outside_secondRange (tail n) <;> rw [first] <;> omega
    · split
      · have first : (UInt8.ofNat (0xE0 + n / 4096)).toNat = 0xE0 + n / 4096 :=
          toNat_ofNat_of_lt (by omega)
        have width : width? (UInt8.ofNat (0xE0 + n / 4096)) = some 3 := by
          rw [width?_eq, first, if_neg (by omega), if_neg (by omega), if_pos (by omega)]
        have read : (0xE0 + n / 4096 - 0xE0) * 4096 + (0x80 + n / 64 % 64 - 0x80) * 64 +
            (0x80 + n % 64 - 0x80) = n := by omega
        refine ⟨_, _, rfl, ?_⟩
        rw [List.cons_append, List.cons_append, front_three width _ (tail n), first, follows,
          follows, read]
        · rfl
        · apply not_outside_secondRange (tail _) <;> rw [first, follows] <;> omega
      · have first : (UInt8.ofNat (0xF0 + n / 262144)).toNat = 0xF0 + n / 262144 :=
          toNat_ofNat_of_lt (by omega)
        have width : width? (UInt8.ofNat (0xF0 + n / 262144)) = some 4 := by
          rw [width?_eq, first, if_neg (by omega), if_neg (by omega), if_neg (by omega),
            if_pos (by omega)]
        have read : (0xF0 + n / 262144 - 0xF0) * 262144 + (0x80 + n / 4096 % 64 - 0x80) * 4096 +
            (0x80 + n / 64 % 64 - 0x80) * 64 + (0x80 + n % 64 - 0x80) = n := by omega
        refine ⟨_, _, rfl, ?_⟩
        rw [List.cons_append, List.cons_append, List.cons_append,
          front_four width _ (tail _) (tail n), first, follows, follows, follows, read]
        · rfl
        · apply not_outside_secondRange (tail _) <;> rw [first, follows] <;> omega

theorem decodeFrom_append (tolerant : Bool) (start : Nat) (skipped rest : Bytes) :
    decodeFrom tolerant start skipped.length (skipped ++ rest) =
      decodeFrom tolerant (start + skipped.length) 0 rest := by
  induction skipped generalizing start with
  | nil => rfl
  | cons b skipped ih =>
      rw [List.cons_append, List.length_cons, decodeFrom, ih]
      congr 1
      omega

theorem decodeFrom_encode (tolerant : Bool) (start : Nat) (text : List Char) :
    decodeFrom tolerant start 0 (encode text) = .ok text := by
  induction text generalizing start with
  | nil => rfl
  | cons c rest ih =>
      obtain ⟨first, tail, written, read⟩ := front_encodeChar c (encode rest)
      rw [encode_cons, written, List.cons_append, decodeFrom]
      simp only [read, Nat.add_sub_cancel, decodeFrom_append, ih, bind, Except.bind, pure,
        Except.pure]

@[simp] theorem decode_encode (text : List Char) : decode (encode text) = .ok text :=
  decodeFrom_encode false 0 text

theorem encodeChar_two (low : 0x80 ≤ c.toNat) (high : c.toNat < 0x800) :
    encodeChar c = [UInt8.ofNat (0xC0 + c.toNat / 64), UInt8.ofNat (0x80 + c.toNat % 64)] := by
  simp only [encodeChar]
  rw [if_neg (by omega), if_pos high]

theorem encodeChar_three (low : 0x800 ≤ c.toNat) (high : c.toNat < 0x10000) :
    encodeChar c = [UInt8.ofNat (0xE0 + c.toNat / 4096), UInt8.ofNat (0x80 + c.toNat / 64 % 64),
      UInt8.ofNat (0x80 + c.toNat % 64)] := by
  simp only [encodeChar]
  rw [if_neg (by omega), if_neg (by omega), if_pos high]

theorem encodeChar_four (low : 0x10000 ≤ c.toNat) :
    encodeChar c = [UInt8.ofNat (0xF0 + c.toNat / 262144), UInt8.ofNat (0x80 + c.toNat / 4096 % 64),
      UInt8.ofNat (0x80 + c.toNat / 64 % 64), UInt8.ofNat (0x80 + c.toNat % 64)] := by
  simp only [encodeChar]
  rw [if_neg (by omega), if_neg (by omega), if_neg (by omega)]

theorem toNat_ofNat_of_valid {n : Nat} (valid : n < 0xD800 ∨ 0xDFFF < n ∧ n < 0x110000) :
    (Char.ofNat n).toNat = n := by
  rw [Char.ofNat, dif_pos valid]
  rfl

theorem ofNat_eq_of_toNat {n : Nat} {b : UInt8} (same : n = b.toNat) : UInt8.ofNat n = b := by
  rw [same, UInt8.ofNat_toNat]

/-- The second byte makes the character neither longer than needed, nor a surrogate, nor too
large. -/
theorem of_not_outside_secondRange
    (inside : ¬ (second < (secondRange first).1 ∨ (secondRange first).2 < second)) :
    isTail second ∧ (first.toNat = 0xE0 → 0xA0 ≤ second.toNat) ∧
      (first.toNat = 0xED → second.toNat < 0xA0) ∧ (first.toNat = 0xF0 → 0x90 ≤ second.toNat) ∧
      (first.toNat = 0xF4 → second.toNat < 0x90) := by
  rw [isTail_iff]
  revert inside
  unfold secondRange
  simp only [← UInt8.toNat_inj, UInt8.lt_iff_toNat_lt, UInt8.reduceToNat]
  repeat' split
  all_goals
    simp only [UInt8.reduceToNat]
    omega

theorem of_width? {width : Nat} (known : width? first = some width) :
    width = 1 ∧ first.toNat < 0x80 ∨ width = 2 ∧ 0xC2 ≤ first.toNat ∧ first.toNat ≤ 0xDF ∨
      width = 3 ∧ 0xE0 ≤ first.toNat ∧ first.toNat ≤ 0xEF ∨
      width = 4 ∧ 0xF0 ≤ first.toNat ∧ first.toNat ≤ 0xF4 := by
  rw [width?_eq] at known
  repeat' split at known
  all_goals simp_all

section Written

variable (inside : ¬ (second < (secondRange first).1 ∨ (secondRange first).2 < second))
include inside

theorem encodeChar_ofNat_two (lead : 0xC2 ≤ first.toNat ∧ first.toNat ≤ 0xDF) :
    encodeChar (Char.ofNat ((first.toNat - 0xC0) * 64 + (second.toNat - 0x80))) =
      [first, second] := by
  have tail := (of_not_outside_secondRange inside).1
  rw [isTail_iff] at tail
  have number := toNat_ofNat_of_valid
    (n := (first.toNat - 0xC0) * 64 + (second.toNat - 0x80)) (.inl (by omega))
  rw [encodeChar_two (by omega) (by omega), number, ofNat_eq_of_toNat (b := first) (by omega),
    ofNat_eq_of_toNat (b := second) (by omega)]

theorem encodeChar_ofNat_three (lead : 0xE0 ≤ first.toNat ∧ first.toNat ≤ 0xEF)
    (tailThird : isTail third) :
    encodeChar (Char.ofNat ((first.toNat - 0xE0) * 4096 + (second.toNat - 0x80) * 64
      + (third.toNat - 0x80))) = [first, second, third] := by
  obtain ⟨tail, short, surrogate, -⟩ := of_not_outside_secondRange inside
  rw [isTail_iff] at tail tailThird
  have number := toNat_ofNat_of_valid (n := (first.toNat - 0xE0) * 4096 +
    (second.toNat - 0x80) * 64 + (third.toNat - 0x80)) (by omega)
  rw [encodeChar_three (by omega) (by omega), number, ofNat_eq_of_toNat (b := first) (by omega),
    ofNat_eq_of_toNat (b := second) (by omega), ofNat_eq_of_toNat (b := third) (by omega)]

theorem encodeChar_ofNat_four (lead : 0xF0 ≤ first.toNat ∧ first.toNat ≤ 0xF4)
    (tailThird : isTail third) (tailFourth : isTail fourth) :
    encodeChar (Char.ofNat ((first.toNat - 0xF0) * 262144 + (second.toNat - 0x80) * 4096
      + (third.toNat - 0x80) * 64 + (fourth.toNat - 0x80))) = [first, second, third, fourth] := by
  obtain ⟨tail, -, -, short, large⟩ := of_not_outside_secondRange inside
  rw [isTail_iff] at tail tailThird tailFourth
  have number := toNat_ofNat_of_valid (n := (first.toNat - 0xF0) * 262144 +
    (second.toNat - 0x80) * 4096 + (third.toNat - 0x80) * 64 + (fourth.toNat - 0x80)) (by omega)
  rw [encodeChar_four (by omega), number, ofNat_eq_of_toNat (b := first) (by omega),
    ofNat_eq_of_toNat (b := second) (by omega), ofNat_eq_of_toNat (b := third) (by omega),
    ofNat_eq_of_toNat (b := fourth) (by omega)]

end Written

/-- A second byte is there and may follow the first one, where the first one needs one. -/
theorem second_of_front {width count : Nat} (known : width? first = some count) (several : count ≠ 1)
    (read : front first rest = .char c width) :
    ∃ second after, rest = second :: after ∧
      ¬ (second < (secondRange first).1 ∨ (secondRange first).2 < second) := by
  cases rest with
  | nil => simp [front, known] at read
  | cons second after =>
      refine ⟨second, after, rfl, fun outside => ?_⟩
      simp only [front, known] at read
      simp [outside] at read

/-- What is read as one character is what this character is written as. -/
theorem encodeChar_of_front {width : Nat} (read : front first rest = .char c width) :
    ∃ tail after, rest = tail ++ after ∧ width = tail.length + 1 ∧ encodeChar c = first :: tail := by
  cases known : width? first with
  | none => simp [front, known] at read
  | some count =>
      obtain ⟨rfl, ascii⟩ | ⟨rfl, lead⟩ | ⟨rfl, lead⟩ | ⟨rfl, lead⟩ := of_width? known
      · simp only [front, known, Front.char.injEq] at read
        obtain ⟨rfl, rfl⟩ := read
        have number := toNat_ofNat_of_valid (n := first.toNat) (.inl (by omega))
        refine ⟨[], rest, rfl, rfl, ?_⟩
        rw [encodeChar_of_lt (by omega), number, UInt8.ofNat_toNat]
      · obtain ⟨second, after, rfl, inside⟩ := second_of_front known (by decide) read
        rw [front_two known inside, Front.char.injEq] at read
        obtain ⟨rfl, rfl⟩ := read
        exact ⟨[second], after, rfl, rfl, encodeChar_ofNat_two inside lead⟩
      · obtain ⟨second, after, rfl, inside⟩ := second_of_front known (by decide) read
        match after with
        | [] => simp [front, known, inside] at read
        | third :: after =>
            by_cases tail : isTail third
            · rw [front_three known inside tail, Front.char.injEq] at read
              obtain ⟨rfl, rfl⟩ := read
              exact ⟨[second, third], after, rfl, rfl, encodeChar_ofNat_three inside lead tail⟩
            · simp [front, known, inside, tail] at read
      · obtain ⟨second, after, rfl, inside⟩ := second_of_front known (by decide) read
        match after with
        | [] => simp [front, known, inside] at read
        | [third] => by_cases tail : isTail third <;> simp [front, known, inside, tail] at read
        | third :: fourth :: after =>
            by_cases tails : isTail third ∧ isTail fourth
            · rw [front_four known inside tails.1 tails.2, Front.char.injEq] at read
              obtain ⟨rfl, rfl⟩ := read
              exact ⟨[second, third, fourth], after, rfl, rfl,
                encodeChar_ofNat_four inside lead tails.1 tails.2⟩
            · by_cases tail : isTail third
              · simp [front, known, inside, tail, show ¬ isTail fourth from fun t => tails ⟨tail, t⟩]
                  at read
              · simp [front, known, inside, tail] at read

theorem encode_of_decodeFrom {start : Nat} {bytes : Bytes}
    (read : decodeFrom false start 0 bytes = .ok text) : encode text = bytes := by
  induction size : bytes.length using Nat.strongRecOn generalizing start bytes text with
  | ind count ih =>
      cases bytes with
      | nil =>
          rw [decodeFrom, Except.ok.injEq] at read
          subst read
          rfl
      | cons first rest =>
          rw [decodeFrom] at read
          cases stands : front first rest with
          | bad count reason => simp [stands] at read
          | char c width =>
              obtain ⟨tail, after, rfl, rfl, written⟩ := encodeChar_of_front stands
              simp only [stands, Nat.add_sub_cancel, decodeFrom_append] at read
              cases later : decodeFrom false (start + 1 + tail.length) 0 after with
              | error e => simp [later, bind, Except.bind] at read
              | ok text =>
                  simp only [later, bind, Except.bind, pure, Except.pure, Except.ok.injEq] at read
                  subst read
                  have shorter : after.length < count := by
                    rw [← size, List.length_cons, List.length_append]
                    omega
                  rw [encode_cons, written, ih after.length shorter later rfl, List.cons_append]

/-- Bytes are read as text exactly if they are what this text is written as. -/
theorem decode_eq_ok_iff {bytes : Bytes} : decode bytes = .ok text ↔ encode text = bytes := by
  constructor
  · exact encode_of_decodeFrom
  · rintro rfl
    exact decode_encode text

theorem encodeChar_eq (c : Char) : encodeChar c = String.utf8EncodeChar c := by
  have valid : c.toNat < 0xD800 ∨ 0xDFFF < c.toNat ∧ c.toNat < 0x110000 := c.valid
  have number : c.val.toNat = c.toNat := rfl
  simp only [encodeChar, String.utf8EncodeChar, number, Nat.lt_succ_iff]
  repeat' split
  · rfl
  · congr 1
    · exact congrArg _ (by omega)
    · rw [Nat.add_comm]
  · congr 1
    · exact congrArg _ (by omega)
    · rw [Nat.add_comm, Nat.add_comm (c.toNat % 64)]
  · congr 1
    · exact congrArg _ (by omega)
    · rw [Nat.add_comm, Nat.add_comm (c.toNat / 64 % 64), Nat.add_comm (c.toNat % 64)]

theorem utf8Encode_eq (text : List Char) : text.utf8Encode = (encode text).toByteArray := by
  rw [List.utf8Encode, encode, funext encodeChar_eq]

theorem bytesOf_toByteArray (s : String) : (bytesOf s).toByteArray = s.toByteArray := by
  rw [bytesOf, ← utf8Encode_eq, String.utf8Encode_toList]

/-- The bytes that can be read are those that the library takes for text. -/
theorem isValidUTF8_iff {bytes : Bytes} :
    bytes.toByteArray.IsValidUTF8 ↔ ∃ text, decode bytes = .ok text := by
  constructor
  · rintro ⟨text, same⟩
    rw [utf8Encode_eq, List.toByteArray_inj] at same
    exact ⟨text, decode_eq_ok_iff.mpr same.symm⟩
  · rintro ⟨text, read⟩
    exact ⟨text, by rw [utf8Encode_eq, decode_eq_ok_iff.mp read]⟩

end AcmeClient.Text.Utf8
