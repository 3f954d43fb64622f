import AcmeClient.Proofs.Base64
import AcmeClient.Proofs.Bytes
import Mathlib.Data.Nat.Digits.Defs

/-!
The URL alphabet as a way to write numbers. Bytes and the characters that stand for them are the digits
of one number, in two bases: where the bytes end within a character, zero bits fill it up. Each byte
string therefore has one text, and every text that leaves no character alone can be read.
-/

namespace AcmeClient.Base64

/-- The number that has given digits in a base, most significant first. -/
def number (base : Nat) (digits : List Nat) : Nat := Nat.ofDigits base digits.reverse

variable {base digit : Nat} {digits values : List Nat} {bytes : Bytes}

theorem number_nil : number base [] = 0 := rfl

theorem number_cons :
    number base (digit :: digits) = digit * base ^ digits.length + number base digits := by
  rw [number, List.reverse_cons, Nat.ofDigits_append, Nat.ofDigits_singleton, List.length_reverse,
    Nat.mul_comm, Nat.add_comm, number]

theorem number_concat : number base (digits ++ [digit]) = base * number base digits + digit := by
  rw [number, List.reverse_concat, Nat.ofDigits_cons, Nat.add_comm, number]

theorem number_group {a b c d : Nat} {rest : List Nat} : number 64 (a :: b :: c :: d :: rest) =
    (a * 262144 + b * 4096 + c * 64 + d) * 64 ^ rest.length + number 64 rest := by
  simp only [number_cons, List.length_cons, Nat.pow_succ]
  ring

theorem toNat_group (x y z : UInt8) (rest : Bytes) : Bytes.toNat (x :: y :: z :: rest) =
    (x.toNat * 65536 + y.toNat * 256 + z.toNat) * 256 ^ rest.length + Bytes.toNat rest := by
  simp only [Bytes.toNat_cons, List.length_cons, Nat.pow_succ]
  ring

/-- As many digits with the same number are the same digits. -/
theorem eq_of_number_eq {others : List Nat} (base_gt : 1 < base) (length : digits.length = others.length)
    (below : ∀ digit ∈ digits, digit < base) (othersBelow : ∀ digit ∈ others, digit < base)
    (same : number base digits = number base others) : digits = others := by
  refine List.reverse_inj.mp (Nat.ofDigits_inj_of_len_eq base_gt ?_ ?_ ?_ same)
  · rw [List.length_reverse, List.length_reverse, length]
  · exact fun digit member => below digit (List.mem_reverse.mp member)
  · exact fun digit member => othersBelow digit (List.mem_reverse.mp member)

/-- How many low bits of the last digit belong to no whole byte. -/
def spareBits (length : Nat) : Nat := 6 * length % 8

theorem pow_length (length : Nat) : 64 ^ length = 256 ^ (6 * length / 8) * 2 ^ spareBits length := by
  calc 64 ^ length = 2 ^ (6 * length) := by rw [Nat.pow_mul]
    _ = 2 ^ (8 * (6 * length / 8) + 6 * length % 8) := by rw [Nat.div_add_mod]
    _ = 256 ^ (6 * length / 8) * 2 ^ spareBits length := by rw [Nat.pow_add, Nat.pow_mul, spareBits]

theorem spareBits_group {a b c d : Nat} {rest : List Nat} :
    spareBits (a :: b :: c :: d :: rest).length = spareBits rest.length := by
  simp only [spareBits, List.length_cons]
  omega

theorem length_ofSextets : (values : List Nat) → (ofSextets values).length = 6 * values.length / 8
  | [] | [_] | [_, _] | [_, _, _] => by simp [ofSextets]
  | _ :: _ :: _ :: _ :: rest => by
      simp only [ofSextets, List.length_cons, length_ofSextets rest]
      omega

theorem length_sextets_ofSextets (paired : values.length % 4 ≠ 1) :
    (sextets (ofSextets values)).length = values.length := by
  rw [length_sextets, length_ofSextets]
  have rest : values.length % 4 = 0 ∨ values.length % 4 = 2 ∨ values.length % 4 = 3 := by omega
  rcases rest with rest | rest | rest <;> omega

/-- Bytes are the digits of the number of their six-bit groups, without the spare bits. -/
theorem toNat_ofSextets : (values : List Nat) → (∀ value ∈ values, value < 64) →
    values.length % 4 ≠ 1 →
    Bytes.toNat (ofSextets values) = number 64 values / 2 ^ spareBits values.length
  | [], _, _ => by simp [ofSextets, Bytes.toNat, number]
  | [_], _, paired => absurd rfl paired
  | [a, b], below, _ => by
      simp only [List.forall_mem_cons] at below
      have first : a * 4 + b / 16 < 256 := by omega
      simp only [ofSextets, Bytes.toNat_cons, Bytes.toNat_nil, UInt8.toNat_ofNat_of_lt' first, number_cons,
        number_nil, List.length_cons, List.length_nil, spareBits, Nat.reduceAdd, Nat.reduceMul,
        Nat.reduceMod, Nat.reducePow]
      omega
  | [a, b, c], below, _ => by
      simp only [List.forall_mem_cons] at below
      have first : a * 4 + b / 16 < 256 := by omega
      have second : b % 16 * 16 + c / 4 < 256 := by omega
      simp only [ofSextets, Bytes.toNat_cons, Bytes.toNat_nil, UInt8.toNat_ofNat_of_lt' first,
        UInt8.toNat_ofNat_of_lt' second, number_cons, number_nil, List.length_cons, List.length_nil,
        spareBits, Nat.reduceAdd, Nat.reduceMul, Nat.reduceMod, Nat.reducePow]
      omega
  | a :: b :: c :: d :: rest, below, paired => by
      simp only [List.forall_mem_cons] at below
      obtain ⟨belowA, belowB, belowC, belowD, belowRest⟩ := below
      have first : a * 4 + b / 16 < 256 := by omega
      have second : b % 16 * 16 + c / 4 < 256 := by omega
      have third : c % 4 * 64 + d < 256 := by omega
      have ih := toNat_ofSextets rest belowRest (by simp only [List.length_cons] at paired; omega)
      have regrouped : (a * 4 + b / 16) * 65536 + (b % 16 * 16 + c / 4) * 256 + (c % 4 * 64 + d) =
          a * 262144 + b * 4096 + c * 64 + d := by omega
      -- A whole group stands above the spare bits of the rest, so the division does not touch it.
      rw [ofSextets, toNat_group, UInt8.toNat_ofNat_of_lt' first, UInt8.toNat_ofNat_of_lt' second,
        UInt8.toNat_ofNat_of_lt' third, regrouped, length_ofSextets, ih, number_group, pow_length,
        spareBits_group, ← Nat.mul_assoc, Nat.mul_comm _ (2 ^ _), Nat.mul_add_div (Nat.two_pow_pos _)]

/-- Six-bit groups are the digits of the number of their bytes, with zeros for the spare bits. -/
theorem number_sextets (bytes : Bytes) :
    number 64 (sextets bytes) = Bytes.toNat bytes * 2 ^ spareBits (sextets bytes).length := by
  fun_induction sextets bytes with
  | case1 => rfl
  | case2 x =>
      simp only [number_cons, number_nil, Bytes.toNat_cons, Bytes.toNat_nil, List.length_cons,
        List.length_nil, spareBits, Nat.reduceAdd, Nat.reduceMul, Nat.reduceMod, Nat.reducePow]
      omega
  | case3 x y =>
      simp only [number_cons, number_nil, Bytes.toNat_cons, Bytes.toNat_nil, List.length_cons,
        List.length_nil, spareBits, Nat.reduceAdd, Nat.reduceMul, Nat.reduceMod, Nat.reducePow]
      omega
  | case4 x y z rest ih =>
      have regrouped : x.toNat / 4 * 262144 + (x.toNat % 4 * 16 + y.toNat / 16) * 4096 +
          (y.toNat % 16 * 4 + z.toNat / 64) * 64 + z.toNat % 64 =
          x.toNat * 65536 + y.toNat * 256 + z.toNat := by omega
      have whole : 6 * (sextets rest).length / 8 = rest.length := by
        rw [length_sextets]
        omega
      rw [number_group, toNat_group, spareBits_group, regrouped, pow_length, whole, ih]
      ring

/-- Groups are read back as they were exactly where no spare bit is lost. -/
theorem sextets_ofSextets_eq_iff (below : ∀ value ∈ values, value < 64)
    (paired : values.length % 4 ≠ 1) :
    sextets (ofSextets values) = values ↔ 2 ^ spareBits values.length ∣ number 64 values := by
  have length := length_sextets_ofSextets paired
  have rounded : number 64 (sextets (ofSextets values)) =
      number 64 values / 2 ^ spareBits values.length * 2 ^ spareBits values.length := by
    rw [number_sextets, length, toNat_ofSextets values below paired]
  constructor
  · intro same
    rw [same] at rounded
    exact ⟨_, rounded.trans (Nat.mul_comm _ _)⟩
  · intro whole
    refine eq_of_number_eq (by decide) length (fun _ => lt_of_mem_sextets) below ?_
    rw [rounded, Nat.div_mul_cancel whole]

/-- Only the last digit has bits to spare. -/
theorem dvd_number_concat_iff :
    2 ^ spareBits (digits ++ [digit]).length ∣ number 64 (digits ++ [digit]) ↔
      digit % 2 ^ spareBits (digits ++ [digit]).length = 0 := by
  have few : spareBits (digits ++ [digit]).length ≤ 6 := by
    unfold spareBits
    omega
  have others : 2 ^ spareBits (digits ++ [digit]).length ∣ 64 * number 64 digits :=
    Dvd.dvd.mul_right (Nat.pow_dvd_pow 2 few) _
  rw [number_concat, Nat.dvd_add_right others, Nat.dvd_iff_mod_eq_zero]

/-- The characters of the URL alphabet, each at the place of the six bits that it stands for. -/
def urlAlphabet : List Char :=
  "ABCDEFGHIJKLMNOPQRSTUVWXYZabcdefghijklmnopqrstuvwxyz0123456789-_".toList

def IsUrlText (text : List Char) : Prop := ∀ c ∈ text, c ∈ urlAlphabet

instance (text : List Char) : Decidable (IsUrlText text) :=
  List.decidableBAll (· ∈ urlAlphabet) text

def urlDigits (text : List Char) : List Nat := text.map urlAlphabet.idxOf

/-- The number that a text denotes in base 64. -/
def urlNumber (text : List Char) : Nat := number 64 (urlDigits text)

/-- The bits of the last character that belong to no byte are zero. -/
def SparesZero (text : List Char) : Prop :=
  ∀ c ∈ text.getLast?, urlAlphabet.idxOf c % 2 ^ spareBits text.length = 0

instance (text : List Char) : Decidable (SparesZero text) :=
  Option.decidableForallMem text.getLast?

variable {text : List Char} {value : Nat}

theorem urlAlphabet_eq : urlAlphabet = (List.range 64).map urlDigit := by decide

theorem urlDigit_mem_urlAlphabet (below : value < 64) : urlDigit value ∈ urlAlphabet := by
  rw [urlAlphabet_eq]
  exact List.mem_map_of_mem (List.mem_range.mpr below)

theorem exists_urlDigit {c : Char} (listed : c ∈ urlAlphabet) : ∃ value < 64, urlDigit value = c := by
  rw [urlAlphabet_eq] at listed
  obtain ⟨value, ranged, same⟩ := List.mem_map.mp listed
  exact ⟨value, List.mem_range.mp ranged, same⟩

theorem idxOf_urlDigit (below : value < 64) : urlAlphabet.idxOf (urlDigit value) = value :=
  (by decide : ∀ value : Fin 64, urlAlphabet.idxOf (urlDigit value) = value) ⟨value, below⟩

theorem urlDigit_idxOf {c : Char} (listed : c ∈ urlAlphabet) : urlDigit (urlAlphabet.idxOf c) = c := by
  obtain ⟨value, below, rfl⟩ := exists_urlDigit listed
  rw [idxOf_urlDigit below]

theorem isUrlText_encodeUrl (bytes : Bytes) : IsUrlText (encodeUrl bytes) := by
  intro c member
  obtain ⟨value, below, rfl⟩ := mem_encodeUrl member
  exact urlDigit_mem_urlAlphabet below

/-- Four characters for three bytes, rounded up. -/
theorem length_encodeUrl (bytes : Bytes) : (encodeUrl bytes).length = (4 * bytes.length + 2) / 3 := by
  rw [encodeUrl, List.length_map, length_sextets]

theorem length_urlDigits (text : List Char) : (urlDigits text).length = text.length := List.length_map _

theorem lt_of_mem_urlDigits (plain : IsUrlText text) : ∀ value ∈ urlDigits text, value < 64 := by
  intro value member
  obtain ⟨c, listed, rfl⟩ := List.mem_map.mp member
  exact List.idxOf_lt_length_of_mem (plain c listed)

theorem map_urlDigits (plain : IsUrlText text) : (urlDigits text).map urlDigit = text := by
  rw [urlDigits, List.map_map]
  exact (List.map_congr_left fun c member => urlDigit_idxOf (plain c member)).trans (List.map_id text)

theorem urlDigits_encodeUrl (bytes : Bytes) : urlDigits (encodeUrl bytes) = sextets bytes := by
  rw [urlDigits, encodeUrl, List.map_map]
  exact (List.map_congr_left fun _ member => idxOf_urlDigit (lt_of_mem_sextets member)).trans
    (List.map_id _)

theorem encodeUrl_eq_iff (plain : IsUrlText text) :
    encodeUrl bytes = text ↔ sextets bytes = urlDigits text := by
  constructor
  · rintro rfl
    exact (urlDigits_encodeUrl bytes).symm
  · intro same
    rw [encodeUrl, same, map_urlDigits plain]

theorem sparesZero_iff : SparesZero text ↔ 2 ^ spareBits text.length ∣ urlNumber text := by
  obtain rfl | ⟨others, last, rfl⟩ := List.eq_nil_or_concat text
  · exact iff_of_true (by simp [SparesZero]) (Nat.dvd_zero _)
  · rw [List.concat_eq_append]
    have digits : urlDigits (others ++ [last]) = urlDigits others ++ [urlAlphabet.idxOf last] :=
      List.map_append
    have length : (others ++ [last]).length = (urlDigits others ++ [urlAlphabet.idxOf last]).length := by
      rw [← digits, length_urlDigits]
    rw [SparesZero, List.getLast?_concat, urlNumber, digits, length, dvd_number_concat_iff]
    simp only [Option.mem_some_iff, forall_eq']

theorem decodeLenient_of_isUrlText (plain : IsUrlText text) : decodeLenient text =
    if text.length % 4 = 1 then .error (.oneTooMany text.length) else .ok (ofSextets (urlDigits text)) := by
  have read := decodeLenient_digits (lt_of_mem_urlDigits plain)
  rwa [map_urlDigits plain, length_urlDigits] at read

theorem exists_decoded_iff (plain : IsUrlText text) :
    (∃ bytes, decodeLenient text = .ok bytes) ↔ text.length % 4 ≠ 1 := by
  rw [decodeLenient_of_isUrlText plain]
  split <;> simp_all

/-- The bytes that a text holds have its number without the spare bits, and are written as this text
unless the spare bits say something. -/
theorem of_decodeLenient (plain : IsUrlText text) (read : decodeLenient text = .ok bytes) :
    bytes.length = 6 * text.length / 8 ∧
      Bytes.toNat bytes = urlNumber text / 2 ^ spareBits text.length ∧
      (encodeUrl bytes = text ↔ SparesZero text) := by
  have paired := (exists_decoded_iff plain).mp ⟨bytes, read⟩
  have below := lt_of_mem_urlDigits plain
  rw [decodeLenient_of_isUrlText plain, if_neg paired, Except.ok.injEq] at read
  rw [← length_urlDigits] at paired
  rw [← read, encodeUrl_eq_iff plain, sextets_ofSextets_eq_iff below paired, length_ofSextets,
    toNat_ofSextets _ below paired, length_urlDigits, sparesZero_iff]
  exact ⟨rfl, rfl, Iff.rfl⟩

/-- Bytes have one text in the URL alphabet, without padding and with four characters for three bytes,
rounded up: the digits of their number, with zeros where no byte is left. It gives them back, with the
padding or without. A text of this alphabet can be read unless its last character stands alone, and is the
text of what it holds where no spare bit is set. -/
theorem url_text_exchange :
    (∀ bytes : Bytes,
      IsUrlText (encodeUrl bytes) ∧
      (encodeUrl bytes).length = (4 * bytes.length + 2) / 3 ∧
      urlNumber (encodeUrl bytes) = bytes.toNat * 2 ^ spareBits (encodeUrl bytes).length ∧
      decodeLenient (encodeUrl bytes) = .ok bytes ∧
      decodeLenient (encodeUrl bytes ++ paddingFor (encodeUrl bytes).length) = .ok bytes) ∧
    ∀ text : List Char, IsUrlText text →
      ((∃ bytes, decodeLenient text = .ok bytes) ↔ text.length % 4 ≠ 1) ∧
      ∀ bytes, decodeLenient text = .ok bytes →
        bytes.length = 6 * text.length / 8 ∧
        bytes.toNat = urlNumber text / 2 ^ spareBits text.length ∧
        (encodeUrl bytes = text ↔ SparesZero text) := by
  refine ⟨fun bytes => ⟨isUrlText_encodeUrl bytes, length_encodeUrl bytes, ?_,
    decodeLenient_encodeUrl bytes, ?_⟩, fun _ plain => ⟨exists_decoded_iff plain, fun _ =>
    of_decodeLenient plain⟩⟩
  · rw [urlNumber, urlDigits_encodeUrl, number_sextets, encodeUrl, List.length_map]
  · rw [decodeLenient_append_paddingFor, decodeLenient_encodeUrl]

/-- Two bytes in three characters, of which the last one sets a spare bit: what is read is written with
another last character. -/
theorem url_text_exchange_of_spare_bit :
    IsUrlText "__5".toList ∧ decodeLenient "__5".toList = .ok [0xFF, 0xFE] ∧
      encodeUrl [0xFF, 0xFE] ≠ "__5".toList := by
  have plain : IsUrlText "__5".toList := by decide
  have read : decodeLenient "__5".toList = .ok [0xFF, 0xFE] := by decide
  refine ⟨plain, read, fun same => ?_⟩
  have zero := ((url_text_exchange.2 _ plain).2 _ read).2.2.mp same
  exact absurd zero (by decide)

end AcmeClient.Base64
