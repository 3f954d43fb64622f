import AcmeClient.Json.Reader
import AcmeClient.Json.Writer
import Mathlib.Tactic.SplitIfs

namespace AcmeClient

theorem Bytes.hexValue?_hexDigit {value : Nat} (below : value < 16) :
    hexValue? (hexDigit value) = some value :=
  (by decide : ∀ value : Fin 16, hexValue? (hexDigit value) = some value.val) ⟨value, below⟩

theorem Bytes.hexDigit_isPrintable {value : Nat} (below : value < 16) :
    ' ' ≤ hexDigit value ∧ hexDigit value ≤ '~' :=
  (by decide : ∀ value : Fin 16, ' ' ≤ hexDigit value ∧ hexDigit value ≤ '~') ⟨value, below⟩

namespace Json

variable {α : Type} {c : Char} {rest : List Char}

/-- What a reader comes to: a value, and the text that it leaves. -/
def Reads (result : Except TextFault (α × Cursor)) (value : α) (rest : List Char) : Prop :=
  ∃ position, result = .ok (value, ⟨position, rest⟩)

theorem exists_of_bind_eq_ok {ε α β : Type} {first : Except ε α} {next : α → Except ε β} {result : β}
    (done : (first >>= next) = .ok result) :
    ∃ value, first = .ok value ∧ next value = .ok result := by
  cases first with
  | error failure => contradiction
  | ok value => exact ⟨value, rfl, done⟩

theorem bind_eq_ok_iff {ε α β : Type} {first : Except ε α} {next : α → Except ε β} {result : β} :
    (first >>= next) = .ok result ↔ ∃ value, first = .ok value ∧ next value = .ok result := by
  constructor
  · exact exists_of_bind_eq_ok
  · rintro ⟨value, known, done⟩
    rw [known]
    exact done

theorem bind_eq_error_iff {ε α β : Type} {first : Except ε α} {next : α → Except ε β} {e : ε} :
    (first >>= next) = .error e ↔
      first = .error e ∨ ∃ value, first = .ok value ∧ next value = .error e := by
  cases first with
  | error other => simp [bind, Except.bind]
  | ok value => simp [bind, Except.bind]

theorem hexCode?_hexDigits {code : Nat} (fits : code < 0x10000) (rest : List Char) :
    hexCode? (hexDigits code ++ rest) = some code := by
  have whole : 4096 * (code / 4096 % 16) + 256 * (code / 256 % 16) + 16 * (code / 16 % 16) +
      code % 16 = code := by
    omega
  have digit (value : Nat) : Bytes.hexValue? (Bytes.hexDigit (value % 16)) = some (value % 16) :=
    Bytes.hexValue?_hexDigit (Nat.mod_lt _ (by decide))
  simp only [hexDigits, List.cons_append, List.nil_append, hexCode?, digit, bind, Option.bind, pure,
    whole]

theorem isHigh_eq_false {code : Nat} (plain : code < 0xD800 ∨ 0xDFFF < code) :
    Text.Utf16.isHigh code = false := by
  simp [Text.Utf16.isHigh]
  omega

theorem isLow_eq_false {code : Nat} (plain : code < 0xD800 ∨ 0xDFFF < code) :
    Text.Utf16.isLow code = false := by
  simp [Text.Utf16.isLow]
  omega

/-- A code stands for itself, unless it is a high half with the escape of another code after it. -/
theorem codeEscape?_single {unit : Nat} {text : List Char} (position : Nat)
    (code : hexCode? text = some unit) (follows : text.drop 4 ≠ [])
    (alone : Text.Utf16.isHigh unit = false ∨ ∀ low, text.drop 4 ≠ '\\' :: 'u' :: low) :
    codeEscape? position text = .ok (Text.Utf16.single unit, 4) := by
  obtain ⟨next, more, after⟩ := List.exists_cons_of_ne_nil follows
  rw [after] at alone
  simp only [codeEscape?, code, after]
  split
  · rename_i isHigh opened
    obtain noHigh | other := alone
    · simp [noHigh] at isHigh
    · exact absurd opened (other _)
  · rfl

theorem codeEscape?_two {high low : Nat} {text next : List Char} (position : Nat)
    (code : hexCode? text = some high) (isHigh : Text.Utf16.isHigh high = true)
    (after : text.drop 4 = '\\' :: 'u' :: next) (second : hexCode? next = some low)
    (follows : 5 ≤ next.length) :
    codeEscape? position text = if Text.Utf16.isLow low then .ok (Char.ofNat (Text.Utf16.join high low), 10)
      else .ok (Text.Utf16.single high, 4) := by
  simp only [codeEscape?, code, after, isHigh, Nat.not_lt.mpr follows, if_false, second]

theorem single_toNat (c : Char) : Text.Utf16.single c.toNat = c := by
  have valid : c.toNat < 0xD800 ∨ 0xDFFF < c.toNat ∧ c.toNat < 0x110000 := c.valid
  have plain : c.toNat < 0xD800 ∨ 0xDFFF < c.toNat := by omega
  simp only [Text.Utf16.single, isHigh_eq_false plain, isLow_eq_false plain, Bool.or_self,
    Bool.false_eq_true, if_false, Char.ofNat_toNat]

theorem exists_halves (large : 0x10000 ≤ c.toNat) : ∃ high low,
    writeCode c = '\\' :: 'u' :: hexDigits high ++ '\\' :: 'u' :: hexDigits low ∧
      Text.Utf16.isHigh high = true ∧ Text.Utf16.isLow low = true ∧
      Char.ofNat (Text.Utf16.join high low) = c := by
  have valid : c.toNat < 0xD800 ∨ 0xDFFF < c.toNat ∧ c.toNat < 0x110000 := c.valid
  refine ⟨0xD800 + (c.toNat - 0x10000) / 1024, 0xDC00 + (c.toNat - 0x10000) % 1024, ?_, ?_, ?_, ?_⟩
  · rw [writeCode, if_neg (Nat.not_lt.mpr large)]
  · simp [Text.Utf16.isHigh]
    omega
  · simp [Text.Utf16.isLow]
    omega
  · have joined : Text.Utf16.join (0xD800 + (c.toNat - 0x10000) / 1024)
        (0xDC00 + (c.toNat - 0x10000) % 1024) = c.toNat := by
      unfold Text.Utf16.join
      omega
    rw [joined, Char.ofNat_toNat]

theorem readString_skip (opening position : Nat) (read skipped rest : List Char) :
    readString opening position skipped.length read (skipped ++ rest) =
      readString opening (position + skipped.length) 0 read rest := by
  induction skipped generalizing position with
  | nil => rfl
  | cons c skipped ih =>
      rw [List.cons_append, List.length_cons, readString, ih]
      congr 1
      omega

/-- An escape is passed over, and the character that it means is kept. -/
theorem readString_escape (opening position : Nat) (read : List Char) {escaped : List Char}
    {count : Nat} (length : escaped.length = count)
    (meant : escape? opening position (escaped ++ rest) = .ok (c, count)) :
    ∃ next, readString opening position 0 read ('\\' :: escaped ++ rest) =
      readString opening next 0 (c :: read) rest := by
  subst count
  refine ⟨position + 1 + escaped.length, ?_⟩
  rw [List.cons_append, readString, if_neg (by decide), if_pos rfl, meant]
  exact readString_skip opening (position + 1) (c :: read) escaped rest

theorem escape?_code {opening position : Nat} {text : List Char} {count : Nat}
    (meant : codeEscape? (position + 1) text = .ok (c, count)) :
    escape? opening position ('u' :: text) = .ok (c, count + 1) := by
  simp only [escape?, meant, bind, Except.bind, pure, Except.pure]

theorem escape?_letter {opening position : Nat} {name : Char} (known : escapeLetter? name = some c)
    (rest : List Char) : escape? opening position (name :: rest) = .ok (c, 1) := by
  have short : name ≠ 'u' := by
    rintro rfl
    contradiction
  rw [escape?]
  · simp only [known]
  · exact short

end Json

end AcmeClient
