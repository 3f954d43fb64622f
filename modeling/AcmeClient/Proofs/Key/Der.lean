import AcmeClient.Key.Der
import Mathlib.Control.Basic
import Mathlib.Data.Option.Basic

namespace AcmeClient

theorem Bytes.toNat_dropWhile (bytes : Bytes) :
    Bytes.toNat (bytes.dropWhile (· == 0)) = Bytes.toNat bytes := by
  induction bytes with
  | nil => rfl
  | cons b rest ih =>
      by_cases zero : b = 0
      · subst b
        rw [List.dropWhile_cons_of_pos (by decide), ih]
        rfl
      · rw [List.dropWhile_cons_of_neg (by simpa using zero)]

namespace Der

variable {e : Element} {parts : List Element} {rest : Bytes} {length : Nat}

/-- The lengths that are read back: those that four bytes hold. -/
def lengthLimit : Nat := Nat.pow 256 4

theorem significantBytes_spec (below : length < lengthLimit) :
    Bytes.toNat (significantBytes length) = length ∧ (significantBytes length).length ≤ 4 := by
  constructor
  · rw [significantBytes, Bytes.toNat_dropWhile, Bytes.toNat_ofNat]
    exact Nat.lt_trans below (by decide)
  · have high : Bytes.ofNat 8 length = [0, 0, 0, 0] ++ Bytes.ofNat 4 length := by
      have zero : length / 256 / 256 / 256 / 256 = 0 := by
        have limit : lengthLimit = 4294967296 := rfl
        omega
      simp only [Bytes.ofNat, zero]
      rfl
    rw [significantBytes, high]
    have dropped := (List.dropWhile_suffix (l := Bytes.ofNat 4 length) (· == 0)).length_le
    rwa [Bytes.length_ofNat] at dropped

/-- The length that is written is read, whatever follows. -/
theorem readLength?_encodeLength (below : length < lengthLimit) :
    readLength? (encodeLength length ++ rest) = some (length, rest) := by
  unfold encodeLength
  by_cases short : length < 0x80
  · have first : (UInt8.ofNat length).toNat = length := by
      rw [UInt8.toNat_ofNat', Nat.mod_eq_of_lt (by omega)]
    have small : UInt8.ofNat length < 0x80 := by
      rw [UInt8.lt_iff_toNat_lt, first]
      exact short
    rw [if_pos short, List.cons_append, List.nil_append, readLength?, if_pos small, first]
  · obtain ⟨number, size⟩ := significantBytes_spec below
    generalize written : significantBytes length = bytes at number size
    have first : (UInt8.ofNat (0x80 + bytes.length)).toNat = 0x80 + bytes.length := by
      rw [UInt8.toNat_ofNat', Nat.mod_eq_of_lt (by omega)]
    have large : ¬ UInt8.ofNat (0x80 + bytes.length) < 0x80 := by
      rw [UInt8.lt_iff_toNat_lt, first]
      exact Nat.not_lt.mpr (Nat.le_add_right _ _)
    have encoded : encodeLength length = UInt8.ofNat (0x80 + bytes.length) :: bytes := by
      rw [encodeLength, if_neg short, written]
    rw [if_neg short]
    simp only [List.cons_append, readLength?]
    rw [if_neg large, first, Nat.add_sub_cancel_left, List.take_left, List.drop_left, number,
      if_pos ⟨size, encoded⟩]

/-- An element that can be read back: its tag is a single byte, and its length is one that is read. -/
structure Element.IsPlain (e : Element) : Prop where
  tag : e.tag &&& 0x1F ≠ 0x1F
  length : e.content.length < lengthLimit

theorem Element.read?_encode (plain : e.IsPlain) (rest : Bytes) :
    Element.read? (e.encode ++ rest) = some (e, rest) := by
  have size : e.content.length ≤ (e.content ++ rest).length := by simp
  simp only [Element.encode, List.cons_append, List.append_assoc, Element.read?, plain.tag,
    ne_eq, not_false_eq_true, guard_true, readLength?_encodeLength plain.length, bind, Option.bind,
    size, List.take_left, List.drop_left]
  rfl

theorem readElements?_flatMap {steps : Nat} (plain : ∀ e ∈ parts, e.IsPlain)
    (enough : parts.length ≤ steps) :
    readElements? steps (parts.flatMap Element.encode) = some parts := by
  induction parts generalizing steps with
  | nil => cases steps <;> rfl
  | cons e parts ih =>
      cases steps with
      | zero => simp at enough
      | succ steps =>
          rw [List.forall_mem_cons] at plain
          rw [List.length_cons, Nat.add_le_add_iff_right] at enough
          have written : (e :: parts).flatMap Element.encode =
              e.tag :: (encodeLength e.content.length ++ e.content
                ++ parts.flatMap Element.encode) := by
            simp [Element.encode]
          have read := Element.read?_encode plain.1 (parts.flatMap Element.encode)
          rw [← List.flatMap_cons, written] at read
          rw [written, readElements?]
          · simp only [read, ih plain.2 enough, bind, Option.bind]
            rfl
          · simp

theorem length_le_flatMap_encode (parts : List Element) :
    parts.length ≤ (parts.flatMap Element.encode).length := by
  induction parts with
  | nil => simp
  | cons e parts ih =>
      have := ih
      simp only [List.flatMap_cons, List.length_append, List.length_cons, Element.encode]
      omega

theorem length_encode_le (e : Element) : e.encode.length ≤ e.content.length + 10 := by
  have digits : (significantBytes e.content.length).length ≤ 8 := by
    have dropped := (List.dropWhile_suffix (l := Bytes.ofNat 8 e.content.length) (· == 0)).length_le
    rwa [Bytes.length_ofNat] at dropped
  have size : (encodeLength e.content.length).length ≤ 9 := by
    unfold encodeLength
    split
    · simp
    · rw [List.length_cons]
      omega
  simp only [Element.encode, List.length_append, List.length_cons]
  omega

theorem parts?_sequence (plain : ∀ e ∈ parts, e.IsPlain) : (sequence parts).parts? = some parts :=
  readElements?_flatMap plain (length_le_flatMap_encode parts)

theorem parts?_context (number : UInt8) (plain : ∀ e ∈ parts, e.IsPlain) :
    (context number parts).parts? = some parts :=
  readElements?_flatMap plain (length_le_flatMap_encode parts)

theorem readSequence?_sequence (whole : (sequence parts).IsPlain) (plain : ∀ e ∈ parts, e.IsPlain) :
    readSequence? (sequence parts).encode = some parts := by
  have read := Element.read?_encode whole []
  rw [List.append_nil] at read
  have inside : readElements? (sequence parts).content.length (sequence parts).content = some parts :=
    parts?_sequence plain
  simp only [readSequence?, read, inside, bind, Option.bind]
  rfl

end Der

end AcmeClient
