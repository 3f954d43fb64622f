import AcmeClient.Json.Writer
import AcmeClient.Proofs.Json.Strings
import AcmeClient.Proofs.Number.Decimal
import AcmeClient.Proofs.Number.Shortest

namespace AcmeClient

variable {text rest : List Char} {c : Char}

/-- Whether a text cannot go on with a number that ends before it. -/
def Ends (rest : List Char) : Prop :=
  ∀ c ∈ rest.head?, c.isDigit = false ∧ c ≠ '.' ∧ c ≠ 'e' ∧ c ≠ 'E'

namespace Json

theorem takeDigits_append (decimal : ∀ c ∈ text, c.isDigit)
    (ends : ∀ c ∈ rest.head?, c.isDigit = false) : takeDigits (text ++ rest) = text := by
  rw [takeDigits, List.takeWhile_append_of_pos decimal]
  cases rest with
  | nil => rw [List.takeWhile_nil, List.append_nil]
  | cons c rest =>
      rw [List.takeWhile_cons_of_neg (by simp [ends c rfl]), List.append_nil]

theorem isDigit_of_mem_takeDigits (member : c ∈ takeDigits text) : c.isDigit :=
  List.all_eq_true.mp List.all_takeWhile c member

theorem takeDigits_leading (text : List Char) : takeDigits text <+: text := List.takeWhile_prefix _

theorem wholeDigits_leading (text : List Char) : wholeDigits text <+: text := by
  unfold wholeDigits
  split
  · exact ⟨_, rfl⟩
  · exact takeDigits_leading _

namespace Numeral

/-- A fraction after its point, if there is one. -/
def pointed (fraction : List Char) : List Char := if fraction = [] then [] else '.' :: fraction

/-- The signs of an exponent, and whether each makes it negative. -/
def signs : List (List Char × Bool) := [([], false), (['+'], false), (['-'], true)]

/-- The texts of an exponent, which may be missing. -/
inductive Marks : List Char → Option Int → Prop
  | none : Marks [] none
  | some {mark : Char} {sign places : List Char} {negative : Bool} :
      mark = 'e' ∨ mark = 'E' → (sign, negative) ∈ signs → places ≠ [] → (∀ c ∈ places, c.isDigit) →
      Marks (mark :: (sign ++ places))
        (some (if negative then -(ofDigits places : Int) else ofDigits places))

/-- An exponent after its mark, if there is one. -/
def marked : Option Int → List Char
  | none => []
  | some e => 'e' :: Scientific.exponentText e

/-- The text of a numeral. -/
def written (negative : Bool) (whole fraction : List Char) (exponent : Option Int) : List Char :=
  Binary64.sign negative ++ whole ++ pointed fraction ++ marked exponent

/-- Whether digits can stand before the point. -/
structure IsWhole (whole : List Char) : Prop where
  decimal : ∀ c ∈ whole, c.isDigit
  starts : ∃ first rest, whole = first :: rest ∧ (first = '0' → rest = [])

theorem isWhole_zero : IsWhole ['0'] := ⟨List.all_eq_true.mp rfl, '0', [], rfl, fun _ => rfl⟩

theorem isWhole_digits (n : Nat) : IsWhole (digits n) := by
  refine ⟨fun _ => isDigit_of_mem_digits, ?_⟩
  by_cases positive : 0 < n
  · obtain ⟨first, rest, written, different, -⟩ := exists_digits positive
    exact ⟨first, rest, written, fun zero => absurd zero different⟩
  · obtain rfl : n = 0 := by omega
    exact ⟨'0', [], rfl, fun _ => rfl⟩

theorem wholeDigits_append {whole : List Char} (isWhole : IsWhole whole)
    (ends : ∀ c ∈ rest.head?, c.isDigit = false) : wholeDigits (whole ++ rest) = whole := by
  obtain ⟨first, more, rfl, alone⟩ := isWhole.starts
  by_cases zero : first = '0'
  · subst first
    rw [alone rfl]
    rfl
  · rw [List.cons_append, wholeDigits]
    · exact takeDigits_append isWhole.decimal ends
    · exact fun _ same => zero (List.cons.inj same).1

theorem marks_marked (exponent : Option Int) : Marks (marked exponent) exponent := by
  cases exponent with
  | none => exact .none
  | some e =>
      obtain ⟨places, size, decimal, present, shown⟩ : ∃ places, ofDigits places = e.natAbs ∧
          (∀ c ∈ places, c.isDigit) ∧ places ≠ [] ∧
          Scientific.exponentText e = (if e < 0 then '-' else '+') :: places := by
        by_cases short : (digits e.natAbs).length < 2
        · refine ⟨'0' :: digits e.natAbs, ?_, ?_, by simp, ?_⟩
          · exact (ofDigits_replicate_append 1 _).trans (ofDigits_digits _)
          · rw [List.forall_mem_cons]
            exact ⟨by decide, fun _ => isDigit_of_mem_digits⟩
          · simp only [Scientific.exponentText, short, if_true]
        · refine ⟨digits e.natAbs, ofDigits_digits _, fun _ => isDigit_of_mem_digits,
            digits_ne_nil _, ?_⟩
          simp only [Scientific.exponentText, short, if_false]
      have listed : ([if e < 0 then '-' else '+'], decide (e < 0)) ∈ signs := by
        by_cases negative : e < 0 <;> simp [signs, negative]
      have marks := Marks.some (.inl rfl) listed present decimal
      have value : (if decide (e < 0) = true then -(ofDigits places : Int) else ofDigits places) = e := by
        rw [size]
        simp only [decide_eq_true_eq]
        omega
      rw [value] at marks
      rwa [marked, shown]

/-- A text with which a number that ends before it does not go on. -/
structure Stops (rest : List Char) : Prop where
  digit : ∀ c ∈ rest.head?, c.isDigit = false
  fraction : ∀ c more, rest = '.' :: c :: more → c.isDigit = false
  exponent : ∀ marks e more, Marks marks (some e) → rest ≠ marks ++ more

theorem Stops.of_ends (ends : Ends rest) : Stops rest where
  digit c member := (ends c member).1
  fraction := by
    rintro c more rfl
    exact absurd rfl (ends '.' rfl).2.1
  exponent := by
    rintro marks e more ⟨mark, -, -, -⟩ rfl
    obtain ⟨-, -, small, large⟩ := ends _ rfl
    tauto

variable {whole fraction marks : List Char} {exponent : Option Int}

/-- After a sign, or where there is none, an exponent is read from the digits that follow. -/
theorem readExponent_sign {mark : Char} {sign unsigned : List Char} {negative : Bool}
    (known : mark = 'e' ∨ mark = 'E') (listed : (sign, negative) ∈ signs)
    (alone : sign = [] → ∀ c ∈ unsigned.head?, c ≠ '-' ∧ c ≠ '+') :
    readExponent (mark :: (sign ++ unsigned)) =
      if (takeDigits unsigned).isEmpty then (none, 0)
      else (some (if negative then -(ofDigits (takeDigits unsigned) : Int) else ofDigits (takeDigits unsigned)),
        1 + sign.length + (takeDigits unsigned).length) := by
  simp only [signs, List.mem_cons, Prod.mk.injEq, List.not_mem_nil, or_false] at listed
  obtain ⟨rfl, rfl⟩ | ⟨rfl, rfl⟩ | ⟨rfl, rfl⟩ := listed
  · cases unsigned with
    | nil => simp [readExponent, known, takeDigits]
    | cons first more =>
        obtain ⟨noMinus, noPlus⟩ := alone rfl first rfl
        simp [readExponent, known, noMinus, noPlus]
  · simp [readExponent, known]
  · simp [readExponent, known]

/-- What stands at the start of a text is an exponent, or there is none. -/
theorem readExponent_cases (text : List Char) :
    readExponent text = (none, 0) ∨ ∃ marks e rest, text = marks ++ rest ∧ Marks marks (some e) ∧
      readExponent text = (some e, marks.length) := by
  cases text with
  | nil => exact .inl rfl
  | cons mark text =>
      by_cases known : mark = 'e' ∨ mark = 'E'
      · obtain ⟨sign, negative, unsigned, rfl, listed, alone⟩ : ∃ sign negative unsigned,
            text = sign ++ unsigned ∧ (sign, negative) ∈ signs ∧
              (sign = [] → ∀ c ∈ unsigned.head?, c ≠ '-' ∧ c ≠ '+') := by
          by_cases minus : text.head? = some '-'
          · obtain ⟨unsigned, rfl⟩ := List.head?_eq_some_iff.mp minus
            exact ⟨['-'], true, unsigned, rfl, by simp [signs], by simp⟩
          · by_cases plus : text.head? = some '+'
            · obtain ⟨unsigned, rfl⟩ := List.head?_eq_some_iff.mp plus
              exact ⟨['+'], false, unsigned, rfl, by simp [signs], by simp⟩
            · refine ⟨[], false, text, rfl, by simp [signs], fun _ c first => ⟨?_, ?_⟩⟩
              · rintro rfl
                exact minus first
              · rintro rfl
                exact plus first
        have read := readExponent_sign known listed alone
        by_cases missing : takeDigits unsigned = []
        · exact .inl (by simpa [missing] using read)
        · have decimal : ∀ c ∈ takeDigits unsigned, c.isDigit := fun _ => isDigit_of_mem_takeDigits
          refine .inr ⟨_, _, unsigned.dropWhile Char.isDigit, ?_, .some known listed missing decimal, ?_⟩
          · rw [List.cons_append, List.append_assoc, takeDigits, List.takeWhile_append_dropWhile]
          · rw [read, if_neg (by simpa using missing), List.length_cons, List.length_append]
            congr 1
            omega
      · exact .inl (by simp [readExponent, known])

theorem readExponent_marks (spells : Marks marks exponent) (stops : Stops rest) :
    readExponent (marks ++ rest) = (exponent, marks.length) := by
  cases spells with
  | none =>
      obtain missing | ⟨marks, e, more, rfl, spells, -⟩ := readExponent_cases rest
      · exact missing
      · exact absurd rfl (stops.exponent marks e more spells)
  | @some mark sign places negative known listed present decimal =>
      have taken : takeDigits (places ++ rest) = places := takeDigits_append decimal stops.digit
      have alone : sign = [] → ∀ c ∈ (places ++ rest).head?, c ≠ '-' ∧ c ≠ '+' := by
        obtain ⟨first, more, rfl⟩ := List.exists_cons_of_ne_nil present
        have digit := decimal first List.mem_cons_self
        rintro - c ⟨⟩
        constructor <;> rintro rfl <;> contradiction
      rw [List.cons_append, List.append_assoc, readExponent_sign known listed alone, taken,
        if_neg (by simpa using present), List.length_cons, List.length_append]
      congr 1
      omega

theorem head_marks (spells : Marks marks exponent) (stops : Stops rest) :
    ∀ c ∈ (marks ++ rest).head?, c.isDigit = false := by
  cases spells with
  | none => exact stops.digit
  | some known =>
      rintro c ⟨⟩
      obtain rfl | rfl := known <;> decide

theorem head_pointed (fraction : List Char) (spells : Marks marks exponent) (stops : Stops rest) :
    ∀ c ∈ (pointed fraction ++ (marks ++ rest)).head?, c.isDigit = false := by
  unfold pointed
  split
  · rw [List.nil_append]
    exact head_marks spells stops
  · rintro c ⟨⟩
    decide

theorem fractionDigits_pointed (decimal : ∀ c ∈ fraction, c.isDigit) (spells : Marks marks exponent)
    (stops : Stops rest) : fractionDigits (pointed fraction ++ (marks ++ rest)) = fraction := by
  by_cases missing : fraction = []
  · rw [pointed, if_pos missing, List.nil_append, missing]
    cases spells with
    | none =>
        unfold fractionDigits
        split
        · rename_i more same
          cases more with
          | nil => rfl
          | cons c more => simp [takeDigits, stops.fraction c more same]
        · rfl
    | some known =>
        obtain rfl | rfl := known <;> rfl
  · have taken : takeDigits (fraction ++ (marks ++ rest)) = fraction :=
      takeDigits_append decimal (head_marks spells stops)
    rwa [pointed, if_neg missing]

theorem length_pointed (fraction : List Char) :
    (pointed fraction).length = if fraction.isEmpty then 0 else fraction.length + 1 := by
  cases fraction <;> rfl

/-- The text of a numeral with an exponent as it is given. -/
def spelled (negative : Bool) (whole fraction marks : List Char) : List Char :=
  Binary64.sign negative ++ whole ++ pointed fraction ++ marks

/-- What is read of a numeral after its sign. -/
def readUnsigned? (negative : Bool) (unsigned : List Char) : Option Numeral :=
  let whole := wholeDigits unsigned
  if whole.isEmpty then none
  else
    let afterWhole := unsigned.drop whole.length
    let fraction := fractionDigits afterWhole
    let pointed := (pointed fraction).length
    let (exponent, taken) := readExponent (afterWhole.drop pointed)
    some ⟨negative, whole, fraction, exponent,
      (Binary64.sign negative).length + whole.length + pointed + taken⟩

theorem read?_sign {n : Bool} {unsigned : List Char} (noSign : n = true ∨ unsigned.head? ≠ some '-') :
    read? (Binary64.sign n ++ unsigned) = readUnsigned? n unsigned := by
  cases n with
  | true => simp [read?, readUnsigned?, Binary64.sign, length_pointed]
  | false =>
      have noSign := noSign.resolve_left nofun
      simp [read?, readUnsigned?, Binary64.sign, length_pointed, noSign]

theorem read?_spelled (negative : Bool) (isWhole : IsWhole whole) (decimal : ∀ c ∈ fraction, c.isDigit)
    (spells : Marks marks exponent) (stops : Stops rest) :
    read? (spelled negative whole fraction marks ++ rest) =
      some ⟨negative, whole, fraction, exponent, (spelled negative whole fraction marks).length⟩ := by
  obtain ⟨first, more, opened, -⟩ := isWhole.starts
  have digit := isWhole.decimal first (opened ▸ List.mem_cons_self)
  have noSign : (whole ++ (pointed fraction ++ (marks ++ rest))).head? ≠ some '-' := by
    rw [opened]
    rintro ⟨⟩
    contradiction
  have some : whole.isEmpty = false := by
    rw [opened]
    rfl
  have front : wholeDigits (whole ++ (pointed fraction ++ (marks ++ rest))) = whole :=
    wholeDigits_append isWhole (head_pointed fraction spells stops)
  have read := read?_sign (n := negative) (.inr noSign)
  simp only [readUnsigned?, front, some, List.drop_left, Bool.false_eq_true, if_false,
    fractionDigits_pointed decimal spells stops, readExponent_marks spells stops] at read
  simpa [spelled, Nat.add_assoc] using read

theorem head_drop_takeDigits (text : List Char) :
    ∀ c ∈ (text.drop (takeDigits text).length).head?, c.isDigit = false := by
  induction text with
  | nil => simp [takeDigits]
  | cons first more ih =>
      by_cases digit : first.isDigit
      · simpa [takeDigits, digit] using ih
      · simp [takeDigits, digit]

/-- The digits that are read before a point, which go on as far as they can unless they are a zero. -/
theorem isWhole_wholeDigits (present : wholeDigits text ≠ []) : IsWhole (wholeDigits text) ∧
    (1 < (wholeDigits text).length →
      ∀ c ∈ (text.drop (wholeDigits text).length).head?, c.isDigit = false) := by
  unfold wholeDigits at present ⊢
  split at present
  · exact ⟨isWhole_zero, by simp⟩
  · rename_i noZero
    refine ⟨⟨fun _ => isDigit_of_mem_takeDigits, ?_⟩, fun _ => head_drop_takeDigits text⟩
    obtain ⟨first, more, taken⟩ := List.exists_cons_of_ne_nil present
    refine ⟨first, more, taken, ?_⟩
    rintro rfl
    obtain ⟨rest, whole⟩ := taken ▸ takeDigits_leading text
    exact absurd whole.symm (noZero _)

theorem exists_pointed (text : List Char) : (∀ c ∈ fractionDigits text, c.isDigit) ∧
    pointed (fractionDigits text) <+: text ∧
    (fractionDigits text = [] → ∀ c more, text = '.' :: c :: more → c.isDigit = false) := by
  unfold fractionDigits
  split
  · rename_i more
    refine ⟨fun _ => isDigit_of_mem_takeDigits, ?_, ?_⟩
    · unfold pointed
      split
      · exact List.nil_prefix
      · exact List.cons_prefix_cons.mpr ⟨rfl, takeDigits_leading more⟩
    · rintro missing c later ⟨⟩
      by_contra digit
      rw [Bool.not_eq_false] at digit
      simp [takeDigits, digit] at missing
  · rename_i noPoint
    refine ⟨by simp, List.nil_prefix, ?_⟩
    rintro - c more rfl
    exact absurd rfl (noPoint _)

theorem readExponent_ne_none {e : Int} (spells : Marks marks (some e)) (rest : List Char) :
    (readExponent (marks ++ rest)).1 ≠ none := by
  cases spells with
  | @some mark sign places negative known listed present decimal =>
      obtain ⟨first, more, rfl⟩ := List.exists_cons_of_ne_nil present
      have digit := decimal first List.mem_cons_self
      have alone : sign = [] → ∀ c ∈ (first :: more ++ rest).head?, c ≠ '-' ∧ c ≠ '+' := by
        rintro - c ⟨⟩
        constructor <;> rintro rfl <;> contradiction
      rw [List.cons_append, List.append_assoc, readExponent_sign known listed alone, if_neg]
      · simp
      · simp [takeDigits, digit]

/-- A numeral that is read stands at the start of the text, and takes all the digits that follow. -/
theorem exists_spelled {n : Numeral} (numeral : read? text = some n) : ∃ marks rest,
    IsWhole n.whole ∧ (∀ c ∈ n.fraction, c.isDigit) ∧ Marks marks n.exponent ∧
      text = spelled n.negative n.whole n.fraction marks ++ rest ∧
      n.length = (spelled n.negative n.whole n.fraction marks).length ∧
      (n.fraction = [] → n.exponent = none → 1 < n.whole.length → Stops rest) := by
  obtain ⟨negative, unsigned, rfl, noSign⟩ : ∃ negative unsigned,
      text = Binary64.sign negative ++ unsigned ∧ (negative = true ∨ unsigned.head? ≠ some '-') := by
    by_cases minus : text.head? = some '-'
    · obtain ⟨unsigned, rfl⟩ := List.head?_eq_some_iff.mp minus
      exact ⟨true, unsigned, rfl, .inl rfl⟩
    · exact ⟨false, text, rfl, .inr minus⟩
  rw [read?_sign noSign, readUnsigned?] at numeral
  simp only [Option.ite_none_left_eq_some, List.isEmpty_iff] at numeral
  obtain ⟨present, numeral⟩ := numeral
  obtain ⟨isWhole, goesOn⟩ := isWhole_wholeDigits present
  obtain ⟨afterWhole, split⟩ := wholeDigits_leading unsigned
  generalize wholeDigits unsigned = whole at *
  subst split
  rw [List.drop_left] at numeral goesOn
  obtain ⟨decimal, ⟨afterFraction, broken⟩, noFraction⟩ := exists_pointed afterWhole
  generalize fractionDigits afterWhole = fraction at *
  subst broken
  rw [List.drop_left] at numeral
  obtain missing | ⟨marks, e, rest, rfl, spells, read⟩ := readExponent_cases afterFraction
  · rw [missing] at numeral
    cases numeral
    refine ⟨[], afterFraction, isWhole, decimal, .none, by simp [spelled],
      by simp [spelled, Nat.add_assoc], ?_⟩
    rintro rfl - long
    refine ⟨goesOn long, noFraction rfl, ?_⟩
    rintro marks e more spells rfl
    exact readExponent_ne_none spells more (by rw [missing])
  · rw [read] at numeral
    cases numeral
    refine ⟨marks, rest, isWhole, decimal, spells, by simp [spelled], by simp [spelled, Nat.add_assoc], ?_⟩
    rintro - ⟨⟩

/-- The parts in which a decimal is written, which are read as this decimal. -/
structure Shown (x : Scientific) (whole fraction : List Char) (exponent : Option Int) : Prop where
  text : x.text = written false whole fraction exponent
  isWhole : IsWhole whole
  decimal : ∀ c ∈ fraction, c.isDigit
  noInteger : fraction ≠ [] ∨ exponent ≠ none
  value : ∀ negative, Binary64.ofDecimal negative (ofDigits (whole ++ fraction))
    (exponent.getD 0 - fraction.length) = x.toBinary64 negative

theorem isWhole_cons {first : Char} (decimal : ∀ c ∈ first :: rest, c.isDigit) (different : first ≠ '0') :
    IsWhole (first :: rest) :=
  ⟨decimal, first, rest, rfl, fun zero => absurd zero different⟩

theorem shown_exponential {x : Scientific} {first : Char} {rest : List Char}
    (starts : x.significant = first :: rest) (decimal : x.IsDecimal)
    (outside : x.exponent < -4 ∨ 16 ≤ x.exponent) : Shown x [first] rest (some x.exponent) := by
  obtain ⟨significant, e⟩ := x
  subst starts
  have digit : first.isDigit := decimal first List.mem_cons_self
  refine ⟨?_, ⟨by simpa using digit, first, [], rfl, fun _ => rfl⟩,
    fun c member => decimal c (List.mem_cons_of_mem _ member), .inr (by simp), fun negative => ?_⟩
  · rw [Scientific.text, if_pos outside]
    cases rest <;> rfl
  · rw [Scientific.toBinary64, List.singleton_append, Option.getD_some, List.length_cons,
      Nat.add_sub_cancel]

theorem ofDecimal_positional {x : Scientific} (some : x.significant ≠ []) (negative : Bool)
    {fraction : List Char} (whole : x.positional.2 = [] → fraction = ['0'])
    (broken : x.positional.2 ≠ [] → fraction = x.positional.2) :
    Binary64.ofDecimal negative (ofDigits (x.positional.1 ++ fraction)) (0 - fraction.length) =
      x.toBinary64 negative := by
  obtain ⟨significant, e⟩ := x
  have size := List.length_pos_iff.mpr some
  cases e with
  | ofNat e =>
      simp only [Scientific.positional, Scientific.toBinary64] at size whole broken ⊢
      by_cases short : significant.length ≤ e + 1
      · obtain rfl := whole (List.drop_of_length_le short)
        have zeros : significant ++ List.replicate (e + 1 - significant.length) '0' ++ ['0'] =
            significant ++ List.replicate (e + 1 - significant.length + 1) '0' := by
          rw [List.append_assoc, List.replicate_succ']
        have places : 0 - (['0'].length : Int) = Int.ofNat e - (significant.length - 1 : Nat) -
            (e + 1 - significant.length + 1 : Nat) := by
          simp only [List.length_singleton, Int.ofNat_eq_natCast]
          omega
        rw [List.take_of_length_le short, zeros, ofDigits_append_replicate, places,
          Binary64.ofDecimal_shift]
      · have more : significant.drop (e + 1) ≠ [] := by
          rw [Ne, List.drop_eq_nil_iff]
          exact short
        obtain rfl := broken more
        have length : (significant.take (e + 1)).length = e + 1 := by
          rw [List.length_take]
          omega
        have places : 0 - ((significant.drop (e + 1)).length : Int) =
            Int.ofNat e - (significant.length - 1 : Nat) := by
          simp only [List.length_drop, Int.ofNat_eq_natCast]
          omega
        rw [length, Nat.sub_self, List.replicate_zero, List.append_nil, List.take_append_drop, places]
  | negSucc e =>
      simp only [Scientific.positional, Scientific.toBinary64] at size broken ⊢
      obtain rfl := broken (List.append_ne_nil_of_right_ne_nil _ some)
      have zeros : ['0'] ++ (List.replicate e '0' ++ significant) =
          List.replicate (e + 1) '0' ++ significant := rfl
      have places : 0 - ((List.replicate e '0' ++ significant).length : Int) =
          Int.negSucc e - (significant.length - 1 : Nat) := by
        rw [List.length_append, List.length_replicate]
        omega
      rw [zeros, ofDigits_replicate_append, places]

theorem isWhole_positional {x : Scientific} {first : Char} {rest : List Char}
    (starts : x.significant = first :: rest) (different : first ≠ '0') (decimal : x.IsDecimal) :
    IsWhole x.positional.1 := by
  have all : ∀ c ∈ x.positional.1, c.isDigit := fun c member => decimal.mem_positional (.inl member)
  obtain ⟨significant, e⟩ := x
  subst starts
  cases e with
  | ofNat e => exact isWhole_cons all different
  | negSucc e => exact isWhole_zero

theorem shown_positional {x : Scientific} {first : Char} {rest : List Char}
    (starts : x.significant = first :: rest) (different : first ≠ '0') (decimal : x.IsDecimal)
    (inside : ¬ (x.exponent < -4 ∨ 16 ≤ x.exponent)) :
    Shown x x.positional.1 (if x.positional.2 = [] then ['0'] else x.positional.2) none where
  text := by
    rw [Scientific.text, if_neg inside]
    by_cases none : x.positional.2 = [] <;>
      simp [written, Binary64.sign, pointed, marked, none]
  isWhole := isWhole_positional starts different decimal
  decimal := by
    split
    · exact isWhole_zero.decimal
    · exact fun c member => decimal.mem_positional (.inr member)
  noInteger := by
    left
    split <;> simp_all
  value negative := ofDecimal_positional (by simp [starts]) negative
    (fun none => if_pos none) (fun some => if_neg some)

theorem exists_shown {magnitude : Fin magnitudeCount} (positive : 0 < magnitude.val) :
    ∃ whole fraction exponent, Shown (Scientific.shortest magnitude) whole fraction exponent := by
  obtain ⟨first, rest, starts, different⟩ := Scientific.exists_significant positive
  have decimal := Scientific.isDecimal_shortest magnitude
  by_cases outside : (Scientific.shortest magnitude).exponent < -4 ∨
      16 ≤ (Scientific.shortest magnitude).exponent
  · exact ⟨_, _, _, shown_exponential starts decimal outside⟩
  · exact ⟨_, _, _, shown_positional starts different decimal outside⟩

end Numeral

variable {whole fraction marks : List Char} {exponent : Option Int}

theorem find?_words (isWhole : Numeral.IsWhole whole) (negative : Bool) :
    (words.find? fun word =>
      word.1.isPrefixOf (Numeral.spelled negative whole fraction marks ++ rest)) = none := by
  obtain ⟨first, more, rfl, -⟩ := isWhole.starts
  have digit := isWhole.decimal first List.mem_cons_self
  have other {letter : Char} (noDigit : letter.isDigit = false) : (letter == first) = false := by
    rw [beq_eq_false_iff_ne]
    rintro rfl
    rw [noDigit] at digit
    contradiction
  cases negative <;>
    simp [words, Numeral.spelled, Binary64.sign, List.isPrefixOf, other]

theorem readPlain_spelled (position : Nat) (negative : Bool) (isWhole : Numeral.IsWhole whole)
    (decimal : ∀ c ∈ fraction, c.isDigit) (spells : Numeral.Marks marks exponent)
    (stops : Numeral.Stops rest) : ∃ length,
    readPlain ⟨position, Numeral.spelled negative whole fraction marks ++ rest⟩ =
      (Numeral.value ⟨negative, whole, fraction, exponent, length⟩).map fun value =>
        (value, ⟨position + length, rest⟩) := by
  refine ⟨(Numeral.spelled negative whole fraction marks).length, ?_⟩
  simp only [readPlain, find?_words isWhole, Numeral.read?_spelled negative isWhole decimal spells stops,
    List.drop_left]
  cases Numeral.value _ <;> rfl

theorem reads_spelled {negative : Bool} {value : Json} (position : Nat) (isWhole : Numeral.IsWhole whole)
    (decimal : ∀ c ∈ fraction, c.isDigit) (spells : Numeral.Marks marks exponent) (ends : Ends rest)
    (known : ∀ length, Numeral.value ⟨negative, whole, fraction, exponent, length⟩ = .ok value) :
    Reads (readPlain ⟨position, Numeral.spelled negative whole fraction marks ++ rest⟩) value rest := by
  obtain ⟨length, read⟩ := readPlain_spelled position negative isWhole decimal spells (.of_ends ends)
  rw [known] at read
  exact ⟨_, read⟩

theorem signedDigits_eq_written (i : Int) :
    signedDigits i = Numeral.written (decide (i < 0)) (digits i.natAbs) [] none := by
  by_cases negative : i < 0 <;>
    simp [signedDigits, Numeral.written, Binary64.sign, Numeral.pointed, Numeral.marked, negative]

end Json

end AcmeClient
