import AcmeClient.Proofs.Json.Documents

/-!
What keeps a text from being read although it is no mistake. An integer is too long only where so many
digits stand in a row, and there is no room for a bracket only where more brackets are opened than there
is room for.
-/

namespace AcmeClient.Json

variable {text rest : List Char} {count : Nat} {kind : String} {room inner : Room} {fault : TextFault}

/-- Whether so many digits stand in a row somewhere in a text. -/
def HasRun (count : Nat) (text : List Char) : Prop :=
  ∃ run, run <:+: text ∧ run.length = count ∧ ∀ c ∈ run, c.isDigit

theorem HasRun.mono (run : HasRun count rest) (within : rest <:+ text) : HasRun count text := by
  obtain ⟨digits, listed, length, decimal⟩ := run
  exact ⟨digits, listed.trans within.isInfix, length, decimal⟩

theorem hasRun_spelled {whole : List Char} (negative : Bool) (isWhole : Numeral.IsWhole whole) :
    HasRun whole.length (Numeral.spelled negative whole [] [] ++ rest) := by
  refine ⟨whole, ⟨Binary64.sign negative, rest, ?_⟩, rfl, isWhole.decimal⟩
  simp only [Numeral.spelled, Numeral.pointed, if_true, List.append_nil]

/-- How many brackets are opened in a text, those in its strings among them. -/
def openings (text : List Char) : Nat := text.countP fun c => c = '[' || c = '{'

/-- Whether more brackets are opened in a text than there is room for. -/
def Room.IsExceeded (room : Room) (text : List Char) : Prop :=
  ∃ limit, room.left = some limit ∧ limit < openings text

theorem Room.IsExceeded.mono (exceeded : room.IsExceeded rest) (within : rest <:+ text) :
    room.IsExceeded text := by
  obtain ⟨limit, limited, few⟩ := exceeded
  exact ⟨limit, limited, few.trans_le within.sublist.countP_le⟩

theorem Room.isExceeded_of_full {opening : Char} (listed : (opening, kind) ∈ brackets)
    (full : room.inner? = none) : room.IsExceeded (opening :: rest) := by
  unfold inner? at full
  split at full
  · contradiction
  · rename_i limited
    refine ⟨0, limited, List.countP_pos_iff.mpr ⟨opening, List.mem_cons_self, ?_⟩⟩
    simp only [brackets, List.mem_cons, Prod.mk.injEq, List.not_mem_nil, or_false] at listed
    obtain ⟨rfl, -⟩ | ⟨rfl, -⟩ := listed <;> decide
  · contradiction

/-- One more bracket takes up the room that is left for it. -/
theorem Room.IsExceeded.outside {opening : Char} (exceeded : inner.IsExceeded rest)
    (listed : (opening, kind) ∈ brackets) (opens : room.inner? = some inner) :
    room.IsExceeded (opening :: rest) := by
  obtain ⟨limit, limited, few⟩ := exceeded
  unfold inner? at opens
  split at opens
  · cases opens
    contradiction
  · contradiction
  · rename_i more left
    cases opens
    cases limited
    refine ⟨limit + 1, left, ?_⟩
    have counted : openings (opening :: rest) = openings rest + 1 := by
      simp only [brackets, List.mem_cons, Prod.mk.injEq, List.not_mem_nil, or_false] at listed
      obtain ⟨rfl, -⟩ | ⟨rfl, -⟩ := listed <;> exact List.countP_cons_of_pos (by decide)
    rw [counted]
    exact Nat.succ_lt_succ few

/-- What a fault says of the text that it is found in. -/
def TextFault.Shows (room : Room) (text : List Char) : TextFault → Prop
  | .mistake _ _ => False
  | .longInteger count => maxIntegerDigits < count ∧ HasRun count text
  | .tooDeep _ => room.IsExceeded text

theorem TextFault.Shows.mono (shows : fault.Shows room rest) (within : rest <:+ text) :
    fault.Shows room text := by
  cases fault with
  | mistake => exact shows
  | longInteger => exact shows.imp_right fun run => run.mono within
  | tooDeep => exact Room.IsExceeded.mono shows within

theorem TextFault.Shows.outside {opening : Char} {blanks : List Char} (shows : fault.Shows inner text)
    (listed : (opening, kind) ∈ brackets) (opens : room.inner? = some inner) :
    fault.Shows room (opening :: (blanks ++ text)) := by
  have within : text <:+ blanks ++ text := List.suffix_append _ _
  cases fault with
  | mistake => exact shows
  | longInteger => exact shows.imp_right fun run => run.mono (within.trans (List.suffix_cons _ _))
  | tooDeep => exact (Room.IsExceeded.mono shows within).outside listed opens

theorem Stalls.shows {place : Place} (stalls : Stalls fault room place text) : fault.Shows room text := by
  induction stalls with
  | number isWhole same long =>
      subst same
      exact ⟨long, hasRun_spelled _ isWhole⟩
  | bracket listed same full =>
      subst same
      exact Room.isExceeded_of_full listed full
  | list opens _ _ ih => exact ih.outside mem_brackets_list opens
  | object opens _ _ ih => exact ih.outside mem_brackets_object opens
  | item _ ih => exact ih
  | laterItem first _ _ _ ih => exact ih.mono ((suffix_between _ _ _ _).trans first.starts.suffix)
  | member named _ ih => exact ih.mono named.starts.suffix
  | laterMember named first _ _ _ ih =>
      exact ih.mono (((suffix_between _ _ _ _).trans first.starts.suffix).trans named.starts.suffix)

theorem StallsIn.shows (stalls : StallsIn fault room text) : fault.Shows room text := by
  cases stalls with
  | value _ stalls => exact stalls.shows.mono (List.suffix_append _ _)

theorem not_mistaken_longInteger (count : Nat) : ¬Mistaken (.longInteger count) := nofun

theorem not_mistaken_tooDeep (kind : String) : ¬Mistaken (.tooDeep kind) := nofun

/-- What is no mistake has no place in the text. -/
theorem locate_eq_iff {other : TextFault} (correct : ¬Mistaken fault) :
    other.locate text = fault.locate [] ↔ other = fault := by
  cases fault with
  | mistake what position => exact absurd ⟨what, position, rfl⟩ correct
  | longInteger | tooDeep => cases other <;> simp [TextFault.locate]

theorem read_eq_error_iff {body : Bytes} (correct : ¬Mistaken fault) :
    read body room = .error (fault.locate []) ↔
      ∃ text, Text.decodeDetected body = .ok text ∧ StallsIn fault room text := by
  unfold read
  cases Text.decodeDetected body with
  | error e =>
      cases fault with
      | mistake what position => exact absurd ⟨what, position, rfl⟩ correct
      | longInteger | tooDeep => simp [TextFault.locate]
  | ok text =>
      simp only [Except.ok.injEq, exists_eq_left', ← readText_eq_error_iff correct]
      cases readText text room <;> simp [locate_eq_iff correct]

/-- A text of nothing but too many digits, of which the first is not zero. -/
theorem read_digits {first : Char} (decimal : ∀ c ∈ first :: rest, c.isDigit) (different : first ≠ '0')
    (long : maxIntegerDigits < (first :: rest).length) :
    read (Text.Utf8.encode (first :: rest)) room = .error (.longInteger (first :: rest).length) := by
  have isWhole := Numeral.isWhole_cons decimal different
  have stops : Numeral.Stops [] := .of_ends (ends_blank blank_nil)
  have spelled : Numeral.spelled false (first :: rest) [] [] ++ [] = first :: rest := by
    simp only [Numeral.spelled, Numeral.pointed, Binary64.sign, if_true, List.append_nil, Bool.false_eq_true,
      if_false, List.nil_append]
  have spells : Spells .standard room (Numeral.spelled false (first :: rest) [] [] ++ []) _ [] :=
    .int isWhole trivial
  have stalls : Stalls _ room .value (Numeral.spelled false (first :: rest) [] [] ++ []) :=
    .number isWhole rfl long stops
  rw [spelled] at spells stalls
  have document : Document .standard room (first :: rest) _ := .value blank_nil spells blank_nil
  exact (read_eq_error_iff (not_mistaken_longInteger _)).mpr
    ⟨_, document.decodeDetected, .value blank_nil stalls⟩

end AcmeClient.Json
