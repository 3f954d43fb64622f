import AcmeClient.Proofs.Json.Reading

namespace AcmeClient.Json

variable {α β : Type} {c : Char} {text rest : List Char} {opening position steps : Nat} {cursor : Cursor}
  {room : Room} {fault : TextFault}

/-- Whether reading fails for a mistake. -/
def Mistaken (fault : TextFault) : Prop := ∃ what position, fault = .mistake what position

/-- What a reader comes to is known: of what it reads, together with the rest, and of what it stops at
without a mistake. -/
structure Comes (result : Except TextFault (α × Cursor)) (reads : α → List Char → Prop)
    (stops : TextFault → Prop) : Prop where
  ok : ∀ {value after}, result = .ok (value, after) → reads value after.rest
  stop : ∀ {fault}, result = .error fault → Mistaken fault ∨ stops fault

namespace Comes

variable {reads : α → List Char → Prop} {others : β → List Char → Prop} {stops halts : TextFault → Prop}

theorem read {value : α} {after : Cursor} (known : reads value after.rest) :
    Comes (.ok (value, after)) reads stops := by
  refine ⟨fun same => ?_, fun failed => by contradiction⟩
  cases same
  exact known

theorem of_error (known : Mistaken fault ∨ stops fault) : Comes (.error fault) reads stops := by
  refine ⟨fun same => by contradiction, fun failed => ?_⟩
  cases failed
  exact known

theorem mistake (what : Mistake) (position : Nat) : Comes (.error (.mistake what position)) reads stops :=
  of_error (.inl ⟨what, position, rfl⟩)

theorem bind {first : Except TextFault (α × Cursor)} {next : α × Cursor → Except TextFault (β × Cursor)}
    (comes : Comes first reads stops) (more : ∀ {fault}, stops fault → halts fault)
    (later : ∀ value after, reads value after.rest → Comes (next (value, after)) others halts) :
    Comes (first >>= next) others halts := by
  cases first with
  | error fault => exact of_error ((comes.stop rfl).imp_right more)
  | ok result =>
      obtain ⟨value, after⟩ := result
      exact later value after (comes.ok rfl)

theorem mono {result : Except TextFault (α × Cursor)} {others : α → List Char → Prop}
    (comes : Comes result reads stops) (more : ∀ {value rest}, reads value rest → others value rest) :
    Comes result others stops :=
  ⟨fun same => more (comes.ok same), comes.stop⟩

end Comes

theorem exists_of_hexCode? {unit : Nat} (code : hexCode? text = some unit) :
    ∃ first second third fourth after, text = first :: second :: third :: fourth :: after ∧
      hexCode? [first, second, third, fourth] = some unit := by
  match text with
  | first :: second :: third :: fourth :: after => exact ⟨first, second, third, fourth, after, rfl, code⟩
  | [] | [_] | [_, _] | [_, _, _] => contradiction

/-- A code stands for itself where no other code that it makes a character with comes next. -/
theorem adds_single {unit : Nat} {first second third fourth : Char}
    (code : hexCode? [first, second, third, fourth] = some unit)
    (alone : ∀ low next, text = '\\' :: 'u' :: low → 5 ≤ low.length → hexCode? low = some next →
      Text.Utf16.isHigh unit = false ∨ Text.Utf16.isLow next = false) :
    Adds (Text.Utf16.single unit) ('\\' :: 'u' :: first :: second :: third :: fourth :: text) text := by
  intro parts rest quoted
  refine ⟨_, .code code quoted, StringPart.meant_code ?_⟩
  rintro next later rfl
  cases quoted with
  | @code e f g h _ low _ _ second after =>
      have follows := List.length_pos_iff.mpr after.ne_nil
      exact alone _ next rfl (by simp only [List.length_cons]; omega) second

theorem adds_of_codeEscape? {taken : Nat} (meant : codeEscape? position text = .ok (c, taken)) :
    ∃ passed after, text = passed ++ after ∧ passed.length = taken ∧ Adds c ('\\' :: 'u' :: text) after := by
  unfold codeEscape? at meant
  split at meant
  · contradiction
  · contradiction
  · rename_i unit code _
    obtain ⟨first, second, third, fourth, after, rfl, digits⟩ := exists_of_hexCode? code
    have single (alone : ∀ low next, after = '\\' :: 'u' :: low → 5 ≤ low.length →
        hexCode? low = some next → Text.Utf16.isHigh unit = false ∨ Text.Utf16.isLow next = false)
        (same : Except.ok (Text.Utf16.single unit, 4) = (.ok (c, taken) : Except TextFault _)) :
        ∃ passed later, first :: second :: third :: fourth :: after = passed ++ later ∧
          passed.length = taken ∧ Adds c ('\\' :: 'u' :: first :: second :: third :: fourth :: after) later := by
      cases same
      exact ⟨[first, second, third, fourth], after, rfl, rfl, adds_single digits alone⟩
    split at meant
    · rename_i low isHigh opened
      replace opened : after = '\\' :: 'u' :: low := opened
      subst opened
      split at meant
      · rename_i short
        refine single ?_ meant
        rintro low next ⟨⟩ enough
        omega
      · split at meant
        · contradiction
        · rename_i next code
          split at meant
          · rename_i isLow
            obtain ⟨e, f, g, h, after, rfl, digitsLow⟩ := exists_of_hexCode? code
            rw [Except.ok.injEq, Prod.mk.injEq] at meant
            obtain ⟨rfl, rfl⟩ := meant
            refine ⟨[first, second, third, fourth, '\\', 'u', e, f, g, h], after, rfl, rfl, ?_⟩
            intro parts rest quoted
            refine ⟨_, .code digits (.code digitsLow quoted), ?_⟩
            rw [StringPart.meant, if_pos (by simp [isHigh, isLow])]
          · rename_i noLow
            refine single ?_ meant
            rintro low other ⟨⟩ - known
            rw [code] at known
            cases known
            exact .inr (Bool.eq_false_of_not_eq_true noLow)
    · rename_i other
      refine single ?_ meant
      rintro low next rfl - -
      refine .inl (Bool.eq_false_of_not_eq_true fun isHigh => ?_)
      exact other low isHigh rfl

theorem adds_of_escape? {taken : Nat} (meant : escape? opening position text = .ok (c, taken)) :
    ∃ passed after, text = passed ++ after ∧ passed.length = taken ∧ Adds c ('\\' :: text) after := by
  unfold escape? at meant
  split at meant
  · contradiction
  · obtain ⟨⟨meant, taken⟩, code, same⟩ := exists_of_bind_eq_ok meant
    cases same
    obtain ⟨passed, after, rfl, rfl, adds⟩ := adds_of_codeEscape? code
    exact ⟨'u' :: passed, after, rfl, rfl, adds⟩
  · rename_i name text _
    split at meant
    · rename_i known
      cases meant
      exact ⟨[name], text, rfl, rfl, adds_letter known text⟩
    · contradiction

theorem mistaken_of_codeEscape? (failed : codeEscape? position text = .error fault) :
    Mistaken fault := by
  unfold codeEscape? at failed
  split at failed
  · cases failed
    exact ⟨_, _, rfl⟩
  · cases failed
    exact ⟨_, _, rfl⟩
  · split at failed
    · split at failed
      · contradiction
      · split at failed
        · cases failed
          exact ⟨_, _, rfl⟩
        · split at failed <;> contradiction
    · contradiction

theorem mistaken_of_escape? (failed : escape? opening position text = .error fault) :
    Mistaken fault := by
  unfold escape? at failed
  split at failed
  · cases failed
    exact ⟨_, _, rfl⟩
  · rcases bind_eq_error_iff.mp failed with failed | ⟨taken, -, failed⟩
    · exact mistaken_of_codeEscape? failed
    · contradiction
  · split at failed
    · contradiction
    · cases failed
      exact ⟨_, _, rfl⟩

theorem comes_readString (opening position : Nat) (read text : List Char) :
    Comes (readString opening position 0 read text)
      (fun s rest => ∃ parts, Quoted text parts rest ∧
        s = String.ofList (read.reverse ++ StringPart.meant parts))
      fun _ => False := by
  -- An escape is passed over at once, so the induction is on the length of what is left.
  induction size : text.length using Nat.strongRecOn generalizing position read text with
  | ind length ih =>
      subst size
      cases text with
      | nil => exact .mistake _ _
      | cons c text =>
          rw [readString]
          split
          · subst c
            exact .read ⟨[], .close, by rw [StringPart.meant, List.append_nil]⟩
          · rename_i noQuote
            split
            · subst c
              cases escaped : escape? opening position text with
              | error fault =>
                  obtain ⟨what, place, rfl⟩ := mistaken_of_escape? escaped
                  exact .mistake what place
              | ok meant =>
                  obtain ⟨c, taken⟩ := meant
                  obtain ⟨passed, after, rfl, rfl, adds⟩ := adds_of_escape? escaped
                  have shorter : after.length < ('\\' :: (passed ++ after)).length := by
                    rw [List.length_cons, List.length_append]
                    omega
                  simp only [bind, Except.bind, readString_skip]
                  refine (ih after.length shorter _ (c :: read) after rfl).mono ?_
                  rintro s rest ⟨parts, quoted, rfl⟩
                  obtain ⟨more, quoted, meant⟩ := adds quoted
                  exact ⟨more, quoted, by rw [meant, List.reverse_cons, List.append_assoc,
                    List.singleton_append]⟩
            · rename_i noBackslash
              split
              · exact .mistake _ _
              · rename_i visible
                refine (ih text.length (Nat.lt_succ_self _) _ (c :: read) text rfl).mono ?_
                rintro s rest ⟨parts, quoted, rfl⟩
                refine ⟨_, .char noQuote noBackslash (Nat.le_of_not_lt visible) quoted, ?_⟩
                rw [StringPart.meant, List.reverse_cons, List.append_assoc, List.singleton_append]

theorem comes_readName (cursor : Cursor) :
    Comes (readName cursor) (Named .accepted cursor.rest) fun _ => False := by
  unfold readName
  split
  · rename_i text opened
    refine (comes_readString _ _ [] text).bind id ?_
    rintro s after ⟨parts, quoted, rfl⟩
    obtain ⟨before, blankBefore, shape⟩ := exists_blanks after.position after.rest
    dsimp only
    split
    · rename_i later colon
      obtain ⟨blanks, blankAfter, rest⟩ := exists_blanks (after.skipBlank.position + 1) later
      refine .read ?_
      rw [Cursor.skipBlank] at colon
      rw [shape, colon, rest] at quoted
      rw [opened]
      exact .quoted trivial quoted blankBefore blankAfter
    · exact .mistake _ _
  · exact .mistake _ _

theorem comes_readPlain (room : Room) (cursor : Cursor) :
    Comes (readPlain cursor) (fun value rest => Spells .accepted room cursor.rest (.value value) rest)
      fun fault => Stalls fault room .value cursor.rest := by
  unfold readPlain
  split
  · rename_i word value found
    have listed : (word, value) ∈ Dialect.words .accepted := List.mem_of_find?_eq_some found
    have starts : word.isPrefixOf cursor.rest := by simpa using List.find?_some found
    obtain ⟨rest, shape⟩ := List.isPrefixOf_iff_prefix.mp starts
    refine .read ?_
    rw [← shape, List.drop_left]
    exact .word listed
  · split
    · exact .mistake _ _
    · rename_i n numeral
      obtain ⟨marks, rest, isWhole, decimal, spelled, text, length, stops⟩ := Numeral.exists_spelled numeral
      rw [text, length, List.drop_left]
      obtain ⟨negative, whole, fraction, exponent, size⟩ := n
      unfold Numeral.value
      dsimp only at isWhole decimal spelled stops ⊢
      split
      · rename_i integer
        rw [Bool.and_eq_true, List.isEmpty_iff, Option.isNone_iff_eq_none] at integer
        obtain ⟨rfl, rfl⟩ := integer
        cases spelled
        split
        · rename_i long
          have several : 1 < whole.length := by
            unfold maxIntegerDigits at long
            omega
          exact .of_error (.inr (.number isWhole rfl long (stops rfl rfl several)))
        · rename_i short
          exact .read (.int isWhole (Nat.le_of_not_lt short))
      · rename_i number
        refine .read (.float isWhole decimal spelled ?_)
        rw [Bool.and_eq_true, List.isEmpty_iff, Option.isNone_iff_eq_none, not_and_or] at number
        exact number

/-- What reading a value, or the rest of a list or an object, comes to in some steps. -/
structure ComesIn (steps : Nat) : Prop where
  value : ∀ room cursor, Comes (readValue room steps cursor)
    (fun value rest => Spells .accepted room cursor.rest (.value value) rest)
    fun fault => Stalls fault room .value cursor.rest
  items : ∀ room read cursor, Comes (readItems room steps read cursor)
    (fun items rest => ∃ more, items = read.reverse ++ more ∧
      Spells .accepted room cursor.rest (.items more) rest)
    fun fault => Stalls fault room .items cursor.rest
  members : ∀ room cursor, Comes (listMembers room steps cursor)
    (fun members rest => Spells .accepted room cursor.rest (.members members) rest)
    fun fault => Stalls fault room .members cursor.rest

namespace ComesIn

theorem value_succ (comes : ComesIn steps) (room : Room) (cursor : Cursor) :
    Comes (readValue room (steps + 1) cursor)
      (fun value rest => Spells .accepted room cursor.rest (.value value) rest)
      fun fault => Stalls fault room .value cursor.rest := by
  rw [readValue]
  split
  · rename_i text opened
    refine (comes_readString _ _ [] text).bind False.elim ?_
    rintro s after ⟨parts, quoted, rfl⟩
    rw [opened]
    exact .read (.str trivial quoted)
  · rename_i text opened
    rw [opened]
    cases opens : room.inner? with
    | none =>
        rw [Room.enter_of_none opens]
        exact .of_error (.inr (.bracket mem_brackets_list rfl opens))
    | some inner =>
        obtain ⟨blanks, blank, shape⟩ := exists_blanks (cursor.position + 1) text
        simp only [Room.enter_of_inner? opens, bind, Except.bind]
        generalize skipBlank (cursor.position + 1) text = start at shape ⊢
        subst shape
        split
        · rename_i closed
          rw [closed]
          exact .read (.emptyList opens blank)
        · refine (comes.items inner [] start).bind (.list opens blank) ?_
          rintro items after ⟨more, rfl, spells⟩
          exact .read (.list opens blank spells)
  · rename_i text opened
    rw [opened]
    cases opens : room.inner? with
    | none =>
        rw [Room.enter_of_none opens]
        exact .of_error (.inr (.bracket mem_brackets_object rfl opens))
    | some inner =>
        obtain ⟨blanks, blank, shape⟩ := exists_blanks (cursor.position + 1) text
        simp only [Room.enter_of_inner? opens, bind, Except.bind]
        generalize skipBlank (cursor.position + 1) text = start at shape ⊢
        subst shape
        split
        · rename_i closed
          rw [closed]
          exact .read (.emptyObject opens blank)
        · rw [readMembers_eq_listMembers]
          have members := comes.members inner start
          cases found : listMembers inner steps start with
          | error fault => exact .of_error ((members.stop found).imp_right (.object opens blank))
          | ok result => exact .read (.object opens blank (members.ok found))
  · exact comes_readPlain room cursor

theorem items_succ (comes : ComesIn steps) (room : Room) (read : List Json) (cursor : Cursor) :
    Comes (readItems room (steps + 1) read cursor)
      (fun items rest => ∃ more, items = read.reverse ++ more ∧
        Spells .accepted room cursor.rest (.items more) rest)
      fun fault => Stalls fault room .items cursor.rest := by
  rw [readItems]
  refine (comes.value room cursor).bind .item fun value after first => ?_
  obtain ⟨before, blankBefore, shape⟩ := exists_blanks after.position after.rest
  dsimp only
  rw [Cursor.skipBlank]
  generalize skipBlank after.position after.rest = found at shape ⊢
  rw [shape] at first
  split
  · rename_i closed
    rw [closed] at first
    exact .read ⟨[value], List.reverse_cons, .lastItem first blankBefore⟩
  · rename_i text comma
    obtain ⟨between, blankAfter, rest⟩ := exists_blanks (found.position + 1) text
    rw [comma, rest] at first
    have later := comes.items room (value :: read) (skipBlank (found.position + 1) text)
    refine ⟨fun same => ?_, fun failed =>
      (later.stop failed).imp_right (.laterItem first blankBefore blankAfter)⟩
    obtain ⟨more, rfl, spells⟩ := later.ok same
    refine ⟨value :: more, ?_, .item first blankBefore blankAfter spells⟩
    rw [List.reverse_cons, List.append_assoc, List.singleton_append]
  · exact .mistake _ _

theorem members_succ (comes : ComesIn steps) (room : Room) (cursor : Cursor) :
    Comes (listMembers room (steps + 1) cursor)
      (fun members rest => Spells .accepted room cursor.rest (.members members) rest)
      fun fault => Stalls fault room .members cursor.rest := by
  rw [listMembers]
  refine (comes_readName cursor).bind False.elim fun name start named => ?_
  refine (comes.value room start).bind (.member named) fun value after first => ?_
  obtain ⟨before, blankBefore, shape⟩ := exists_blanks after.position after.rest
  dsimp only
  rw [Cursor.skipBlank]
  generalize skipBlank after.position after.rest = found at shape ⊢
  rw [shape] at first
  split
  · rename_i closed
    rw [closed] at first
    exact .read (.lastMember named first blankBefore)
  · rename_i text comma
    obtain ⟨between, blankAfter, rest⟩ := exists_blanks (found.position + 1) text
    rw [comma, rest] at first
    refine (comes.members room _).bind (.laterMember named first blankBefore blankAfter) ?_
    exact fun others last spells => .read (.member named first blankBefore blankAfter spells)
  · exact .mistake _ _

end ComesIn

theorem comesIn (steps : Nat) : ComesIn steps := by
  -- The three readers call each other with fewer steps only, so they go through one induction.
  induction steps with
  | zero => exact ⟨fun _ _ => .mistake _ _, fun _ _ _ => .mistake _ _, fun _ _ => .mistake _ _⟩
  | succ steps ih => exact ⟨ih.value_succ, ih.items_succ, ih.members_succ⟩

/-- Exactly the documents of the grammar are read, as the values that they stand for. -/
theorem readText_eq_ok_iff {value : Json} :
    readText text room = .ok value ↔ Document .accepted room text value := by
  refine ⟨fun known => ?_, Document.readText⟩
  obtain ⟨⟨found, after⟩, first, known⟩ := exists_of_bind_eq_ok known
  obtain ⟨blanks, blank, shape⟩ := exists_blanks 0 text
  obtain ⟨later, blankAfter, rest⟩ := exists_blanks after.position after.rest
  have spells := ((comesIn _).value _ _).ok first
  dsimp only at known
  split at known
  · rename_i ended
    cases known
    rw [Cursor.skipBlank, List.isEmpty_iff] at ended
    rw [ended, List.append_nil] at rest
    rw [shape]
    exact .value blank spells (rest ▸ blankAfter)
  · contradiction

/-- Reading stops without a mistake exactly where the grammar says so. -/
theorem readText_eq_error_iff (correct : ¬Mistaken fault) :
    readText text room = .error fault ↔ StallsIn fault room text := by
  refine ⟨fun failed => ?_, StallsIn.readText⟩
  obtain ⟨blanks, blank, shape⟩ := exists_blanks 0 text
  obtain failed | ⟨⟨value, after⟩, -, failed⟩ := bind_eq_error_iff.mp failed
  · rw [shape]
    exact .value blank ((((comesIn _).value _ _).stop failed).resolve_left correct)
  · dsimp only at failed
    split at failed
    · contradiction
    · cases failed
      exact absurd ⟨_, _, rfl⟩ correct

end AcmeClient.Json
