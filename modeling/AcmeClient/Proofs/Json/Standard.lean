import AcmeClient.Proofs.Json.Limits

namespace AcmeClient.Json

variable {text rest : List Char} {phrase : Phrase} {value : Json} {room wide : Room}

/-- What is being read where a phrase is. -/
def Phrase.place : Phrase → Place
  | .value _ => .value
  | .items _ => .items
  | .members _ => .members

theorem Named.accepted {dialect : Dialect} {name : String} (named : Named dialect text name rest) :
    Named .accepted text name rest := by
  cases named with
  | quoted _ quoted before after => exact .quoted trivial quoted before after

/-- Behind a bracket there is room for what it opens, or the reader stops at it. -/
theorem opens_or_stalls {opening : Char} {kind : String} (listed : (opening, kind) ∈ brackets)
    (room : Room) (rest : List Char) :
    (∃ inner, room.inner? = some inner) ∨ ∃ fault, Stalls fault room .value (opening :: rest) := by
  cases opens : room.inner? with
  | none => exact .inr ⟨_, .bracket listed rfl opens⟩
  | some inner => exact .inl ⟨inner, rfl⟩

/-- A phrase of the standard is read, unless it goes beyond a limit. -/
theorem Spells.accepted_or_stalls (spells : Spells .standard wide text phrase rest)
    (ends : phrase.place = .value → Ends rest) (room : Room) :
    Spells .accepted room text phrase rest ∨ ∃ fault, Stalls fault room phrase.place text := by
  induction spells generalizing room with
  | word listed => exact .inl (.word (List.mem_append_left (words.drop 3) listed))
  | @int _ negative whole rest isWhole =>
      by_cases short : whole.length ≤ maxIntegerDigits
      · exact .inl (.int isWhole short)
      · exact .inr ⟨_, .number isWhole rfl (Nat.lt_of_not_le short) (.of_ends (ends rfl))⟩
  | float isWhole decimal marks broken => exact .inl (.float isWhole decimal marks broken)
  | str _ quoted => exact .inl (.str trivial quoted)
  | emptyList _ blank =>
      obtain ⟨inner, opens⟩ | stalls := opens_or_stalls mem_brackets_list room _
      · exact .inl (.emptyList opens blank)
      · exact .inr stalls
  | list _ blank _ ih =>
      obtain ⟨inner, opens⟩ | stalls := opens_or_stalls mem_brackets_list room _
      · exact (ih nofun inner).imp (.list opens blank) fun ⟨fault, stalls⟩ =>
          ⟨fault, .list opens blank stalls⟩
      · exact .inr stalls
  | emptyObject _ blank =>
      obtain ⟨inner, opens⟩ | stalls := opens_or_stalls mem_brackets_object room _
      · exact .inl (.emptyObject opens blank)
      · exact .inr stalls
  | object _ blank _ ih =>
      obtain ⟨inner, opens⟩ | stalls := opens_or_stalls mem_brackets_object room _
      · exact (ih nofun inner).imp (.object opens blank) fun ⟨fault, stalls⟩ =>
          ⟨fault, .object opens blank stalls⟩
      · exact .inr stalls
  | lastItem _ blank ih =>
      obtain spells | ⟨fault, stalls⟩ := ih (fun _ => ends_append blank (by decide)) room
      · exact .inl (.lastItem spells blank)
      · exact .inr ⟨fault, .item stalls⟩
  | item _ before after _ ihFirst ihLater =>
      obtain first | ⟨fault, stalls⟩ := ihFirst (fun _ => ends_append before (by decide)) room
      · obtain later | ⟨fault, stalls⟩ := ihLater nofun room
        · exact .inl (.item first before after later)
        · exact .inr ⟨fault, .laterItem first before after stalls⟩
      · exact .inr ⟨fault, .item stalls⟩
  | lastMember named _ blank ih =>
      obtain spells | ⟨fault, stalls⟩ := ih (fun _ => ends_append blank (by decide)) room
      · exact .inl (.lastMember named.accepted spells blank)
      · exact .inr ⟨fault, .member named.accepted stalls⟩
  | member named _ before after _ ihFirst ihLater =>
      obtain first | ⟨fault, stalls⟩ := ihFirst (fun _ => ends_append before (by decide)) room
      · obtain later | ⟨fault, stalls⟩ := ihLater nofun room
        · exact .inl (.member named.accepted first before after later)
        · exact .inr ⟨fault, .laterMember named.accepted first before after stalls⟩
      · exact .inr ⟨fault, .member named.accepted stalls⟩

theorem Document.accepted_or_stalls (document : Document .standard wide text value) (room : Room) :
    Document .accepted room text value ∨ ∃ fault, StallsIn fault room text := by
  obtain ⟨before, spells, after⟩ := document
  obtain spells | ⟨fault, stalls⟩ := spells.accepted_or_stalls (fun _ => ends_blank after) room
  · exact .inl (.value before spells after)
  · exact .inr ⟨fault, .value before stalls⟩

/-- Whether a text may hold half of a pair: the escape of one stands in it, or the replacement character,
which is read for one that was encoded. -/
inductive HoldsHalf (text : List Char) : Prop
  | escaped {digits : List Char} {unit : Nat} :
      hexCode? digits = some unit → IsHalf unit → '\\' :: 'u' :: digits <:+: text → HoldsHalf text
  | encoded : Text.replacement ∈ text → HoldsHalf text

theorem HoldsHalf.mono (half : HoldsHalf rest) (within : rest <:+ text) : HoldsHalf text := by
  cases half with
  | escaped code half stands => exact .escaped code half (stands.trans within.isInfix)
  | encoded member => exact .encoded (within.subset member)

/-- Whether a text has what the standard does not: a word for what is no finite number, or half of a
pair. -/
inductive IsForeign (text : List Char) : Prop
  | word {word : String} : word ∈ ["NaN", "Infinity"] → word.toList <:+: text → IsForeign text
  | half : HoldsHalf text → IsForeign text

theorem IsForeign.mono (foreign : IsForeign rest) (within : rest <:+ text) : IsForeign text := by
  cases foreign with
  | word listed stands => exact .word listed (stands.trans within.isInfix)
  | half half => exact .half (half.mono within)

theorem standard_or_isForeign {word : List Char} (listed : (word, value) ∈ words) (rest : List Char) :
    (word, value) ∈ Dialect.words .standard ∨ IsForeign (word ++ rest) := by
  obtain known | foreign := List.mem_append.mp (List.take_append_drop 3 words ▸ listed)
  · exact .inl known
  · simp only [words, List.drop_succ_cons, List.drop_zero, List.mem_cons, Prod.mk.injEq,
      List.not_mem_nil, or_false] at foreign
    obtain ⟨rfl, -⟩ | ⟨rfl, -⟩ | ⟨rfl, -⟩ := foreign
    · exact .inr (@IsForeign.word _ "NaN" (by decide) ⟨[], rest, rfl⟩)
    · exact .inr (@IsForeign.word _ "Infinity" (by decide) ⟨[], rest, rfl⟩)
    · exact .inr (@IsForeign.word _ "Infinity" (by decide) ⟨['-'], rest, rfl⟩)

theorem Quoted.paired_or_isForeign {parts : List StringPart} (quoted : Quoted text parts rest) :
    StringPart.Paired parts ∨ IsForeign text := by
  induction quoted with
  | close => exact .inl trivial
  | char _ _ _ _ ih => exact ih.imp id fun foreign => foreign.mono (List.suffix_cons _ _)
  | letter _ _ ih => exact ih.imp id fun foreign => foreign.mono ⟨['\\', _], rfl⟩
  | @code first second third fourth unit text rest parts code _ ih =>
      by_cases half : IsHalf unit
      · exact .inr (.half (.escaped code half ⟨[], text, rfl⟩))
      · exact ih.imp (StringPart.paired_code half) fun foreign =>
          foreign.mono ⟨['\\', 'u', first, second, third, fourth], rfl⟩

theorem Named.standard_or_isForeign {name : String} (named : Named .accepted text name rest) :
    Named .standard text name rest ∨ IsForeign text := by
  cases named with
  | quoted _ quoted before after =>
      exact quoted.paired_or_isForeign.imp (fun paired => .quoted paired quoted before after)
        fun foreign => foreign.mono (List.suffix_cons _ _)

/-- A phrase that is read is one of the standard, unless it has what the standard does not. -/
theorem Spells.standard_or_isForeign (spells : Spells .accepted room text phrase rest) :
    Spells .standard room text phrase rest ∨ IsForeign text := by
  induction spells with
  | word listed => exact (Json.standard_or_isForeign listed _).imp_left .word
  | int isWhole => exact .inl (.int isWhole trivial)
  | float isWhole decimal marks broken => exact .inl (.float isWhole decimal marks broken)
  | str _ quoted =>
      exact quoted.paired_or_isForeign.imp (fun paired => .str paired quoted)
        fun foreign => foreign.mono (List.suffix_cons _ _)
  | emptyList opens blank => exact .inl (.emptyList opens blank)
  | list opens blank _ ih =>
      exact ih.imp (.list opens blank) fun foreign =>
        foreign.mono ((List.suffix_append _ _).trans (List.suffix_cons _ _))
  | emptyObject opens blank => exact .inl (.emptyObject opens blank)
  | object opens blank _ ih =>
      exact ih.imp (.object opens blank) fun foreign =>
        foreign.mono ((List.suffix_append _ _).trans (List.suffix_cons _ _))
  | lastItem _ blank ih => exact ih.imp_left fun spells => .lastItem spells blank
  | item first before after _ ihFirst ihLater =>
      obtain known | foreign := ihFirst
      · exact ihLater.imp (.item known before after) fun foreign =>
          foreign.mono ((suffix_between _ _ _ _).trans first.starts.suffix)
      · exact .inr foreign
  | lastMember named _ blank ih =>
      obtain known | foreign := named.standard_or_isForeign
      · exact ih.imp (fun spells => .lastMember known spells blank) fun foreign =>
          foreign.mono named.starts.suffix
      · exact .inr foreign
  | member named first before after _ ihFirst ihLater =>
      obtain called | foreign := named.standard_or_isForeign
      · obtain known | foreign := ihFirst
        · exact ihLater.imp (.member called known before after) fun foreign =>
            foreign.mono (((suffix_between _ _ _ _).trans first.starts.suffix).trans named.starts.suffix)
        · exact .inr (foreign.mono named.starts.suffix)
      · exact .inr foreign

theorem Document.standard_or_isForeign (document : Document .accepted room text value) :
    Document .standard room text value ∨ IsForeign text := by
  obtain ⟨before, spells, after⟩ := document
  obtain spells | foreign := spells.standard_or_isForeign
  · exact .inl (.value before spells after)
  · exact .inr (foreign.mono (List.suffix_append _ _))

end AcmeClient.Json
