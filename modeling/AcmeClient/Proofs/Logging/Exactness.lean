import AcmeClient.Proofs.Logging.Redaction

namespace AcmeClient.Redaction

variable {text rest result before opening body closing : List Char}

/-- How a text is redacted from left to right: both markers of a block stay with what stands before
them, and the mark takes the place of what stood between them. -/
inductive Redacts : (text result : List Char) → Prop
  | plain {text : List Char} :
      (∀ before opening body closing rest, ¬ FirstBlock text before opening body closing rest) →
      Redacts text text
  | block {text before opening body closing rest result : List Char} :
      FirstBlock text before opening body closing rest → Redacts rest result →
      Redacts text (before ++ (shown opening closing ++ result))

theorem Redacts.redactBlocks_eq (redacts : Redacts text result) : redactBlocks text = result := by
  induction redacts with
  | plain none => exact redactBlocks_of_no_block none
  | block found _ ih => rw [redactBlocks_of_firstBlock found, ih]

theorem redacts_redactBlocks (text : List Char) : Redacts text (redactBlocks text) := by
  by_cases blocks : ∃ before opening body closing rest, FirstBlock text before opening body closing rest
  · obtain ⟨before, opening, body, closing, rest, found⟩ := blocks
    have shorter := found.length_lt
    rw [redactBlocks_of_firstBlock found]
    exact .block found (redacts_redactBlocks rest)
  · have none : ∀ before opening body closing rest,
        ¬ FirstBlock text before opening body closing rest :=
      fun before opening body closing rest found => blocks ⟨before, opening, body, closing, rest, found⟩
    rw [redactBlocks_of_no_block none]
    exact .plain none
termination_by text.length

theorem redactBlocks_eq_iff : redactBlocks text = result ↔ Redacts text result := by
  refine ⟨?_, Redacts.redactBlocks_eq⟩
  rintro rfl
  exact redacts_redactBlocks text

/-- A redacted block is still a block, and what stands behind it is redacted on its own. -/
theorem Redacts.alikeText (redacts : Redacts text result) : AlikeText text result := by
  induction redacts with
  | plain => exact .same _
  | block found _ ih => exact .block found (found.redacted _) ih

theorem alikeText_redactBlocks (text : List Char) : AlikeText text (redactBlocks text) :=
  (redacts_redactBlocks text).alikeText

theorem redactBlocks_redactBlocks (text : List Char) :
    redactBlocks (redactBlocks text) = redactBlocks text :=
  (alikeText_redactBlocks text).redactBlocks_eq.symm

theorem mayHoldBlock_iff : mayHoldBlock text ↔ hint <:+: text := by
  induction text with
  | nil => exact ⟨nofun, fun holds => absurd (List.infix_nil.mp holds) (by decide)⟩
  | cons c text ih =>
      rw [mayHoldBlock, Bool.or_eq_true, List.isPrefixOf_iff_prefix, ih, List.infix_cons_iff]

theorem hint_infix_or_unchanged (text : List Char) : hint <:+: text ∨ redactBlocks text = text := by
  cases holds : mayHoldBlock text with
  | true => exact .inl (mayHoldBlock_iff.mp holds)
  | false => exact .inr (redactBlocks_of_no_hint holds)

variable {entries : List (Datum × Datum)}

theorem redactKey_redactKey (entries : List (Datum × Datum)) :
    redactKey (redactKey entries) = redactKey entries := by
  rw [redactKey, redactKey, List.map_map]
  refine List.map_congr_left fun entry _ => ?_
  by_cases secret : isSecretName entry.1 <;> simp [secret]

mutual

theorem alike_redact (value : Datum) : Alike false value (redact value) := by
  match value with
  | .text s =>
      rw [redact, redactText_eq]
      exact .text (by simpa using alikeText_redactBlocks s.toList)
  | .list items =>
      rw [redact]
      exact .list (alikeItems_redact items)
  | .tuple items =>
      rw [redact]
      exact .tuple (alikeItems_redact items)
  | .map entries =>
      cases isKey : (Datum.find? "kty" entries).isSome with
      | true =>
          rw [redact_key isKey]
          exact .key isKey (redactKey_eq_iff.mp (redactKey_redactKey entries).symm)
      | false =>
          rw [redact_map isKey]
          exact .map isKey (alikeEntries_redact entries)
  | .null | .bool _ | .int _ | .float _ | .bytes _ | .date _ | .moment _ | .set _ | .again _ =>
      rw [redact_of_isScalar rfl]
      exact .same _

theorem alikeItems_redact : (items : List Datum) →
    AlikeItems false items (redact.redactItems items)
  | [] => .nil
  | item :: items => .cons (alike_redact item) (alikeItems_redact items)

theorem alikeEntries_redact : (entries : List (Datum × Datum)) →
    AlikeEntries false entries (redact.redactEntries entries)
  | [] => .nil
  | (_, value) :: entries => .cons (alike_redact value) (alikeEntries_redact entries)

end

theorem redact_redact (value : Datum) : redact (redact value) = redact value :=
  (alike_redact value).redact_eq.symm

/-- What is left of a value when only its collections are looked at: how long they are, what names
their members have, and what stands where. With `hides`, nothing is left of a secret member of a
key. -/
def outline (hides : Bool) : Datum → Datum
  | .list items => .list (outlineItems items)
  | .tuple items => .tuple (outlineItems items)
  | .map entries => .map (outlineEntries (hides && (Datum.find? "kty" entries).isSome) entries)
  | _ => .null
where
  outlineItems : List Datum → List Datum
    | [] => []
    | item :: rest => outline hides item :: outlineItems rest
  outlineEntries (hidden : Bool) : List (Datum × Datum) → List (Datum × Datum)
    | [] => []
    | (name, value) :: rest =>
      (name, if hidden && isSecretName name then .null else outline hides value) ::
        outlineEntries hidden rest

theorem outlineEntries_redactKey (entries : List (Datum × Datum)) :
    outline.outlineEntries true true (redactKey entries) =
      outline.outlineEntries true true entries := by
  induction entries with
  | nil => rfl
  | cons entry entries ih =>
      obtain ⟨name, value⟩ := entry
      rw [redactKey] at ih
      cases secret : isSecretName name <;>
        simp [redactKey, outline.outlineEntries, secret, ih]

mutual

theorem outline_redact (value : Datum) : outline true (redact value) = outline true value := by
  match value with
  | .text _ => rw [redact, outline, outline] <;> simp
  | .list items => rw [redact, outline, outline, outlineItems_redactItems items]
  | .tuple items => rw [redact, outline, outline, outlineItems_redactItems items]
  | .map entries =>
      cases isKey : (Datum.find? "kty" entries).isSome with
      | true =>
          have stays := (isSome_find?_congr (names_redactKey entries)).trans isKey
          rw [redact_key isKey, outline, outline, stays, isKey, Bool.and_self,
            outlineEntries_redactKey]
      | false =>
          have stays := (isSome_find?_congr (names_redactEntries entries)).trans isKey
          rw [redact_map isKey, outline, outline, stays, isKey, Bool.and_false,
            outlineEntries_redactEntries entries]
  | .null | .bool _ | .int _ | .float _ | .bytes _ | .date _ | .moment _ | .set _ | .again _ =>
      rw [redact_of_isScalar rfl]

theorem outlineItems_redactItems : (items : List Datum) →
    outline.outlineItems true (redact.redactItems items) = outline.outlineItems true items
  | [] => rfl
  | item :: items => by
      rw [redact.redactItems, outline.outlineItems, outline.outlineItems, outline_redact item,
        outlineItems_redactItems items]

theorem outlineEntries_redactEntries : (entries : List (Datum × Datum)) →
    outline.outlineEntries true false (redact.redactEntries entries) =
      outline.outlineEntries true false entries
  | [] => rfl
  | (name, value) :: entries => by
      rw [redact.redactEntries, outline.outlineEntries, outline.outlineEntries, Bool.false_and,
        if_neg Bool.false_ne_true, if_neg Bool.false_ne_true, outline_redact value,
        outlineEntries_redactEntries entries]

end

theorem redactItems_eq_map (items : List Datum) : redact.redactItems items = items.map redact := by
  induction items with
  | nil => rfl
  | cons item items ih => rw [redact.redactItems, List.map_cons, ih]

/-- Redaction replaces the bodies of blocks and nothing else in a text, looking for the hint first
leaves none out, redacting twice is redacting once, and a value keeps its outline outside the secret
members of keys. -/
theorem redaction_exact (text result : List Char) (value : Datum) (items : List Datum) :
    (redactBlocks text = result ↔ Redacts text result) ∧
      redactBlocks (redactBlocks text) = redactBlocks text ∧
      (hint <:+: text ∨ redactBlocks text = text) ∧
      redactText (String.ofList text) = String.ofList (redactBlocks text) ∧
      redact (redact value) = redact value ∧
      outline true (redact value) = outline true value ∧
      redact (.list items) = .list (items.map redact) ∧
      redact (.tuple items) = .tuple (items.map redact) := by
  refine ⟨redactBlocks_eq_iff, redactBlocks_redactBlocks text, hint_infix_or_unchanged text, ?_,
    redact_redact value, outline_redact value, ?_, ?_⟩
  · rw [redactText_eq, String.toList_ofList]
  · rw [redact, redactItems_eq_map]
  · rw [redact, redactItems_eq_map]

/-- A secret member of a key that is a collection itself is replaced as a whole. -/
theorem secret_collection_replaced :
    ¬ ∀ value, outline false (redact value) = outline false value := by
  intro kept
  have same := kept (.map [(.text "kty", .text "EC"), (.text "d", .map [(.text "a", .int 1)])])
  rw [redact_key rfl] at same
  simp [redactKey, isSecretName, secretNames, outline, outline.outlineEntries] at same

end AcmeClient.Redaction
