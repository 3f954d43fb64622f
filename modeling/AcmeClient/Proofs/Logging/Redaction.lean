import AcmeClient.Logging.Redaction
import Mathlib.Data.List.Infix
import Mathlib.Data.List.TakeWhile

namespace AcmeClient.Redaction

variable {word : String} {text rest rest' before before' marker marker' opening closing inner inner'
  body body' : List Char}

/-- Dashes, a word, a label of capitals, digits and blanks, and dashes. -/
def IsMarker (word : String) (marker : List Char) : Prop :=
  ∃ label, label ≠ [] ∧ (∀ c ∈ label, isLabelChar c) ∧
    marker = dashes ++ word.toList ++ [' '] ++ label ++ dashes

theorem dash_notMem_label {label : List Char} (allowed : ∀ c ∈ label, isLabelChar c) :
    '-' ∉ label := fun member => absurd (allowed _ member) (by decide)

theorem IsMarker.count_dashes (isMarker : IsMarker word marker) (plain : '-' ∉ word.toList) :
    marker.count '-' = 10 := by
  obtain ⟨label, -, allowed, rfl⟩ := isMarker
  have five : dashes.count '-' = 5 := by decide
  have blank : [' '].count '-' = 0 := by decide
  simp only [List.count_append, five, blank, List.count_eq_zero_of_not_mem plain,
    List.count_eq_zero_of_not_mem (dash_notMem_label allowed)]

theorem IsMarker.exists_cons (isMarker : IsMarker word marker) :
    ∃ tail, marker = '-' :: tail := by
  obtain ⟨label, -, -, rfl⟩ := isMarker
  exact ⟨_, rfl⟩

theorem takeWhile_label {label : List Char} (allowed : ∀ c ∈ label, isLabelChar c)
    (rest : List Char) : (label ++ (dashes ++ rest)).takeWhile isLabelChar = label := by
  have stops : (dashes ++ rest).takeWhile isLabelChar = [] := rfl
  rw [List.takeWhile_append_of_pos allowed, stops, List.append_nil]

theorem marker?_append (isMarker : IsMarker word marker) (rest : List Char) :
    marker? word (marker ++ rest) = some marker := by
  obtain ⟨label, nonempty, allowed, rfl⟩ := isMarker
  generalize opens : dashes ++ word.toList ++ [' '] = opening
  have whole : opening ++ label ++ dashes ++ rest = opening ++ (label ++ (dashes ++ rest)) := by
    simp only [List.append_assoc]
  rw [whole, marker?, opens]
  simp only [List.isPrefixOf_iff_prefix.mpr (List.prefix_append _ _), if_true, List.drop_left,
    takeWhile_label allowed]
  simp [nonempty]

theorem marker?_eq_some_iff :
    marker? word text = some marker ↔ IsMarker word marker ∧ marker <+: text := by
  constructor
  · intro found
    unfold marker? at found
    generalize opens : dashes ++ word.toList ++ [' '] = opening at found
    simp only at found
    split at found
    · rename_i begins
      obtain ⟨inner, rfl⟩ := List.isPrefixOf_iff_prefix.mp begins
      rw [List.drop_left] at found
      split at found
      · rename_i complete
        simp only [Bool.and_eq_true, Bool.not_eq_true', List.isEmpty_eq_false_iff] at complete
        obtain ⟨nonempty, ends⟩ := complete
        obtain ⟨rest, dashed⟩ := List.isPrefixOf_iff_prefix.mp ends
        have labelled : inner.takeWhile isLabelChar ++ (dashes ++ rest) = inner := by
          rw [dashed, List.prefix_iff_eq_append.mp (List.takeWhile_prefix _)]
        cases found
        refine ⟨⟨_, nonempty, fun c member => List.mem_takeWhile_imp member, by rw [opens]⟩, rest, ?_⟩
        simp only [List.append_assoc, labelled]
      · contradiction
    · contradiction
  · rintro ⟨isMarker, rest, rfl⟩
    exact marker?_append isMarker rest

theorem not_prefix_of_marker?_eq_none (absent : marker? word text = none)
    (isMarker : IsMarker word marker) : ¬ marker <+: text := by
  intro begins
  rw [marker?_eq_some_iff.mpr ⟨isMarker, begins⟩] at absent
  contradiction

theorem marker?_eq_none_of_forall
    (absent : ∀ marker, IsMarker word marker → ¬ marker <+: text) : marker? word text = none := by
  cases found : marker? word text with
  | none => rfl
  | some marker =>
      obtain ⟨isMarker, begins⟩ := marker?_eq_some_iff.mp found
      exact absurd begins (absent marker isMarker)

/-- A marker that starts before another one of its kind ends within it: both have as many dashes, and
the first one starts with a dash. -/
theorem IsMarker.prefix_overlap (isMarker : IsMarker word marker) (later : IsMarker word marker')
    (plain : '-' ∉ word.toList) (nonempty : before ≠ []) (begins : marker <+: before ++ (marker' ++ rest)) :
    marker <+: before ++ marker' := by
  rw [← List.append_assoc] at begins
  obtain inside | ⟨more, whole⟩ := List.prefix_or_prefix_of_prefix begins (List.prefix_append _ rest)
  · exact inside
  · exfalso
    have dashes := isMarker.count_dashes plain
    rw [← whole, List.count_append, List.count_append, later.count_dashes plain] at dashes
    obtain ⟨tail, starts⟩ := isMarker.exists_cons
    obtain ⟨c, before, rfl⟩ := List.exists_cons_of_ne_nil nonempty
    rw [← whole, List.cons_append, List.cons_append, List.cons.injEq] at starts
    obtain ⟨rfl, -⟩ := starts
    rw [List.count_cons_self] at dashes
    omega

/-- A marker with what stands before and behind it, where none of its kind starts earlier. -/
inductive FirstMarker (word : String) : (text before marker rest : List Char) → Prop
  | here {marker rest : List Char} : IsMarker word marker → FirstMarker word (marker ++ rest) [] marker rest
  | later {c : Char} {text before marker rest : List Char} :
      (∀ other, IsMarker word other → ¬ other <+: c :: text) →
      FirstMarker word text before marker rest →
      FirstMarker word (c :: text) (c :: before) marker rest

namespace FirstMarker

theorem isMarker (found : FirstMarker word text before marker rest) : IsMarker word marker := by
  induction found with
  | here isMarker => exact isMarker
  | later _ _ ih => exact ih

theorem split (found : FirstMarker word text before marker rest) :
    text = before ++ (marker ++ rest) := by
  induction found with
  | here => rfl
  | later _ _ ih => rw [ih, List.cons_append]

theorem unique (found : FirstMarker word text before marker rest)
    (other : FirstMarker word text before' marker' rest') :
    before = before' ∧ marker = marker' ∧ rest = rest' := by
  induction found generalizing before' with
  | @here marker rest isMarker =>
      generalize whole : marker ++ rest = text at other
      cases other with
      | here isOther =>
          have same := marker?_append isMarker rest
          rw [whole, marker?_append isOther, Option.some.injEq] at same
          subst same
          exact ⟨rfl, rfl, (List.append_cancel_left whole).symm ▸ rfl⟩
      | later earlier _ => exact absurd ⟨rest, whole⟩ (earlier marker isMarker)
  | @later c text before marker rest earlier found ih =>
      generalize whole : c :: text = other at other
      cases other with
      | @here marker' rest' isOther => exact absurd ⟨rest', whole.symm⟩ (earlier marker' isOther)
      | later _ other =>
          obtain ⟨rfl, rfl⟩ := List.cons.inj whole
          obtain ⟨rfl, rfl, rfl⟩ := ih other
          exact ⟨rfl, rfl, rfl⟩

/-- What stands behind a marker does not matter for its being the first. -/
theorem replaceRest (found : FirstMarker word text before marker rest) (plain : '-' ∉ word.toList)
    (other : List Char) : FirstMarker word (before ++ (marker ++ other)) before marker other := by
  induction found with
  | here isMarker => exact .here isMarker
  | @later c text before marker rest earlier found ih =>
      refine .later (fun first isFirst begins => earlier first isFirst ?_) ih
      have overlap := isFirst.prefix_overlap found.isMarker plain (List.cons_ne_nil c before) begins
      rw [found.split, ← List.append_assoc, ← List.cons_append]
      exact overlap.trans (List.prefix_append _ rest)

theorem exists_append (found : FirstMarker word text before marker rest) (front : List Char) :
    ∃ before marker rest, FirstMarker word (front ++ text) before marker rest := by
  induction front with
  | nil => exact ⟨_, _, _, found⟩
  | cons c front ih =>
      obtain ⟨before, marker, rest, found⟩ := ih
      cases here : marker? word (c :: (front ++ text)) with
      | none => exact ⟨_, _, _, .later (fun _ => not_prefix_of_marker?_eq_none here) found⟩
      | some first =>
          obtain ⟨isMarker, rest, whole⟩ := marker?_eq_some_iff.mp here
          rw [List.cons_append, ← whole]
          exact ⟨_, _, _, .here isMarker⟩

/-- No marker starts where no dash stands. -/
theorem behind (isMarker : IsMarker word marker) (noDash : '-' ∉ before) (rest : List Char) :
    FirstMarker word (before ++ (marker ++ rest)) before marker rest := by
  induction before with
  | nil => exact .here isMarker
  | cons c before ih =>
      rw [List.mem_cons, not_or] at noDash
      refine .later (fun other isOther begins => ?_) (ih noDash.2)
      obtain ⟨tail, rfl⟩ := isOther.exists_cons
      exact noDash.1 (List.cons_prefix_cons.mp begins).1

end FirstMarker

theorem findClosing?_of_first (found : FirstMarker "END" text before closing rest) :
    findClosing? text = some (before.length, closing) := by
  induction found with
  | @here marker rest isMarker =>
      obtain ⟨tail, rfl⟩ := isMarker.exists_cons
      have starts := marker?_append isMarker rest
      rw [List.cons_append] at starts ⊢
      rw [findClosing?, starts, List.length_nil]
  | later earlier _ ih =>
      rw [findClosing?, marker?_eq_none_of_forall earlier, ih]
      rfl

theorem exists_first_of_findClosing? {count : Nat}
    (found : findClosing? text = some (count, closing)) :
    ∃ body rest, FirstMarker "END" text body closing rest ∧ body.length = count := by
  induction text generalizing count with
  | nil => simp [findClosing?] at found
  | cons c text ih =>
      rw [findClosing?] at found
      cases here : marker? "END" (c :: text) with
      | some marker =>
          simp only [here, Option.some.injEq, Prod.mk.injEq] at found
          obtain ⟨rfl, rfl⟩ := found
          obtain ⟨isMarker, rest, whole⟩ := marker?_eq_some_iff.mp here
          rw [← whole]
          exact ⟨[], rest, .here isMarker, rfl⟩
      | none =>
          simp only [here, Option.map_eq_some_iff, Prod.mk.injEq] at found
          obtain ⟨⟨count, closing⟩, found, rfl, rfl⟩ := found
          obtain ⟨body, rest, first, rfl⟩ := ih found
          exact ⟨c :: body, rest, .later (fun _ => not_prefix_of_marker?_eq_none here) first, rfl⟩

/-- The first opening marker of a text, with the first closing marker behind it. -/
def FirstBlock (text before opening body closing rest : List Char) : Prop :=
  ∃ inner, FirstMarker "BEGIN" text before opening inner ∧ FirstMarker "END" inner body closing rest

/-- What takes the place of a block. -/
def shown (opening closing : List Char) : List Char :=
  opening ++ ('\n' :: mark.toList ++ '\n' :: closing)

theorem block?_append (opens : IsMarker "BEGIN" opening)
    (closes : FirstMarker "END" inner body closing rest) :
    block? (opening ++ inner) = some ⟨opening, body.length, closing⟩ := by
  rw [block?, marker?_append opens]
  simp [findClosing?_of_first closes]

theorem exists_markers_of_block? {block : Block} (found : block? text = some block) :
    ∃ inner body rest, text = block.opening ++ inner ∧ IsMarker "BEGIN" block.opening ∧
      FirstMarker "END" inner body block.closing rest := by
  unfold block? at found
  obtain ⟨opening, opens, found⟩ := Option.bind_eq_some_iff.mp found
  obtain ⟨⟨count, closing⟩, closes, built⟩ := Option.bind_eq_some_iff.mp found
  obtain ⟨isMarker, inner, rfl⟩ := marker?_eq_some_iff.mp opens
  rw [List.drop_left] at closes
  obtain ⟨body, rest, first, -⟩ := exists_first_of_findClosing? closes
  cases built
  exact ⟨inner, body, rest, rfl, isMarker, first⟩

theorem redactFrom_append (front rest : List Char) :
    redactFrom front.length (front ++ rest) = redactBlocks rest := by
  induction front with
  | nil => rfl
  | cons c front ih =>
      rw [List.length_cons, List.cons_append, redactFrom, if_pos (Nat.succ_pos _),
        Nat.add_sub_cancel, ih]

theorem redactBlocks_cons {c : Char} (none : block? (c :: text) = none) :
    redactBlocks (c :: text) = c :: redactBlocks text := by
  rw [redactBlocks, redactFrom, if_neg (Nat.lt_irrefl 0), none]
  rfl

theorem block?_eq_none (absent : ∀ marker, IsMarker "BEGIN" marker → ¬ marker <+: text) :
    block? text = none := by
  rw [block?, marker?_eq_none_of_forall absent]
  rfl

theorem redactBlocks_of_firstBlock (found : FirstBlock text before opening body closing rest) :
    redactBlocks text = before ++ (shown opening closing ++ redactBlocks rest) := by
  obtain ⟨inner, opens, closes⟩ := found
  induction opens with
  | @here opening inner isMarker =>
      obtain ⟨tail, rfl⟩ := isMarker.exists_cons
      have block := block?_append isMarker closes
      rw [List.cons_append] at block
      have whole : tail ++ inner = (tail ++ body ++ closing) ++ rest := by
        rw [closes.split]
        simp only [List.append_assoc]
      have length : Block.length ⟨'-' :: tail, body.length, closing⟩ - 1 =
          (tail ++ body ++ closing).length := by
        simp only [Block.length, List.length_cons, List.length_append]
        omega
      rw [List.cons_append, redactBlocks, redactFrom, if_neg (Nat.lt_irrefl 0), block]
      simp only [length, whole, redactFrom_append]
      simp [Block.redacted, shown]
  | later earlier _ ih =>
      rw [redactBlocks_cons (block?_eq_none earlier), ih closes, List.cons_append]

theorem redactBlocks_of_no_block
    (absent : ∀ before opening body closing rest,
      ¬ FirstBlock text before opening body closing rest) : redactBlocks text = text := by
  induction text with
  | nil => rfl
  | cons c text ih =>
      have none : block? (c :: text) = none := by
        cases here : block? (c :: text) with
        | none => rfl
        | some block =>
            obtain ⟨inner, body, rest, whole, opens, closes⟩ := exists_markers_of_block? here
            rw [whole] at absent
            exact absurd ⟨inner, .here opens, closes⟩ (absent [] block.opening body block.closing rest)
      rw [redactBlocks_cons none, ih]
      rintro before opening body closing rest ⟨inner, opens, closes⟩
      cases here : marker? "BEGIN" (c :: text) with
      | none =>
          exact absent _ _ _ _ _
            ⟨inner, .later (fun _ => not_prefix_of_marker?_eq_none here) opens, closes⟩
      | some marker =>
          -- The marker at the start is closed by what closes the one behind it.
          obtain ⟨isMarker, begins⟩ := marker?_eq_some_iff.mp here
          have whole : c :: text = (c :: before) ++ (opening ++ inner) := by
            rw [opens.split, List.cons_append]
          rw [whole] at begins
          obtain ⟨between, overlap⟩ := isMarker.prefix_overlap opens.isMarker (by decide)
            (List.cons_ne_nil c before) begins
          obtain ⟨body, closing, rest, closes⟩ := closes.exists_append between
          rw [whole, ← List.append_assoc, ← overlap, List.append_assoc] at none
          rw [block?_append isMarker closes] at none
          contradiction

namespace FirstBlock

variable {text' closing' opening' : List Char}

theorem unique (found : FirstBlock text before opening body closing rest)
    (other : FirstBlock text before' opening' body' closing' rest') :
    before = before' ∧ opening = opening' ∧ body = body' ∧ closing = closing' ∧ rest = rest' := by
  obtain ⟨inner, opens, closes⟩ := found
  obtain ⟨inner', opens', closes'⟩ := other
  obtain ⟨rfl, rfl, rfl⟩ := opens.unique opens'
  obtain ⟨rfl, rfl, rfl⟩ := closes.unique closes'
  exact ⟨rfl, rfl, rfl, rfl, rfl⟩

theorem length_lt (found : FirstBlock text before opening body closing rest) :
    rest.length < text.length := by
  obtain ⟨inner, opens, closes⟩ := found
  obtain ⟨tail, starts⟩ := closes.isMarker.exists_cons
  rw [opens.split, closes.split, starts]
  simp only [List.length_append, List.length_cons]
  omega

/-- The mark holds no dashes, and so no marker starts in it. -/
theorem redacted (found : FirstBlock text before opening body closing rest) (behind : List Char) :
    FirstBlock (before ++ (shown opening closing ++ behind)) before opening
      ('\n' :: mark.toList ++ ['\n']) closing behind := by
  obtain ⟨inner, opens, closes⟩ := found
  have marked : FirstMarker "END" ('\n' :: mark.toList ++ ['\n'] ++ (closing ++ behind))
      ('\n' :: mark.toList ++ ['\n']) closing behind :=
    .behind closes.isMarker (by decide) behind
  refine ⟨_, ?_, marked⟩
  have whole : before ++ (shown opening closing ++ behind) =
      before ++ (opening ++ ('\n' :: mark.toList ++ ['\n'] ++ (closing ++ behind))) := by
    simp [shown]
  rw [whole]
  exact opens.replaceRest (by decide) _

end FirstBlock

/-- Texts that are equal but for what stands between the markers of their blocks. -/
inductive AlikeText : (text text' : List Char) → Prop
  | same (text : List Char) : AlikeText text text
  | block {text text' before opening body body' closing rest rest' : List Char} :
      FirstBlock text before opening body closing rest →
      FirstBlock text' before opening body' closing rest' →
      AlikeText rest rest' → AlikeText text text'

theorem AlikeText.redactBlocks_eq {text' : List Char} (alike : AlikeText text text') :
    redactBlocks text = redactBlocks text' := by
  induction alike with
  | same => rfl
  | block found found' _ ih =>
      rw [redactBlocks_of_firstBlock found, redactBlocks_of_firstBlock found', ih]

/-- A text with a block does not look like one without. -/
theorem exists_firstBlock_of_redactBlocks_eq {text' : List Char}
    (found : FirstBlock text before opening body closing rest)
    (same : redactBlocks text = redactBlocks text') :
    ∃ body' rest', FirstBlock text' before opening body' closing rest' ∧
      redactBlocks rest = redactBlocks rest' := by
  rw [redactBlocks_of_firstBlock found] at same
  by_cases blocks : ∃ before opening body closing rest, FirstBlock text' before opening body closing rest
  · obtain ⟨before', opening', body', closing', rest', found'⟩ := blocks
    rw [redactBlocks_of_firstBlock found'] at same
    have redacted := found.redacted (redactBlocks rest)
    rw [same] at redacted
    obtain ⟨rfl, rfl, -, rfl, rests⟩ := redacted.unique (found'.redacted (redactBlocks rest'))
    exact ⟨body', rest', found', rests⟩
  · have whole : redactBlocks text' = text' :=
      redactBlocks_of_no_block fun before opening body closing rest found' =>
        blocks ⟨before, opening, body, closing, rest, found'⟩
    have redacted := found.redacted (redactBlocks rest)
    rw [same, whole] at redacted
    exact absurd ⟨_, _, _, _, _, redacted⟩ blocks

theorem AlikeText.of_redactBlocks_eq {text text' : List Char}
    (same : redactBlocks text = redactBlocks text') : AlikeText text text' := by
  by_cases blocks : ∃ before opening body closing rest, FirstBlock text before opening body closing rest
  · obtain ⟨before, opening, body, closing, rest, found⟩ := blocks
    obtain ⟨body', rest', found', rests⟩ := exists_firstBlock_of_redactBlocks_eq found same
    have shorter := found.length_lt
    exact .block found found' (of_redactBlocks_eq rests)
  · by_cases blocks' : ∃ before opening body closing rest,
        FirstBlock text' before opening body closing rest
    · obtain ⟨before, opening, body, closing, rest, found'⟩ := blocks'
      obtain ⟨body', rest', found, -⟩ := exists_firstBlock_of_redactBlocks_eq found' same.symm
      exact absurd ⟨_, _, _, _, _, found⟩ blocks
    · have unchanged {text : List Char}
          (none : ¬ ∃ before opening body closing rest,
            FirstBlock text before opening body closing rest) : redactBlocks text = text :=
        redactBlocks_of_no_block fun before opening body closing rest found =>
          none ⟨before, opening, body, closing, rest, found⟩
      rw [unchanged blocks, unchanged blocks'] at same
      exact same ▸ .same text
termination_by text.length

theorem redactBlocks_of_no_hint (none : mayHoldBlock text = false) : redactBlocks text = text := by
  induction text with
  | nil => rfl
  | cons c text ih =>
      simp only [mayHoldBlock, Bool.or_eq_false_iff] at none
      rw [redactBlocks_cons (block?_eq_none ?_), ih none.2]
      rintro marker ⟨label, -, -, rfl⟩ begins
      have hinted : hint <+: c :: text := by
        refine List.IsPrefix.trans ?_ begins
        rw [List.append_assoc _ label]
        exact List.prefix_append _ _
      rw [← List.isPrefixOf_iff_prefix, none.1] at hinted
      contradiction

theorem redactText_eq (s : String) : redactText s = String.ofList (redactBlocks s.toList) := by
  unfold redactText
  split
  · rfl
  · rename_i none
    rw [redactBlocks_of_no_hint (by simpa using none), String.ofList_toList]

theorem redactText_eq_iff {s t : String} :
    redactText s = redactText t ↔ AlikeText s.toList t.toList := by
  rw [redactText_eq, redactText_eq]
  constructor
  · intro same
    exact .of_redactBlocks_eq (String.ofList_injective same)
  · intro alike
    rw [alike.redactBlocks_eq]

mutual

/-- Values that are equal but for the secret members of keys and what stands between the markers of
blocks. `nested` says whether the other members of keys may differ in the same way. -/
inductive Alike (nested : Bool) : Datum → Datum → Prop
  | same (value : Datum) : Alike nested value value
  | text {s t : String} : AlikeText s.toList t.toList → Alike nested (.text s) (.text t)
  | list {items others : List Datum} :
      AlikeItems nested items others → Alike nested (.list items) (.list others)
  | tuple {items others : List Datum} :
      AlikeItems nested items others → Alike nested (.tuple items) (.tuple others)
  | map {entries others : List (Datum × Datum)} :
      (Datum.find? "kty" entries).isSome = false →
      AlikeEntries nested entries others → Alike nested (.map entries) (.map others)
  | key {entries others : List (Datum × Datum)} :
      (Datum.find? "kty" entries).isSome →
      AlikeMembers nested entries others → Alike nested (.map entries) (.map others)

inductive AlikeItems (nested : Bool) : List Datum → List Datum → Prop
  | nil : AlikeItems nested [] []
  | cons {item other : Datum} {items others : List Datum} :
      Alike nested item other → AlikeItems nested items others →
      AlikeItems nested (item :: items) (other :: others)

inductive AlikeEntries (nested : Bool) : List (Datum × Datum) → List (Datum × Datum) → Prop
  | nil : AlikeEntries nested [] []
  | cons {name value other : Datum} {entries others : List (Datum × Datum)} :
      Alike nested value other → AlikeEntries nested entries others →
      AlikeEntries nested ((name, value) :: entries) ((name, other) :: others)

inductive AlikeMembers (nested : Bool) : List (Datum × Datum) → List (Datum × Datum) → Prop
  | nil : AlikeMembers nested [] []
  | same {entries others : List (Datum × Datum)} (entry : Datum × Datum) :
      AlikeMembers nested entries others →
      AlikeMembers nested (entry :: entries) (entry :: others)
  | secret {name : Datum} (value other : Datum) {entries others : List (Datum × Datum)} :
      isSecretName name → AlikeMembers nested entries others →
      AlikeMembers nested ((name, value) :: entries) ((name, other) :: others)
  | within {name value other : Datum} {entries others : List (Datum × Datum)} :
      nested → Alike nested value other → AlikeMembers nested entries others →
      AlikeMembers nested ((name, value) :: entries) ((name, other) :: others)

end

variable {entries others : List (Datum × Datum)}

theorem redactKey_eq_iff : redactKey entries = redactKey others ↔ AlikeMembers false entries others := by
  constructor
  · intro same
    induction entries generalizing others with
    | nil =>
        cases others with
        | nil => exact .nil
        | cons => simp [redactKey] at same
    | cons entry entries ih =>
        cases others with
        | nil => simp [redactKey] at same
        | cons other others =>
            obtain ⟨name, value⟩ := entry
            obtain ⟨name', other⟩ := other
            simp only [redactKey, List.map_cons, List.cons.injEq, Prod.mk.injEq] at same
            obtain ⟨⟨rfl, values⟩, rest⟩ := same
            by_cases secret : isSecretName name
            · exact .secret _ _ secret (ih rest)
            · rw [if_neg secret, if_neg secret] at values
              subst values
              exact .same _ (ih rest)
  · intro alike
    induction entries generalizing others with
    | nil =>
        cases alike
        rfl
    | cons entry entries ih =>
        cases alike with
        | same _ alike => exact congrArg (_ :: ·) (ih alike)
        | secret value other secret alike =>
            simp only [redactKey, List.map_cons, secret, if_true]
            exact congrArg (_ :: ·) (ih alike)
        | within impossible => contradiction

theorem isSome_find?_iff {name : String} :
    (Datum.find? name entries).isSome ↔ .text name ∈ entries.map Prod.fst := by
  induction entries with
  | nil => simp [Datum.find?]
  | cons entry entries ih =>
      obtain ⟨key, value⟩ := entry
      cases key with
      | text other =>
          by_cases named : other = name
          · simp [Datum.find?, named]
          · simp [Datum.find?, named, Ne.symm named, ih]
      | _ => simp [Datum.find?, ih]

theorem names_redactKey (entries : List (Datum × Datum)) :
    (redactKey entries).map Prod.fst = entries.map Prod.fst := by
  simp [redactKey]

theorem names_redactEntries (entries : List (Datum × Datum)) :
    (redact.redactEntries entries).map Prod.fst = entries.map Prod.fst := by
  induction entries with
  | nil => rfl
  | cons entry entries ih => rw [redact.redactEntries, List.map_cons, List.map_cons, ih]

theorem isSome_find?_congr {name : String}
    (names : entries.map Prod.fst = others.map Prod.fst) :
    (Datum.find? name entries).isSome = (Datum.find? name others).isSome := by
  rw [Bool.eq_iff_iff, isSome_find?_iff, isSome_find?_iff, names]

theorem redact_key (isKey : (Datum.find? "kty" entries).isSome) :
    redact (.map entries) = .map (redactKey entries) := by
  rw [redact, if_pos isKey]

theorem redact_map (noKey : (Datum.find? "kty" entries).isSome = false) :
    redact (.map entries) = .map (redact.redactEntries entries) := by
  rw [redact, if_neg (by simp [noKey])]

/-- A mapping looks like a mapping with the same names. -/
theorem exists_redact_map (entries : List (Datum × Datum)) :
    ∃ shown, redact (.map entries) = .map shown ∧ shown.map Prod.fst = entries.map Prod.fst := by
  cases isKey : (Datum.find? "kty" entries).isSome with
  | true => exact ⟨_, redact_key isKey, names_redactKey entries⟩
  | false => exact ⟨_, redact_map isKey, names_redactEntries entries⟩

mutual

theorem Alike.redact_eq {value other : Datum} (alike : Alike false value other) :
    redact value = redact other := by
  cases alike with
  | same => rfl
  | text texts => rw [redact, redact, redactText_eq_iff.mpr texts]
  | list items => rw [redact, redact, items.redactItems_eq]
  | tuple items => rw [redact, redact, items.redactItems_eq]
  | map noKey members =>
      have same := members.redactEntries_eq
      have names := congrArg (List.map Prod.fst) same
      rw [names_redactEntries, names_redactEntries] at names
      rw [redact_map noKey, redact_map ((isSome_find?_congr names).symm.trans noKey), same]
  | key isKey members =>
      have same := redactKey_eq_iff.mpr members
      have names := congrArg (List.map Prod.fst) same
      rw [names_redactKey, names_redactKey] at names
      rw [redact_key isKey, redact_key ((isSome_find?_congr names).symm.trans isKey), same]

theorem AlikeItems.redactItems_eq {items others : List Datum}
    (alike : AlikeItems false items others) :
    redact.redactItems items = redact.redactItems others := by
  cases alike with
  | nil => rfl
  | cons first rest =>
      rw [redact.redactItems, redact.redactItems, first.redact_eq, rest.redactItems_eq]

theorem AlikeEntries.redactEntries_eq {entries others : List (Datum × Datum)}
    (alike : AlikeEntries false entries others) :
    redact.redactEntries entries = redact.redactEntries others := by
  cases alike with
  | nil => rfl
  | cons first rest =>
      rw [redact.redactEntries, redact.redactEntries, first.redact_eq, rest.redactEntries_eq]

end

/-- Whether a value is neither a text nor a collection that is looked into. -/
def isScalar : Datum → Bool
  | .text _ | .list _ | .tuple _ | .map _ => false
  | _ => true

theorem redact_of_isScalar {value : Datum} (scalar : isScalar value) : redact value = value := by
  cases value <;> first | rfl | contradiction

theorem isScalar_redact (value : Datum) : isScalar (redact value) = isScalar value := by
  cases value with
  | map entries =>
      obtain ⟨shown, looks, -⟩ := exists_redact_map entries
      rw [looks]
      rfl
  | _ => rw [redact] <;> simp [isScalar]

theorem eq_of_redact_eq {value other : Datum} (scalar : isScalar value)
    (same : redact value = redact other) : value = other := by
  have scalar' := isScalar_redact other
  rw [← same, isScalar_redact, scalar] at scalar'
  rwa [redact_of_isScalar scalar, redact_of_isScalar scalar'.symm] at same

mutual

theorem Alike.of_redact_eq (value other : Datum) (same : redact value = redact other) :
    Alike false value other := by
  match value with
  | .text s =>
      rw [redact] at same
      cases other with
      | text t =>
          rw [redact, Datum.text.injEq] at same
          exact .text (redactText_eq_iff.mp same)
      | map others =>
          obtain ⟨shown, looks, -⟩ := exists_redact_map others
          simp [looks] at same
      | _ => simp [redact] at same
  | .list items =>
      rw [redact] at same
      cases other with
      | list others =>
          rw [redact, Datum.list.injEq] at same
          exact .list (.of_redactItems_eq items others same)
      | map others =>
          obtain ⟨shown, looks, -⟩ := exists_redact_map others
          simp [looks] at same
      | _ => simp [redact] at same
  | .tuple items =>
      rw [redact] at same
      cases other with
      | tuple others =>
          rw [redact, Datum.tuple.injEq] at same
          exact .tuple (.of_redactItems_eq items others same)
      | map others =>
          obtain ⟨shown, looks, -⟩ := exists_redact_map others
          simp [looks] at same
      | _ => simp [redact] at same
  | .map entries =>
      obtain ⟨shown, looks, names⟩ := exists_redact_map entries
      rw [looks] at same
      cases other with
      | map others =>
          obtain ⟨shown', looks', names'⟩ := exists_redact_map others
          rw [looks', Datum.map.injEq] at same
          subst same
          have keys : (Datum.find? "kty" entries).isSome = (Datum.find? "kty" others).isSome :=
            isSome_find?_congr (names.symm.trans names')
          cases isKey : (Datum.find? "kty" entries).isSome with
          | true =>
              rw [redact_key isKey, ← looks', redact_key (keys ▸ isKey), Datum.map.injEq] at looks
              exact .key isKey (redactKey_eq_iff.mp looks)
          | false =>
              rw [redact_map isKey, ← looks', redact_map (keys ▸ isKey), Datum.map.injEq] at looks
              exact .map isKey (.of_redactEntries_eq entries others looks)
      | _ => simp [redact] at same
  | .null | .bool _ | .int _ | .float _ | .bytes _ | .date _ | .moment _ | .set _ | .again _ =>
      rw [eq_of_redact_eq rfl same]
      exact .same _

theorem AlikeItems.of_redactItems_eq : (items others : List Datum) →
    redact.redactItems items = redact.redactItems others → AlikeItems false items others
  | [], [], _ => .nil
  | [], other :: others, same => by simp [redact.redactItems] at same
  | item :: items, [], same => by simp [redact.redactItems] at same
  | item :: items, other :: others, same => by
      simp only [redact.redactItems, List.cons.injEq] at same
      exact .cons (.of_redact_eq item other same.1) (.of_redactItems_eq items others same.2)

theorem AlikeEntries.of_redactEntries_eq : (entries others : List (Datum × Datum)) →
    redact.redactEntries entries = redact.redactEntries others → AlikeEntries false entries others
  | [], [], _ => .nil
  | [], other :: others, same => by simp [redact.redactEntries] at same
  | item :: items, [], same => by simp [redact.redactEntries] at same
  | (name, value) :: entries, (name', other) :: others, same => by
      simp only [redact.redactEntries, List.cons.injEq, Prod.mk.injEq] at same
      obtain ⟨⟨rfl, values⟩, rest⟩ := same
      exact .cons (.of_redact_eq value other values) (.of_redactEntries_eq entries others rest)

end

/-- Redaction hides the secret members of keys and the bodies of blocks outside keys, and nothing
else. -/
theorem redact_eq_iff (value other : Datum) :
    redact value = redact other ↔ Alike false value other :=
  ⟨.of_redact_eq value other, Alike.redact_eq⟩

/-- A block in a member of a key that is not secret itself is shown as it is. -/
theorem block_within_key_shown :
    ¬ ∀ value other, Alike true value other → redact value = redact other := by
  intro hidden
  let label := "PRIVATE KEY".toList
  let opening := dashes ++ "BEGIN".toList ++ [' '] ++ label ++ dashes
  let closing := dashes ++ "END".toList ++ [' '] ++ label ++ dashes
  let armoured (body : List Char) : List Char := opening ++ (body ++ (closing ++ []))
  let key (body : List Char) : Datum :=
    .map [(.text "kty", .text "EC"), (.text "note", .text (String.ofList (armoured body)))]
  have allowed : ∀ c ∈ label, isLabelChar c := List.all_eq_true.mp (by decide)
  have opens : IsMarker "BEGIN" opening := ⟨label, by decide, allowed, rfl⟩
  have closes : IsMarker "END" closing := ⟨label, by decide, allowed, rfl⟩
  have block {body : List Char} (noDash : '-' ∉ body) :
      FirstBlock (armoured body) [] opening body closing [] :=
    ⟨_, .here opens, .behind closes noDash []⟩
  have alike : Alike true (key ['1']) (key ['2']) := by
    refine .key rfl (.same _ (.within rfl (.text ?_) .nil))
    rw [String.toList_ofList, String.toList_ofList]
    exact .block (block (by decide)) (block (by decide)) (.same [])
  have same := hidden _ _ alike
  rw [redact_key rfl, redact_key rfl] at same
  simp [redactKey, isSecretName, secretNames, armoured] at same

end AcmeClient.Redaction
