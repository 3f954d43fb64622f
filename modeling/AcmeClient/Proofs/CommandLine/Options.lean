import AcmeClient.CommandLine.Invocation
import AcmeClient.Proofs.Json.Documents
import Mathlib.Data.List.TakeDrop

namespace AcmeClient.CommandLine

open Json (exists_of_bind_eq_ok)

namespace Grammar

variable {g : Grammar} {rule called : OptionRule} {text : List Char} {rest words : List Word}
  {unfolded : Unfolded} {findings found : Findings} {label : String}

/-- The options that a word uses are the one that it names and one-letter options after it, and what
follows the word follows still. -/
structure Follows (g : Grammar) (rule : OptionRule) (rest : List Word) (unfolded : Unfolded) : Prop where
  uses : ∀ use ∈ unfolded.uses, use.1 = rule ∨ ∃ c, (String.ofList ['-', c], use.1) ∈ g.names
  rest : unfolded.rest ⊆ rest

theorem follows_detached (done : g.detached rule rest = .ok unfolded) :
    g.Follows rule rest unfolded := by
  unfold detached at done
  split at done
  · split at done
    · cases done
      exact ⟨by simp, List.subset_cons_of_subset _ (List.Subset.refl _)⟩
    · contradiction
  · cases done
    exact ⟨by simp, List.Subset.refl _⟩

theorem follows_after {c : Char} {next : OptionRule} {ran : Except Stop Unfolded}
    (named : Assoc.find? (String.ofList ['-', c]) g.names = some next)
    (follows : ∀ {inner}, ran = .ok inner → g.Follows next rest inner)
    (done : (do
      let inner ← ran
      return { inner with uses := (rule, []) :: inner.uses }) = Except.ok unfolded) :
    g.Follows rule rest unfolded := by
  cases ran with
  | error stop => contradiction
  | ok inner =>
      cases done
      obtain ⟨uses, stays⟩ := follows rfl
      refine ⟨List.forall_mem_cons.mpr ⟨.inl rfl, fun use member => .inr ?_⟩, stays⟩
      obtain same | further := uses use member
      · exact ⟨c, same ▸ Assoc.mem_of_find? named⟩
      · exact further

theorem follows_attached {isShort afterEquals : Bool}
    (done : g.attached rule isShort afterEquals text rest = .ok unfolded) :
    g.Follows rule rest unfolded := by
  fun_induction attached g rule isShort afterEquals text rest generalizing unfolded with
  | case1 | case4 =>
      cases done
      exact ⟨by simp, List.Subset.refl _⟩
  | case2 | case3 => contradiction
  | case5 =>
      rename_i named _
      exact follows_after named follows_detached done
  | case6 =>
      rename_i named _ _ ih
      exact follows_after named ih done
  | case7 =>
      rename_i named _ _ _ _ ih
      exact follows_after named ih done

/-- A long name that takes no value has no text in its word. -/
theorem attached_isLong {afterEquals : Bool} (flag : rule.effect ≠ .takeValue) :
    g.attached rule false afterEquals text rest ≠ .ok unfolded := by
  intro done
  rw [attached.eq_def, if_neg flag] at done
  cases text <;> contradiction

/-- A word of a line calls for an option. -/
def Calls (g : Grammar) (word : Word) (rule : OptionRule) : Prop :=
  ∃ naming text rest unfolded, word = .option naming text ∧ g.unfold naming text rest = .ok unfolded ∧
    rule ∈ unfolded.uses.map Prod.fst

theorem rest_of_unfold {naming : Option Naming} {text : String}
    (done : g.unfold naming text rest = .ok unfolded) : unfolded.rest ⊆ rest := by
  unfold Grammar.unfold at done
  split at done
  · cases done
    exact List.Subset.refl _
  · exact (follows_detached done).rest
  · exact (follows_attached done).rest

/-- An option that no one-letter name stands for is named by the word itself. -/
theorem Calls.named {word : Word} (calls : g.Calls word called)
    (long : ∀ c, (String.ofList ['-', c], called) ∉ g.names) :
    ∃ name attached text, word = .option (some ⟨called, name, attached⟩) text ∧
      (called.effect ≠ .takeValue → isShortName name = false → attached = none) := by
  obtain ⟨naming, text, rest, unfolded, rfl, done, used⟩ := calls
  obtain ⟨⟨_, values⟩, member, rfl⟩ := List.mem_map.mp used
  unfold Grammar.unfold at done
  split at done
  · cases done
    contradiction
  · obtain rfl | ⟨c, short⟩ := (follows_detached done).uses _ member
    · exact ⟨_, _, _, rfl, fun _ _ => rfl⟩
    · exact absurd short (long c)
  · obtain rfl | ⟨c, short⟩ := (follows_attached done).uses _ member
    · refine ⟨_, _, _, rfl, fun flag isLong => ?_⟩
      rw [isLong] at done
      exact absurd done (attached_isLong flag)
    · exact absurd short (long c)

/-- Where the values under a label come from: from the texts of words, as an operand, or from an option
that a word calls for. -/
def Sources (g : Grammar) (rules : List OperandRule) (words : List Word) (label : String)
    (values : List String) : Prop :=
  (∃ rule ∈ rules, rule.name = label ∧ values ⊆ words.map Word.text) ∨
    ∃ word ∈ words, ∃ rule, g.Calls word rule ∧ rule.label = label

theorem Sources.mono {left rules : List OperandRule} {values : List String}
    (sources : g.Sources left rest label values) (fewer : left ⊆ rules) (within : rest ⊆ words) :
    g.Sources rules words label values := by
  obtain ⟨rule, member, same, texts⟩ | ⟨word, member, calls⟩ := sources
  · exact .inl ⟨rule, fewer member, same, List.Subset.trans texts (List.map_subset _ within)⟩
  · exact .inr ⟨word, within member, calls⟩

theorem values?_insert {values given : List String} {other : String}
    (present : Findings.values? ⟨Assoc.insert other given findings.values, findings.extras⟩ label =
      some values) :
    other = label ∧ given = values ∨ findings.values? label = some values := by
  by_cases same : other = label
  · rw [Findings.values?, same, Assoc.find?_insert_self, Option.some.injEq] at present
    exact .inl ⟨same, present⟩
  · rw [Findings.values?, Assoc.find?_insert_other (Ne.symm same)] at present
    exact .inr present

theorem values?_of_applyOptions {values : List String} {uses : List (OptionRule × List String)}
    (done : g.applyOptions findings uses = .ok found) (present : found.values? label = some values) :
    findings.values? label = some values ∨ ∃ use ∈ uses, use.1.label = label := by
  induction uses generalizing findings with
  | nil =>
      cases done
      exact .inl present
  | cons use others ih =>
      obtain ⟨rule, given⟩ := use
      rw [applyOptions] at done
      split at done
      · contradiction
      · contradiction
      · obtain before | ⟨use, member, same⟩ := ih done
        · obtain ⟨same, -⟩ | before := values?_insert before
          · exact .inr ⟨_, List.mem_cons_self, same⟩
          · exact .inl before
        · exact .inr ⟨use, List.mem_cons_of_mem _ member, same⟩

theorem subset_of_takeOne {taken : List Word} (takes : takeOne words = some (taken, rest)) :
    taken ⊆ words ∧ rest ⊆ words := by
  unfold takeOne at takes
  dsimp only at takes
  split at takes
  · rename_i text after behind
    cases takes
    have inside : .plain text :: after ⊆ words := fun word member =>
      List.mem_of_mem_drop (behind ▸ member)
    have later : after ⊆ words := List.Subset.trans (List.subset_cons_self _ _) inside
    refine ⟨List.append_subset.mpr ⟨(List.takeWhile_prefix _).subset, ?_⟩,
      List.Subset.trans (List.drop_subset _ _) later⟩
    exact List.cons_subset.mpr
      ⟨inside List.mem_cons_self, List.Subset.trans (List.takeWhile_prefix _).subset later⟩
  · contradiction

theorem subset_of_take {arity : Arity} {taken : List Word}
    (takes : take arity words = some (taken, rest)) : taken ⊆ words ∧ rest ⊆ words := by
  cases arity with
  | one => exact subset_of_takeOne takes
  | many =>
      simp only [take, List.span_eq_takeWhile_dropWhile, Option.some.injEq, Prod.mk.injEq] at takes
      obtain ⟨rfl, rfl⟩ := takes
      exact ⟨(List.takeWhile_prefix _).subset, (List.dropWhile_suffix _).subset⟩
  | command choices =>
      simp only [take, Option.map_eq_some_iff, Prod.mk.injEq] at takes
      obtain ⟨_, _, rfl, rfl⟩ := takes
      exact ⟨List.Subset.refl _, List.nil_subset _⟩

theorem subset_of_operandValues {rule : OperandRule} {values : List String}
    (done : g.operandValues rule words = .ok values) : values ⊆ words.map Word.text := by
  unfold operandValues at done
  dsimp only at done
  split at done
  · split at done
    · cases done
      exact List.Subset.refl _
    · contradiction
  · cases done
    exact List.erase_subset

/-- What operands leave of the rules and words, and where the values that they add come from. -/
theorem of_takeOperands {rules left : List OperandRule}
    (done : g.takeOperands rules words findings = .ok (left, rest, found)) :
    left ⊆ rules ∧ rest ⊆ words ∧ ∀ label values, found.values? label = some values →
      findings.values? label = some values ∨ g.Sources rules words label values := by
  induction rules generalizing words findings with
  | nil =>
      cases done
      exact ⟨List.Subset.refl _, List.Subset.refl _, fun _ _ => .inl⟩
  | cons rule others ih =>
      rw [takeOperands] at done
      split at done
      · cases done
        exact ⟨List.Subset.refl _, List.Subset.refl _, fun _ _ => .inl⟩
      · rename_i taken later takes
        obtain ⟨inside, behind⟩ := subset_of_take takes
        obtain ⟨given, reads, done⟩ := exists_of_bind_eq_ok done
        obtain ⟨fewer, within, sources⟩ := ih done
        refine ⟨List.subset_cons_of_subset _ fewer, List.Subset.trans within behind, ?_⟩
        intro label values present
        obtain before | after := sources label values present
        · obtain ⟨same, rfl⟩ | before := values?_insert before
          · exact .inr (.inl ⟨rule, List.mem_cons_self, same,
              List.Subset.trans (subset_of_operandValues reads) (List.map_subset _ inside)⟩)
          · exact .inl before
        · exact .inr (after.mono (List.subset_cons_self _ _) behind)

theorem exists_of_ite_bind_eq_ok {ε α β : Type} {condition : Prop} [Decidable condition]
    {first second : Except ε α} {next : α → Except ε β} {result : β}
    (done : (if condition then first >>= next else second >>= next) = .ok result) :
    ∃ value, (if condition then first else second) = .ok value ∧ next value = .ok result := by
  split at done
  · rename_i holds
    simpa only [if_pos holds] using exists_of_bind_eq_ok done
  · rename_i fails
    simpa only [if_neg fails] using exists_of_bind_eq_ok done

/-- What is found is from before, from an operand, or from an option that was called for. -/
theorem sources_of_scanWords {steps : Nat} {rules : List OperandRule} {values : List String}
    (done : g.scanWords steps rules words findings = .ok found)
    (present : found.values? label = some values) :
    findings.values? label = some values ∨ g.Sources rules words label values := by
  induction steps generalizing rules words findings with
  | zero =>
      cases done
      exact .inl present
  | succ steps ih =>
      rw [scanWords] at done
      obtain ⟨⟨left, rest, taken⟩, operands, done⟩ := exists_of_ite_bind_eq_ok done
      have operand : left ⊆ rules ∧ rest ⊆ words ∧ ∀ label values,
          taken.values? label = some values →
            findings.values? label = some values ∨ g.Sources rules words label values := by
        split at operands
        · cases operands
          exact ⟨List.Subset.refl _, List.Subset.refl _, fun _ _ => .inl⟩
        · exact of_takeOperands operands
      obtain ⟨fewer, within, before⟩ := operand
      dsimp only at done
      split at done
      · obtain earlier | sources := ih done
        · exact before _ _ earlier
        · exact .inr (sources.mono fewer within)
      · split at done
        · rename_i naming text later behind
          obtain ⟨unfolded, unfolds, done⟩ := exists_of_bind_eq_ok done
          obtain ⟨applied, applies, done⟩ := exists_of_bind_eq_ok done
          have inside : .option naming text :: later ⊆ words := fun word member =>
            List.mem_of_mem_drop (behind ▸ member)
          obtain earlier | sources := ih done
          · obtain earlier | ⟨use, member, same⟩ := values?_of_applyOptions applies earlier
            · exact before _ _ earlier
            · exact .inr (.inr ⟨_, inside List.mem_cons_self, use.1,
                ⟨_, _, _, _, rfl, unfolds, List.mem_map_of_mem member⟩, same⟩)
          · exact .inr (sources.mono fewer
              (List.Subset.trans (rest_of_unfold unfolds)
                (List.Subset.trans (List.subset_cons_self _ _) inside)))
        · cases done
          exact before _ _ present

theorem splitEquals_of_none {chars : List Char} (bare : (splitEquals chars).2 = none) :
    (splitEquals chars).1 = chars := by
  unfold splitEquals at bare ⊢
  dsimp only at bare ⊢
  split at bare
  · rename_i none_left
    exact (List.takeWhile_prefix _).eq_of_length_le (List.drop_eq_nil_iff.mp none_left)
  · contradiction

theorem of_mem_candidates {chars : List Char} {naming : Naming} (member : naming ∈ g.candidates chars) :
    (naming.name, naming.rule) ∈ g.names ∧
      (naming.attached = none → chars <+: naming.name.toList) := by
  unfold candidates at member
  split at member
  · rename_i more
    obtain ⟨⟨name, rule⟩, named, found⟩ := List.mem_filterMap.mp member
    dsimp only at found
    split at found
    · rename_i starts
      cases found
      refine ⟨named, fun bare => ?_⟩
      rw [← splitEquals_of_none (Option.map_eq_none_iff.mp bare)]
      exact List.isPrefixOf_iff_prefix.mp starts
    · contradiction
  · obtain ⟨⟨name, rule⟩, named, found⟩ := List.mem_filterMap.mp member
    dsimp only at found
    split at found
    · cases found
      exact ⟨named, fun bare => by contradiction⟩
    · split at found
      · rename_i starts
        cases found
        exact ⟨named, fun _ => List.isPrefixOf_iff_prefix.mp starts⟩
      · contradiction

/-- A text spells an option out or cuts it short. -/
structure Spells (g : Grammar) (text : String) (naming : Naming) : Prop where
  named : (naming.name, naming.rule) ∈ g.names
  dash : text.toList.head? = some '-'
  start : naming.attached = none → text.toList <+: naming.name.toList
  notDash : text = naming.name ∨ text.toList.length ≠ 1

theorem text_of_classify {text : String} {word : Word} (done : g.classify text = .ok word) :
    word.text = text := by
  unfold classify at done
  grind [misuse, Word.text]

theorem spells_of_classify {text spelled : String} {naming : Naming}
    (done : g.classify text = .ok (.option (some naming) spelled)) : g.Spells text naming := by
  unfold classify at done
  dsimp only at done
  split at done
  · cases done
  · rename_i dash
    have dash : text.toList.head? = some '-' := not_not.mp dash
    split at done
    · rename_i rule named
      cases done
      exact ⟨Assoc.mem_of_find? named, dash, fun _ => List.prefix_refl _, .inl rfl⟩
    · split at done
      · cases done
      · rename_i notDash
        split at done
        · rename_i rule _ named
          cases done
          exact ⟨Assoc.mem_of_find? named, dash, fun bare => by contradiction, .inr notDash⟩
        · split at done
          · rename_i alone
            cases done
            obtain ⟨named, start⟩ := of_mem_candidates (alone ▸ List.mem_singleton_self _)
            exact ⟨named, dash, start, .inr notDash⟩
          · split at done <;> cases done
          · cases done

/-- What a word says is in the line. A word that is an option is not the mark that ends the options. -/
theorem of_mem_classifyAll {arguments : List String} {word : Word} (member : word ∈ words)
    (done : g.classifyAll arguments = .ok words) :
    word.text ∈ arguments ∧ ∀ naming text, word = .option (some naming) text →
      text ≠ "--" ∧ g.Spells text naming := by
  induction arguments generalizing words with
  | nil =>
      cases done
      contradiction
  | cons argument others ih =>
      rw [classifyAll.eq_def] at done
      split at done
      · contradiction
      · rename_i others' same
        obtain ⟨rfl, rfl⟩ := List.cons_eq_cons.mp same
        cases done
        obtain rfl | later := List.mem_cons.mp member
        · exact ⟨List.mem_cons_self, fun _ _ _ => by contradiction⟩
        · obtain ⟨text, inside, rfl⟩ := List.mem_map.mp later
          exact ⟨List.mem_cons_of_mem _ inside, fun _ _ _ => by contradiction⟩
      · rename_i notMark same
        obtain ⟨rfl, rfl⟩ := List.cons_eq_cons.mp same
        obtain ⟨first, classified, done⟩ := exists_of_bind_eq_ok done
        obtain ⟨later, rest, done⟩ := exists_of_bind_eq_ok done
        cases done
        obtain rfl | inside := List.mem_cons.mp member
        · have spelled := text_of_classify classified
          refine ⟨spelled ▸ List.mem_cons_self, ?_⟩
          rintro naming text rfl
          obtain rfl : text = argument := spelled
          exact ⟨notMark, spells_of_classify classified⟩
        · obtain ⟨text, option⟩ := ih inside rest
          exact ⟨List.mem_cons_of_mem _ text, option⟩

theorem texts_subset {arguments : List String} (done : g.classifyAll arguments = .ok words) :
    words.map Word.text ⊆ arguments := by
  intro text member
  obtain ⟨word, inside, rfl⟩ := List.mem_map.mp member
  exact (of_mem_classifyAll inside done).1

/-- An option that a word of the line calls for is one of the grammar. -/
theorem Calls.exists_name {arguments : List String} {word : Word} (calls : g.Calls word called)
    (member : word ∈ words) (done : g.classifyAll arguments = .ok words) :
    ∃ name, (name, called) ∈ g.names := by
  by_cases long : ∀ c, (String.ofList ['-', c], called) ∉ g.names
  · obtain ⟨name, attached, text, rfl, -⟩ := calls.named long
    exact ⟨name, ((of_mem_classifyAll member done).2 _ _ rfl).2.named⟩
  · obtain ⟨c, short⟩ := not_forall.mp long
    exact ⟨_, not_not.mp short⟩

/-- A flag that has long names alone is called for by a word that spells one of them. -/
theorem Calls.exists_start {arguments : List String} {word : Word} (calls : g.Calls word called)
    (member : word ∈ words) (done : g.classifyAll arguments = .ok words)
    (flag : called.effect ≠ .takeValue)
    (long : ∀ name, (name, called) ∈ g.names → isShortName name = false ∧ 2 < name.toList.length) :
    ∃ text ∈ arguments, ∃ name, (name, called) ∈ g.names ∧ text.toList <+: name.toList ∧
      text.toList.head? = some '-' ∧ text ≠ "--" ∧ (text = name ∨ text.toList.length ≠ 1) := by
  have notShort : ∀ c, (String.ofList ['-', c], called) ∉ g.names := by
    intro c named
    have longName := (long _ named).2
    simp at longName
  obtain ⟨name, attached, text, rfl, bare⟩ := calls.named notShort
  obtain ⟨inside, spells⟩ := of_mem_classifyAll member done
  obtain ⟨notMark, spells⟩ := spells _ _ rfl
  exact ⟨text, inside, name, spells.named, spells.start (bare flag (long _ spells.named).1),
    spells.dash, notMark, spells.notDash⟩

theorem sources_of_scan {arguments values : List String} (done : g.scan arguments = .ok found)
    (present : found.values? label = some values) :
    ∃ words, g.classifyAll arguments = .ok words ∧ g.Sources g.operands words label values := by
  obtain ⟨words, classified, done⟩ := exists_of_bind_eq_ok done
  obtain before | sources := sources_of_scanWords done present
  · contradiction
  · exact ⟨words, classified, sources⟩

end Grammar

namespace Invocation

open Grammar

variable {arguments words : List String} {name : String}

/-- The words of a command are words of the line. -/
theorem command_subset {outer : Findings} (done : grammar.scan arguments = .ok outer)
    (present : outer.values? commandRule.name = some (name :: words)) : words ⊆ arguments := by
  obtain ⟨read, classified, ⟨_, _, _, texts⟩ | ⟨word, member, rule, calls, same⟩⟩ :=
    sources_of_scan done present
  · exact List.Subset.trans (List.subset_cons_self _ _)
      (List.Subset.trans texts (texts_subset classified))
  · have other : ∀ named ∈ grammar.names, named.2.label ≠ commandRule.name := by decide
    obtain ⟨_, named⟩ := calls.exists_name member classified
    exact absurd same (other _ named)

theorem start_of_showKey {text : String} (start : text.toList <+: "--show-key".toList)
    (dash : text.toList.head? = some '-') (notDash : text.toList.length ≠ 1) (notMark : text ≠ "--") :
    "--s".toList <+: text.toList := by
  have cut := List.prefix_iff_eq_take.mp start
  have notEmpty : text.toList.length ≠ 0 := by
    intro empty
    rw [List.length_eq_zero_iff.mp empty] at dash
    contradiction
  have notTwo : text.toList.length ≠ 2 := by
    intro two
    rw [two] at cut
    exact notMark (String.toList_inj.mp cut)
  have further : "--s".toList.length ≤ text.toList.length :=
    show 3 ≤ text.toList.length by omega
  exact List.prefix_of_prefix_length_le (by decide) start further

/-- Only a command of the client has values, and it finds them in the words after it. -/
theorem exists_scan_of_readCommand {outer inner : Findings} {label : String} {values : List String}
    (done : readCommand outer = .ok (name, inner)) (present : inner.values? label = some values) :
    ∃ words g, outer.values? commandRule.name = some (name :: words) ∧
      Assoc.find? name commandGrammars = some g ∧ g.scan words = .ok inner := by
  unfold readCommand at done
  split at done
  · cases done
    contradiction
  · cases done
    contradiction
  · rename_i given words called
    split at done
    · cases done
      contradiction
    · rename_i g known
      obtain ⟨found, scans, done⟩ := exists_of_bind_eq_ok done
      obtain ⟨-, -, done⟩ := exists_of_bind_eq_ok done
      cases done
      exact ⟨words, g, called, known, scans⟩

/-- The account's command takes no operands, and one name asks for its key. -/
theorem account_of_find? {g : Grammar} (known : Assoc.find? "account" commandGrammars = some g) :
    g.operands = [] ∧ ∀ named ∈ g.names, named.2.label = showKeyRule.label →
      named = ("--show-key", showKeyRule) := by
  cases known
  decide

/-- The key is asked for by its own option alone, written out or cut short. -/
theorem exists_of_account_true {invocation : Invocation} (done : read arguments = .ok invocation)
    (shows : invocation.command = .account true) :
    ∃ word ∈ arguments, "--s".toList <+: word.toList ∧ word.toList <+: "--show-key".toList := by
  obtain ⟨outer, scans, done⟩ := exists_of_bind_eq_ok done
  obtain ⟨⟨name, inner⟩, reads, done⟩ := exists_of_bind_eq_ok done
  obtain ⟨-, -, done⟩ := exists_of_bind_eq_ok done
  dsimp only at done
  split at done
  · contradiction
  cases done
  obtain ⟨rfl, asked⟩ : name = "account" ∧ (inner.values? showKeyRule.label).isSome := by
    unfold commandOf at shows
    grind
  obtain ⟨values, asked⟩ := Option.isSome_iff_exists.mp asked
  obtain ⟨words, g, called, known, scansInner⟩ := exists_scan_of_readCommand reads asked
  obtain ⟨operands, one⟩ := account_of_find? known
  obtain ⟨read, classified, sources⟩ := sources_of_scan scansInner asked
  obtain ⟨_, operand, -⟩ | ⟨word, member, rule, calls, same⟩ := sources
  · rw [operands] at operand
    contradiction
  · obtain ⟨given, named⟩ := calls.exists_name member classified
    obtain ⟨-, rfl⟩ : given = "--show-key" ∧ rule = showKeyRule := Prod.ext_iff.mp (one _ named same)
    obtain ⟨text, inside, name, named, start, dash, notMark, whole⟩ :=
      calls.exists_start member classified (by decide) fun name named => by
        cases one _ named rfl
        decide
    cases one _ named rfl
    refine ⟨text, command_subset scans called inside, ?_, start⟩
    obtain rfl | notDash := whole
    · decide
    · exact start_of_showKey start dash notDash notMark

/-- The option may be cut short, as long as no other option starts so. -/
example :
    read ["-c", "client.yaml", "account", "--email", "foo@bar.com", "--show"] =
      .ok ⟨"client.yaml", false, "foo@bar.com", .account true⟩ := rfl

end Invocation

end AcmeClient.CommandLine
