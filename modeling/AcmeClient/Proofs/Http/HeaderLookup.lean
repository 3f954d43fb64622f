import AcmeClient.Proofs.Http.Exchange
import AcmeClient.Proofs.Json.Members
import AcmeClient.Proofs.Text.Recasing
import Mathlib.Data.List.Forall2

/-!
Which of the fields that are received a header is taken from. Fields are put together by the exact
spelling of their names and then looked up without regard to case. So the case of the wanted name does not
matter, while that of the received names does where fields are repeated.
-/

namespace AcmeClient

variable {fields fieldsToo : List (String × String)} {wanted other name : String}

namespace Assoc

variable {κ : Type u} {α : Type v} [DecidableEq κ] {key : κ} {value : α} {entries : List (κ × α)}

theorem ofList_concat (entries : List (κ × α)) (last : κ × α) :
    ofList (entries ++ [last]) = insert last.1 last.2 (ofList entries) := by
  simp [ofList]

theorem nodup_ofList (entries : List (κ × α)) : ((ofList entries).map Prod.fst).Nodup := by
  induction entries using List.reverseRec with
  | nil => exact .nil
  | append_singleton entries last ih =>
      rw [ofList_concat]
      exact nodup_insert ih

/-- Names that are kept once each come in the order in which they first came. -/
theorem find?_names_ofList (p : κ → Bool) (entries : List (κ × α)) :
    ((ofList entries).map Prod.fst).find? p = (entries.map Prod.fst).find? p := by
  induction entries using List.reverseRec with
  | nil => rfl
  | append_singleton entries last ih =>
      rw [ofList_concat, List.map_append, List.find?_append, ← ih]
      by_cases present : last.1 ∈ (ofList entries).map Prod.fst
      · rw [names_insert_of_mem present]
        cases first : ((ofList entries).map Prod.fst).find? p with
        | some name => rfl
        | none => simp [List.find?_eq_none.mp first last.1 present]
      · rw [insert_of_notMem present, List.map_append, List.find?_append, List.map_singleton]

theorem find?_eq_map_find? (key : κ) (entries : List (κ × α)) :
    find? key entries = (entries.find? fun entry => decide (entry.1 = key)).map Prod.snd := by
  induction entries with
  | nil => rfl
  | cons entry rest ih =>
      by_cases same : entry.1 = key <;> simp [find?, same, ih]

/-- Of the values of a name the last one is kept. -/
theorem find?_reverse_eq_some_iff : find? key entries.reverse = some value ↔
    ∃ before after, entries = before ++ (key, value) :: after ∧ ∀ entry ∈ after, entry.1 ≠ key := by
  simp only [find?_eq_map_find?, Option.map_eq_some_iff, List.find?_eq_some_iff_append, decide_eq_true_eq,
    List.reverse_eq_append_iff, List.reverse_cons, List.append_assoc, List.singleton_append]
  constructor
  · rintro ⟨⟨_, _⟩, ⟨rfl, after, before, split, clear⟩, rfl⟩
    exact ⟨before.reverse, after.reverse, split, by simpa using clear⟩
  · rintro ⟨before, after, split, clear⟩
    exact ⟨(key, value), ⟨rfl, after.reverse, before.reverse, by simpa using split, by simpa using clear⟩,
      rfl⟩

end Assoc

/-- The name that a header is found under: the first one that is the wanted one in some case. -/
def namedFirst? (wanted : String) (fields : List (String × String)) : Option String :=
  (fields.map Prod.fst).find? fun name => Text.lowerString name == Text.lowerString wanted

/-- The same fields with the ASCII letters of their names in any case. -/
def Respelled (fields fieldsToo : List (String × String)) : Prop :=
  List.Forall₂ (fun field other => Text.Recased field.1 other.1 ∧ field.2 = other.2) fields fieldsToo

/-- Whether all fields say the same that are named, in some case, as the one that a header is found
under. A name without letters has no other case. -/
def Agrees (wanted : String) (fields : List (String × String)) : Prop :=
  ∀ name, namedFirst? wanted fields = some name → Text.IsLettered name →
    ∀ field ∈ fields, ∀ other ∈ fields, Text.Recased name field.1 → Text.Recased name other.1 →
      field.2 = other.2

def spellSmall (fields : List (String × String)) : List (String × String) :=
  fields.map fun field => (Text.small field.1, field.2)

def spellCapital (fields : List (String × String)) : List (String × String) :=
  fields.map fun field => (Text.capital field.1, field.2)

theorem lowerString_of_namedFirst? (first : namedFirst? wanted fields = some name) :
    Text.lowerString name = Text.lowerString wanted :=
  beq_iff_eq.mp (List.find?_some (p := fun name => Text.lowerString name == Text.lowerString wanted) first)

theorem namedFirst?_append (front rear : List (String × String)) :
    namedFirst? wanted (front ++ rear) = (namedFirst? wanted front).or (namedFirst? wanted rear) := by
  rw [namedFirst?, List.map_append, List.find?_append]
  rfl

theorem namedFirst?_cons (field : String × String) (rest : List (String × String)) :
    namedFirst? wanted (field :: rest) =
      if Text.lowerString field.1 = Text.lowerString wanted then some field.1
      else namedFirst? wanted rest := by
  simp only [namedFirst?, List.map_cons, List.find?_cons]
  split <;> simp_all

theorem namedFirst?_spellSmall (fields : List (String × String)) :
    namedFirst? wanted (spellSmall fields) = (namedFirst? wanted fields).map Text.small := by
  induction fields with
  | nil => rfl
  | cons field rest ih =>
      have same := (Text.recased_small field.1).lowerString_eq
      rw [spellSmall, List.map_cons, ← spellSmall, namedFirst?_cons, namedFirst?_cons, same, ih]
      split <;> rfl

theorem exists_last_of_namedFirst? (first : namedFirst? wanted fields = some name) :
    ∃ value, Assoc.find? name fields.reverse = some value := by
  obtain ⟨field, listed, rfl⟩ := List.mem_map.mp (List.mem_of_find?_eq_some first)
  cases last : Assoc.find? field.1 fields.reverse with
  | some value => exact ⟨value, rfl⟩
  | none =>
      rw [Assoc.find?_eq_map_find?, Option.map_eq_none_iff, List.find?_eq_none] at last
      exact absurd (decide_eq_true rfl) (last field (List.mem_reverse.mpr listed))

namespace Respelled

theorem namedFirst?_cases (respelled : Respelled fields fieldsToo) (wanted : String) :
    namedFirst? wanted fields = none ∧ namedFirst? wanted fieldsToo = none ∨
      ∃ name nameToo, namedFirst? wanted fields = some name ∧ namedFirst? wanted fieldsToo = some nameToo ∧
        Text.Recased name nameToo := by
  induction respelled with
  | nil => exact .inl ⟨rfl, rfl⟩
  | cons same _ ih =>
      rw [namedFirst?_cons, namedFirst?_cons, ← same.1.lowerString_eq]
      split
      · exact .inr ⟨_, _, rfl, rfl, same.1⟩
      · exact ih

theorem exists_of_mem (respelled : Respelled fields fieldsToo) {field : String × String}
    (member : field ∈ fieldsToo) : ∃ old ∈ fields, Text.Recased old.1 field.1 ∧ old.2 = field.2 := by
  induction respelled with
  | nil => contradiction
  | @cons old new _ _ same _ ih =>
      obtain rfl | later := List.mem_cons.mp member
      · exact ⟨old, List.mem_cons_self, same⟩
      · obtain ⟨before, listed, recased⟩ := ih later
        exact ⟨before, List.mem_cons_of_mem _ listed, recased⟩

theorem small (fields : List (String × String)) : Respelled fields (spellSmall fields) :=
  List.forall₂_map_right_iff.mpr (List.forall₂_same.mpr fun field _ => ⟨Text.recased_small field.1, rfl⟩)

theorem capital (fields : List (String × String)) : Respelled fields (spellCapital fields) :=
  List.forall₂_map_right_iff.mpr (List.forall₂_same.mpr fun field _ => ⟨Text.recased_capital field.1, rfl⟩)

theorem reverse (respelled : Respelled fields fieldsToo) : Respelled fields.reverse fieldsToo.reverse :=
  List.forall₂_reverse_iff.mpr respelled

theorem find?_eq (respelled : Respelled fields fieldsToo) (plain : ¬ Text.IsLettered name) :
    Assoc.find? name fields = Assoc.find? name fieldsToo := by
  induction respelled with
  | nil => rfl
  | @cons old new _ _ same _ ih =>
      have named : old.1 = name ↔ new.1 = name := by
        constructor
        · rintro rfl
          exact (same.1.eq_of_not_isLettered plain).symm
        · rintro rfl
          exact (same.1.symm.eq_of_not_isLettered plain).symm
      simp only [Assoc.find?, named, same.2, ih]

end Respelled

namespace Response

/-- What an answer with such fields is read as. -/
def ofFields (status : Int) (fields : List (String × String)) (content : Bytes) : Response :=
  ⟨status, Assoc.ofList fields, content⟩

variable {status : Int} {content : Bytes} {response : Response}

theorem header?_ofFields : (ofFields status fields content).header? wanted =
    (namedFirst? wanted fields).bind fun name => Assoc.find? name fields.reverse := by
  have named := Assoc.find?_names_ofList
    (fun name => Text.lowerString name == Text.lowerString wanted) fields
  rw [List.find?_map] at named
  rw [namedFirst?, ← named, header?, ofFields]
  cases first : (Assoc.ofList fields).find? fun field =>
      Text.lowerString field.1 == Text.lowerString wanted with
  | none => simp [first]
  | some field =>
      have kept : Assoc.find? field.1 (Assoc.ofList fields) = some field.2 :=
        (Assoc.find?_eq_some_iff_mem (Assoc.nodup_ofList fields)).mpr (List.mem_of_find?_eq_some first)
      simp [first, ← Assoc.find?_ofList, kept]

theorem header?_eq_of_recased (recased : Text.Recased wanted other) :
    response.header? wanted = response.header? other := by
  rw [header?, header?, recased.lowerString_eq]

/-- In whatever case a header is asked for, there is a value or none; what is missing is named as it was
asked for. -/
theorem expectHeader_cases (recased : Text.Recased wanted other) :
    (∃ value, response.expectHeader wanted = .ok value ∧ response.expectHeader other = .ok value) ∨
      response.expectHeader wanted = .error (.fault (.missingHeader wanted)) ∧
        response.expectHeader other = .error (.fault (.missingHeader other)) := by
  rw [expectHeader, expectHeader, ← header?_eq_of_recased recased]
  cases response.header? wanted with
  | none => exact .inr ⟨rfl, rfl⟩
  | some value =>
      by_cases empty : value = ""
      · exact .inr ⟨if_pos empty, if_pos empty⟩
      · exact .inl ⟨value, if_neg empty, if_neg empty⟩

theorem eq_of_expectHeader_eq {responseToo : Response} {value valueToo : String}
    (found : response.header? wanted = some value) (foundToo : responseToo.header? wanted = some valueToo)
    (same : response.expectHeader wanted = responseToo.expectHeader wanted) : value = valueToo := by
  simp only [expectHeader, found, foundToo] at same
  by_cases empty : value = "" <;> by_cases emptyToo : valueToo = "" <;> simp_all

/-- Fields that agree are found with one value in every case of their names. -/
theorem header?_of_agrees (agrees : Agrees wanted fields) (respelled : Respelled fields fieldsToo) :
    (ofFields status fieldsToo content).header? wanted = (ofFields status fields content).header? wanted := by
  rw [header?_ofFields, header?_ofFields]
  obtain ⟨none, noneToo⟩ | ⟨name, nameToo, first, firstToo, recased⟩ := respelled.namedFirst?_cases wanted
  · rw [none, noneToo]
    rfl
  · rw [first, firstToo, Option.bind_some, Option.bind_some]
    by_cases lettered : Text.IsLettered name
    · obtain ⟨value, found⟩ := exists_last_of_namedFirst? first
      obtain ⟨valueToo, foundToo⟩ := exists_last_of_namedFirst? firstToo
      have member := List.mem_reverse.mp (Assoc.mem_of_find? found)
      obtain ⟨old, listed, named, same⟩ :=
        respelled.exists_of_mem (List.mem_reverse.mp (Assoc.mem_of_find? foundToo))
      have agreed : value = old.2 :=
        agrees name first lettered _ member _ listed rfl (recased.trans named.symm)
      rw [found, foundToo, agreed, same]
    · obtain rfl := recased.eq_of_not_isLettered lettered
      exact (respelled.reverse.find?_eq lettered).symm

/-- Any of the fields that are named, in some case, as the one that a header is found under is the one
that counts when they are spelled so. -/
theorem exists_respelled {field : String × String} (first : namedFirst? wanted fields = some name)
    (lettered : Text.IsLettered name) (member : field ∈ fields) (named : Text.Recased name field.1) :
    ∃ fieldsToo, Respelled fields fieldsToo ∧
      (ofFields status fieldsToo content).header? wanted = some field.2 := by
  obtain ⟨before, after, rfl⟩ := List.append_of_mem member
  refine ⟨spellSmall before ++ (Text.small field.1, field.2) :: spellCapital after, ?_, ?_⟩
  · exact List.rel_append (Respelled.small before)
      (.cons ⟨Text.recased_small field.1, rfl⟩ (Respelled.capital after))
  · have leads : namedFirst? wanted
        (spellSmall before ++ (Text.small field.1, field.2) :: spellCapital after) =
          some (Text.small field.1) := by
      have matching : Text.lowerString field.1 = Text.lowerString wanted := by
        rw [← named.lowerString_eq, lowerString_of_namedFirst? first]
      rw [namedFirst?_append, namedFirst?_cons, if_pos matching] at first
      rw [namedFirst?_append, namedFirst?_cons, ← (Text.recased_small field.1).lowerString_eq,
        if_pos matching, namedFirst?_spellSmall]
      cases before : namedFirst? wanted before with
      | none => rfl
      | some earlier =>
          rw [before] at first
          cases first
          exact congrArg some named.small_eq
    rw [header?_ofFields, leads, Option.bind_some, Assoc.find?_reverse_eq_some_iff]
    refine ⟨_, _, rfl, ?_⟩
    simp only [spellCapital, List.forall_mem_map]
    exact fun later _ => Text.capital_ne_small (named.isLettered_iff.mp lettered) later.1

/-- Fields agree if in no two cases of their names different values are found. -/
theorem agrees_of_respelled (status : Int) (content : Bytes)
    (steady : ∀ one another value valueToo, Respelled fields one → Respelled fields another →
      (ofFields status one content).header? wanted = some value →
      (ofFields status another content).header? wanted = some valueToo → value = valueToo) :
    Agrees wanted fields := by
  intro name first lettered field member other memberToo named namedToo
  obtain ⟨one, respelled, found⟩ := exists_respelled first lettered member named
  obtain ⟨another, respelledToo, foundToo⟩ := exists_respelled first lettered memberToo namedToo
  exact steady one another _ _ respelled respelledToo found foundToo

theorem agrees_iff_header? : Agrees wanted fields ↔ ∀ fieldsToo, Respelled fields fieldsToo →
    (ofFields status fieldsToo content).header? wanted = (ofFields status fields content).header? wanted := by
  refine ⟨fun agrees fieldsToo => header?_of_agrees agrees, fun steady => ?_⟩
  refine agrees_of_respelled status content fun one another _ _ respelled respelledToo found foundToo => ?_
  have same := (steady one respelled).trans (steady another respelledToo).symm
  rw [found, foundToo] at same
  exact Option.some.inj same

theorem agrees_iff_expectHeader : Agrees wanted fields ↔ ∀ fieldsToo, Respelled fields fieldsToo →
    (ofFields status fieldsToo content).expectHeader wanted =
      (ofFields status fields content).expectHeader wanted := by
  constructor
  · intro agrees fieldsToo respelled
    rw [expectHeader, expectHeader, header?_of_agrees agrees respelled]
  · intro steady
    refine agrees_of_respelled status content fun one another _ _ respelled respelledToo found foundToo => ?_
    exact eq_of_expectHeader_eq found foundToo
      ((steady one respelled).trans (steady another respelledToo).symm)

theorem header?_eq_some_iff_last {value : String} :
    (ofFields status fields content).header? wanted = some value ↔
      ∃ name before after, namedFirst? wanted fields = some name ∧
        fields = before ++ (name, value) :: after ∧ ∀ field ∈ after, field.1 ≠ name := by
  simp only [header?_ofFields, Option.bind_eq_some_iff, Assoc.find?_reverse_eq_some_iff, exists_and_left]

/-- What looking up a header in a response comes to that was received with some fields. -/
structure LooksUp (status : Int) (fields : List (String × String)) (content : Bytes) (wanted : String) :
    Prop where
  /-- The first field with the wanted name, in whatever case, decides on the spelling of the name, and the
  last field that is spelled so on the value. -/
  finds : ∀ value, (ofFields status fields content).header? wanted = some value ↔
    ∃ name before after, namedFirst? wanted fields = some name ∧
      fields = before ++ (name, value) :: after ∧ ∀ field ∈ after, field.1 ≠ name
  /-- In whatever case a header is asked for, the same is found. -/
  recased : ∀ other, Text.Recased wanted other →
    (ofFields status fields content).header? other = (ofFields status fields content).header? wanted
  /-- It is expected in vain in every case or in none, and named as it was asked for. -/
  expected : ∀ other, Text.Recased wanted other →
    (∃ value, (ofFields status fields content).expectHeader wanted = .ok value ∧
        (ofFields status fields content).expectHeader other = .ok value) ∨
      (ofFields status fields content).expectHeader wanted = .error (.fault (.missingHeader wanted)) ∧
        (ofFields status fields content).expectHeader other = .error (.fault (.missingHeader other))
  /-- In whatever case the fields are named, the same is found exactly where they agree. -/
  respelled : Agrees wanted fields ↔ ∀ fieldsToo, Respelled fields fieldsToo →
    (ofFields status fieldsToo content).header? wanted = (ofFields status fields content).header? wanted
  expectedOfRespelled : Agrees wanted fields ↔ ∀ fieldsToo, Respelled fields fieldsToo →
    (ofFields status fieldsToo content).expectHeader wanted =
      (ofFields status fields content).expectHeader wanted

end Response

namespace Transport

variable {t : Transport} {method : Method} {url : String} {body : Option (Bytes × String)}
  {peer : Request → Outcome} {request : Request} {status : Int} {content : Bytes}

/-- Every answer is a response in which a header is looked up by the last field that is spelled like the
first one of that name. The case in which a header is asked for never matters; that in which the fields are
named does not matter exactly where all of them that can be taken for the first one say the same. -/
theorem header_lookup (sent : (t.exchange method url body peer).sent = some request)
    (answers : (peer request).Answers status fields content) :
    (t.exchange method url body peer).result = .ok (.ofFields status fields content) ∧
      ∀ wanted, Response.LooksUp status fields content wanted := by
  refine ⟨?_, fun wanted => ?_⟩
  · exact ((t.exchange_classified method url body peer).responds _).mpr
      ⟨request, status, fields, content, sent, answers, rfl⟩
  · exact {
      finds := fun _ => Response.header?_eq_some_iff_last
      recased := fun _ recased => (Response.header?_eq_of_recased recased).symm
      expected := fun _ => Response.expectHeader_cases
      respelled := Response.agrees_iff_header?
      expectedOfRespelled := Response.agrees_iff_expectHeader }

/-- Two addresses under one name in two cases. -/
def twiceLocated : List (String × String) := [("Location", "first"), ("location", "second")]

theorem header_lookup_of_twiceLocated :
    (default.get "https://acme.test/acct" fun _ => .answered 200 twiceLocated (.ok [])).result =
        .ok (.ofFields 200 twiceLocated []) ∧
      ∀ wanted, Response.LooksUp 200 twiceLocated [] wanted := by
  have asked : default.request .get "https://acme.test/acct" none =
      .ok (default.message .get "https://acme.test/acct" none) :=
    request_eq_ok_iff.mpr ⟨Url.hasKind_iff.mp (by decide), rfl⟩
  have sent := congrArg Exchange.sent (exchange_of_request_eq_ok asked fun _ =>
    .answered 200 twiceLocated (.ok []))
  exact header_lookup sent .answered

/-- Of two addresses that are named in two cases the first one is used, and of two that are named in one
case the last one. -/
theorem address_depends_on_case :
    ¬ ∀ fields fieldsToo wanted response responseToo, Respelled fields fieldsToo →
      receive .get "https://acme.test/acct" (.answered 200 fields (.ok [])) = .ok response →
      receive .get "https://acme.test/acct" (.answered 200 fieldsToo (.ok [])) = .ok responseToo →
      response.header? wanted = responseToo.header? wanted := by
  intro steady
  have respelled : Respelled twiceLocated [("Location", "first"), ("Location", "second")] := by
    simp [Respelled, twiceLocated, Text.Recased]
  have same := steady twiceLocated _ "Location" _ _ respelled rfl rfl
  exact absurd same (by decide)

end Transport

end AcmeClient
