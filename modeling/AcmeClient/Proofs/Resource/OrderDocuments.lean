import AcmeClient.Proofs.Client.Posts
import AcmeClient.Proofs.Resource.Decoding

namespace AcmeClient.Resource

open Json

variable {listed listedToo : List (String × Json)} {name : String} {item other : Json}
  {items others urls : List Json} {identifier : Identifier} {order : Order} {failure : Failure}

/-- The items of a member that is missing, null or a list. -/
def Lists (name : String) (listed : List (String × Json)) (items : List Json) : Prop :=
  member name listed = .null ∧ items = [] ∨ member name listed = .arr items

theorem elements_of_lists (lists : Lists name listed items) : elements (member name listed) = .ok items := by
  rcases lists with ⟨null, rfl⟩ | stands
  · rw [null]
    rfl
  · rw [stands, elements_arr]

namespace Identifier

/-- An object with a known type and any value. -/
def IsShown (item : Json) : Prop :=
  ∃ members, item = .obj members ∧ (member "type" members = .str "dns" ∨ member "type" members = .str "ip") ∧
    Assoc.find? "value" members ≠ none

/-- An identifier with the object that it is read from. -/
def Shows (item : Json) (identifier : Identifier) : Prop :=
  ∃ members value, item = .obj members ∧ member "type" members = .str identifier.type.text ∧
    Assoc.find? "value" members = some value ∧ identifier.value = .str value.asText

/-- What is no object at all, or has the same type and value. -/
def Alike (item other : Json) : Prop :=
  ¬ IsObject item ∧ ¬ IsObject other ∨ ∃ members membersToo, item = .obj members ∧ other = .obj membersToo ∧
    ∀ name ∈ ["type", "value"], Assoc.find? name members = Assoc.find? name membersToo

theorem ofJson_eq_ok_iff : ofJson item = .ok identifier ↔ Shows item identifier := by
  unfold Shows
  by_cases isObject : IsObject item
  · obtain ⟨members, rfl⟩ := isObject
    simp [ofJson_obj_eq_ok_iff]
  · obtain ⟨fault, failed, -⟩ := decodes.noObject item isObject
    simp only [failed, reduceCtorEq, false_iff]
    intro ⟨members, _, same, _⟩
    exact isObject ⟨members, same⟩

theorem exists_text_iff {value : Json} :
    (∃ type : IdentifierType, value = .str type.text) ↔ value = .str "dns" ∨ value = .str "ip" := by
  constructor
  · intro ⟨type, shown⟩
    cases type
    · exact .inl shown
    · exact .inr shown
  · intro shown
    rcases shown with dns | ip
    · exact ⟨.dns, dns⟩
    · exact ⟨.ip, ip⟩

theorem isShown_iff : IsShown item ↔ ∃ identifier, ofJson item = .ok identifier := by
  simp only [IsShown, ofJson_eq_ok_iff, Shows, ← exists_text_iff]
  constructor
  · intro ⟨members, object, ⟨type, shown⟩, there⟩
    obtain ⟨value, found⟩ := Option.ne_none_iff_exists'.mp there
    exact ⟨⟨type, .str value.asText⟩, members, value, object, shown, found, rfl⟩
  · intro ⟨identifier, members, value, object, shown, found, _⟩
    exact ⟨members, object, ⟨identifier.type, shown⟩, by simp [found]⟩

theorem Alike.shows_iff (alike : Alike item other) : Shows item identifier ↔ Shows other identifier := by
  unfold Shows
  rcases alike with ⟨noObject, nor⟩ | ⟨members, membersToo, rfl, rfl, agree⟩
  · constructor
    · intro ⟨members, _, same, _⟩
      exact absurd ⟨members, same⟩ noObject
    · intro ⟨members, _, same, _⟩
      exact absurd ⟨members, same⟩ nor
  · simp only [List.forall_mem_cons] at agree
    simp [member, agree.1, agree.2.1]

theorem ofJson_toJson (type : IdentifierType) (text : String) :
    ofJson (toJson ⟨type, .str text⟩) = .ok ⟨type, .str text⟩ :=
  ofJson_obj_eq_ok_iff.mpr ⟨rfl, .str text, rfl, rfl⟩

end Identifier

namespace Order

/-- The status is missing, null or a known one. -/
def HasStatus (listed : List (String × Json)) : Prop :=
  member "status" listed = .null ∨
    ∃ text ∈ ["pending", "ready", "processing", "valid", "invalid"], member "status" listed = .str text

theorem hasStatus_iff : HasStatus listed ↔ ∃ status, readStatus (member "status" listed) = .ok status := by
  rw [exists_status_iff, HasStatus]
  apply or_congr_right
  constructor
  · intro ⟨text, known, shown⟩
    obtain ⟨status, -, rfl⟩ : ∃ status ∈ OrderStatus.all, status.text = text := List.mem_map.mp known
    exact ⟨status, shown⟩
  · intro ⟨status, shown⟩
    have listed : status ∈ OrderStatus.all := by cases status <;> decide
    exact ⟨status.text, List.mem_map_of_mem (f := OrderStatus.text) listed, shown⟩

/-- What reading an order comes to, from the items that are listed as its identifiers and as its
authorizations. -/
structure ReadFrom (listed : List (String × Json)) (items urls : List Json)
    (result : Except Failure Order) : Prop where
  accepted : (∃ order, result = .ok order) ↔ HasStatus listed ∧ ∀ item ∈ items, Identifier.IsShown item
  /-- Each item is an identifier, in order, and each authorization is kept. -/
  kept : ∀ order, result = .ok order →
    List.Forall₂ Identifier.Shows items order.identifiers ∧ order.authorizations = urls
  /-- An unknown status comes first. -/
  unknown : ∀ failure, result = .error failure → ¬ HasStatus listed →
    failure = .fault (.unknownStatus (member "status" listed).display)
  /-- Else the first item that is no identifier is told. -/
  unread : ∀ failure, result = .error failure → HasStatus listed → ∃ before item after,
    items = before ++ item :: after ∧ (∀ other ∈ before, Identifier.IsShown other) ∧
      Identifier.ofJson item = .error failure
  protocol : ∀ failure, result = .error failure → ∃ fault, failure = .fault fault ∧ fault.area = .protocol

theorem ofJson_obj_of_lists (identifying : Lists "identifiers" listed items)
    (authorizing : Lists "authorizations" listed urls) : ofJson (.obj listed) = do
      let status ← readStatus (member "status" listed)
      let identifiers ← items.mapM Identifier.ofJson
      return ofMembers listed status identifiers urls := by
  rw [ofJson_obj, elements_of_lists identifying, elements_of_lists authorizing]
  rfl

theorem ok_iff_of_lists (identifying : Lists "identifiers" listed items)
    (authorizing : Lists "authorizations" listed urls) : ofJson (.obj listed) = .ok order ↔
      ∃ status identifiers, readStatus (member "status" listed) = .ok status ∧
        items.mapM Identifier.ofJson = .ok identifiers ∧
        order = ofMembers listed status identifiers urls := by
  simp only [ofJson_obj_of_lists identifying authorizing, bind_eq_ok_iff, pure, Except.pure, Except.ok.injEq,
    ← exists_and_left, eq_comm (b := order)]

theorem error_iff_of_lists (identifying : Lists "identifiers" listed items)
    (authorizing : Lists "authorizations" listed urls) : ofJson (.obj listed) = .error failure ↔
      readStatus (member "status" listed) = .error failure ∨
        HasStatus listed ∧ items.mapM Identifier.ofJson = .error failure := by
  rw [hasStatus_iff]
  simp [ofJson_obj_of_lists identifying authorizing, bind_eq_error_iff, pure, Except.pure]

theorem readStatus_eq_error {value : Json} (unknown : readStatus value = .error failure) :
    failure = .fault (.unknownStatus value.display) := by
  unfold readStatus at unknown
  split at unknown
  · contradiction
  · split at unknown <;> cases unknown
    rfl

theorem readFrom (identifying : Lists "identifiers" listed items)
    (authorizing : Lists "authorizations" listed urls) :
    ReadFrom listed items urls (ofJson (.obj listed)) := by
  constructor
  · simp only [ok_iff_of_lists identifying authorizing, Identifier.isShown_iff, ← exists_mapM_eq_ok_iff,
      hasStatus_iff]
    constructor
    · intro ⟨_, status, identifiers, known, identified, _⟩
      exact ⟨⟨status, known⟩, identifiers, identified⟩
    · intro ⟨⟨status, known⟩, identifiers, identified⟩
      exact ⟨_, status, identifiers, known, identified, rfl⟩
  · intro order done
    obtain ⟨status, identifiers, -, identified, rfl⟩ := (ok_iff_of_lists identifying authorizing).mp done
    simp only [mapM_eq_ok_iff, Identifier.ofJson_eq_ok_iff] at identified
    exact ⟨identified, rfl⟩
  · intro failure failed unknown
    rcases (error_iff_of_lists identifying authorizing).mp failed with failed | ⟨known, -⟩
    · exact readStatus_eq_error failed
    · contradiction
  · intro failure failed known
    rcases (error_iff_of_lists identifying authorizing).mp failed with unknown | ⟨-, unread⟩
    · obtain ⟨status, known⟩ := hasStatus_iff.mp known
      rw [known] at unknown
      contradiction
    · obtain ⟨before, item, after, rfl, readable, unread⟩ := first_of_mapM_eq_error unread
      simp only [← Identifier.isShown_iff] at readable
      exact ⟨before, item, after, rfl, readable, unread⟩
  · intro failure failed
    rcases (error_iff_of_lists identifying authorizing).mp failed with unknown | ⟨-, unread⟩
    · exact ⟨_, readStatus_eq_error unknown, rfl⟩
    · obtain ⟨item, -, unread⟩ := exists_of_mapM_eq_error unread
      cases failure with
      | fault fault => exact ⟨fault, rfl, Identifier.protocol_of_ofJson unread⟩
      | defect defect => exact absurd unread (Identifier.ofJson_ne_defect item defect)

theorem identified_alike {identifiers : List Identifier}
    (alike : List.Forall₂ Identifier.Alike items others) :
    items.mapM Identifier.ofJson = .ok identifiers ↔ others.mapM Identifier.ofJson = .ok identifiers := by
  simp only [mapM_eq_ok_iff, Identifier.ofJson_eq_ok_iff]
  induction alike generalizing identifiers with
  | nil => rfl
  | cons alike _ ih => simp only [List.forall₂_cons_left_iff, ih, alike.shows_iff]

/-- What an order is known by, beside its identifiers. -/
def otherNames : List String :=
  ["status", "expires", "notBefore", "notAfter", "error", "authorizations", "finalize", "certificate"]

/-- Two documents that agree on what orders and identifiers are known by are the same order, if any. -/
theorem ofJson_obj_alike (identifying : Lists "identifiers" listed items)
    (identifyingToo : Lists "identifiers" listedToo others)
    (alike : List.Forall₂ Identifier.Alike items others)
    (agree : ∀ name ∈ otherNames, member name listed = member name listedToo) :
    ofJson (.obj listed) = .ok order ↔ ofJson (.obj listedToo) = .ok order := by
  simp only [otherNames, List.forall_mem_cons] at agree
  simp [ofJson_obj_eq_ok_iff, elements_of_lists identifying, elements_of_lists identifyingToo, ofMembers,
    agree, identified_alike alike]

/-- Identifiers for names, each of a type. -/
def asking (names : List (IdentifierType × String)) : List Identifier :=
  names.map fun name => ⟨name.1, .str name.2⟩

theorem identified_asking (names : List (IdentifierType × String)) :
    ((asking names).map Identifier.toJson).mapM Identifier.ofJson = .ok (asking names) := by
  simp only [mapM_eq_ok_iff, List.forall₂_map_left_iff, List.forall₂_same, asking, List.forall_mem_map]
  exact fun name _ => Identifier.ofJson_toJson name.1 name.2

theorem ofJson_request (names : List (IdentifierType × String)) :
    ∃ order, ofJson (request (asking names)) = .ok order ∧ order.identifiers = asking names := by
  refine ⟨_, (ok_iff_of_lists (.inr rfl) (.inl ⟨rfl, rfl⟩)).mpr ⟨none, asking names, rfl, ?_, rfl⟩, rfl⟩
  exact identified_asking names

end Order

/-- An object whose lists are lists is read as an order exactly if its status and its identifiers are
known ones. Then nothing that is listed gets lost, and else the first thing that is wrong is told, the status
before any identifier. What else the object and its identifiers say does not matter. Every request for an
order, however its text is laid out, is read as what was asked for. -/
theorem order_documents :
    (∀ listed items urls, Lists "identifiers" listed items → Lists "authorizations" listed urls →
      Order.ReadFrom listed items urls (Order.ofJson (.obj listed))) ∧
    (∀ listed listedToo items others, Lists "identifiers" listed items →
      Lists "identifiers" listedToo others → List.Forall₂ Identifier.Alike items others →
      (∀ name ∈ Order.otherNames, member name listed = member name listedToo) →
      ∀ order, Order.ofJson (.obj listed) = .ok order ↔ Order.ofJson (.obj listedToo) = .ok order) ∧
    ∀ layout : Layout, layout.Separates → ∀ names, ∃ document order,
      Json.read (Text.Utf8.encode (write layout (Order.request (Order.asking names)))) = .ok document ∧
        Order.ofJson document = .ok order ∧ order.identifiers = Order.asking names := by
  refine ⟨fun listed items urls identifying authorizing => Order.readFrom identifying authorizing,
    fun listed listedToo items others identifying identifyingToo alike agree order =>
      Order.ofJson_obj_alike identifying identifyingToo alike agree,
    fun layout separates names => ?_⟩
  obtain ⟨order, done, asked⟩ := Order.ofJson_request names
  have readable : IsReadable (Order.request (Order.asking names)) := by
    apply isReadable_request
    simp only [Order.asking, List.forall_mem_map]
    exact fun name _ => .str name.2
  exact ⟨_, order, read_write separates readable, done, asked⟩

end AcmeClient.Resource
