import AcmeClient.Proofs.Client.Replies
import Mathlib.Data.List.Forall2

namespace AcmeClient.Resource

open Json

variable {α β : Type} {listed : List (String × Json)} {name : String} {value : Json} {items : List Json}

theorem mapM_eq_ok_iff {ε : Type} {read : α → Except ε β} {inputs : List α} {results : List β} :
    inputs.mapM read = .ok results ↔
      List.Forall₂ (fun input result => read input = .ok result) inputs results := by
  induction inputs generalizing results with
  | nil => cases results <;> simp [pure, Except.pure]
  | cons input rest ih =>
      simp only [List.mapM_cons, bind_eq_ok_iff, ih, List.forall₂_cons_left_iff, pure, Except.pure,
        Except.ok.injEq]
      constructor
      · rintro ⟨result, known, others, later, rfl⟩
        exact ⟨result, others, known, later, rfl⟩
      · rintro ⟨result, others, known, later, rfl⟩
        exact ⟨result, known, others, later, rfl⟩

theorem exists_mapM_eq_ok_iff {ε : Type} {read : α → Except ε β} {inputs : List α} :
    (∃ results, inputs.mapM read = .ok results) ↔ ∀ input ∈ inputs, ∃ result, read input = .ok result := by
  simp only [mapM_eq_ok_iff]
  induction inputs with
  | nil => simp
  | cons input rest ih =>
      rw [List.forall_mem_cons, ← ih]
      constructor
      · intro ⟨results, done⟩
        obtain ⟨result, others, known, later, -⟩ := List.forall₂_cons_left_iff.mp done
        exact ⟨⟨result, known⟩, others, later⟩
      · intro ⟨⟨result, known⟩, others, later⟩
        exact ⟨result :: others, .cons known later⟩

def IsText (value : Json) : Prop := ∃ s, value = .str s

def IsObject (value : Json) : Prop := ∃ members, value = .obj members

def AreTexts (value : Json) : Prop := ∃ items, value = .arr items ∧ ∀ item ∈ items, IsText item

/-- A member that may be missing or null is of a kind. -/
def Fits (kind : Json → Prop) (name : String) (listed : List (String × Json)) : Prop :=
  member name listed = .null ∨ kind (member name listed)

/-- A field is what stands under its name, in a value of its kind, or a default for null. -/
def Holds (kind : Json → Prop) (name : String) (listed : List (String × Json)) (default field : Json) :
    Prop :=
  member name listed = .null ∧ field = default ∨ kind (member name listed) ∧ field = member name listed

theorem holds_null_iff {kind : Json → Prop} :
    Holds kind name listed .null (member name listed) ↔ Fits kind name listed := by
  unfold Holds Fits
  constructor
  · exact Or.imp And.left And.left
  · exact Or.imp (fun null => ⟨null, null⟩) fun fits => ⟨fits, rfl⟩

theorem elements_arr (items : List Json) : elements (.arr items) = .ok items := by
  cases items <;> rfl

theorem holds_elements_iff (read : elements (member name listed) = .ok items) :
    Holds AreTexts name listed (.arr []) (.arr items) ↔ Fits AreTexts name listed := by
  unfold Holds Fits
  constructor
  · exact Or.imp And.left And.left
  · intro fits
    rcases fits with null | ⟨others, stands, texts⟩
    · rw [null] at read
      cases read
      exact .inl ⟨null, rfl⟩
    · rw [stands, elements_arr] at read
      cases read
      exact .inr ⟨⟨_, stands, texts⟩, stands.symm⟩

theorem choose_eq_ok_iff {typeName : String} {all : List α} {text : α → String} {choice : α}
    (complete : ∀ choice, choice ∈ all) (distinct : Function.Injective text) :
    choose typeName all text value = .ok choice ↔ value = .str (text choice) := by
  cases value with
  | str s =>
      simp only [choose, Json.str.injEq]
      cases found : all.find? fun choice => text choice == s with
      | none =>
          have different := List.find?_eq_none.mp found choice (complete choice)
          simp only [reduceCtorEq, false_iff]
          rintro rfl
          simp at different
      | some other =>
          have same : text other = s := by simpa using List.find?_some found
          simp only [Except.ok.injEq]
          constructor
          · rintro rfl
            exact same.symm
          · intro shown
            exact distinct (same.trans shown)
  | _ => simp [choose]

theorem IdentifierType.ofJson_eq_ok_iff {type : IdentifierType} :
    IdentifierType.ofJson value = .ok type ↔ value = .str type.text := by
  apply choose_eq_ok_iff
  · intro type
    cases type <;> decide
  · intro type other same
    cases type <;> cases other <;> first | rfl | exact absurd same (by decide)

theorem OrderStatus.ofJson_eq_ok_iff {status : OrderStatus} :
    OrderStatus.ofJson value = .ok status ↔ value = .str status.text := by
  apply choose_eq_ok_iff
  · intro status
    cases status <;> decide
  · intro status other same
    cases status <;> cases other <;> first | rfl | exact absurd same (by decide)

/-- All that a decoder does. What is no object and some objects are refused with failures of the protocol,
some others upset it, and what it makes of the rest is sound for the typed ones. -/
structure Decodes (decode : Json → Except Failure α) (refused : List (String × Json) → Prop)
    (upset : List (String × Json) → Defect → Prop) (typed : List (String × Json) → Prop)
    (sound : List (String × Json) → α → Prop) : Prop where
  noObject : ∀ document, ¬ IsObject document →
    ∃ fault, decode document = .error (.fault fault) ∧ fault.area = .protocol
  protocol : ∀ listed fault, decode (.obj listed) = .error (.fault fault) → fault.area = .protocol
  refuses : ∀ listed, (∃ fault, decode (.obj listed) = .error (.fault fault)) ↔ refused listed
  upsets : ∀ listed defect, decode (.obj listed) = .error (.defect defect) ↔ upset listed defect
  foreseen : ∀ listed defect, typed listed → ¬ upset listed defect
  makes : ∀ listed made, decode (.obj listed) = .ok made → (sound listed made ↔ typed listed)

/-- A document is read as it should be: it is refused, or a record is made that is sound. -/
def ReadsAs (decode : Json → Except Failure α) (sound : List (String × Json) → α → Prop)
    (document : Json) : Prop :=
  (∃ fault, decode document = .error (.fault fault) ∧ fault.area = .protocol) ∨
    ∃ listed made, document = .obj listed ∧ decode document = .ok made ∧ sound listed made

/-- What a decoder makes of one document, by its members: it is refused if it is no object, or by its
members, and is read as it should be exactly if it is refused or typed. -/
structure Treats (decode : Json → Except Failure α) (refused : List (String × Json) → Prop)
    (upset : List (String × Json) → Defect → Prop) (typed : List (String × Json) → Prop)
    (sound : List (String × Json) → α → Prop) (document : Json) : Prop where
  protocol : ∀ fault, decode document = .error (.fault fault) → fault.area = .protocol
  refuses : (∃ fault, decode document = .error (.fault fault)) ↔
    ∀ listed, document = .obj listed → refused listed
  upsets : ∀ defect, decode document = .error (.defect defect) ↔
    ∃ listed, document = .obj listed ∧ upset listed defect
  makes : ∀ made, decode document = .ok made →
    ∃ listed, document = .obj listed ∧ (sound listed made ↔ typed listed)
  reads : ReadsAs decode sound document ↔
    ∀ listed, document = .obj listed → refused listed ∨ typed listed

namespace Decodes

variable {decode : Json → Except Failure α} {refused : List (String × Json) → Prop}
  {upset : List (String × Json) → Defect → Prop} {typed : List (String × Json) → Prop}
  {sound : List (String × Json) → α → Prop}

theorem readsAs_obj_iff (decodes : Decodes decode refused upset typed sound) :
    ReadsAs decode sound (.obj listed) ↔ refused listed ∨ typed listed := by
  constructor
  · intro reads
    rcases reads with ⟨fault, failed, -⟩ | ⟨_, made, same, done, isSound⟩
    · exact .inl ((decodes.refuses listed).mp ⟨fault, failed⟩)
    · cases same
      exact .inr ((decodes.makes listed made done).mp isSound)
  · intro proper
    rcases proper with refused | typed
    · obtain ⟨fault, failed⟩ := (decodes.refuses listed).mpr refused
      exact .inl ⟨fault, failed, decodes.protocol listed fault failed⟩
    · cases done : decode (.obj listed) with
      | ok made => exact .inr ⟨listed, made, rfl, done, (decodes.makes listed made done).mpr typed⟩
      | error failure =>
          cases failure with
          | fault fault => exact .inl ⟨fault, done, decodes.protocol listed fault done⟩
          | defect defect =>
              exact absurd ((decodes.upsets listed defect).mp done) (decodes.foreseen listed defect typed)

theorem treats (decodes : Decodes decode refused upset typed sound) (document : Json) :
    Treats decode refused upset typed sound document := by
  by_cases isObject : IsObject document
  · obtain ⟨listed, rfl⟩ := isObject
    refine ⟨decodes.protocol listed, ?_, ?_,
      fun made done => ⟨listed, rfl, decodes.makes listed made done⟩, ?_⟩
    · simpa using decodes.refuses listed
    · simpa using decodes.upsets listed
    · simpa using decodes.readsAs_obj_iff
  · obtain ⟨fault, failed, area⟩ := decodes.noObject document isObject
    have unlisted (listed : List (String × Json)) : document ≠ .obj listed :=
      fun same => isObject ⟨listed, same⟩
    refine ⟨?_, ?_, ?_, ?_, ?_⟩
    · intro other refused
      rw [failed] at refused
      cases refused
      exact area
    · exact iff_of_true ⟨fault, failed⟩ fun listed same => absurd same (unlisted listed)
    · simp [failed, unlisted]
    · simp [failed]
    · exact iff_of_true (.inl ⟨fault, failed, area⟩) fun listed same => absurd same (unlisted listed)

end Decodes

theorem not_unlisted_of_read {defect : Defect} (read : elements (member name listed) = .ok items) :
    ¬ Unlisted name listed defect := by
  rw [← elements_eq_defect_iff, read]
  simp

/-- Null and lists can be gone through. -/
theorem Fits.not_unlisted {kind : Json → Prop} {defect : Defect} (fits : Fits kind name listed)
    (lists : ∀ value, kind value → ∃ items, value = .arr items) : ¬ Unlisted name listed defect := by
  rcases fits with null | isList
  · have nothing : elements (member name listed) = .ok [] := by
      rw [null]
      rfl
    exact not_unlisted_of_read nothing
  · obtain ⟨items, stands⟩ := lists _ isList
    exact not_unlisted_of_read (by rw [stands, elements_arr])

theorem members_bind_noObject {resource : String} {document : Json}
    {next : List (String × Json) → Except Failure α} (other : ¬ IsObject document) :
    ∃ fault, (members resource document >>= next) = .error (.fault fault) ∧ fault.area = .protocol := by
  cases document with
  | obj members => exact absurd ⟨members, rfl⟩ other
  | _ => exact ⟨_, rfl, rfl⟩

theorem elements_ne_fault (value : Json) (fault : Fault) : elements value ≠ .error (.fault fault) := by
  unfold elements
  split
  · simp
  · split <;> simp

namespace Directory

variable {directory : Directory}

structure Sound (listed : List (String × Json)) (directory : Directory) : Prop where
  newNonce : IsText directory.newNonce ∧ directory.newNonce = member "newNonce" listed
  newAccount : IsText directory.newAccount ∧ directory.newAccount = member "newAccount" listed
  newOrder : IsText directory.newOrder ∧ directory.newOrder = member "newOrder" listed
  revokeCert : Holds IsText "revokeCert" listed .null directory.revokeCert
  keyChange : Holds IsText "keyChange" listed .null directory.keyChange
  metadata : Holds IsObject "meta" listed (.obj []) directory.metadata

/-- A required endpoint says nothing. -/
def Refused (listed : List (String × Json)) : Prop :=
  ∃ name ∈ requiredNames, (member name listed).isTruthy = false

structure Typed (listed : List (String × Json)) : Prop where
  required : ∀ name ∈ requiredNames, IsText (member name listed)
  revokeCert : Fits IsText "revokeCert" listed
  keyChange : Fits IsText "keyChange" listed
  metadata : Fits IsObject "meta" listed

def ofMembers (listed : List (String × Json)) : Directory where
  newNonce := member "newNonce" listed
  newAccount := member "newAccount" listed
  newOrder := member "newOrder" listed
  revokeCert := member "revokeCert" listed
  keyChange := member "keyChange" listed
  metadata := if (member "meta" listed).isTruthy then member "meta" listed else .obj []

theorem ofJson_obj (listed : List (String × Json)) :
    ofJson (.obj listed) =
      if requiredNames.filter (fun name => !(member name listed).isTruthy) = [] then .ok (ofMembers listed)
      else .error (.fault (.missingFields
        (requiredNames.filter fun name => !(member name listed).isTruthy))) := by
  change (if !(requiredNames.filter fun name => !(member name listed).isTruthy).isEmpty then _ else _) = _
  cases requiredNames.filter fun name => !(member name listed).isTruthy <;> rfl

theorem filter_eq_nil_iff :
    requiredNames.filter (fun name => !(member name listed).isTruthy) = [] ↔ ¬ Refused listed := by
  simp [Refused, List.filter_eq_nil_iff]

theorem holds_metadata_iff :
    Holds IsObject "meta" listed (.obj []) (ofMembers listed).metadata ↔ Fits IsObject "meta" listed := by
  unfold Holds Fits ofMembers
  constructor
  · exact Or.imp And.left And.left
  · intro fits
    rcases fits with null | ⟨members, stands⟩
    · exact .inl ⟨null, by rw [null]; rfl⟩
    · refine .inr ⟨⟨members, stands⟩, ?_⟩
      rw [stands]
      cases members <;> rfl

theorem sound_ofMembers_iff : Sound listed (ofMembers listed) ↔ Typed listed := by
  constructor
  · intro sound
    refine ⟨?_, holds_null_iff.mp sound.revokeCert, holds_null_iff.mp sound.keyChange,
      holds_metadata_iff.mp sound.metadata⟩
    simp only [requiredNames, List.forall_mem_cons]
    exact ⟨sound.newNonce.1, sound.newAccount.1, sound.newOrder.1, by simp⟩
  · intro ⟨required, revokeCert, keyChange, metadata⟩
    simp only [requiredNames, List.forall_mem_cons] at required
    obtain ⟨newNonce, newAccount, newOrder, -⟩ := required
    exact ⟨⟨newNonce, rfl⟩, ⟨newAccount, rfl⟩, ⟨newOrder, rfl⟩, holds_null_iff.mpr revokeCert,
      holds_null_iff.mpr keyChange, holds_metadata_iff.mpr metadata⟩

theorem decodes : Decodes ofJson Refused (fun _ _ => False) Typed Sound where
  noObject _ := members_bind_noObject
  protocol listed fault failed := by
    rw [ofJson_obj] at failed
    split at failed <;> cases failed
    rfl
  refuses listed := by
    rw [ofJson_obj]
    split
    · rename_i complete
      simpa using filter_eq_nil_iff.mp complete
    · rename_i missing
      simpa using Classical.not_not.mp (mt filter_eq_nil_iff.mpr missing)
  upsets listed defect := iff_of_false (ofJson_ne_defect _ _) not_false
  foreseen _ _ _ := not_false
  makes listed made done := by
    rw [ofJson_obj] at done
    split at done <;> cases done
    exact sound_ofMembers_iff

end Directory

namespace Account

structure Sound (listed : List (String × Json)) (account : Account) : Prop where
  status : Holds IsText "status" listed (.str "valid") account.status
  contact : Holds AreTexts "contact" listed (.arr []) (.arr account.contact)
  orders : Holds IsText "orders" listed .null account.orders

structure Typed (listed : List (String × Json)) : Prop where
  status : Assoc.find? "status" listed = none ∨ IsText (member "status" listed)
  contact : Fits AreTexts "contact" listed
  orders : Fits IsText "orders" listed

def ofMembers (listed : List (String × Json)) (contact : List Json) : Account where
  status := (Assoc.find? "status" listed).getD (.str "valid")
  contact
  termsOfServiceAgreed := (member "termsOfServiceAgreed" listed).isTruthy
  orders := member "orders" listed

theorem ofJson_obj (listed : List (String × Json)) :
    ofJson (.obj listed) = (elements (member "contact" listed)).map (ofMembers listed) := by
  change (elements (member "contact" listed) >>= fun contact => _) = _
  cases elements (member "contact" listed) <;> rfl

theorem holds_status_iff {contact : List Json} :
    Holds IsText "status" listed (.str "valid") (ofMembers listed contact).status ↔
      Assoc.find? "status" listed = none ∨ IsText (member "status" listed) := by
  unfold Holds member ofMembers
  cases Assoc.find? "status" listed with
  | none => simp
  | some value =>
      simp only [Option.getD_some, reduceCtorEq, false_or, and_true]
      constructor
      · intro holds
        rcases holds with ⟨null, valid⟩ | text
        -- The default is for a missing status only, so null would have to be a text.
        · rw [null] at valid
          contradiction
        · exact text
      · exact .inr

theorem sound_ofMembers_iff (read : elements (member "contact" listed) = .ok items) :
    Sound listed (ofMembers listed items) ↔ Typed listed := by
  constructor
  · intro sound
    exact ⟨holds_status_iff.mp sound.status, (holds_elements_iff read).mp sound.contact,
      holds_null_iff.mp sound.orders⟩
  · intro typed
    exact ⟨holds_status_iff.mpr typed.status, (holds_elements_iff read).mpr typed.contact,
      holds_null_iff.mpr typed.orders⟩

theorem ofJson_ne_fault (listed : List (String × Json)) (fault : Fault) :
    ofJson (.obj listed) ≠ .error (.fault fault) := by
  intro failed
  rw [ofJson_obj] at failed
  cases read : elements (member "contact" listed) with
  | ok items => simp [read, Except.map] at failed
  | error failure =>
      simp only [read, Except.map, Except.error.injEq] at failed
      exact elements_ne_fault _ fault (failed ▸ read)

theorem decodes : Decodes ofJson (fun _ => False) (Unlisted "contact") Typed Sound where
  noObject _ := members_bind_noObject
  protocol listed fault failed := absurd failed (ofJson_ne_fault listed fault)
  refuses listed := iff_of_false (fun ⟨fault, failed⟩ => ofJson_ne_fault listed fault failed) not_false
  upsets listed defect := by
    rw [ofJson_eq_defect_iff]
    simp
  foreseen _ _ typed := typed.contact.not_unlisted fun _ ⟨items, same, _⟩ => ⟨items, same⟩
  makes listed made done := by
    rw [ofJson_obj] at done
    cases read : elements (member "contact" listed) with
    | error failure => simp [read, Except.map] at done
    | ok items =>
        rw [read] at done
        cases done
        exact sound_ofMembers_iff read

end Account

namespace Identifier

variable {identifier : Identifier} {item : Json}

structure Sound (listed : List (String × Json)) (identifier : Identifier) : Prop where
  type : member "type" listed = .str identifier.type.text
  value : IsText identifier.value ∧ identifier.value = member "value" listed

/-- The type is none of the known ones, or there is no value. -/
def Refused (listed : List (String × Json)) : Prop :=
  (∀ type : IdentifierType, member "type" listed ≠ .str type.text) ∨ Assoc.find? "value" listed = none

def Typed (listed : List (String × Json)) : Prop := IsText (member "value" listed)

theorem ofJson_obj_eq_ok_iff : ofJson (.obj listed) = .ok identifier ↔
    member "type" listed = .str identifier.type.text ∧
      ∃ value, Assoc.find? "value" listed = some value ∧ identifier.value = .str value.asText := by
  obtain ⟨type, text⟩ := identifier
  rw [ofJson, bind_eq_ok_iff]
  simp only [members_eq_ok_iff, Json.obj.injEq, exists_eq_left', member]
  cases Assoc.find? "type" listed with
  | none => simp
  | some shown =>
      rw [Option.getD_some, ← IdentifierType.ofJson_eq_ok_iff]
      cases read : IdentifierType.ofJson shown with
      | error defect => simp [read]
      | ok known =>
          cases Assoc.find? "value" listed with
          | none => simp [read]
          | some value => simp [read, pure, Except.pure, eq_comm (a := text)]

theorem protocol_of_ofJson {document : Json} {fault : Fault}
    (failed : ofJson document = .error (.fault fault)) : fault.area = .protocol := by
  rw [ofJson, bind_eq_error_iff] at failed
  rcases failed with failed | ⟨listed, -, failed⟩
  · cases document <;> cases failed <;> rfl
  · split at failed
    · cases failed
      rfl
    · split at failed
      · cases failed
        rfl
      · split at failed <;> cases failed
        rfl

theorem exists_ok_iff : (∃ identifier, ofJson (.obj listed) = .ok identifier) ↔ ¬ Refused listed := by
  simp only [ofJson_obj_eq_ok_iff, Refused, not_or, not_forall, Classical.not_not]
  constructor
  · intro made
    obtain ⟨identifier, type, value, found, -⟩ := made
    exact ⟨⟨_, type⟩, by simp [found]⟩
  · intro accepted
    obtain ⟨⟨type, shown⟩, there⟩ := accepted
    obtain ⟨value, found⟩ := Option.ne_none_iff_exists'.mp there
    exact ⟨⟨type, .str value.asText⟩, shown, value, found, rfl⟩

theorem sound_iff (done : ofJson (.obj listed) = .ok identifier) :
    Sound listed identifier ↔ Typed listed := by
  obtain ⟨type, value, found, shown⟩ := ofJson_obj_eq_ok_iff.mp done
  have stands : member "value" listed = value := by rw [member, found, Option.getD_some]
  constructor
  · intro sound
    obtain ⟨text, same⟩ := sound.value
    rw [Typed, ← same]
    exact text
  · intro typed
    obtain ⟨s, text⟩ := typed
    obtain rfl : value = .str s := stands.symm.trans text
    exact ⟨type, ⟨s, shown⟩, shown.trans text.symm⟩

end Identifier

/-- Without defects a result is a failure of the client exactly if it is none of its successes. -/
theorem exists_fault_iff {result : Except Failure α} (foreseen : ∀ defect, result ≠ .error (.defect defect)) :
    (∃ fault, result = .error (.fault fault)) ↔ ¬ ∃ value, result = .ok value := by
  cases result with
  | ok value => simp
  | error failure =>
      cases failure with
      | fault fault => simp
      | defect defect => exact absurd rfl (foreseen defect)

namespace Identifier

theorem decodes : Decodes ofJson Refused (fun _ _ => False) Typed Sound where
  noObject _ := members_bind_noObject
  protocol _ _ := protocol_of_ofJson
  refuses listed := by
    rw [exists_fault_iff (ofJson_ne_defect _), exists_ok_iff, Classical.not_not]
  upsets _ _ := iff_of_false (ofJson_ne_defect _ _) not_false
  foreseen _ _ _ := not_false
  makes _ _ := sound_iff

end Identifier

namespace Order

/-- An item of a list should be an identifier and cannot be read as one. -/
def Unreadable (item : Json) : Prop := ∀ listed, item = .obj listed → Identifier.Refused listed

/-- Some identifiers with the items that they are read from. -/
def Identifies (items : List Json) (identifiers : List Identifier) : Prop :=
  List.Forall₂ (fun item identifier => ∃ listed, item = .obj listed ∧ Identifier.Sound listed identifier)
    items identifiers

/-- A list of identifiers whose values are texts. -/
def AreTyped (value : Json) : Prop :=
  ∃ items, value = .arr items ∧ ∀ item ∈ items, ∃ listed, item = .obj listed ∧ Identifier.Typed listed

structure Sound (listed : List (String × Json)) (order : Order) : Prop where
  identifiers : member "identifiers" listed = .null ∧ order.identifiers = [] ∨
    ∃ items, member "identifiers" listed = .arr items ∧ Identifies items order.identifiers
  status : member "status" listed = .null ∧ order.status = none ∨
    ∃ status : OrderStatus, member "status" listed = .str status.text ∧ order.status = some status
  expires : Holds IsText "expires" listed .null order.expires
  notBefore : Holds IsText "notBefore" listed .null order.notBefore
  notAfter : Holds IsText "notAfter" listed .null order.notAfter
  error : Holds IsObject "error" listed .null order.error
  authorizations : Holds AreTexts "authorizations" listed (.arr []) (.arr order.authorizations)
  finalize : Holds IsText "finalize" listed .null order.finalize
  certificate : Holds IsText "certificate" listed .null order.certificate

/-- The status is none of the known ones, or something listed cannot be read as an identifier. -/
def Refused (listed : List (String × Json)) : Prop :=
  (member "status" listed ≠ .null ∧ ∀ status : OrderStatus, member "status" listed ≠ .str status.text) ∨
    ∃ items, elements (member "identifiers" listed) = .ok items ∧ ∃ item ∈ items, Unreadable item

/-- The first of the two lists that cannot be gone through. -/
def Upset (listed : List (String × Json)) (defect : Defect) : Prop :=
  ¬ Refused listed ∧ (Unlisted "identifiers" listed defect ∨
    (∃ items, elements (member "identifiers" listed) = .ok items) ∧ Unlisted "authorizations" listed defect)

structure Typed (listed : List (String × Json)) : Prop where
  identifiers : Fits AreTyped "identifiers" listed
  expires : Fits IsText "expires" listed
  notBefore : Fits IsText "notBefore" listed
  notAfter : Fits IsText "notAfter" listed
  error : Fits IsObject "error" listed
  authorizations : Fits AreTexts "authorizations" listed
  finalize : Fits IsText "finalize" listed
  certificate : Fits IsText "certificate" listed

theorem readStatus_eq_ok_iff {status : Option OrderStatus} : readStatus value = .ok status ↔
    value = .null ∧ status = none ∨ ∃ known : OrderStatus, value = .str known.text ∧ status = some known := by
  by_cases null : value = .null
  · subst value
    simp [readStatus, Json.isNull, eq_comm (a := status)]
  · have some : value.isNull = false := by
      cases value with
      | null => exact absurd rfl null
      | _ => rfl
    simp only [readStatus, some, null, ← OrderStatus.ofJson_eq_ok_iff]
    cases read : OrderStatus.ofJson value <;> simp [eq_comm (a := status)]

theorem unreadable_iff {item : Json} :
    Unreadable item ↔ ¬ ∃ identifier, Identifier.ofJson item = .ok identifier := by
  by_cases isObject : IsObject item
  · obtain ⟨listed, rfl⟩ := isObject
    rw [Identifier.exists_ok_iff, Classical.not_not]
    simp [Unreadable]
  · obtain ⟨fault, failed, -⟩ := Identifier.decodes.noObject item isObject
    simp only [failed, reduceCtorEq, exists_false, not_false_eq_true, iff_true]
    exact fun listed same => absurd ⟨listed, same⟩ isObject

theorem identified_iff :
    (∃ identifiers, items.mapM Identifier.ofJson = .ok identifiers) ↔ ∀ item ∈ items, ¬ Unreadable item := by
  simp only [exists_mapM_eq_ok_iff, unreadable_iff, Classical.not_not]

theorem identifies_iff {identifiers : List Identifier}
    (read : items.mapM Identifier.ofJson = .ok identifiers) :
    Identifies items identifiers ↔
      ∀ item ∈ items, ∃ listed, item = .obj listed ∧ Identifier.Typed listed := by
  have made := mapM_eq_ok_iff.mp read
  unfold Identifies
  clear read
  induction made with
  | nil => simp
  | @cons item identifier items identifiers known _ ih =>
      rw [List.forall₂_cons, List.forall_mem_cons]
      refine and_congr ?_ ih
      constructor
      · intro ⟨listed, same, sound⟩
        exact ⟨listed, same, (Identifier.sound_iff (same ▸ known)).mp sound⟩
      · intro ⟨listed, same, typed⟩
        exact ⟨listed, same, (Identifier.sound_iff (same ▸ known)).mpr typed⟩

theorem sound_identifiers_iff {identifiers : List Identifier}
    (listedAs : elements (member "identifiers" listed) = .ok items)
    (read : items.mapM Identifier.ofJson = .ok identifiers) :
    (member "identifiers" listed = .null ∧ identifiers = [] ∨
        ∃ items, member "identifiers" listed = .arr items ∧ Identifies items identifiers) ↔
      Fits AreTyped "identifiers" listed := by
  unfold Fits AreTyped
  constructor
  · intro sound
    rcases sound with ⟨null, -⟩ | ⟨others, stands, identifies⟩
    · exact .inl null
    · rw [stands, elements_arr] at listedAs
      cases listedAs
      exact .inr ⟨_, stands, (identifies_iff read).mp identifies⟩
  · intro fits
    rcases fits with null | ⟨others, stands, typed⟩
    · rw [null] at listedAs
      cases listedAs
      cases read
      exact .inl ⟨null, rfl⟩
    · rw [stands, elements_arr] at listedAs
      cases listedAs
      exact .inr ⟨_, stands, (identifies_iff read).mpr typed⟩

def ofMembers (listed : List (String × Json)) (status : Option OrderStatus) (identifiers : List Identifier)
    (authorizations : List Json) : Order where
  identifiers
  status
  expires := member "expires" listed
  notBefore := member "notBefore" listed
  notAfter := member "notAfter" listed
  error := member "error" listed
  authorizations
  finalize := member "finalize" listed
  certificate := member "certificate" listed

theorem ofJson_obj (listed : List (String × Json)) : ofJson (.obj listed) = do
    let status ← readStatus (member "status" listed)
    let items ← elements (member "identifiers" listed)
    let identifiers ← items.mapM Identifier.ofJson
    let authorizations ← elements (member "authorizations" listed)
    return ofMembers listed status identifiers authorizations := rfl

theorem ofJson_obj_eq_ok_iff {order : Order} : ofJson (.obj listed) = .ok order ↔
    ∃ status items identifiers authorizations, readStatus (member "status" listed) = .ok status ∧
      elements (member "identifiers" listed) = .ok items ∧
      items.mapM Identifier.ofJson = .ok identifiers ∧
      elements (member "authorizations" listed) = .ok authorizations ∧
      order = ofMembers listed status identifiers authorizations := by
  simp only [ofJson_obj, bind_eq_ok_iff, pure, Except.pure, Except.ok.injEq, ← exists_and_left,
    eq_comm (b := order)]

theorem ofJson_obj_eq_fault_iff {fault : Fault} : ofJson (.obj listed) = .error (.fault fault) ↔
    readStatus (member "status" listed) = .error (.fault fault) ∨
      (∃ status, readStatus (member "status" listed) = .ok status) ∧
      ∃ items, elements (member "identifiers" listed) = .ok items ∧
        items.mapM Identifier.ofJson = .error (.fault fault) := by
  simp [ofJson_obj, bind_eq_error_iff, elements_ne_fault, pure, Except.pure]

theorem exists_status_iff : (∃ status, readStatus value = .ok status) ↔
    value = .null ∨ ∃ known : OrderStatus, value = .str known.text := by
  simp only [readStatus_eq_ok_iff]
  constructor
  · intro read
    rcases read with ⟨status, ⟨null, -⟩ | ⟨known, shown, -⟩⟩
    · exact .inl null
    · exact .inr ⟨known, shown⟩
  · intro read
    rcases read with null | ⟨known, shown⟩
    · exact ⟨none, .inl ⟨null, rfl⟩⟩
    · exact ⟨some known, .inr ⟨known, shown, rfl⟩⟩

/-- What a decoder of orders needs to get past the status and the identifiers. -/
theorem not_refused_iff : ¬ Refused listed ↔
    (∃ status, readStatus (member "status" listed) = .ok status) ∧
      ∀ items, elements (member "identifiers" listed) = .ok items →
        ∃ identifiers, items.mapM Identifier.ofJson = .ok identifiers := by
  simp only [Refused, exists_status_iff, identified_iff, not_and, not_exists, not_forall,
    Classical.not_not, or_iff_not_imp_left, ne_eq, exists_prop]

theorem refuses_iff : (∃ fault, ofJson (.obj listed) = .error (.fault fault)) ↔ Refused listed := by
  constructor
  · intro ⟨fault, failed⟩
    by_contra accepted
    obtain ⟨⟨status, known⟩, identified⟩ := not_refused_iff.mp accepted
    rcases ofJson_obj_eq_fault_iff.mp failed with unknown | ⟨-, items, listedAs, unread⟩
    · rw [known] at unknown
      contradiction
    · obtain ⟨identifiers, read⟩ := identified items listedAs
      rw [read] at unread
      contradiction
  · intro refused
    by_contra accepted
    have known : ∃ status, readStatus (member "status" listed) = .ok status := by
      by_contra unknown
      obtain ⟨fault, failed⟩ := (exists_fault_iff (readStatus_ne_defect _)).mpr unknown
      exact accepted ⟨fault, ofJson_obj_eq_fault_iff.mpr (.inl failed)⟩
    refine not_refused_iff.mpr ⟨known, fun items listedAs => ?_⟩ refused
    by_contra unread
    have foreseen (defect : Defect) : items.mapM Identifier.ofJson ≠ .error (.defect defect) :=
      mapM_ne_error items fun item => Identifier.ofJson_ne_defect item defect
    obtain ⟨fault, failed⟩ := (exists_fault_iff foreseen).mpr unread
    exact accepted ⟨fault, ofJson_obj_eq_fault_iff.mpr (.inr ⟨known, items, listedAs, failed⟩)⟩

theorem upsets_iff {defect : Defect} :
    ofJson (.obj listed) = .error (.defect defect) ↔ Upset listed defect := by
  rw [ofJson_eq_defect_iff, Upset, not_refused_iff]
  constructor
  · intro ⟨_, status, same, known, upset⟩
    cases same
    rcases upset with unlisted | ⟨⟨items, identifiers, listedAs, read⟩, unlisted⟩
    · refine ⟨⟨⟨status, known⟩, fun items listedAs => ?_⟩, .inl unlisted⟩
      rw [elements_eq_defect_iff.mpr unlisted] at listedAs
      contradiction
    · refine ⟨⟨⟨status, known⟩, fun others listedThen => ?_⟩, .inr ⟨⟨items, listedAs⟩, unlisted⟩⟩
      rw [listedAs] at listedThen
      cases listedThen
      exact ⟨identifiers, read⟩
  · intro ⟨⟨⟨status, known⟩, identified⟩, upset⟩
    refine ⟨listed, status, rfl, known, ?_⟩
    rcases upset with unlisted | ⟨⟨items, listedAs⟩, unlisted⟩
    · exact .inl unlisted
    · obtain ⟨identifiers, read⟩ := identified items listedAs
      exact .inr ⟨⟨items, identifiers, listedAs, read⟩, unlisted⟩

theorem protocol_of_ofJson {fault : Fault} (failed : ofJson (.obj listed) = .error (.fault fault)) :
    fault.area = .protocol := by
  rcases ofJson_obj_eq_fault_iff.mp failed with unknown | ⟨-, items, -, unread⟩
  · unfold readStatus at unknown
    split at unknown
    · cases unknown
    · split at unknown <;> cases unknown
      rfl
  · obtain ⟨item, -, failed⟩ := exists_of_mapM_eq_error unread
    exact Identifier.protocol_of_ofJson failed

theorem sound_ofMembers_iff {status : Option OrderStatus} {identifiers : List Identifier}
    {authorizations : List Json} (known : readStatus (member "status" listed) = .ok status)
    (listedAs : elements (member "identifiers" listed) = .ok items)
    (read : items.mapM Identifier.ofJson = .ok identifiers)
    (authorized : elements (member "authorizations" listed) = .ok authorizations) :
    Sound listed (ofMembers listed status identifiers authorizations) ↔ Typed listed := by
  constructor
  · intro sound
    exact ⟨(sound_identifiers_iff listedAs read).mp sound.identifiers, holds_null_iff.mp sound.expires,
      holds_null_iff.mp sound.notBefore, holds_null_iff.mp sound.notAfter, holds_null_iff.mp sound.error,
      (holds_elements_iff authorized).mp sound.authorizations, holds_null_iff.mp sound.finalize,
      holds_null_iff.mp sound.certificate⟩
  · intro typed
    exact ⟨(sound_identifiers_iff listedAs read).mpr typed.identifiers, readStatus_eq_ok_iff.mp known,
      holds_null_iff.mpr typed.expires, holds_null_iff.mpr typed.notBefore,
      holds_null_iff.mpr typed.notAfter, holds_null_iff.mpr typed.error,
      (holds_elements_iff authorized).mpr typed.authorizations, holds_null_iff.mpr typed.finalize,
      holds_null_iff.mpr typed.certificate⟩

theorem not_upset_of_typed {defect : Defect} (typed : Typed listed) : ¬ Upset listed defect := by
  intro ⟨_, upset⟩
  rcases upset with unlisted | ⟨-, unlisted⟩
  · exact typed.identifiers.not_unlisted (fun _ ⟨items, same, _⟩ => ⟨items, same⟩) unlisted
  · exact typed.authorizations.not_unlisted (fun _ ⟨items, same, _⟩ => ⟨items, same⟩) unlisted

theorem decodes : Decodes ofJson Refused Upset Typed Sound where
  noObject _ := members_bind_noObject
  protocol _ _ := protocol_of_ofJson
  refuses _ := refuses_iff
  upsets _ _ := upsets_iff
  foreseen _ _ := not_upset_of_typed
  makes listed made done := by
    obtain ⟨status, items, identifiers, authorizations, known, listedAs, read, authorized, rfl⟩ :=
      ofJson_obj_eq_ok_iff.mp done
    exact sound_ofMembers_iff known listedAs read authorized

end Order

/-- What becomes of a document in each decoder. Which ones are refused, and which upset the decoder, is
said by the members alone, and so is of which others the record is sound: those whose members are of the
right kinds. -/
theorem documents_decoded (document : Json) :
    Treats Directory.ofJson Directory.Refused (fun _ _ => False) Directory.Typed Directory.Sound document ∧
      Treats Identifier.ofJson Identifier.Refused (fun _ _ => False) Identifier.Typed Identifier.Sound
        document ∧
      Treats Account.ofJson (fun _ => False) (Unlisted "contact") Account.Typed Account.Sound document ∧
      Treats Order.ofJson Order.Refused Order.Upset Order.Typed Order.Sound document :=
  ⟨Directory.decodes.treats document, Identifier.decodes.treats document,
    Account.decodes.treats document, Order.decodes.treats document⟩

/-- Members of the wrong kind: a number upsets the reading of contacts, a text is taken apart, null is no
status, and becomes a name. -/
theorem ill_typed_documents :
    Account.ofJson (.obj [("contact", .int 5)]) = .error (.defect (.notIterable "int")) ∧
      Account.ofJson (.obj [("contact", .str "ab"), ("status", .null)]) =
        .ok ⟨.null, [.str "a", .str "b"], false, .null⟩ ∧
      Identifier.ofJson (.obj [("type", .str "dns"), ("value", .null)]) = .ok ⟨.dns, .str "None"⟩ := by
  refine ⟨rfl, rfl, rfl⟩

end AcmeClient.Resource
