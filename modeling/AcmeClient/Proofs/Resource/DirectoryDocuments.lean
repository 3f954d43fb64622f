import AcmeClient.Proofs.Resource.Decoding

namespace AcmeClient.Resource

open Json

variable {listed : List (String × Json)} {name other : String} {value document : Json}

theorem member_cons_self : member name ((name, value) :: listed) = value := by
  simp [member, Assoc.find?]

theorem member_cons_of_ne (different : other ≠ name) :
    member name ((other, value) :: listed) = member name listed := by
  simp [member, Assoc.find?, different]

/-- A value, or null in place of one that counts as missing. -/
def orNull (value : Json) : Json := if value.isTruthy then value else .null

theorem isTruthy_orNull (value : Json) : (orNull value).isTruthy = value.isTruthy := by
  unfold orNull
  cases truthy : value.isTruthy
  · rfl
  · exact truthy

theorem orNull_eq_self_iff : orNull value = value ↔ value.isTruthy ∨ value = .null := by
  unfold orNull
  split
  · rename_i truthy
    simp [truthy]
  · rename_i falsy
    simp [falsy, eq_comm]

/-- A member that is left out where its value counts as missing. -/
def given (name : String) (value : Json) : List (String × Json) :=
  if value.isTruthy then [(name, value)] else []

theorem member_given_self (absent : member name listed = .null) :
    member name (given name value ++ listed) = orNull value := by
  unfold given orNull
  split
  · exact member_cons_self
  · exact absent

theorem member_given_of_ne (different : other ≠ name) :
    member name (given other value ++ listed) = member name listed := by
  unfold given
  split
  · exact member_cons_of_ne different
  · rfl

theorem given_orNull (name : String) (value : Json) : given name (orNull value) = given name value := by
  unfold given
  rw [isTruthy_orNull]
  split
  · rename_i truthy
    rw [orNull, if_pos truthy]
  · rfl

namespace Directory

variable {directory : Directory}

/-- The members of the document of a directory. -/
def listing (d : Directory) : List (String × Json) :=
  ("newNonce", d.newNonce) :: ("newAccount", d.newAccount) :: ("newOrder", d.newOrder) ::
    (given "revokeCert" d.revokeCert ++ (given "keyChange" d.keyChange ++ (given "meta" d.metadata ++ [])))

theorem toJson_eq (d : Directory) : d.toJson = .obj d.listing := by
  simp [toJson, listing, given]

/-- A directory in which what is not given is null. -/
def cleared (d : Directory) : Directory :=
  { d with revokeCert := orNull d.revokeCert, keyChange := orNull d.keyChange }

theorem toJson_cleared (d : Directory) : d.cleared.toJson = d.toJson := by
  simp only [toJson_eq, listing, cleared, given_orNull]

theorem cleared_eq_self_iff : directory.cleared = directory ↔
    (directory.revokeCert.isTruthy ∨ directory.revokeCert = .null) ∧
      (directory.keyChange.isTruthy ∨ directory.keyChange = .null) := by
  obtain ⟨newNonce, newAccount, newOrder, revokeCert, keyChange, metadata⟩ := directory
  simp [cleared, orNull_eq_self_iff]

/-- A directory with all that it must have. -/
structure IsComplete (d : Directory) : Prop where
  newNonce : d.newNonce.isTruthy
  newAccount : d.newAccount.isTruthy
  newOrder : d.newOrder.isTruthy
  metadata : d.metadata.isTruthy ∨ d.metadata = .obj []

theorem not_refused_iff : ¬ Refused listed ↔ (member "newNonce" listed).isTruthy ∧
    (member "newAccount" listed).isTruthy ∧ (member "newOrder" listed).isTruthy := by
  simp [Refused, requiredNames]

theorem ofJson_obj_eq_ok_iff :
    ofJson (.obj listed) = .ok directory ↔ ¬ Refused listed ∧ directory = ofMembers listed := by
  rw [ofJson_obj, ← filter_eq_nil_iff]
  split <;> simp_all [eq_comm (a := directory)]

theorem isComplete_of_read (read : ofJson document = .ok directory) : directory.IsComplete := by
  obtain ⟨listed, rfl, -⟩ := (decodes.treats document).makes _ read
  obtain ⟨complete, rfl⟩ := ofJson_obj_eq_ok_iff.mp read
  obtain ⟨newNonce, newAccount, newOrder⟩ := not_refused_iff.mp complete
  refine ⟨newNonce, newAccount, newOrder, ?_⟩
  unfold ofMembers
  split
  · rename_i truthy
    exact .inl truthy
  · exact .inr rfl

/-- The listing of a complete directory is read member by member. -/
theorem IsComplete.ofMembers_listing (complete : directory.IsComplete) :
    ofMembers directory.listing = directory.cleared := by
  have metadata : (if (orNull directory.metadata).isTruthy then orNull directory.metadata else .obj []) =
      directory.metadata := by
    rw [isTruthy_orNull]
    rcases complete.metadata with truthy | empty
    · rw [if_pos truthy, orNull, if_pos truthy]
    · rw [empty]
      rfl
  have nothing (name : String) : member name [] = .null := rfl
  simp only [ofMembers, listing, cleared, member_cons_self, member_cons_of_ne, member_given_self,
    member_given_of_ne, nothing, metadata, ne_eq, String.reduceEq, not_false_eq_true]

theorem IsComplete.ofJson_toJson (complete : directory.IsComplete) :
    ofJson directory.toJson = .ok directory.cleared := by
  rw [toJson_eq, ofJson_obj_eq_ok_iff, not_refused_iff]
  refine ⟨?_, complete.ofMembers_listing.symm⟩
  simp only [listing, member_cons_self, ne_eq, String.reduceEq, not_false_eq_true, member_cons_of_ne]
  exact ⟨complete.newNonce, complete.newAccount, complete.newOrder⟩

/-- A directory that was read from any document is read again from its own, with null for an endpoint
that is left out there. It is the same directory exactly if such an endpoint was null before, and its
document stays the same in any case. -/
theorem directory_documents (read : ofJson document = .ok directory) :
    ofJson directory.toJson = .ok directory.cleared ∧ directory.cleared.toJson = directory.toJson ∧
      (directory.cleared = directory ↔
        (directory.revokeCert.isTruthy ∨ directory.revokeCert = .null) ∧
          (directory.keyChange.isTruthy ∨ directory.keyChange = .null)) :=
  ⟨(isComplete_of_read read).ofJson_toJson, toJson_cleared directory, cleared_eq_self_iff⟩

/-- Members with an empty endpoint, another that is no text, metadata, and one that is not known. -/
def patchyMembers : List (String × Json) := [
  ("newNonce", .str "n"), ("newAccount", .str "a"), ("revokeCert", .str ""), ("renewalInfo", .int 1),
  ("keyChange", .arr [.null]), ("newOrder", .str "o"), ("meta", .obj [("website", .bool false)])]

theorem directory_documents_of_patchyMembers :
    ofJson (.obj patchyMembers) = .ok (ofMembers patchyMembers) ∧
      ofJson (ofMembers patchyMembers).toJson = .ok (ofMembers patchyMembers).cleared := by
  have read : ofJson (.obj patchyMembers) = .ok (ofMembers patchyMembers) := rfl
  exact ⟨read, (directory_documents read).1⟩

/-- An empty endpoint does not come back as such. -/
theorem empty_endpoint_lost : ¬ ∀ document directory, ofJson document = .ok directory →
    ofJson directory.toJson = .ok directory := by
  intro survives
  have again := survives (.obj patchyMembers) _ rfl
  have endpoint := congrArg (fun read => read.map revokeCert) again
  cases endpoint

end Directory

end AcmeClient.Resource
