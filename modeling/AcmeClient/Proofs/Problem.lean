import AcmeClient.Problem
import AcmeClient.Proofs.Number.Decimal

namespace AcmeClient

theorem head_signedDigits_ne (i : Int) : (signedDigits i).head? ≠ some 'u' := by
  intro head
  have member := List.mem_of_mem_head? head
  unfold signedDigits at member
  split at member
  · rcases List.mem_cons.mp member with sign | member
    · contradiction
    · exact absurd (isDigit_of_mem_digits member) (by decide)
  · exact absurd (isDigit_of_mem_digits member) (by decide)

theorem head_text_ne (x : Binary64) : x.text.head? ≠ some 'u' := by
  intro head
  rcases Binary64.mem_text (List.mem_of_mem_head? head) with digit | mark
  · exact absurd digit (by decide)
  · exact absurd mark (by decide)

/-- Values other than texts are not shown as a name that starts like those of problems. -/
theorem Json.head_display_ne {value : Json} (noText : ∀ s, value ≠ .str s) :
    (Datum.ofJson value).display.head? ≠ some 'u' := by
  cases value with
  | null => decide
  | bool b => cases b <;> decide
  | int i => exact head_signedDigits_ne i
  | float x => exact head_text_ne x
  | str s => exact absurd rfl (noText s)
  | arr items => simp [Datum.ofJson, Datum.display]
  | obj members => simp [Datum.ofJson, Datum.display]

namespace ProblemKind

theorem head_urn (name : String) : (urn name).toList.head? = some 'u' := by
  have start : "urn:ietf:params:acme:error:".toList.head? = some 'u' := by simp
  unfold urn
  rw [String.toList_append, List.head?_append, start, Option.some_or]

theorem unnamed_ne_urn (name : String) : unnamed ≠ urn name := by
  intro same
  have head := head_urn name
  rw [← same] at head
  exact absurd head (by decide)

end ProblemKind

theorem Json.asText_eq_urn_iff {value : Json} {name : String} :
    value.asText = ProblemKind.urn name ↔ value = .str (ProblemKind.urn name) := by
  constructor
  · intro shown
    by_cases isText : ∃ s, value = .str s
    · obtain ⟨s, rfl⟩ := isText
      exact congrArg Json.str shown
    · have noText : ∀ s, value ≠ .str s := fun s same => isText ⟨s, same⟩
      have display : value.asText = value.display := by
        cases value with
        | str s => exact absurd rfl (noText s)
        | _ => rfl
      have head := ProblemKind.head_urn name
      rw [← shown, display, Json.display, String.toList_ofList] at head
      exact absurd head (Json.head_display_ne noText)
  · rintro rfl
    rfl

namespace Problem

/-- A member says a kind of problem exactly if it is the name of it as a text. -/
theorem memberText_eq_urn_iff {member name : String} {members : List (String × Json)} :
    memberText member ProblemKind.unnamed members = ProblemKind.urn name ↔
      Assoc.find? member members = some (.str (ProblemKind.urn name)) := by
  unfold memberText
  cases found : Assoc.find? member members with
  | none => simpa [Json.isTruthy] using ProblemKind.unnamed_ne_urn name
  | some value =>
      simp only [Option.getD_some, Option.some.injEq]
      by_cases truthy : value.isTruthy
      · rw [if_pos truthy, Json.asText_eq_urn_iff]
      · rw [if_neg truthy]
        constructor
        · intro same
          exact absurd same (ProblemKind.unnamed_ne_urn name)
        · rintro rfl
          have empty : ProblemKind.urn name = "" := by simpa [Json.isTruthy] using truthy
          have head := ProblemKind.head_urn name
          rw [empty] at head
          contradiction

/-- A body reports a rejected nonce exactly if it is an object that says so. -/
theorem isBadNonce_ofBody_iff {body : Json} {status : Int} :
    (ofBody body status).isBadNonce ↔
      ∃ members, body = .obj members ∧
        Assoc.find? "type" members = some (.str ProblemKind.badNonce) := by
  cases body with
  | obj members =>
      simp only [isBadNonce, ofBody, beq_iff_eq, Json.obj.injEq, exists_eq_left']
      exact memberText_eq_urn_iff
  | _ =>
      simp only [isBadNonce, ofBody, ofStatus, beq_iff_eq, reduceCtorEq, false_and, exists_false,
        iff_false]
      exact ProblemKind.unnamed_ne_urn _

end Problem

end AcmeClient
