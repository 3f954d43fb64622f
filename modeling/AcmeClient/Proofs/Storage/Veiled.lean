import AcmeClient.Proofs.FileTree.Veiled
import AcmeClient.Proofs.Storage.Entries

namespace AcmeClient.Storage

namespace Key

/-- Where the file of an entry is, or a draft of it. -/
def Conceals (key : Key) (place : Location) (path : Path) : Prop :=
  path = place.path ++ [key.fileName] ∨
    ∃ number, path = place.path ++ [FileTree.draftName key.fileName number]

theorem not_conceals {key other : Key} (apart : other.fileName ≠ key.fileName) (place : Location) :
    ¬ key.Conceals place (place.child other.fileName).path := by
  rw [Location.path_child place other.fileName_ne_dots]
  rintro (same | ⟨number, same⟩) <;>
    simp only [List.append_cancel_left_eq, List.cons.injEq, and_true] at same
  · exact apart same
  · exact other.fileName_ne_draftName _ _ same

/-- Within a realm, no other kind of entry is kept where account keys are. -/
theorem fileName_ne_of_kind {key other : Key} (realm : other.realm = key.realm)
    (isAccount : key.kind = .accountPrivateKey) (differs : other.kind ≠ .accountPrivateKey) :
    other.fileName ≠ key.fileName := by
  obtain ⟨otherRealm, otherKind, otherName⟩ := other
  cases realm
  intro same
  exact differs (((fileName_eq_iff _ _ _ _ _).mp same).1.trans isAccount)

end Key

inductive Veiled (key : Key) (secret twin : Bytes) : Storage → Storage → Prop
  | memory {entries others : List (Key × Bytes)} (files : FileTree) (outages : List Outage) :
      Assoc.Alike (fun name value other => other = value ∨ name = key ∧ value = secret ∧ other = twin)
        entries others →
      Veiled key secret twin ⟨.memory entries, files, outages⟩ ⟨.memory others, files, outages⟩
  | directory {files others : FileTree} (place : Location) (outages : List Outage) :
      files.Veiled (key.Conceals place) secret twin others →
      Veiled key secret twin ⟨.directory place, files, outages⟩ ⟨.directory place, others, outages⟩

variable {key : Key} {secret twin : Bytes} {s other : Storage}

theorem veiled_self (fair : s.files.Fair) (size : secret.length = twin.length) :
    Veiled key secret twin s s := by
  obtain ⟨backend, files, outages⟩ := s
  cases backend with
  | memory entries => exact .memory files outages (.refl (fun _ _ => .inl rfl) _)
  | directory place => exact .directory place outages (fair.veiled size)

namespace Veiled

variable (veiled : Veiled key secret twin s other)

include veiled

theorem keepsFiles : other.keepsFiles = s.keepsFiles := by
  cases veiled <;> rfl

/-- The same files are there. -/
theorem paths : other.files.nodes.map Prod.fst = s.files.nodes.map Prod.fst := by
  cases veiled with
  | memory => rfl
  | directory place outages files => exact files.nodes.keys

theorem get {entry : Key} (apart : entry.fileName ≠ key.fileName) : other.get entry = s.get entry := by
  cases veiled with
  | @memory entries others files outages related =>
      have found : Assoc.find? entry others = Assoc.find? entry entries := by
        have values := related.find? entry
        generalize Assoc.find? entry entries = first at values ⊢
        generalize Assoc.find? entry others = second at values ⊢
        cases values with
        | none => rfl
        | some alike =>
            obtain rfl | ⟨rfl, -, -⟩ := alike
            · rfl
            · exact absurd rfl apart
      simp only [Storage.get, found]
      rfl
  | directory place outages related =>
      simp only [Storage.get, related.read (key.not_conceals apart place)]
      rfl

theorem put : ∃ after afterToo result, s.put key secret = (after, result) ∧
    other.put key twin = (afterToo, result) ∧ Veiled key secret twin after afterToo := by
  cases veiled with
  | @memory entries others files outages related =>
      have same : checkOutage ⟨.memory others, files, outages⟩ .put key.kind =
          checkOutage ⟨.memory entries, files, outages⟩ .put key.kind := rfl
      cases clear : checkOutage ⟨.memory entries, files, outages⟩ .put key.kind with
      | error failure =>
          simp only [Storage.put, clear, same]
          exact ⟨_, _, _, rfl, rfl, .memory files outages related⟩
      | ok _ =>
          rw [put_memory clear, put_memory (same.trans clear)]
          exact ⟨_, _, _, rfl, rfl, .memory files outages (related.insert (.inr ⟨rfl, rfl, rfl⟩))⟩
  | @directory files others place outages related =>
      have same : checkOutage ⟨.directory place, others, outages⟩ .put key.kind =
          checkOutage ⟨.directory place, files, outages⟩ .put key.kind := rfl
      cases clear : checkOutage ⟨.directory place, files, outages⟩ .put key.kind with
      | error failure =>
          simp only [Storage.put, clear, same]
          exact ⟨_, _, _, rfl, rfl, .directory place outages related⟩
      | ok _ =>
          rw [put_directory clear, put_directory (same.trans clear)]
          split
          · exact ⟨_, _, _, rfl, rfl, .directory place outages related⟩
          · obtain ⟨after, afterToo, failed, ran, ranToo, stored⟩ :=
              related.replace (modeOf key.kind) (.inl rfl) fun number => .inr ⟨number, rfl⟩
            rw [ran, ranToo]
            cases failed with
            | none => exact ⟨_, _, _, rfl, rfl, .directory place outages stored⟩
            | some e => exact ⟨_, _, _, rfl, rfl, .directory place outages stored⟩

end Veiled

end AcmeClient.Storage
