/-!
Lists of keys with values in which a key stands once, in order of first appearance.
-/

namespace AcmeClient.Assoc

variable {κ : Type u} {α : Type v} [DecidableEq κ]

/-- Gives a key a value: at the place where the key stands, or else at the end. -/
def insert (key : κ) (value : α) : List (κ × α) → List (κ × α)
  | [] => [(key, value)]
  | (other, old) :: rest =>
    if other = key then (key, value) :: rest else (other, old) :: insert key value rest

def insertNew (key : κ) (value : α) : List (κ × α) → List (κ × α)
  | [] => [(key, value)]
  | (other, old) :: rest =>
    if other = key then (other, old) :: rest else (other, old) :: insertNew key value rest

def find? (key : κ) : List (κ × α) → Option α
  | [] => none
  | (other, value) :: rest => if other = key then some value else find? key rest

/-- Each key with its last value, at its first place. -/
def ofList (entries : List (κ × α)) : List (κ × α) :=
  entries.foldl (fun kept entry => insert entry.1 entry.2 kept) []

theorem find?_insert_self (key : κ) (value : α) (entries : List (κ × α)) :
    find? key (insert key value entries) = some value := by
  induction entries with
  | nil => simp [insert, find?]
  | cons entry rest ih =>
    simp only [insert]
    split
    · simp [find?]
    · rename_i different
      simp [find?, different, ih]

theorem find?_insert_other {key other : κ} (different : other ≠ key) (value : α)
    (entries : List (κ × α)) :
    find? other (insert key value entries) = find? other entries := by
  induction entries with
  | nil => simp [insert, find?, Ne.symm different]
  | cons entry rest ih =>
    simp only [insert]
    split
    · rename_i same
      simp [find?, same, Ne.symm different]
    · simp [find?, ih]

end AcmeClient.Assoc
