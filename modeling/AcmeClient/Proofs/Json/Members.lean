import AcmeClient.Json.Reader
import Mathlib.Data.List.Induction

namespace AcmeClient

namespace Assoc

variable {κ : Type u} {α : Type v} [DecidableEq κ] {key : κ} {value : α} {entries : List (κ × α)}

theorem find?_ofList (key : κ) (entries : List (κ × α)) :
    find? key (ofList entries) = find? key entries.reverse := by
  induction entries using List.reverseRec with
  | nil => rfl
  | append_singleton entries last ih =>
      obtain ⟨name, value⟩ := last
      simp only [ofList, List.foldl_append, List.foldl_cons, List.foldl_nil, List.reverse_append,
        List.reverse_cons, List.reverse_nil, List.nil_append, List.singleton_append, find?] at ih ⊢
      by_cases same : name = key
      · subst name
        rw [find?_insert_self, if_pos rfl]
      · rw [find?_insert_other (Ne.symm same), if_neg same, ih]

theorem mem_of_find? (found : find? key entries = some value) : (key, value) ∈ entries := by
  induction entries with
  | nil => contradiction
  | cons entry entries ih =>
      rw [find?] at found
      split at found
      · rename_i same
        cases found
        exact same ▸ List.mem_cons_self
      · exact List.mem_cons_of_mem _ (ih found)

theorem insert_of_notMem (fresh : key ∉ entries.map Prod.fst) :
    insert key value entries = entries ++ [(key, value)] := by
  induction entries with
  | nil => rfl
  | cons entry entries ih =>
      rw [List.map_cons, List.mem_cons, not_or] at fresh
      rw [insert, if_neg (Ne.symm fresh.1), ih fresh.2, List.cons_append]

theorem names_insert_of_mem (present : key ∈ entries.map Prod.fst) :
    (insert key value entries).map Prod.fst = entries.map Prod.fst := by
  induction entries with
  | nil => contradiction
  | cons entry entries ih =>
      rw [insert]
      by_cases same : entry.1 = key
      · rw [if_pos same, List.map_cons, List.map_cons, same]
      · obtain found | later := List.mem_cons.mp present
        · exact absurd found.symm same
        · rw [if_neg same, List.map_cons, List.map_cons, ih later]

theorem nodup_insert (distinct : (entries.map Prod.fst).Nodup) :
    ((insert key value entries).map Prod.fst).Nodup := by
  by_cases present : key ∈ entries.map Prod.fst
  · rwa [names_insert_of_mem present]
  · rw [insert_of_notMem present, List.map_append, List.nodup_append]
    refine ⟨distinct, by simp, ?_⟩
    rintro name listed other single rfl
    rw [List.map_singleton, List.mem_singleton] at single
    subst single
    exact present listed

theorem eq_or_mem_of_mem_insert {entry : κ × α} (member : entry ∈ insert key value entries) :
    entry = (key, value) ∨ entry ∈ entries := by
  induction entries with
  | nil => exact .inl (List.mem_singleton.mp member)
  | cons first entries ih =>
      rw [insert] at member
      split at member
      · obtain same | later := List.mem_cons.mp member
        · exact .inl same
        · exact .inr (List.mem_cons_of_mem _ later)
      · obtain same | later := List.mem_cons.mp member
        · exact .inr (same ▸ List.mem_cons_self)
        · obtain new | old := ih later
          · exact .inl new
          · exact .inr (List.mem_cons_of_mem _ old)

theorem ofList_of_nodup (distinct : (entries.map Prod.fst).Nodup) : ofList entries = entries := by
  have appended (kept : List (κ × α)) (more : ((kept ++ entries).map Prod.fst).Nodup) :
      entries.foldl (fun kept entry => insert entry.1 entry.2 kept) kept = kept ++ entries := by
    clear distinct
    induction entries generalizing kept with
    | nil => rw [List.foldl_nil, List.append_nil]
    | cons entry entries ih =>
        have fresh : entry.1 ∉ kept.map Prod.fst := by
          rw [List.map_append, List.map_cons, List.nodup_append] at more
          exact fun listed => more.2.2 _ listed _ List.mem_cons_self rfl
        have next : kept ++ entry :: entries = kept ++ [entry] ++ entries := by
          rw [List.append_assoc, List.singleton_append]
        rw [next] at more ⊢
        rw [List.foldl_cons, insert_of_notMem fresh]
        exact ih _ more
  exact appended [] distinct

theorem find?_insert (other key : κ) (value : α) (entries : List (κ × α)) :
    find? other (insert key value entries) = if other = key then some value else find? other entries := by
  split
  · rename_i same
    rw [same, find?_insert_self]
  · rename_i different
    exact find?_insert_other different value entries

theorem find?_eq_some_iff_mem (distinct : (entries.map Prod.fst).Nodup) :
    find? key entries = some value ↔ (key, value) ∈ entries := by
  refine ⟨mem_of_find?, fun member => ?_⟩
  induction entries with
  | nil => contradiction
  | cons entry entries ih =>
      rw [List.map_cons, List.nodup_cons] at distinct
      rw [find?]
      obtain rfl | later := List.mem_cons.mp member
      · rw [if_pos rfl]
      · have different : entry.1 ≠ key := fun same =>
          distinct.1 (same ▸ List.mem_map.mpr ⟨_, later, rfl⟩)
        rw [if_neg different, ih distinct.2 later]

theorem insertNew_of_mem (present : key ∈ entries.map Prod.fst) :
    insertNew key value entries = entries := by
  induction entries with
  | nil => contradiction
  | cons entry entries ih =>
      rw [insertNew]
      split
      · rfl
      · rename_i different
        obtain same | later := List.mem_cons.mp present
        · exact absurd same.symm different
        · rw [ih later]

theorem insertNew_of_notMem (fresh : key ∉ entries.map Prod.fst) :
    insertNew key value entries = insert key value entries := by
  induction entries with
  | nil => rfl
  | cons entry entries ih =>
      rw [List.map_cons, List.mem_cons, not_or] at fresh
      rw [insertNew, insert, if_neg (Ne.symm fresh.1), if_neg (Ne.symm fresh.1), ih fresh.2]

theorem nodup_insertNew (distinct : (entries.map Prod.fst).Nodup) :
    ((insertNew key value entries).map Prod.fst).Nodup := by
  by_cases present : key ∈ entries.map Prod.fst
  · rwa [insertNew_of_mem present]
  · rw [insertNew_of_notMem present]
    exact nodup_insert distinct

/-- What is there already stays. -/
theorem find?_insertNew (other key : κ) (value : α) (entries : List (κ × α)) :
    find? other (insertNew key value entries) =
      (find? other entries).or (if key = other then some value else none) := by
  induction entries with
  | nil => rfl
  | cons entry entries ih =>
      simp only [insertNew]
      split
      · rename_i same
        simp only [find?, same]
        split <;> simp_all
      · rename_i different
        simp only [find?, ih]
        split <;> rfl

/-- Entries that are added each unless its key is there already. -/
def addNew (added kept : List (κ × α)) : List (κ × α) :=
  added.foldl (fun kept entry => insertNew entry.1 entry.2 kept) kept

theorem nodup_addNew (added : List (κ × α)) (distinct : (entries.map Prod.fst).Nodup) :
    ((addNew added entries).map Prod.fst).Nodup := by
  induction added generalizing entries with
  | nil => exact distinct
  | cons entry added ih => exact ih (nodup_insertNew distinct)

theorem find?_addNew (key : κ) (added kept : List (κ × α)) :
    find? key (addNew added kept) = (find? key kept).or (find? key added) := by
  induction added generalizing kept with
  | nil => rw [addNew, List.foldl_nil, find?, Option.or_none]
  | cons entry added ih =>
      rw [addNew, List.foldl_cons, ← addNew, ih, find?_insertNew, Option.or_assoc, find?]
      split <;> rfl

theorem find?_map {β : Type v} (change : α → β) (key : κ) (entries : List (κ × α)) :
    find? key (entries.map fun entry => (entry.1, change entry.2)) = (find? key entries).map change := by
  induction entries with
  | nil => rfl
  | cons entry entries ih =>
      rw [List.map_cons, find?, find?, ih]
      split <;> rfl

theorem find?_filter (keeps : κ → Bool) (key : κ) (entries : List (κ × α)) :
    find? key (entries.filter fun entry => keeps entry.1) =
      if keeps key then find? key entries else none := by
  induction entries with
  | nil => simp [find?]
  | cons entry entries ih =>
      by_cases same : entry.1 = key
      · cases kept : keeps entry.1 <;> simp_all [find?]
      · cases kept : keeps entry.1 <;> simp_all [find?]

end Assoc

namespace Json

variable {room : Room}

/-- The members up to the closing brace, each as often as it stands there. -/
def listMembers (room : Room) :
    (steps : Nat) → Cursor → Except TextFault (List (String × Json) × Cursor)
  | 0, c => c.fail .noName
  | steps + 1, c => do
    let (name, c) ← readName c
    let (value, c) ← readValue room steps c
    let c := c.skipBlank
    match c.rest with
    | '}' :: rest => return ([(name, value)], ⟨c.position + 1, rest⟩)
    | ',' :: rest => do
      let (others, c) ← listMembers room steps (skipBlank (c.position + 1) rest)
      return ((name, value) :: others, c)
    | _ => c.fail .noComma

/-- Reading members is listing them, each replacing the one of its name. -/
theorem readMembers_eq_listMembers (steps : Nat) (members : List (String × Json)) (c : Cursor) :
    readMembers room steps members c = (listMembers room steps c).map fun (listed, after) =>
      (listed.foldl (fun kept entry => Assoc.insert entry.1 entry.2 kept) members, after) := by
  induction steps generalizing members c with
  | zero => rfl
  | succ steps ih =>
      rw [readMembers, listMembers]
      cases readName c with
      | error fault => rfl
      | ok named =>
          obtain ⟨name, c⟩ := named
          cases read : readValue room steps c with
          | error fault => simp [bind, Except.bind, read, Except.map]
          | ok found =>
              obtain ⟨value, c⟩ := found
              simp only [bind, Except.bind, read]
              generalize c.skipBlank = c
              obtain ⟨position, rest⟩ := c
              dsimp only
              split
              · rfl
              · simp only [ih]
                cases listMembers room steps _ <;> rfl
              · simp only [Cursor.fail, Except.map]

/-- An object whose opening brace comes next, with its members as they are listed. -/
def listObject (room : Room) (steps : Nat) (c : Cursor) :
    Except TextFault (List (String × Json) × Cursor) :=
  match c.rest with
  | '{' :: rest => do
    let inner ← room.enter "object"
    let c := skipBlank (c.position + 1) rest
    match c.rest with
    | '}' :: rest => return ([], ⟨c.position + 1, rest⟩)
    | _ => listMembers inner steps c
  | _ => c.fail .noValue

theorem value_ne_obj {n : Numeral} {members : List (String × Json)} :
    n.value ≠ .ok (.obj members) := by
  unfold Numeral.value
  split
  · split <;> simp
  · simp

theorem readPlain_ne_obj {c after : Cursor} {members : List (String × Json)} :
    readPlain c ≠ .ok (.obj members, after) := by
  intro read
  unfold readPlain at read
  split at read
  · rename_i word value found
    have listed := List.mem_of_find?_eq_some found
    simp only [Except.ok.injEq, Prod.mk.injEq] at read
    rw [read.1] at listed
    simp [words] at listed
  · split at read
    · contradiction
    · rename_i n _
      cases value : n.value with
      | error fault => simp [value, bind, Except.bind] at read
      | ok value =>
          simp only [value, bind, Except.bind, pure, Except.pure, Except.ok.injEq,
            Prod.mk.injEq] at read
          rw [read.1] at value
          exact value_ne_obj value

theorem readValue_eq_obj_iff {steps : Nat} {c after : Cursor} {members : List (String × Json)} :
    readValue room (steps + 1) c = .ok (.obj members, after) ↔
      ∃ listed, listObject room steps c = .ok (listed, after) ∧ members = Assoc.ofList listed := by
  have noObject {read : Except TextFault (Json × Cursor)}
      (other : read ≠ .ok (.obj members, after)) :
      read = .ok (.obj members, after) ↔ ∃ listed, c.fail .noValue = .ok (listed, after) ∧
        members = Assoc.ofList listed := by
    simp [other, Cursor.fail]
  rw [readValue, listObject]
  split
  · rename_i opened
    simp only [opened]
    refine noObject ?_
    cases readString _ _ _ _ _ <;> simp [bind, Except.bind, pure, Except.pure]
  · rename_i opened
    simp only [opened]
    refine noObject ?_
    cases room.enter "array" with
    | error fault => simp [bind, Except.bind]
    | ok inner =>
        simp only [bind, Except.bind, pure, Except.pure]
        split
        · simp
        · cases readItems inner _ _ _ <;> simp
  · rename_i opened
    simp only [opened]
    cases room.enter "object" with
    | error fault => simp [bind, Except.bind]
    | ok inner =>
        simp only [bind, Except.bind, pure, Except.pure]
        generalize skipBlank _ _ = c
        obtain ⟨position, rest⟩ := c
        dsimp only
        split
        · simp [Assoc.ofList, eq_comm, and_comm]
        · simp only [readMembers_eq_listMembers]
          cases listMembers inner _ _ with
          | error fault => simp [Except.map]
          | ok found =>
              obtain ⟨listed, rest⟩ := found
              simp [Except.map, Assoc.ofList, eq_comm, and_comm, and_assoc]
  · simp only
    exact noObject readPlain_ne_obj

/-- The members that the text of an object lists, in order. -/
def listText? (text : List Char) (room : Room) : Option (List (String × Json)) :=
  match listObject room (2 * text.length + 1) (skipBlank 0 text) with
  | .ok (listed, c) => if c.skipBlank.rest.isEmpty then some listed else none
  | .error _ => none

theorem readText_eq_obj_iff {text : List Char} {members : List (String × Json)} :
    readText text room = .ok (.obj members) ↔
      ∃ listed, listText? text room = some listed ∧ members = Assoc.ofList listed := by
  have object (after : Cursor) :
      readValue room (2 * text.length + 2) (skipBlank 0 text) = .ok (.obj members, after) ↔
        ∃ listed, listObject room (2 * text.length + 1) (skipBlank 0 text) = .ok (listed, after) ∧
          members = Assoc.ofList listed :=
    readValue_eq_obj_iff
  unfold readText listText?
  constructor
  · intro whole
    cases read : readValue room (2 * text.length + 2) (skipBlank 0 text) with
    | error fault => simp [read, bind, Except.bind] at whole
    | ok found =>
        obtain ⟨value, c⟩ := found
        simp only [read, bind, Except.bind, pure, Except.pure] at whole
        by_cases ended : c.skipBlank.rest.isEmpty
        · rw [if_pos ended, Except.ok.injEq] at whole
          subst value
          obtain ⟨listed, list, same⟩ := (object c).mp read
          exact ⟨listed, by simp only [list, ended, if_true], same⟩
        · rw [if_neg ended] at whole
          contradiction
  · rintro ⟨listed, whole, same⟩
    cases list : listObject room (2 * text.length + 1) (skipBlank 0 text) with
    | error fault => simp [list] at whole
    | ok found =>
        obtain ⟨kept, c⟩ := found
        simp only [list, Option.ite_none_right_eq_some, Option.some.injEq] at whole
        obtain ⟨ended, rfl⟩ := whole
        have read := (object c).mpr ⟨kept, list, same⟩
        simp only [read, bind, Except.bind, pure, Except.pure, ended, if_true]

/-- The members that a body lists if it is an object. -/
def listed? (body : Bytes) (room : Room) : Option (List (String × Json)) :=
  (Text.decodeDetected body).toOption.bind fun text => listText? text room

/-- A body is an object exactly if its members can be listed; each name has its last value. -/
theorem read_eq_obj_iff {body : Bytes} {members : List (String × Json)} :
    read body room = .ok (.obj members) ↔
      ∃ listed, listed? body room = some listed ∧ members = Assoc.ofList listed := by
  unfold read listed?
  cases Text.decodeDetected body with
  | error e => simp [Except.toOption]
  | ok text =>
      simp only [Except.toOption, Option.bind_some, ← readText_eq_obj_iff]
      cases readText text room <;> simp

end Json

end AcmeClient
