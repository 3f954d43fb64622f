import AcmeClient.Base64
import Mathlib.Control.Basic
import Mathlib.Data.Option.Basic

namespace AcmeClient.Base64

variable {value : Nat}

theorem lt_of_mem_sextets {bytes : Bytes} (member : value ∈ sextets bytes) : value < 64 := by
  have below (b : UInt8) : b.toNat < 256 := b.toNat_lt
  fun_induction sextets bytes with
  | case1 => simp at member
  | case2 x =>
      have := below x
      simp only [List.mem_cons, List.not_mem_nil, or_false] at member
      omega
  | case3 x y =>
      have := below x
      have := below y
      simp only [List.mem_cons, List.not_mem_nil, or_false] at member
      omega
  | case4 x y z rest ih =>
      have := below x
      have := below y
      have := below z
      simp only [List.mem_cons] at member
      obtain member | member | member | member | member := member
      · omega
      · omega
      · omega
      · omega
      · exact ih member

@[simp] theorem ofSextets_sextets (bytes : Bytes) : ofSextets (sextets bytes) = bytes := by
  have eq_of {x : UInt8} {n : Nat} (same : n = x.toNat) : UInt8.ofNat n = x := by
    rw [same, UInt8.ofNat_toNat]
  have below (b : UInt8) : b.toNat < 256 := b.toNat_lt
  fun_induction sextets bytes with
  | case1 => rfl
  | case2 x =>
      simp only [ofSextets]
      rw [eq_of (x := x) (by omega)]
  | case3 x y =>
      have := below y
      simp only [ofSextets]
      rw [eq_of (x := x) (by omega), eq_of (x := y) (by omega)]
  | case4 x y z rest ih =>
      have := below y
      have := below z
      simp only [ofSextets, ih]
      rw [eq_of (x := x) (by omega), eq_of (x := y) (by omega), eq_of (x := z) (by omega)]

theorem length_sextets_mod (bytes : Bytes) : (sextets bytes).length % 4 ≠ 1 := by
  fun_induction sextets bytes with
  | case4 x y z rest ih =>
      simp only [List.length_cons]
      omega
  | _ => simp

theorem length_sextets (bytes : Bytes) : (sextets bytes).length = (4 * bytes.length + 2) / 3 := by
  fun_induction sextets bytes with
  | case4 x y z rest ih =>
      simp only [List.length_cons, ih]
      omega
  | _ => simp

/-- How long a text becomes depends on how long the bytes are. -/
theorem length_encodeStandard_congr {bytes other : Bytes} (same : bytes.length = other.length) :
    (encodeStandard bytes).length = (encodeStandard other).length := by
  simp only [encodeStandard, List.length_append, List.length_map, length_sextets, same]

theorem standardValue?_standardDigit (below : value < 64) :
    standardValue? (standardDigit value) = some value :=
  (by decide : ∀ value : Fin 64, standardValue? (standardDigit value) = some value.val) ⟨value, below⟩

theorem standardDigit_ne (below : value < 64) : standardDigit value ≠ '=' :=
  (by decide : ∀ value : Fin 64, standardDigit value ≠ '=') ⟨value, below⟩

theorem value?_urlDigit (below : value < 64) : value? (urlDigit value) = some value :=
  (by decide : ∀ value : Fin 64, value? (urlDigit value) = some value.val) ⟨value, below⟩

theorem urlDigit_ne (below : value < 64) : urlDigit value ≠ '=' ∧ (urlDigit value).toNat < 0x80 :=
  (by decide : ∀ value : Fin 64, urlDigit value ≠ '=' ∧ (urlDigit value).toNat < 0x80) ⟨value, below⟩

theorem urlDigit_ne_stop (below : value < 64) : urlDigit value ≠ '.' :=
  (by decide : ∀ value : Fin 64, urlDigit value ≠ '.') ⟨value, below⟩

theorem mem_encodeUrl {bytes : Bytes} {c : Char} (member : c ∈ encodeUrl bytes) :
    ∃ value < 64, c = urlDigit value := by
  obtain ⟨value, listed, rfl⟩ := List.mem_map.mp member
  exact ⟨value, lt_of_mem_sextets listed, rfl⟩

theorem mem_encodeStandard {bytes : Bytes} {c : Char} (member : c ∈ encodeStandard bytes) :
    c = '=' ∨ ∃ value < 64, c = standardDigit value := by
  simp only [encodeStandard, List.mem_append, List.mem_map, paddingFor, List.mem_replicate] at member
  obtain ⟨value, listed, rfl⟩ | ⟨-, rfl⟩ := member
  · exact .inr ⟨value, lt_of_mem_sextets listed, rfl⟩
  · exact .inl rfl

theorem mapM_of_forall {α β : Type} {f : β → Option α} {g : α → β} {values : List α}
    (inverse : ∀ value ∈ values, f (g value) = some value) :
    (values.map g).mapM f = some values := by
  induction values with
  | nil => rfl
  | cons first rest ih =>
      rw [List.forall_mem_cons] at inverse
      rw [List.map_cons, List.mapM_cons, inverse.1, ih inverse.2]
      rfl

theorem decodeStandard?_encodeStandard (bytes : Bytes) :
    decodeStandard? (encodeStandard bytes) = some bytes := by
  have digits : (encodeStandard bytes).takeWhile (· != '=') =
      (sextets bytes).map standardDigit := by
    have plain : ∀ c ∈ (sextets bytes).map standardDigit, (c != '=') = true := by
      intro c member
      obtain ⟨value, listed, rfl⟩ := List.mem_map.mp member
      simpa using standardDigit_ne (lt_of_mem_sextets listed)
    rw [encodeStandard, List.takeWhile_append_of_pos plain, paddingFor]
    cases (4 - ((sextets bytes).map standardDigit).length % 4) % 4 <;>
      simp [List.replicate_succ]
  have values : ((sextets bytes).map standardDigit).mapM standardValue? = some (sextets bytes) :=
    mapM_of_forall fun _ listed => standardValue?_standardDigit (lt_of_mem_sextets listed)
  simp [decodeStandard?, digits, values]

/-- Digits are gathered one by one; each group of four starts afresh. -/
theorem gather_map {values : List Nat} {filled : Nat} (below : ∀ value ∈ values, value < 64)
    (inGroup : filled < 4) (rest : List Char) :
    gather value? filled 0 (values.map urlDigit ++ rest) =
      (values ++ (gather value? ((filled + values.length) % 4) 0 rest).1,
        (gather value? ((filled + values.length) % 4) 0 rest).2) := by
  induction values generalizing filled with
  | nil =>
      rw [List.length_nil, Nat.add_zero, Nat.mod_eq_of_lt inGroup]
      rfl
  | cons value values ih =>
      rw [List.forall_mem_cons] at below
      have group : ((filled + 1) % 4 + values.length) % 4 = (filled + (values.length + 1)) % 4 := by
        omega
      simp only [List.map_cons, List.cons_append, gather, (urlDigit_ne below.1).1, if_false,
        value?_urlDigit below.1, ih below.2 (Nat.mod_lt _ (by decide)), group, List.length_cons]

/-- The padding closes a group in which there is a whole byte, and no other. -/
theorem gather_paddingFor (count : Nat) :
    gather value? (count % 4) 0 (paddingFor count) = ([], decide (2 ≤ count % 4)) := by
  have group := Nat.mod_lt count (by decide : 4 > 0)
  unfold paddingFor
  generalize count % 4 = filled at group
  match filled with
  | 0 => rfl
  | 1 => rfl
  | 2 => rfl
  | 3 => rfl

/-- Digits are read unless the last group has only one of them. -/
theorem decodeLenient_digits {values : List Nat} (below : ∀ value ∈ values, value < 64) :
    decodeLenient (values.map urlDigit) =
      if values.length % 4 = 1 then .error (.oneTooMany values.length) else .ok (ofSextets values) := by
  have ascii : ¬ (values.map urlDigit).any (fun c => 0x80 ≤ c.toNat) := by
    rw [Bool.not_eq_true, List.any_eq_false]
    intro c member
    obtain ⟨value, listed, rfl⟩ := List.mem_map.mp member
    simpa using (urlDigit_ne (below value listed)).2
  have gathered : gather value? 0 0 (values.map urlDigit ++ paddingFor (values.map urlDigit).length) =
      (values, decide (2 ≤ values.length % 4)) := by
    rw [gather_map below (by decide), List.length_map, Nat.zero_add, gather_paddingFor,
      List.append_nil]
  have group := Nat.mod_lt values.length (by decide : 4 > 0)
  rw [decodeLenient, if_neg ascii, decodeWith, gathered]
  by_cases alone : values.length % 4 = 1
  · simp [alone]
  · have read : (decide (2 ≤ values.length % 4) || values.length % 4 == 0) = true := by
      rw [Bool.or_eq_true, decide_eq_true_eq, beq_iff_eq]
      omega
    simp only [read, if_true, if_neg alone]

theorem decodeLenient_encodeUrl (bytes : Bytes) : decodeLenient (encodeUrl bytes) = .ok bytes := by
  rw [encodeUrl, decodeLenient_digits fun _ => lt_of_mem_sextets,
    if_neg (length_sextets_mod bytes), ofSextets_sextets]

/-- Padding that the reader would add itself makes no difference. -/
theorem decodeLenient_append_paddingFor (text : List Char) :
    decodeLenient (text ++ paddingFor text.length) = decodeLenient text := by
  have ascii : (paddingFor text.length).any (fun c => decide (0x80 ≤ c.toNat)) = false := by
    rw [List.any_eq_false]
    intro c member
    rw [(List.mem_replicate.mp member).2]
    decide
  have complete : paddingFor (text ++ paddingFor text.length).length = [] := by
    rw [paddingFor, List.replicate_eq_nil_iff, List.length_append, paddingFor, List.length_replicate]
    omega
  rw [decodeLenient, decodeLenient, complete, List.append_nil, List.any_append, ascii, Bool.or_false]

end AcmeClient.Base64
