import Mathlib.Data.List.AList

/-!
# Finite maps

A Go map is an `AList`: a list of entries with distinct keys. Mathlib has the lookup lemmas; what
is added here is the size of a map and how `insert` and `erase` change it and the list of values.
-/

namespace GoNoise

/-- A Go map with keys `κ` and values `ν`. -/
abbrev GoMap (κ ν : Type) := AList fun _ : κ => ν

namespace GoMap

variable {κ ν : Type} {a k : κ} {l : List κ} {m : GoMap κ ν} {v : ν}

/-- The number of entries, `len(m)`. -/
def size (m : GoMap κ ν) : ℕ := m.entries.length

def values (m : GoMap κ ν) : List ν := m.entries.map Sigma.snd

theorem length_keys (m : GoMap κ ν) : m.keys.length = size m := List.length_map _

/-- A map whose keys all lie in a list is no larger than the list. -/
theorem size_le_of_keys_subset (h : ∀ k ∈ m, k ∈ l) : size m ≤ l.length := by
  rw [← length_keys]
  exact (List.subperm_of_subset m.keys_nodup fun k hk => h k (AList.mem_keys.mpr hk)).length_le

theorem exists_mem_of_size_pos (h : 0 < size m) : ∃ k, k ∈ m := by
  rw [← length_keys] at h
  obtain ⟨k, hk⟩ := List.exists_mem_of_length_pos h
  exact ⟨k, AList.mem_keys.mpr hk⟩

variable [DecidableEq κ]

theorem size_insert_of_notMem (v : ν) (h : k ∉ m) : size (m.insert k v) = size m + 1 := by
  rw [size, AList.entries_insert_of_notMem h, List.length_cons, size]

theorem values_insert_of_notMem (v : ν) (h : k ∉ m) : values (m.insert k v) = v :: values m := by
  rw [values, AList.entries_insert_of_notMem h, List.map_cons, values]

theorem size_erase_of_mem (h : k ∈ m) : size (m.erase k) + 1 = size m := by
  have hk : (m.erase k).keys.length + 1 = m.keys.length := by
    rw [AList.keys_erase, List.length_erase_of_mem (AList.mem_keys.mp h)]
    have hpos : 0 < m.keys.length := List.length_pos_of_mem (AList.mem_keys.mp h)
    omega
  rwa [length_keys, length_keys] at hk

theorem mem_foldl_erase : k ∈ l.foldl (fun m k => m.erase k) m ↔ k ∈ m ∧ k ∉ l := by
  induction l generalizing m with
  | nil => simp
  | cons a l ih =>
    rw [List.foldl_cons, ih, AList.mem_erase, List.mem_cons, not_or, and_comm (a := k ≠ a),
      and_assoc]

theorem lookup_of_lookup_insert {b : ν}
    (h : (m.insert a b).lookup k = some v) : k = a ∧ v = b ∨ m.lookup k = some v := by
  by_cases hka : k = a
  · rw [hka, AList.lookup_insert, Option.some.injEq] at h
    exact Or.inl ⟨hka, h.symm⟩
  · rw [AList.lookup_insert_ne hka] at h
    exact Or.inr h

theorem lookup_of_lookup_erase
    (h : (m.erase a).lookup k = some v) : k ≠ a ∧ m.lookup k = some v := by
  by_cases hka : k = a
  · rw [hka, AList.lookup_erase] at h
    cases h
  · rw [AList.lookup_erase_ne hka] at h
    exact ⟨hka, h⟩

theorem lookup_foldl_erase (l : List κ) (m : GoMap κ ν) (k : κ) :
    (l.foldl (fun m k => m.erase k) m).lookup k = if k ∈ l then none else m.lookup k := by
  induction l generalizing m with
  | nil => rfl
  | cons a l ih =>
    rw [List.foldl_cons, ih]
    by_cases hka : k = a
    · subst hka
      simp
    · simp [hka]

theorem lookup_of_lookup_foldl_erase
    (h : (l.foldl (fun m k => m.erase k) m).lookup k = some v) : m.lookup k = some v := by
  rw [lookup_foldl_erase] at h
  split_ifs at h
  exact h

theorem perm_cons_values_erase (h : m.lookup k = some v) :
    (v :: values (m.erase k)).Perm (values m) := by
  have hk : k ∈ m.entries.keys := AList.mem_keys.mp (AList.lookup_isSome.mp (by rw [h]; rfl))
  obtain ⟨w, l₁, l₂, -, hl, her⟩ := List.exists_of_kerase hk
  have hw : m.lookup k = some w := AList.mem_lookup_iff.mpr (by
    rw [hl]
    exact List.mem_append_right _ (List.mem_cons_self ..))
  have hvw : v = w := Option.some.inj (h.symm.trans hw)
  have hm : values m = l₁.map Sigma.snd ++ w :: l₂.map Sigma.snd := by
    rw [values, hl, List.map_append, List.map_cons]
  have hme : values (m.erase k) = l₁.map Sigma.snd ++ l₂.map Sigma.snd := by
    rw [values, ← List.map_append, ← her]
    rfl
  rw [hm, hme, hvw]
  exact List.perm_middle.symm

/-! ## Loops over a map -/

/-- The keys as one `range` loop meets them: Go leaves the order open, so it is given, and keys that
are not mentioned come last. -/
def inOrder (m : GoMap κ ν) (order : List κ) : List κ :=
  order.filter (· ∈ m) ++ m.keys.filter (· ∉ order)

@[simp] theorem mem_inOrder {order : List κ} : k ∈ m.inOrder order ↔ k ∈ m := by
  by_cases h : k ∈ order <;> simp [inOrder, h, AList.mem_keys]

/-- The loop for the entry with the least time; of several, the first is taken. -/
def oldest (time : ν → ℤ) (m : GoMap κ ν) : Option (κ × ℤ) → List κ → Option (κ × ℤ)
  | best, [] => best
  | best, k :: ks =>
    match m.lookup k with
    | none => oldest time m best ks
    | some v =>
      match best with
      | none => oldest time m (some (k, time v)) ks
      | some (k', t) =>
        if time v < t then oldest time m (some (k, time v)) ks
        else oldest time m (some (k', t)) ks

theorem size_insert_le (m : GoMap κ ν) (k : κ) (v : ν) : size (m.insert k v) ≤ size m + 1 := by
  by_cases h : k ∈ m
  · rw [← length_keys, AList.keys_insert, List.length_cons, ← length_keys]
    exact Nat.succ_le_succ List.length_erase_le
  · exact Nat.le_of_eq (size_insert_of_notMem v h)

theorem size_erase_le (m : GoMap κ ν) (k : κ) : size (m.erase k) ≤ size m := by
  rw [← length_keys, AList.keys_erase, ← length_keys]
  exact List.length_erase_le

theorem size_foldl_erase_le (l : List κ) (m : GoMap κ ν) :
    size (l.foldl (fun m k => m.erase k) m) ≤ size m := by
  induction l generalizing m with
  | nil => exact Nat.le_refl _
  | cons k l ih => exact Nat.le_trans (ih _) (size_erase_le m k)

end GoMap
end GoNoise
