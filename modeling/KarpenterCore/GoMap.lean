import Mathlib.Data.List.Nodup

/-!
# Go maps

The scheduler keeps resource lists (`v1.ResourceList`) and requirement sets
(`scheduling.Requirements`) in Go maps. A map is modelled by its entries, at
most one per key. Go ranges over a map in no fixed order; every loop of the
scheduler over a map computes the same result in any order, so the model ranges
over `entries` as they stand.
-/

namespace KarpenterCore

/-- A Go `map[K]V`: its entries, at most one per key. -/
structure GoMap (K V : Type) where
  entries : List (K × V)
  nodup : (entries.map Prod.fst).Nodup

namespace GoMap

variable {K V W : Type} [DecidableEq K]

/-- The keys of a map, in the order the model ranges over them. -/
def keys (m : GoMap K V) : List K := m.entries.map Prod.fst

instance : Membership K (GoMap K V) := ⟨fun m k => k ∈ m.keys⟩

instance (k : K) (m : GoMap K V) : Decidable (k ∈ m) :=
  inferInstanceAs (Decidable (k ∈ m.keys))

/-- `map[K]V{}`; a `nil` map reads the same. -/
def empty : GoMap K V := ⟨[], List.nodup_nil⟩

/-- The comma-ok read `v, ok := m[k]`. -/
def get? (m : GoMap K V) (k : K) : Option V := m.entries.lookup k

private theorem keys_filter_ne (l : List (K × V)) (k : K) :
    k ∉ (l.filter (·.1 ≠ k)).map Prod.fst := by
  simp

/-- `delete(m, k)`. -/
def erase (m : GoMap K V) (k : K) : GoMap K V :=
  ⟨m.entries.filter (·.1 ≠ k), ((List.filter_sublist _).map _).nodup m.nodup⟩

/-- `m[k] = v`. -/
def insert (m : GoMap K V) (k : K) (v : V) : GoMap K V :=
  ⟨(m.erase k).entries ++ [(k, v)], by
    rw [List.map_append, List.nodup_append]
    exact ⟨(m.erase k).nodup, List.nodup_singleton _,
      List.disjoint_singleton.mpr (keys_filter_ne m.entries k)⟩⟩

/-- `for k, v := range m { out[k] = f(k, v) }` into a fresh map `out`. -/
def mapVals (m : GoMap K V) (f : K → V → W) : GoMap K W :=
  ⟨m.entries.map fun e => (e.1, f e.1 e.2), by
    simpa only [List.map_map, Function.comp_def] using m.nodup⟩

instance [DecidableEq V] : DecidableEq (GoMap K V) := fun a b =>
  decidable_of_iff (a.entries = b.entries) (by cases a; cases b; simp)

/-! ### Reading a map back -/

private theorem lookup_cons_eq (a k : K) (b : V) (l : List (K × V)) :
    ((a, b) :: l).lookup k = if k = a then some b else l.lookup k := by
  by_cases h : k = a
  · subst h; simp
  · have hb : (k == a) = false := by simpa using h
    rw [List.lookup_cons, hb, if_neg h]

private theorem lookup_filter_ne (l : List (K × V)) (k k' : K) :
    (l.filter (·.1 ≠ k)).lookup k' = if k' = k then none else l.lookup k' := by
  induction l with
  | nil => simp
  | cons e l ih =>
    obtain ⟨a, b⟩ := e
    by_cases hak : a = k
    · subst hak
      have hdrop : ((a, b) :: l).filter (·.1 ≠ a) = l.filter (·.1 ≠ a) := by simp
      rw [hdrop, ih, lookup_cons_eq]
      split_ifs <;> rfl
    · have hkeep : ((a, b) :: l).filter (·.1 ≠ k) = (a, b) :: l.filter (·.1 ≠ k) := by
        simp [hak]
      rw [hkeep, lookup_cons_eq, ih, lookup_cons_eq]
      by_cases hk : k' = k
      · subst hk; simp [Ne.symm hak]
      · simp [hk]

private theorem lookup_map_snd (l : List (K × V)) (f : K → V → W) (k : K) :
    (l.map fun e => (e.1, f e.1 e.2)).lookup k = (l.lookup k).map (f k) := by
  induction l with
  | nil => rfl
  | cons e l ih =>
    obtain ⟨a, b⟩ := e
    rw [List.map_cons, lookup_cons_eq, lookup_cons_eq, ih]
    by_cases hk : k = a
    · subst hk; simp
    · simp [hk]

private theorem lookup_eq_some_iff_mem (l : List (K × V)) (hl : (l.map Prod.fst).Nodup)
    (k : K) (v : V) : l.lookup k = some v ↔ (k, v) ∈ l := by
  induction l with
  | nil => simp
  | cons e l ih =>
    obtain ⟨a, b⟩ := e
    rw [List.map_cons, List.nodup_cons] at hl
    rw [lookup_cons_eq, List.mem_cons]
    by_cases hk : k = a
    · subst hk
      have hnot : (k, v) ∉ l := fun hv => hl.1 (List.mem_map.mpr ⟨_, hv, rfl⟩)
      simp [hnot, eq_comm]
    · simp [hk, ih hl.2]

@[simp] theorem get?_empty (k : K) : (empty : GoMap K V).get? k = none := rfl

@[simp] theorem get?_erase (m : GoMap K V) (k k' : K) :
    (m.erase k).get? k' = if k' = k then none else m.get? k' :=
  lookup_filter_ne m.entries k k'

@[simp] theorem get?_insert (m : GoMap K V) (k k' : K) (v : V) :
    (m.insert k v).get? k' = if k' = k then some v else m.get? k' := by
  show ((m.erase k).entries ++ [(k, v)]).lookup k' = _
  rw [List.lookup_append, lookup_cons_eq]
  change ((m.erase k).get? k').or _ = _
  rw [get?_erase]
  by_cases hk : k' = k <;> simp [hk]

@[simp] theorem get?_mapVals (m : GoMap K V) (f : K → V → W) (k : K) :
    (m.mapVals f).get? k = (m.get? k).map (f k) :=
  lookup_map_snd m.entries f k

theorem mem_iff_get?_isSome {m : GoMap K V} {k : K} : k ∈ m ↔ (m.get? k).isSome := by
  show k ∈ m.entries.map Prod.fst ↔ _
  rw [get?, List.lookup_isSome_iff, List.mem_map]
  exact exists_congr fun e => and_congr_right fun _ => by rw [beq_iff_eq]; exact eq_comm

theorem get?_eq_some_iff {m : GoMap K V} {k : K} {v : V} :
    m.get? k = some v ↔ (k, v) ∈ m.entries :=
  lookup_eq_some_iff_mem m.entries m.nodup k v

theorem mem_of_get?_eq_some {m : GoMap K V} {k : K} {v : V} (h : m.get? k = some v) : k ∈ m :=
  mem_iff_get?_isSome.mpr (by simp [h])

/-- A loop over every entry of a map checks every key the map reads back. -/
theorem all_entries_iff {m : GoMap K V} {p : K → V → Bool} :
    (m.entries.all fun e => p e.1 e.2) = true ↔ ∀ k v, m.get? k = some v → p k v = true := by
  simp only [List.all_eq_true, get?_eq_some_iff]
  exact ⟨fun h k v hkv => h (k, v) hkv, fun h e he => h e.1 e.2 he⟩

@[simp] theorem mem_mapVals {m : GoMap K V} {f : K → V → W} {k : K} : k ∈ m.mapVals f ↔ k ∈ m := by
  simp [mem_iff_get?_isSome]

@[simp] theorem mem_insert {m : GoMap K V} {k k' : K} {v : V} : k' ∈ m.insert k v ↔ k' = k ∨ k' ∈ m := by
  by_cases hk : k' = k <;> simp [mem_iff_get?_isSome, hk]

@[simp] theorem mem_erase {m : GoMap K V} {k k' : K} : k' ∈ m.erase k ↔ k' ≠ k ∧ k' ∈ m := by
  by_cases hk : k' = k <;> simp [mem_iff_get?_isSome, hk]

@[simp] theorem not_mem_empty (k : K) : k ∉ (empty : GoMap K V) := by
  simp [mem_iff_get?_isSome]

/-! ### Maps equal by their entries -/

section Ext

omit [DecidableEq K]

theorem ext {m m' : GoMap K V} (h : m.entries = m'.entries) : m = m' := by
  cases m; cases m'; cases h; rfl

@[simp] theorem mapVals_empty (f : K → V → W) : (empty : GoMap K V).mapVals f = empty := rfl

@[simp] theorem mapVals_mapVals {X : Type} (m : GoMap K V) (f : K → V → W) (g : K → W → X) :
    (m.mapVals f).mapVals g = m.mapVals fun k v => g k (f k v) :=
  ext (by simp [mapVals])

@[simp] theorem mapVals_snd (m : GoMap K V) : m.mapVals (fun _ v => v) = m :=
  ext (by simp [mapVals])

theorem mapVals_congr (m : GoMap K V) {f g : K → V → W} (h : ∀ k v, f k v = g k v) :
    m.mapVals f = m.mapVals g := by
  rw [show f = g from funext fun k => funext (h k)]

end Ext

end GoMap

end KarpenterCore
