import KarpenterCore.GoMap

/-!
# Resource lists

`v1.ResourceList` maps a resource name to a quantity. A Go quantity is an exact
decimal; the model counts it as an integer in the smallest unit the scheduler
compares, and reads a missing name as the zero quantity, as Go's zero
`resource.Quantity` does.

The helpers of `utils/resources` that the scheduler calls are not under src/;
they are modelled from the spec's resource algebra (§2: add, subtract and
compare resource maps, the fit test).
-/

namespace KarpenterCore

/-- `v1.ResourceList`. -/
abbrev ResourceList := GoMap String Int

namespace ResourceList

/-- `rl[name]`: a missing resource reads as the zero quantity. -/
def quantity (rl : ResourceList) (name : String) : Int := (rl.get? name).getD 0

/-- `current := result[name]; current.Add(q); result[name] = current`. -/
def addTo (result : ResourceList) (e : String × Int) : ResourceList :=
  result.insert e.1 (result.quantity e.1 + e.2)

/-- Modelled from the spec: `resources.Merge`, the key-by-key sum of resource
    lists. -/
def merge (rls : List ResourceList) : ResourceList :=
  rls.foldl (fun result rl => rl.entries.foldl addTo result) GoMap.empty

/-- Modelled from the spec: `resources.Subtract`, `lhs` less `rhs` on the keys
    of `lhs`. -/
def subtract (lhs rhs : ResourceList) : ResourceList :=
  lhs.mapVals fun name q => q - rhs.quantity name

/-- Modelled from the spec: `resources.Fits`. No total may be negative, and every
    candidate quantity must be within its total. -/
def fits (candidate total : ResourceList) : Bool :=
  (total.entries.all fun e => decide (0 ≤ e.2)) &&
    candidate.entries.all fun e => decide (e.2 ≤ total.quantity e.1)

/-- The larger of two optional quantities; an absent one counts for nothing. -/
def maxOpt : Option Int → Option Int → Option Int
  | some a, some b => some (max a b)
  | some a, none => some a
  | none, b => b

/-- `if value, ok := result[name]; !ok || q.Cmp(value) > 0 { result[name] = q }`. -/
def raise (result : ResourceList) (e : String × Int) : ResourceList :=
  match result.get? e.1 with
  | some v => if e.2 > v then result.insert e.1 e.2 else result
  | none => result.insert e.1 e.2

/-- Modelled from the spec: `resources.MaxResources`, the key-by-key maximum of
    resource lists, over the lists that name the key. -/
def maxResources (rls : List ResourceList) : ResourceList :=
  rls.foldl (fun result rl => rl.entries.foldl raise result) GoMap.empty

@[simp] theorem get?_subtract (lhs rhs : ResourceList) (name : String) :
    (subtract lhs rhs).get? name = (lhs.get? name).map (· - rhs.quantity name) := by
  simp [subtract]

@[simp] theorem mem_subtract {lhs rhs : ResourceList} {name : String} :
    name ∈ subtract lhs rhs ↔ name ∈ lhs := GoMap.mem_mapVals

@[simp] theorem quantity_empty (name : String) : quantity GoMap.empty name = 0 := rfl

theorem get?_raise (result : ResourceList) (e : String × Int) (name : String) :
    (raise result e).get? name =
      if name = e.1 then maxOpt (result.get? name) (some e.2) else result.get? name := by
  obtain ⟨a, q⟩ := e
  by_cases hn : name = a
  · subst hn
    unfold raise
    cases hv : result.get? name with
    | none => simp [maxOpt]
    | some v =>
      by_cases hlt : q > v
      · simp [hlt, maxOpt, max_eq_right (le_of_lt hlt)]
      · simp [hlt, maxOpt, max_eq_left (not_lt.mp hlt), hv]
  · unfold raise
    split
    · split <;> simp [hn]
    · simp [hn]

/-- In a list of entries with distinct names, a name that heads the list is not
    found again in its tail. -/
private theorem lookup_eq_none_of_not_mem {name : String} {l : List (String × Int)}
    (h : name ∉ l.map Prod.fst) : l.lookup name = none := by
  rw [List.lookup_eq_none_iff]
  intro p hp
  have hne : p.1 ≠ name := fun heq => h (heq ▸ List.mem_map_of_mem Prod.fst hp)
  simp [Ne.symm hne]

private theorem maxOpt_none_right (a : Option Int) : maxOpt a none = a := by
  cases a <;> rfl

private theorem get?_foldl_raise (l : List (String × Int)) (hl : (l.map Prod.fst).Nodup)
    (result : ResourceList) (name : String) :
    (l.foldl raise result).get? name = maxOpt (result.get? name) (l.lookup name) := by
  induction l generalizing result with
  | nil => simp [maxOpt_none_right]
  | cons e l ih =>
    rw [List.map_cons, List.nodup_cons] at hl
    rw [List.foldl_cons, ih hl.2, get?_raise]
    obtain ⟨a, b⟩ := e
    by_cases hn : name = a
    · subst hn
      simp [lookup_eq_none_of_not_mem hl.1, maxOpt_none_right]
    · have hb : (name == a) = false := by simpa using hn
      simp [hn, List.lookup_cons, hb]

/-- `MaxResources` keeps, for each name, the largest quantity among the lists
    that name it. -/
theorem get?_maxResources (rls : List ResourceList) (name : String) :
    (maxResources rls).get? name =
      rls.foldl (fun acc rl => maxOpt acc (rl.get? name)) none := by
  unfold maxResources
  suffices h : ∀ (result : ResourceList),
      (rls.foldl (fun result rl => rl.entries.foldl raise result) result).get? name =
        rls.foldl (fun acc rl => maxOpt acc (rl.get? name)) (result.get? name) from h _
  induction rls with
  | nil => intro result; rfl
  | cons rl rls ih =>
    intro result
    simp only [List.foldl_cons, ih, get?_foldl_raise rl.entries rl.nodup]
    rfl

private theorem quantity_foldl_addTo (l : List (String × Int)) (hl : (l.map Prod.fst).Nodup)
    (result : ResourceList) (name : String) :
    (l.foldl addTo result).quantity name = result.quantity name + (l.lookup name).getD 0 := by
  induction l generalizing result with
  | nil => simp
  | cons e l ih =>
    rw [List.map_cons, List.nodup_cons] at hl
    obtain ⟨a, b⟩ := e
    rw [List.foldl_cons, ih hl.2]
    by_cases hn : name = a
    · subst hn
      simp [addTo, quantity, lookup_eq_none_of_not_mem hl.1]
    · have hb : (name == a) = false := by simpa using hn
      simp [addTo, quantity, hn, List.lookup_cons, hb]

/-- `Merge` of two lists adds their quantities key by key. -/
theorem quantity_merge_pair (a b : ResourceList) (name : String) :
    (merge [a, b]).quantity name = a.quantity name + b.quantity name := by
  simp only [merge, List.foldl_cons, List.foldl_nil, quantity_foldl_addTo _ a.nodup,
    quantity_foldl_addTo _ b.nodup, quantity_empty, Int.zero_add]
  rfl

/-- What `Fits` promises: each candidate quantity, a missing one read as zero,
    is within its total. -/
theorem quantity_le_of_fits {candidate total : ResourceList} (h : fits candidate total = true)
    (name : String) : candidate.quantity name ≤ total.quantity name := by
  rw [fits, Bool.and_eq_true, GoMap.all_entries_iff (p := fun _ q => decide (0 ≤ q)),
    GoMap.all_entries_iff (p := fun k q => decide (q ≤ total.quantity k))] at h
  cases hc : candidate.get? name with
  | some v => simpa [quantity, hc] using h.2 name v hc
  | none =>
    cases ht : total.get? name with
    | none => simp [quantity, hc, ht]
    | some w => simpa [quantity, hc, ht] using h.1 name w ht

end ResourceList

end KarpenterCore
