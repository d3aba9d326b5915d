import KarpenterCore.GoMap
import Mathlib.Order.MinMax

/-!
# Label requirements

Modelled from the spec (§3 and §4.1): `scheduling.Requirement` and
`scheduling.Requirements` live in `pkg/scheduling`, outside src/. A requirement
is the set of values one label key may take under the conjunction of every
constraint posted on it: a finite set (`In`), a cofinite one (`NotIn`,
`Exists`), a half-open integer range (`Gt`, `Lt`), and whether a node without
the label is admitted (`NotIn`, `DoesNotExist`). Intersecting two requirements
is the conjunction of the two (`admits_intersection`); that is the only fact of
the algebra the scheduler's laws rest on.
-/

namespace KarpenterCore

/-- Node selector operators, `v1.NodeSelectorOperator`. -/
inductive Operator where
  | opIn | opNotIn | opExists | opDoesNotExist | opGt | opLt
deriving DecidableEq, Repr

/-- The tighter of two lower bounds. -/
def maxBound : Option Int → Option Int → Option Int
  | some a, some b => some (max a b)
  | some a, none => some a
  | none, b => b

/-- The tighter of two upper bounds. -/
def minBound : Option Int → Option Int → Option Int
  | some a, some b => some (min a b)
  | some a, none => some a
  | none, b => b

/-- Modelled from the spec: `scheduling.Requirement`, the admissible values of
    one label key. `values` lists the allowed values, or with `complement` the
    excluded ones; `greaterThan` and `lessThan` bound the values read as
    integers; `absent` admits a node that does not carry the label. -/
structure Requirement where
  complement : Bool
  values : List String
  greaterThan : Option Int
  lessThan : Option Int
  absent : Bool
deriving DecidableEq, Repr

namespace Requirement

/-- `scheduling.NewRequirement(key, operator, values...)`. -/
def newRequirement (op : Operator) (values : List String) : Requirement :=
  match op with
  | .opIn => ⟨false, values, none, none, false⟩
  | .opNotIn => ⟨true, values, none, none, true⟩
  | .opExists => ⟨true, [], none, none, false⟩
  | .opDoesNotExist => ⟨false, [], none, none, true⟩
  | .opGt => ⟨true, [], values.head?.bind String.toInt?, none, false⟩
  | .opLt => ⟨true, [], none, values.head?.bind String.toInt?, false⟩

/-- A value read as an integer lies strictly between the bounds; with no bound
    every value does. -/
def withinBounds (greaterThan lessThan : Option Int) (value : String) : Bool :=
  (greaterThan.isNone && lessThan.isNone) ||
    match value.toInt? with
    | some n => greaterThan.all (· < n) && lessThan.all (n < ·)
    | none => false

/-- `Requirement.Has(value)`. -/
def has (r : Requirement) (value : String) : Bool :=
  (if r.complement then decide (value ∉ r.values) else decide (value ∈ r.values)) &&
    withinBounds r.greaterThan r.lessThan value

/-- Whether a node whose label is `label` (`none`: not carried) meets the
    requirement. -/
def admits (r : Requirement) : Option String → Bool
  | none => r.absent
  | some value => r.has value

/-- `Requirement.Intersection`: finite sets intersect, a finite set loses the
    values a cofinite one excludes, two cofinite sets exclude the union. -/
def intersection (r s : Requirement) : Requirement where
  complement := r.complement && s.complement
  values :=
    match r.complement, s.complement with
    | true, true => r.values ++ s.values
    | true, false => s.values.filter (· ∉ r.values)
    | false, true => r.values.filter (· ∉ s.values)
    | false, false => r.values.filter (· ∈ s.values)
  greaterThan := maxBound r.greaterThan s.greaterThan
  lessThan := minBound r.lessThan s.lessThan
  absent := r.absent && s.absent

/-- Whether some node meets the requirement: one without the label, or one
    with an admitted value. A cofinite set counts as nonempty unless its bounds
    leave no integer between them. -/
def nonempty (r : Requirement) : Bool :=
  r.absent ||
    if r.complement then
      match r.greaterThan, r.lessThan with
      | some g, some l => decide (g + 1 < l)
      | _, _ => true
    else r.values.any (withinBounds r.greaterThan r.lessThan)

theorem withinBounds_inter (g₁ l₁ g₂ l₂ : Option Int) (value : String) :
    withinBounds (maxBound g₁ g₂) (minBound l₁ l₂) value =
      (withinBounds g₁ l₁ value && withinBounds g₂ l₂ value) := by
  unfold withinBounds
  cases g₁ <;> cases g₂ <;> cases l₁ <;> cases l₂ <;> cases value.toInt? <;>
    simp [maxBound, minBound, max_lt_iff, lt_min_iff, Bool.and_assoc, Bool.and_comm,
      Bool.and_left_comm]

theorem has_intersection (r s : Requirement) (value : String) :
    (r.intersection s).has value = (r.has value && s.has value) := by
  unfold has intersection
  rw [withinBounds_inter]
  cases hr : r.complement <;> cases hs : s.complement <;>
    by_cases h₁ : value ∈ r.values <;> by_cases h₂ : value ∈ s.values <;>
    simp [h₁, h₂]

/-- Intersecting two requirements admits exactly what both admit. -/
@[simp] theorem admits_intersection (r s : Requirement) (label : Option String) :
    (r.intersection s).admits label = (r.admits label && s.admits label) := by
  cases label with
  | none => rfl
  | some value => exact has_intersection r s value

end Requirement

/-- `v1.LabelHostname`. -/
def labelHostname : String := "kubernetes.io/hostname"

/-- `v1.LabelTopologyZone`. -/
def labelTopologyZone : String := "topology.kubernetes.io/zone"

/-- `v1alpha5.LabelCapacityType`. -/
def labelCapacityType : String := "karpenter.sh/capacity-type"

/-- `v1alpha5.ProvisionerNameLabelKey`. -/
def provisionerNameLabelKey : String := "karpenter.sh/provisioner-name"

/-- Modelled from the spec: `scheduling.Requirements`, one requirement per
    label key. -/
abbrev Requirements := GoMap String Requirement

namespace Requirements

open Requirement

/-- The requirement `r` intersected into the one already on `key`, if any. -/
def addOne (rs : Requirements) (e : String × Requirement) : Requirements :=
  rs.insert e.1 (match rs.get? e.1 with
    | some existing => e.2.intersection existing
    | none => e.2)

/-- `Requirements.Add(requirements...)`. -/
def add (rs : Requirements) (reqs : List (String × Requirement)) : Requirements :=
  reqs.foldl addOne rs

/-- `Requirements.Values()`. -/
def values (rs : Requirements) : List (String × Requirement) := rs.entries

/-- `scheduling.NewRequirements(requirements...)`. -/
def newRequirements (reqs : List (String × Requirement)) : Requirements :=
  add GoMap.empty reqs

/-- `scheduling.NewLabelRequirements(labels)`: `In` the label's value, per label. -/
def newLabelRequirements (labels : List (String × String)) : Requirements :=
  newRequirements (labels.map fun l => (l.1, newRequirement .opIn [l.2]))

/-- `Requirements.Has(key)`. -/
def has (rs : Requirements) (key : String) : Bool := decide (key ∈ rs)

/-- `Requirements.Get(key)`: a key not constrained reads as `Exists`. -/
def get (rs : Requirements) (key : String) : Requirement :=
  (rs.get? key).getD (newRequirement .opExists [])

/-- `Requirements.Intersects`: the first key both sets constrain whose values
    do not overlap. -/
def intersects (rs other : Requirements) : Option String :=
  (rs.entries.find? fun e =>
    match other.get? e.1 with
    | some o => !(e.2.intersection o).nonempty
    | none => false).map (·.1)

/-- `Requirements.Compatible`: the spec's nonempty intersection on every key. -/
def compatible (rs other : Requirements) : Option String := intersects rs other

/-- Whether a node carrying `labels` meets every requirement. -/
def admits (rs : Requirements) (labels : String → Option String) : Bool :=
  rs.entries.all fun e => e.2.admits (labels e.1)

/-! ### Adding requirements -/

theorem get?_addOne (rs : Requirements) (e : String × Requirement) (key : String) :
    (rs.addOne e).get? key =
      if key = e.1 then some (match rs.get? key with
        | some existing => e.2.intersection existing
        | none => e.2)
      else rs.get? key := by
  by_cases hk : key = e.1
  · subst hk; simp [addOne]
  · simp [addOne, hk]

/-- The requirement `add` leaves on a key, for a list with one entry per key. -/
theorem get?_add (rs : Requirements) (reqs : List (String × Requirement))
    (hreqs : (reqs.map Prod.fst).Nodup) (key : String) :
    (rs.add reqs).get? key =
      match reqs.lookup key with
      | some r => some (match rs.get? key with
        | some existing => r.intersection existing
        | none => r)
      | none => rs.get? key := by
  induction reqs generalizing rs with
  | nil => rfl
  | cons e reqs ih =>
    rw [List.map_cons, List.nodup_cons] at hreqs
    obtain ⟨k, r⟩ := e
    show (add (rs.addOne (k, r)) reqs).get? key = _
    rw [ih _ hreqs.2, get?_addOne]
    by_cases hk : key = k
    · subst hk
      have hnone : reqs.lookup key = none := by
        rw [List.lookup_eq_none_iff]
        intro p hp
        have hne : p.1 ≠ key := fun heq =>
          hreqs.1 (show key ∈ reqs.map Prod.fst from heq ▸ List.mem_map_of_mem Prod.fst hp)
        simp [Ne.symm hne]
      simp [hnone]
    · have hb : (key == k) = false := by simpa using hk
      simp [hk, List.lookup_cons, hb]

/-- The requirement on each key after `rs.add other.values`. -/
theorem get?_add_values (rs other : Requirements) (key : String) :
    (rs.add other.values).get? key =
      match other.get? key with
      | some r => some (match rs.get? key with
        | some existing => r.intersection existing
        | none => r)
      | none => rs.get? key :=
  get?_add rs other.entries other.nodup key

@[simp] theorem get?_newRequirements_values (rs : Requirements) (key : String) :
    (newRequirements rs.values).get? key = rs.get? key := by
  unfold newRequirements
  rw [get?_add_values]
  cases rs.get? key <;> rfl

/-! ### What a node carrying given labels meets -/

theorem admits_iff {rs : Requirements} {labels : String → Option String} :
    rs.admits labels = true ↔
      ∀ key r, rs.get? key = some r → r.admits (labels key) = true := by
  unfold admits
  exact @GoMap.all_entries_iff String Requirement _ rs fun key r => r.admits (labels key)

/-- `rs` constrains every key `other` does, each at least as tightly. -/
def Refines (rs other : Requirements) : Prop :=
  ∀ key q, other.get? key = some q →
    ∃ r, rs.get? key = some r ∧ ∀ label, r.admits label = true → q.admits label = true

theorem Refines.refl (rs : Requirements) : rs.Refines rs :=
  fun _ q hq => ⟨q, hq, fun _ h => h⟩

theorem Refines.trans {a b c : Requirements} (hab : a.Refines b) (hbc : b.Refines c) :
    a.Refines c := by
  intro key q hq
  obtain ⟨r, hr, hrq⟩ := hbc key q hq
  obtain ⟨s, hs, hsr⟩ := hab key r hr
  exact ⟨s, hs, fun label h => hrq label (hsr label h)⟩

/-- Labels a set admits meet every set it refines. -/
theorem Refines.admits {rs other : Requirements} (h : rs.Refines other)
    {labels : String → Option String} (hadm : rs.admits labels = true) :
    other.admits labels = true := by
  rw [admits_iff] at hadm ⊢
  intro key q hq
  obtain ⟨r, hr, hrq⟩ := h key q hq
  exact hrq _ (hadm key r hr)

theorem refines_add_left (rs other : Requirements) : (rs.add other.values).Refines rs := by
  intro key q hq
  rw [get?_add_values, hq]
  cases other.get? key with
  | none => exact ⟨q, rfl, fun _ h => h⟩
  | some r =>
    refine ⟨r.intersection q, rfl, fun label h => ?_⟩
    rw [admits_intersection, Bool.and_eq_true] at h
    exact h.2

theorem refines_add_right (rs other : Requirements) : (rs.add other.values).Refines other := by
  intro key q hq
  rw [get?_add_values, hq]
  cases rs.get? key with
  | none => exact ⟨q, rfl, fun _ h => h⟩
  | some r =>
    refine ⟨q.intersection r, rfl, fun label h => ?_⟩
    rw [admits_intersection, Bool.and_eq_true] at h
    exact h.1

theorem Refines.erase {rs other : Requirements} (h : rs.Refines other) (key : String) :
    Requirements.Refines (rs.erase key) (other.erase key) := by
  intro k q hq
  rw [GoMap.get?_erase] at hq ⊢
  split at hq
  · cases hq
  · rw [if_neg ‹_›]
    exact h k q hq

/-! ### Removing a key -/

theorem intersects_erase {rs other : Requirements} (h : rs.intersects other = none)
    (key : String) : rs.intersects (other.erase key) = none := by
  unfold intersects at h ⊢
  rw [Option.map_eq_none', List.find?_eq_none] at h ⊢
  intro e he
  by_cases hk : e.1 = key
  · simp [hk]
  · simpa [hk] using h e he

theorem has_erase_ne (rs : Requirements) {key k : String} (hk : k ≠ key) :
    Requirements.has (rs.erase key) k = rs.has k := by
  simp [has, hk]

theorem get_erase_ne (rs : Requirements) {key k : String} (hk : k ≠ key) :
    Requirements.get (rs.erase key) k = rs.get k := by
  simp [get, hk]

end Requirements

end KarpenterCore
