import KarpenterCore.Life
import Mathlib.Algebra.BigOperators.Group.List
import Mathlib.Algebra.Ring.Int.Defs

/-!
# Provisioner limits

`NewScheduler` starts a provisioner's entry of `remainingResources` at its
declared limits. `calculateExistingMachines` charges the entry the capacity of
each in-flight node it recognizes, and `add` charges it, for each node it
creates, the largest capacity among the node's instance types (`subtractMax`).
So at every point of a scheduler's life an entry is the declared limits less
those charges (`Tracks`). Read through the pairing of `Life.paired`, the charge
for each prospective node is the largest capacity among its instance types right
after its first `Add`, and the instance types `add` hands to `NewNode` are
exactly those within that budget (`remainingResources_budget`).

`add` hands a node only instance types within the budget, so an entry stays
nonnegative once its provisioner has a node (`ChargedWithin`). With nonnegative
capacities the largest instance types of the prospective nodes Solve returns,
with the in-flight nodes, stay within their provisioner's limits
(`solve_within_provisioner_limits`).
-/

namespace KarpenterCore

variable {Pod Topology : Type} {E : Env Pod Topology}

open ResourceList

/-! ### The largest capacity -/

/-- The largest quantity of resource `k` among the instance types' capacities,
    as `subtractMax` reads it from `MaxResources`; `0` when none names `k`. -/
def maxCapacity (its : List InstanceType) (k : String) : Int :=
  (maxResources (its.map (·.capacity))).quantity k

private theorem maxCapacity_eq_foldl (its : List InstanceType) (k : String) :
    maxCapacity its k = (its.foldl (fun acc it => maxOpt acc (it.capacity.get? k)) none).getD 0 := by
  rw [maxCapacity, quantity, get?_maxResources, List.foldl_map]

private theorem maxOpt_le {x y : Option Int} {v : Int} (hx : ∀ a, x = some a → a ≤ v)
    (hy : ∀ b, y = some b → b ≤ v) : ∀ m, maxOpt x y = some m → m ≤ v := by
  intro m hm
  cases x with
  | none => exact hy m hm
  | some a =>
    cases y with
    | none => exact Option.some.inj hm ▸ hx a rfl
    | some b => exact Option.some.inj hm ▸ max_le (hx a rfl) (hy b rfl)

private theorem foldl_maxOpt_le {α : Type} (g : α → Option Int) (v : Int) (l : List α) :
    ∀ acc : Option Int, (∀ a, acc = some a → a ≤ v) → (∀ x ∈ l, ∀ q, g x = some q → q ≤ v) →
      ∀ m, l.foldl (fun acc x => maxOpt acc (g x)) acc = some m → m ≤ v := by
  induction l with
  | nil => intro acc hacc _ m hm; exact hacc m hm
  | cons x l ih =>
    intro acc hacc hl
    exact ih _ (maxOpt_le hacc (hl x (List.mem_cons_self x l)))
      fun y hy => hl y (List.mem_cons_of_mem x hy)

private theorem foldl_maxOpt_eq_none {α : Type} (g : α → Option Int) (l : List α) :
    ∀ acc : Option Int, l.foldl (fun acc x => maxOpt acc (g x)) acc = none →
      acc = none ∧ ∀ x ∈ l, g x = none := by
  induction l with
  | nil => intro acc h; exact ⟨h, by simp⟩
  | cons x l ih =>
    intro acc h
    obtain ⟨hnone, hl⟩ := ih _ h
    cases acc <;> cases hgx : g x <;> simp only [maxOpt, hgx, reduceCtorEq] at hnone
    exact ⟨rfl, fun y hy => (List.mem_cons.mp hy).elim (· ▸ hgx) (hl y)⟩

/-- The largest capacity is within any bound every instance type is within. -/
theorem maxCapacity_le {its : List InstanceType} {k : String} {v : Int} (hne : its ≠ [])
    (h : ∀ it ∈ its, it.capacity.quantity k ≤ v) : maxCapacity its k ≤ v := by
  rw [maxCapacity_eq_foldl]
  cases hf : its.foldl (fun acc it => maxOpt acc (it.capacity.get? k)) none with
  | none =>
    obtain ⟨it, hit⟩ := List.exists_mem_of_ne_nil its hne
    have hnone := (foldl_maxOpt_eq_none _ its none hf).2 it hit
    simpa [quantity, hnone] using h it hit
  | some m =>
    exact foldl_maxOpt_le _ v its none (by simp)
      (fun it hit q hq => by simpa [quantity, hq] using h it hit) m hf

private theorem getD_maxOpt {acc : Option Int} {q : Option Int} (hacc : 0 ≤ acc.getD 0)
    (hq : 0 ≤ q.getD 0) : (maxOpt acc q).getD 0 = max (acc.getD 0) (q.getD 0) := by
  cases acc <;> cases q <;> simp_all [maxOpt]

private theorem foldl_maxOpt_getD {α : Type} (g : α → Option Int) (l : List α)
    (hl : ∀ x ∈ l, 0 ≤ (g x).getD 0) :
    ∀ acc : Option Int, 0 ≤ acc.getD 0 →
      (l.foldl (fun acc x => maxOpt acc (g x)) acc).getD 0 =
        l.foldl (fun m x => max m ((g x).getD 0)) (acc.getD 0) := by
  induction l with
  | nil => intro acc _; rfl
  | cons x l ih =>
    intro acc hacc
    have hx := hl x (List.mem_cons_self x l)
    rw [List.foldl_cons, List.foldl_cons, ih (fun y hy => hl y (List.mem_cons_of_mem x hy)),
      getD_maxOpt hacc hx]
    rw [getD_maxOpt hacc hx]
    exact le_max_of_le_left hacc

private theorem foldl_max_bounds {α : Type} (f : α → Int) (l : List α) :
    ∀ a b, (l.foldl (fun m x => max m (f x)) a ≤ b ↔ a ≤ b ∧ ∀ x ∈ l, f x ≤ b) := by
  induction l with
  | nil => intro a b; simp
  | cons x l ih =>
    intro a b
    rw [List.foldl_cons, ih, max_le_iff, List.forall_mem_cons, and_assoc]

/-- With nonnegative capacities, narrowing a node's instance types never raises
    its largest capacity. -/
theorem maxCapacity_mono {l₁ l₂ : List InstanceType} (h : l₁.Sublist l₂) {k : String}
    (hnn : ∀ it ∈ l₂, 0 ≤ it.capacity.quantity k) : maxCapacity l₁ k ≤ maxCapacity l₂ k := by
  have hnn₁ : ∀ it ∈ l₁, 0 ≤ it.capacity.quantity k := fun it hit => hnn it (h.subset hit)
  rw [maxCapacity_eq_foldl, maxCapacity_eq_foldl, foldl_maxOpt_getD _ _ hnn₁ none le_rfl,
    foldl_maxOpt_getD _ _ hnn none le_rfl]
  show l₁.foldl (fun m it => max m (it.capacity.quantity k)) 0 ≤
    l₂.foldl (fun m it => max m (it.capacity.quantity k)) 0
  have hall := (foldl_max_bounds (fun it : InstanceType => it.capacity.quantity k) l₂ 0
    (l₂.foldl (fun m it => max m (it.capacity.quantity k)) 0)).mp le_rfl
  exact (foldl_max_bounds _ l₁ _ _).mpr ⟨hall.1, fun it hit => hall.2 it (h.subset hit)⟩

/-- `subtractMax` on a nonempty list charges each key its largest capacity. -/
theorem subtractMax_of_ne_nil (remaining : ResourceList) {its : List InstanceType}
    (hne : its ≠ []) :
    subtractMax remaining its = remaining.mapVals fun k v => v - maxCapacity its k := by
  simp [subtractMax, List.isEmpty_iff, hne, maxCapacity]

/-- `filterByRemainingResources` keeps an instance type only within every
    remaining quantity. -/
theorem le_of_mem_filterByRemainingResources {its : List InstanceType} {remaining : ResourceList}
    {it : InstanceType} (hit : it ∈ filterByRemainingResources its remaining) {k : String} {v : Int}
    (hkv : remaining.get? k = some v) : it.capacity.quantity k ≤ v := by
  rw [filterByRemainingResources, List.mem_filter] at hit
  have h := (@GoMap.all_entries_iff String Int _ remaining
    fun k v => !decide (it.capacity.quantity k > v)).mp hit.2 k v hkv
  simpa using h

/-- `add` hands `NewNode` a sublist of the provisioner's instance types. -/
theorem Scheduler.instanceTypesFor_sublist (s : Scheduler Pod Topology) (t : MachineTemplate) :
    (s.instanceTypesFor t).Sublist (s.instanceTypes t.provisionerName) := by
  unfold Scheduler.instanceTypesFor
  split
  · exact List.filter_sublist _
  · exact List.Sublist.refl _

/-! ### What a provisioner is charged -/

/-- Whether `calculateExistingMachines` charges an in-flight node to the
    provisioner `name`: the node carries `name` as its provisioner-name label,
    and a template is keyed by `name`. -/
def recognizes (named : String → Option MachineTemplate) (name : String) (node : StateNode) : Bool :=
  node.labels.get? provisionerNameLabelKey == some name && (named name).isSome

/-- The capacity of resource `k` of the in-flight nodes charged to `name`. -/
def inflightCapacity (named : String → Option MachineTemplate) (stateNodes : List StateNode)
    (name k : String) : Int :=
  ((stateNodes.filter (recognizes named name)).map fun node => node.capacity.quantity k).sum

/-- The largest capacities of resource `k` reserved by the nodes created for
    `name`, each as the node's instance types stood right after its first
    `Add`. -/
def reservedCapacity (cs : List (Created Pod)) (name k : String) : Int :=
  ((cs.filter fun c => c.template.provisionerName == name).map fun c =>
    maxCapacity c.node.instanceTypeOptions k).sum

theorem inflightCapacity_append (named : String → Option MachineTemplate)
    (nodes : List StateNode) (node : StateNode) (name k : String) :
    inflightCapacity named (nodes ++ [node]) name k = inflightCapacity named nodes name k +
      if recognizes named name node then node.capacity.quantity k else 0 := by
  unfold inflightCapacity
  split <;> simp [List.filter_append, List.sum_append, *]

theorem reservedCapacity_append (cs : List (Created Pod)) (c : Created Pod) (name k : String) :
    reservedCapacity (cs ++ [c]) name k = reservedCapacity cs name k +
      if c.template.provisionerName = name then maxCapacity c.node.instanceTypeOptions k else 0 := by
  unfold reservedCapacity
  split <;> simp [List.filter_append, List.sum_append, *]

/-- The largest capacities of resource `k` charged for the prospective nodes of
    `name`, each read from the creation record `order` pairs it with: the node's
    instance types right after its first `Add`. -/
def prospectiveCharge (nodes : List (Node Pod)) (order : List (Created Pod)) (name k : String) : Int :=
  (((nodes.zip order).filter fun e => e.1.provisionerName == name).map fun e =>
    maxCapacity e.2.node.instanceTypeOptions k).sum

/-- Read through a pairing that keeps the provisioner, the charges of the
    prospective nodes are the reservations of their records. -/
theorem prospectiveCharge_eq_reservedCapacity {R : Node Pod → Created Pod → Prop}
    {nodes : List (Node Pod)} {order : List (Created Pod)} (h : List.Forall₂ R nodes order)
    (hR : ∀ n c, R n c → n.provisionerName = c.template.provisionerName) (name k : String) :
    prospectiveCharge nodes order name k = reservedCapacity order name k := by
  induction h with
  | nil => rfl
  | @cons n c nodes order hnc _ ih =>
    unfold prospectiveCharge reservedCapacity at *
    simp only [List.zip_cons_cons, List.filter_cons, hR n c hnc]
    split <;> simp [ih]

theorem reservedCapacity_perm {cs cs' : List (Created Pod)} (h : cs.Perm cs') (name k : String) :
    reservedCapacity cs name k = reservedCapacity cs' name k :=
  ((h.filter _).map _).sum_eq

/-- An entry of `remainingResources` charged `used` against the declared limits:
    absent with nothing declared, or the declared limits less `used`, on exactly
    the declared keys. -/
def Charged (declared : Option ResourceList) (used : String → Int)
    (remaining : Option ResourceList) : Prop :=
  (remaining = none ∧ declared = none) ∨
    remaining = some ((declared.getD GoMap.empty).mapVals fun k v => v - used k)

theorem Charged.congr {declared : Option ResourceList} {used used' : String → Int}
    {remaining : Option ResourceList} (h : Charged declared used remaining)
    (hused : ∀ k, used' k = used k) : Charged declared used' remaining := by
  rwa [show used' = used from funext hused]

/-- Charging `a` more: the entry `m[name] = Subtract(m[name], a)` writes. -/
theorem Charged.charge {declared : Option ResourceList} {used used' a : String → Int}
    {remaining : Option ResourceList} (h : Charged declared used remaining)
    (hused : ∀ k, used' k = used k + a k) :
    Charged declared used' (some ((remaining.getD GoMap.empty).mapVals fun k v => v - a k)) := by
  refine .inr ?_
  rcases h with ⟨rfl, rfl⟩ | rfl
  · rfl
  · rw [Option.getD_some, GoMap.mapVals_mapVals]
    exact congrArg some (GoMap.mapVals_congr _ fun k v => by rw [hused]; omega)

/-- **The budget invariant.** Every entry of `remainingResources` is the
    declared limits less the capacity of the in-flight nodes `nodes` and the
    reservations of the creation records `cs`. -/
def Tracks (declared : String → Option ResourceList) (named : String → Option MachineTemplate)
    (nodes : List StateNode) (cs : List (Created Pod)) (remaining : String → Option ResourceList) :
    Prop :=
  ∀ p, Charged (declared p) (fun k => inflightCapacity named nodes p k + reservedCapacity cs p k)
    (remaining p)

/-! ### `NewScheduler` -/

theorem declaredLimits_append_singleton (provisioners : List Provisioner) (q : Provisioner)
    (name : String) :
    declaredLimits (provisioners ++ [q]) name =
      if name = q.name ∧ q.limits.isSome then q.limits else declaredLimits provisioners name := by
  unfold declaredLimits
  rw [List.foldl_append, List.foldl_cons, List.foldl_nil]
  cases q.limits <;> by_cases hn : name = q.name <;> simp [setRemaining, hn]

/-- Later provisioners that declare no limits under a name leave its entry. -/
theorem declaredLimits_append_of_none (provisioners post : List Provisioner) {name : String}
    (hpost : ∀ q ∈ post, q.name = name → q.limits = none) :
    declaredLimits (provisioners ++ post) name = declaredLimits provisioners name := by
  induction post using List.reverseRecOn with
  | nil => rw [List.append_nil]
  | append_singleton post q ih =>
    rw [← List.append_assoc, declaredLimits_append_singleton,
      ih fun q' hq' => hpost q' (List.mem_append_left _ hq')]
    have hq := hpost q (List.mem_append_right _ (List.mem_singleton_self q))
    by_cases hn : name = q.name
    · simp [hn, hq hn.symm]
    · simp [hn]

/-- When the provisioners of a name that declare limits all declare `L`, the
    entry of that name is `L` if one of them does, and absent otherwise. -/
theorem declaredLimits_eq_of_agree {provisioners : List Provisioner} {name : String}
    {L : Option ResourceList}
    (h : ∀ q ∈ provisioners, q.name = name → q.limits ≠ none → q.limits = L) :
    declaredLimits provisioners name =
      if provisioners.any fun q => q.name == name && q.limits.isSome then L else none := by
  induction provisioners using List.reverseRecOn with
  | nil => rfl
  | append_singleton provisioners q ih =>
    rw [declaredLimits_append_singleton, ih fun q' hq' => h q' (List.mem_append_left _ hq'),
      List.any_append]
    by_cases hq : name = q.name ∧ q.limits.isSome
    · have hL := h q (List.mem_append_right _ (List.mem_singleton_self q)) hq.1.symm
        (Option.isSome_iff_ne_none.mp hq.2)
      have hq' : (q.name == name && q.limits.isSome) = true := by simp [hq.1, hq.2]
      rw [if_pos hq, hL, List.any_cons, List.any_nil, hq', Bool.true_or, Bool.or_true, if_pos rfl]
    · have hq' : (q.name == name && q.limits.isSome) = false :=
        Bool.eq_false_iff.mpr fun h' => hq (by simp only [Bool.and_eq_true, beq_iff_eq] at h'; exact ⟨h'.1.symm, h'.2⟩)
      rw [if_neg hq, List.any_cons, List.any_nil, hq', Bool.or_false, Bool.or_false]

/-- The entry `NewScheduler` starts a provisioner at, read from its record: when
    no other record of its name declares limits, its own limits. -/
theorem declaredLimits_of_unique {provisioners : List Provisioner} {prov : Provisioner}
    (hprov : prov ∈ provisioners)
    (hunique : ∀ q ∈ provisioners, q.name = prov.name → q.limits ≠ none → q = prov) :
    declaredLimits provisioners prov.name = prov.limits := by
  rw [declaredLimits_eq_of_agree fun q hq hn hl => congrArg Provisioner.limits (hunique q hq hn hl)]
  cases hl : prov.limits with
  | none => simp
  | some limits =>
    have hany : (provisioners.any fun q => q.name == prov.name && q.limits.isSome) = true :=
      List.any_eq_true.mpr ⟨prov, hprov, by simp [hl]⟩
    rw [if_pos hany]

/-- The entry `NewScheduler` starts a provisioner at, read from the last of its
    records that declares limits. -/
theorem declaredLimits_of_last {pre post : List Provisioner} {prov : Provisioner}
    {limits : ResourceList} (hlimits : prov.limits = some limits)
    (hlast : ∀ q ∈ post, q.name = prov.name → q.limits = none) :
    declaredLimits (pre ++ prov :: post) prov.name = some limits := by
  rw [← List.singleton_append, ← List.append_assoc, declaredLimits_append_of_none _ _ hlast,
    declaredLimits_append_singleton, hlimits]
  simp

theorem tracks_declaredLimits (provisioners : List Provisioner)
    (named : String → Option MachineTemplate) :
    Tracks (declaredLimits provisioners) named [] ([] : List (Created Pod)) (declaredLimits provisioners) := by
  intro p
  cases h : declaredLimits provisioners p with
  | none => exact .inl ⟨rfl, rfl⟩
  | some limits =>
    refine .inr ?_
    simp [inflightCapacity, reservedCapacity]

/-- What one in-flight node does to an entry of the remaining resources: it
    subtracts its capacity from the entry of the provisioner it is recognized
    for, and leaves every other entry alone. -/
theorem Scheduler.addExistingMachine_remaining (named : String → Option MachineTemplate)
    (s : Scheduler Pod Topology) (node : StateNode) (p : String) :
    (s.addExistingMachine named node).remainingResources p =
      if recognizes named p node then
        some (subtract ((s.remainingResources p).getD GoMap.empty) node.capacity)
      else s.remainingResources p := by
  unfold Scheduler.addExistingMachine recognizes
  split
  · simp [*]
  · rename_i name hlabel
    by_cases hpn : p = name
    · subst hpn; split <;> simp [*]
    · split <;> simp [hlabel, hpn, Ne.symm hpn]

/-- One in-flight node charges its capacity to the provisioner it is recognized
    for, and to no other. -/
theorem Tracks.addExistingMachine {declared : String → Option ResourceList}
    {named : String → Option MachineTemplate} {nodes : List StateNode} {cs : List (Created Pod)}
    {s : Scheduler Pod Topology} (h : Tracks declared named nodes cs s.remainingResources)
    (node : StateNode) :
    Tracks declared named (nodes ++ [node]) cs (s.addExistingMachine named node).remainingResources := by
  intro p
  rw [Scheduler.addExistingMachine_remaining]
  by_cases hrec : recognizes named p node = true
  · rw [if_pos hrec]
    exact (h p).charge fun k => by simp [inflightCapacity_append, hrec]; omega
  · rw [if_neg hrec]
    exact (h p).congr fun k => by simp [inflightCapacity_append, hrec]

theorem Tracks.calculateExistingMachines {declared : String → Option ResourceList}
    {named : String → Option MachineTemplate} {nodes : List StateNode} {cs : List (Created Pod)}
    {s : Scheduler Pod Topology} (h : Tracks declared named nodes cs s.remainingResources)
    (stateNodes : List StateNode) :
    Tracks declared named (nodes ++ stateNodes) cs
      (s.calculateExistingMachines named stateNodes).remainingResources := by
  unfold Scheduler.calculateExistingMachines
  induction stateNodes generalizing s nodes with
  | nil => simpa using h
  | cons node rest ih =>
    rw [List.foldl_cons, ← List.singleton_append, ← List.append_assoc]
    exact ih (h.addExistingMachine node)

/-- `NewScheduler` starts each entry at the declared limits less the in-flight
    nodes it recognizes. -/
theorem newScheduler_tracks {machines : List MachineTemplate} {provisioners : List Provisioner}
    {stateNodes : List StateNode} {topology : Topology} {instanceTypes : String → List InstanceType}
    {daemonOverhead : MachineTemplate → ResourceList} {opts : SchedulerOptions} {nodeID : Nat}
    {named : String → Option MachineTemplate} {s₀ : Scheduler Pod Topology}
    (h₀ : newScheduler machines provisioners stateNodes topology instanceTypes daemonOverhead opts
      nodeID = some s₀) (hnamed : namedNodeTemplates machines = some named) :
    Tracks (declaredLimits provisioners) named stateNodes ([] : List (Created Pod)) s₀.remainingResources := by
  obtain ⟨named', hnamed', rfl⟩ := Option.map_eq_some'.mp h₀
  rw [hnamed] at hnamed'
  cases hnamed'
  exact (tracks_declaredLimits provisioners named).calculateExistingMachines stateNodes

/-! ### `add` -/

/-- A created node charges its largest capacities to its template's provisioner,
    and to no other. -/
theorem Tracks.add {declared : String → Option ResourceList}
    {named : String → Option MachineTemplate} {nodes : List StateNode} {cs : List (Created Pod)}
    {s : Scheduler Pod Topology} (h : Tracks declared named nodes cs s.remainingResources)
    (pod : Pod) :
    Tracks declared named nodes (cs ++ (s.add E pod).created.toList)
      (s.add E pod).scheduler.remainingResources := by
  rcases add_created E s pod with ⟨hc, hrem⟩ | ⟨c, s₁, hc, hrem, -, hok⟩
  · rw [hc, hrem]; simpa using h
  · have hne := (NodeWF.of_tryTemplate hok).options_ne
    rw [hc, (tryTemplate_ok hok).2.2.2, hrem]
    intro p
    by_cases hp : p = c.template.provisionerName
    · subst hp
      dsimp only
      rw [setRemaining_self, subtractMax_of_ne_nil _ hne]
      exact (h _).charge fun k => by simp [reservedCapacity_append]; omega
    · dsimp only
      rw [Option.toList_some, setRemaining_ne _ _ hp]
      refine (h p).congr fun k => ?_
      simp [reservedCapacity_append, Ne.symm hp]

/-- **The budget holds at every point of a scheduler's life.** -/
theorem Life.tracks {declared : String → Option ResourceList}
    {named : String → Option MachineTemplate} {nodes : List StateNode} {s₀ s : Scheduler Pod Topology}
    {cs : List (Created Pod)} (h : Life E s₀ s cs)
    (h₀ : Tracks declared named nodes ([] : List (Created Pod)) s₀.remainingResources) :
    Tracks declared named nodes cs s.remainingResources := by
  induction h with
  | start => exact h₀
  | add pod _ ih => exact ih.add pod
  | update _ _ ih => exact ih

/-- The instance types `add` hands `NewNode` for a template, read from the
    budget: those of the provisioner within it on every declared key. -/
theorem Scheduler.instanceTypesFor_eq_filter {s : Scheduler Pod Topology} {t : MachineTemplate}
    {declared : Option ResourceList} {used : String → Int}
    (h : Charged declared used (s.remainingResources t.provisionerName)) :
    s.instanceTypesFor t = (s.instanceTypes t.provisionerName).filter fun it =>
      (declared.getD GoMap.empty).entries.all fun e => decide (it.capacity.quantity e.1 ≤ e.2 - used e.1) := by
  unfold Scheduler.instanceTypesFor
  rcases h with ⟨hr, rfl⟩ | hr <;> rw [hr]
  · simp [GoMap.empty]
  · simp only [filterByRemainingResources, GoMap.mapVals, List.all_map]
    congr 1
    funext it
    congr 1
    funext e
    simp only [Function.comp_def, gt_iff_lt, ← decide_not, not_lt]

/-- **`remainingResources` is the declared limits less the charges.** At every
    point of the life of a scheduler `NewScheduler` built, take a provisioner
    whose record is the only one of its name that declares limits. Its
    prospective nodes pair one to one with the records of their creation, each
    grown from the node right after its first `Add`. Its entry is absent with no
    limits declared, or has exactly the declared keys, each the declared quantity
    less the capacity of the provisioner's recognized in-flight nodes and, over
    its prospective nodes, the largest capacity among each node's instance types
    right after its first `Add`. The instance types `add` hands `NewNode` for a
    template of the provisioner are exactly those of the provisioner within that
    budget on every declared key, so a provisioner without limits never has one
    excluded. -/
theorem remainingResources_budget {machines : List MachineTemplate}
    {provisioners : List Provisioner} {stateNodes : List StateNode} {topology : Topology}
    {instanceTypes : String → List InstanceType} {daemonOverhead : MachineTemplate → ResourceList}
    {opts : SchedulerOptions} {nodeID : Nat} {named : String → Option MachineTemplate}
    {s₀ s : Scheduler Pod Topology} {cs : List (Created Pod)}
    (h₀ : newScheduler machines provisioners stateNodes topology instanceTypes daemonOverhead opts
      nodeID = some s₀)
    (hnamed : namedNodeTemplates machines = some named) (hlife : Life E s₀ s cs)
    (prov : Provisioner) (hprov : prov ∈ provisioners)
    (hunique : ∀ q ∈ provisioners, q.name = prov.name → q.limits ≠ none → q = prov) :
    ∃ order : List (Created Pod), order.Perm cs ∧
      List.Forall₂ (fun n c => c.node.Grows n ∧ c.node.pods.length = 1) s.newNodes order ∧
      ((s.remainingResources prov.name = none ∧ prov.limits = none) ∨
        s.remainingResources prov.name = some ((prov.limits.getD GoMap.empty).mapVals fun k v =>
          v - (inflightCapacity named stateNodes prov.name k +
            prospectiveCharge s.newNodes order prov.name k))) ∧
      ∀ t : MachineTemplate, t.provisionerName = prov.name →
        s.instanceTypesFor t = (instanceTypes prov.name).filter (fun it =>
          (prov.limits.getD GoMap.empty).entries.all fun e =>
            decide (it.capacity.quantity e.1 ≤ e.2 - (inflightCapacity named stateNodes prov.name e.1 +
              prospectiveCharge s.newNodes order prov.name e.1))) ∧
        (prov.limits = none → s.instanceTypesFor t = instanceTypes prov.name) := by
  obtain ⟨order, hperm, hrel⟩ := hlife.paired (by rw [newScheduler_eq h₀])
  have hcharge : ∀ k, prospectiveCharge s.newNodes order prov.name k = reservedCapacity cs prov.name k :=
    fun k => (prospectiveCharge_eq_reservedCapacity hrel (fun _ _ hwf => hwf.provisionerName) _ k).trans
      (reservedCapacity_perm hperm _ k)
  have htracks : Charged prov.limits (fun k => inflightCapacity named stateNodes prov.name k +
      prospectiveCharge s.newNodes order prov.name k) (s.remainingResources prov.name) :=
    declaredLimits_of_unique hprov hunique ▸
      (hlife.tracks (newScheduler_tracks h₀ hnamed) prov.name).congr fun k => by rw [hcharge]
  have hinst : s.instanceTypes = instanceTypes := by
    rw [hlife.sameConfig.instanceTypes, newScheduler_eq h₀]
  refine ⟨order, hperm, hrel.imp fun _ _ hwf => ⟨hwf.grown, hwf.first⟩, htracks, fun t ht => ?_⟩
  have hfilter := Scheduler.instanceTypesFor_eq_filter (t := t) (ht ▸ htracks)
  rw [hinst, ht] at hfilter
  exact ⟨hfilter, fun hnone => by simp [hfilter, hnone, GoMap.empty]⟩

theorem remainingResources_budget_sample :
    ∃ named s cs, namedNodeTemplates [sampleTemplate] = some named ∧
      Life demoEnv limitedScheduler s cs ∧ s.newNodes.map (·.pods) = [["pod-a", "pod-b"], ["pod-c"]] ∧
      ∃ order : List (Created String), order.Perm cs ∧
        List.Forall₂ (fun n c => c.node.Grows n ∧ c.node.pods.length = 1) s.newNodes order ∧
        ((s.remainingResources sampleProvisioner.name = none ∧ sampleProvisioner.limits = none) ∨
          s.remainingResources sampleProvisioner.name =
            some ((sampleProvisioner.limits.getD GoMap.empty).mapVals fun k v =>
              v - (inflightCapacity named [] sampleProvisioner.name k +
                prospectiveCharge s.newNodes order sampleProvisioner.name k))) ∧
        ∀ t : MachineTemplate, t.provisionerName = sampleProvisioner.name →
          s.instanceTypesFor t = [sampleType].filter (fun it =>
            (sampleProvisioner.limits.getD GoMap.empty).entries.all fun e =>
              decide (it.capacity.quantity e.1 ≤ e.2 - (inflightCapacity named [] sampleProvisioner.name e.1 +
                prospectiveCharge s.newNodes order sampleProvisioner.name e.1))) ∧
          (sampleProvisioner.limits = none → s.instanceTypesFor t = [sampleType]) :=
  ⟨_, _, _, rfl, .add "pod-c" (.add "pod-b" (.add "pod-a" .start)), by decide,
    remainingResources_budget limitedScheduler_eq rfl (.add "pod-c" (.add "pod-b" (.add "pod-a" .start)))
      sampleProvisioner (List.mem_singleton_self _) fun q hq _ _ => List.mem_singleton.mp hq⟩

/-! ### The limits hold -/

/-- Once a provisioner has a created node, its entry of `remainingResources`
    holds no negative quantity. -/
def ChargedWithin (cs : List (Created Pod)) (remaining : String → Option ResourceList) : Prop :=
  ∀ p, (∃ c ∈ cs, c.template.provisionerName = p) →
    ∀ budget, remaining p = some budget → ∀ k v, budget.get? k = some v → 0 ≤ v

/-- A node a template created has its largest capacities within its
    provisioner's remaining resources, since `add` handed it only instance types
    within them. -/
theorem tryTemplate_maxCapacity_le {s s' : Scheduler Pod Topology} {pod : Pod} {t : MachineTemplate}
    {c : Created Pod} (hok : s.tryTemplate E pod t = .ok (s', c)) {remaining : ResourceList}
    (hold : s.remainingResources c.template.provisionerName = some remaining) {k : String} {v : Int}
    (hv : remaining.get? k = some v) : maxCapacity c.node.instanceTypeOptions k ≤ v := by
  have hwf := NodeWF.of_tryTemplate hok
  obtain ⟨rfl, hhanded, -⟩ := tryTemplate_ok hok
  refine maxCapacity_le hwf.options_ne fun it hit => ?_
  have hit' := hhanded ▸ hwf.handed.subset hit
  simp only [Scheduler.instanceTypesFor, hold] at hit'
  exact le_of_mem_filterByRemainingResources hit' hv

/-- Every provisioner that created a node has no negative remaining resource. -/
theorem ChargedWithin.add {s : Scheduler Pod Topology} {cs : List (Created Pod)}
    (h : ChargedWithin cs s.remainingResources) (pod : Pod) :
    ChargedWithin (cs ++ (s.add E pod).created.toList) (s.add E pod).scheduler.remainingResources := by
  rcases add_created E s pod with ⟨hc, hrem⟩ | ⟨c, s₁, hc, hrem, -, hok⟩
  · rw [hc, hrem]; simpa using h
  · rw [hc, (tryTemplate_ok hok).2.2.2]
    intro p hp budget hbudget k v hkv
    by_cases hpc : p = c.template.provisionerName
    · subst hpc
      simp only [setRemaining_self, Option.some.injEq] at hbudget
      subst hbudget
      rw [subtractMax_of_ne_nil _ (NodeWF.of_tryTemplate hok).options_ne, GoMap.get?_mapVals] at hkv
      cases hold : s₁.remainingResources c.template.provisionerName with
      | none => simp [hold] at hkv
      | some remaining =>
        rw [hold, Option.getD_some] at hkv
        obtain ⟨v₀, hv₀, rfl⟩ := Option.map_eq_some'.mp hkv
        have hle := tryTemplate_maxCapacity_le hok hold hv₀
        omega
    · simp only [setRemaining_ne _ _ hpc, hrem] at hbudget
      obtain ⟨c', hc', hprov⟩ := hp
      rw [List.mem_append, Option.mem_toList, Option.mem_def, Option.some.injEq] at hc'
      rcases hc' with hc' | rfl
      · exact h p ⟨c', hc', hprov⟩ budget hbudget k v hkv
      · exact absurd hprov.symm hpc

theorem Life.chargedWithin {s₀ s : Scheduler Pod Topology} {cs : List (Created Pod)}
    (h : Life E s₀ s cs) : ChargedWithin cs s.remainingResources := by
  induction h with
  | start => intro p hp; simp at hp
  | add pod _ ih => exact ih.add pod
  | update _ _ ih => exact ih

/-- A created node offers only instance types of its template's provisioner. -/
theorem Life.created_options {s₀ s : Scheduler Pod Topology} {cs : List (Created Pod)}
    (h : Life E s₀ s cs) :
    ∀ c ∈ cs, ∀ it ∈ c.node.instanceTypeOptions, it ∈ s₀.instanceTypes c.template.provisionerName := by
  induction h with
  | start => intro c hc; simp at hc
  | @add s cs pod hlife ih =>
    intro c hc it hit
    rcases add_created E s pod with ⟨hnone, -⟩ | ⟨c', s₁, hsome, -, hinst, hok⟩
    · rw [hnone, Option.toList_none, List.append_nil] at hc
      exact ih c hc it hit
    · rw [hsome, List.mem_append, Option.mem_toList, Option.mem_def, Option.some.injEq] at hc
      rcases hc with hc | hcc
      · exact ih c hc it hit
      · subst hcc
        have hit' := (tryTemplate_ok hok).2.1 ▸ (NodeWF.of_tryTemplate hok).handed.subset hit
        have hin := (Scheduler.instanceTypesFor_sublist s₁ c'.template).subset hit'
        rwa [hinst, hlife.sameConfig.instanceTypes] at hin
  | update _ _ ih => exact ih

/-- Summing over nodes paired with records, provisioner by provisioner. -/
private theorem sum_le_of_forall₂ {R : Node Pod → Created Pod → Prop} {l₁ : List (Node Pod)}
    {l₂ : List (Created Pod)} (h : List.Forall₂ R l₁ l₂) {p : String} {f : Node Pod → Int}
    {g : Created Pod → Int}
    (hR : ∀ n c, R n c → c ∈ l₂ → n.provisionerName = c.template.provisionerName ∧ f n ≤ g c) :
    ((l₁.filter fun n => n.provisionerName == p).map f).sum ≤
      ((l₂.filter fun c => c.template.provisionerName == p).map g).sum := by
  induction h with
  | nil => simp
  | @cons n c l₁ l₂ hnc _ ih =>
    obtain ⟨hprov, hle⟩ := hR n c hnc (List.mem_cons_self c l₂)
    have htail := ih fun n' c' h' hc' => hR n' c' h' (List.mem_cons_of_mem c hc')
    by_cases hp : n.provisionerName = p
    · rw [List.filter_cons_of_pos (by simpa using hp),
        List.filter_cons_of_pos (by simpa [← hprov] using hp)]
      simp only [List.map_cons, List.sum_cons]
      omega
    · rw [List.filter_cons_of_neg (by simpa using hp),
        List.filter_cons_of_neg (by simpa [← hprov] using hp)]
      exact htail

/-- The prospective nodes reserve no more than they were charged when created:
    a node's instance types only narrow, so its largest capacity only drops. -/
theorem Paired.reserved_le {d : MachineTemplate → ResourceList} {nodes : List (Node Pod)}
    {cs : List (Created Pod)} (h : Paired E d nodes cs) (p k : String)
    (hcap : ∀ c ∈ cs, ∀ it ∈ c.node.instanceTypeOptions, 0 ≤ it.capacity.quantity k) :
    ((nodes.filter fun n => n.provisionerName == p).map fun n =>
      maxCapacity n.instanceTypeOptions k).sum ≤ reservedCapacity cs p k := by
  obtain ⟨order, hperm, hrel⟩ := h
  calc _ ≤ ((order.filter fun c => c.template.provisionerName == p).map fun c =>
          maxCapacity c.node.instanceTypeOptions k).sum :=
        sum_le_of_forall₂ hrel fun _ c hwf hc =>
          ⟨hwf.provisionerName, maxCapacity_mono hwf.grown.options (hcap c (hperm.subset hc))⟩
    _ = reservedCapacity cs p k := reservedCapacity_perm hperm p k

/-- **The prospective nodes Solve returns stay within their provisioner's
    limits.** With nonnegative instance-type capacities, take a provisioner
    record that declares limits, the last of its name to declare any, whose
    provisioner has at least one prospective node. On every declared resource
    the capacity of its recognized in-flight nodes plus, over its prospective
    nodes, the largest capacity among each node's remaining instance types is
    within the limit, so whichever instance type is launched for each node the
    limits hold. -/
theorem solve_within_provisioner_limits {machines : List MachineTemplate}
    {provisioners : List Provisioner} {stateNodes : List StateNode} {topology : Topology}
    {instanceTypes : String → List InstanceType} {daemonOverhead : MachineTemplate → ResourceList}
    {opts : SchedulerOptions} {nodeID fuel : Nat} {pods : List Pod}
    {named : String → Option MachineTemplate} {s₀ : Scheduler Pod Topology}
    {r : SolveResult Pod Topology}
    (h₀ : newScheduler machines provisioners stateNodes topology instanceTypes daemonOverhead opts
      nodeID = some s₀)
    (hnamed : namedNodeTemplates machines = some named)
    (hcap : ∀ p, ∀ it ∈ instanceTypes p, ∀ k, 0 ≤ it.capacity.quantity k)
    (hr : s₀.solve E fuel pods = some r) (pre post : List Provisioner) (prov : Provisioner)
    (limits : ResourceList) (hprov : provisioners = pre ++ prov :: post)
    (hlimits : prov.limits = some limits) (hlast : ∀ q ∈ post, q.name = prov.name → q.limits = none)
    (hp : ∃ n ∈ r.newNodes, n.provisionerName = prov.name) :
    ∀ k v, limits.get? k = some v →
      inflightCapacity named stateNodes prov.name k +
        ((r.newNodes.filter fun n => n.provisionerName == prov.name).map fun n =>
          maxCapacity n.instanceTypeOptions k).sum ≤ v := by
  obtain ⟨st, -, hlife, hnew, -⟩ := solve_eq_some hr
  have h₀eq := newScheduler_eq h₀
  have hpaired := hlife.paired (by rw [h₀eq])
  have hcharged := hlife.tracks (newScheduler_tracks h₀ hnamed) prov.name
  rw [hprov, declaredLimits_of_last hlimits hlast] at hcharged
  rcases hcharged with ⟨-, hnone⟩ | hbudget
  · cases hnone
  -- the provisioner has a created node, so its remaining resources are not negative
  have hcreated : ∃ c ∈ st.created, c.template.provisionerName = prov.name := by
    obtain ⟨n, hn, hnp⟩ := hp
    rw [hnew, List.mem_map] at hn
    obtain ⟨m, hm, rfl⟩ := hn
    obtain ⟨c, hc, hwf⟩ := hpaired.exists_wf hm
    exact ⟨c, hc, hwf.provisionerName.symm.trans hnp⟩
  have hwithin := hlife.chargedWithin prov.name hcreated _ hbudget
  intro k v hkv
  have hinst : s₀.instanceTypes = instanceTypes := by rw [h₀eq]
  have hreserved : ((r.newNodes.filter fun n => n.provisionerName == prov.name).map fun n =>
      maxCapacity n.instanceTypeOptions k).sum ≤ reservedCapacity st.created prov.name k := by
    rw [hnew, List.filter_map, List.map_map]
    exact hpaired.reserved_le prov.name k fun c hc it hit =>
      hcap _ it (hinst ▸ hlife.created_options c hc it hit) k
  have hv : 0 ≤ v - (inflightCapacity named stateNodes prov.name k +
      reservedCapacity st.created prov.name k) :=
    hwithin k _ (by rw [GoMap.get?_mapVals, Option.getD_some, hkv]; rfl)
  omega

theorem sampleType_capacity_nonneg (k : String) : 0 ≤ sampleType.capacity.quantity k := by
  cases hk : k == "cpu" <;> simp [sampleType, quantity, GoMap.get?, List.lookup_cons, hk]

theorem solve_within_provisioner_limits_sample :
    ∃ (named : String → Option MachineTemplate) (r : SolveResult String Unit),
      namedNodeTemplates [sampleTemplate] = some named ∧
      limitedScheduler.solve demoEnv 4 ["pod-a", "pod-b", "pod-c"] = some r ∧
      r.newNodes.map (·.pods) = [["pod-a", "pod-b"], ["pod-c"]] ∧
      (∃ n ∈ r.newNodes, n.provisionerName = sampleProvisioner.name) ∧
      ∀ k v, (⟨[("cpu", 8)], by decide⟩ : ResourceList).get? k = some v →
        inflightCapacity named [] sampleProvisioner.name k +
          ((r.newNodes.filter fun n => n.provisionerName == sampleProvisioner.name).map fun n =>
            maxCapacity n.instanceTypeOptions k).sum ≤ v :=
  ⟨_, _, rfl, rfl, by decide, by decide, solve_within_provisioner_limits limitedScheduler_eq rfl
    (fun _ it hit k => by rw [List.mem_singleton.mp hit]; exact sampleType_capacity_nonneg k)
    (rfl : limitedScheduler.solve demoEnv 4 ["pod-a", "pod-b", "pod-c"] = _) [] [] sampleProvisioner
    _ rfl rfl (fun _ h => nomatch h) (by decide)⟩

end KarpenterCore
