import KarpenterCore.AddSpec
import KarpenterCore.NodeLife
import KarpenterCore.Solve
import Mathlib.Data.List.Forall2

/-!
# A scheduler's life

`Life E s₀ s cs`: the scheduler `s` is reached from `s₀` by `add` calls and by
the topology updates Solve makes after a relaxation, in any order and for any
pods, and `cs` records the prospective nodes those `add` calls created. Every
iteration of Solve's loop is such a step (`solveLoop_life`), so a law proved of
every life holds of every run of Solve.

The first such law pairs the prospective nodes with their creation records, one
to one, each node keeping the laws of `NodeWF` (`Life.paired`). Read through
`FinalizeScheduling`, it gives what Solve returns about each prospective node.
-/

namespace KarpenterCore

variable {Pod Topology : Type} {E : Env Pod Topology}

/-- The schedulers reachable from `s₀`, with the creation records of the nodes
    `add` created on the way. -/
inductive Life (E : Env Pod Topology) (s₀ : Scheduler Pod Topology) :
    Scheduler Pod Topology → List (Created Pod) → Prop
  | start : Life E s₀ s₀ []
  | add {s : Scheduler Pod Topology} {cs : List (Created Pod)} (pod : Pod) :
      Life E s₀ s cs → Life E s₀ (s.add E pod).scheduler (cs ++ (s.add E pod).created.toList)
  | update {s : Scheduler Pod Topology} {cs : List (Created Pod)} (pod : Pod) :
      Life E s₀ s cs → Life E s₀ { s with topology := E.update s.topology pod } cs

variable {s₀ s : Scheduler Pod Topology} {cs : List (Created Pod)}

theorem Scheduler.SameConfig.trans {s₁ s₂ s₃ : Scheduler Pod Topology} (h₁ : s₁.SameConfig s₂)
    (h₂ : s₂.SameConfig s₃) : s₁.SameConfig s₃ :=
  ⟨h₂.machineTemplates.trans h₁.machineTemplates, h₂.instanceTypes.trans h₁.instanceTypes,
    h₂.daemonOverhead.trans h₁.daemonOverhead, h₂.preferences.trans h₁.preferences,
    h₂.opts.trans h₁.opts⟩

/-- Along a life the templates, instance types, daemon overheads, preferences and
    options stay those of `s₀`. -/
theorem Life.sameConfig (h : Life E s₀ s cs) : s₀.SameConfig s := by
  induction h with
  | start => exact ⟨rfl, rfl, rfl, rfl, rfl⟩
  | add pod _ ih => exact ih.trans (add_sameConfig E _ pod)
  | update _ _ ih => exact ih.trans ⟨rfl, rfl, rfl, rfl, rfl⟩

/-! ### Solve's loop is a life -/

/-- One iteration of Solve's loop is an `add`, followed by a topology update when
    the pod was relaxed. -/
theorem solveStep_life {st st' : SolveState Pod Topology} (h : solveStep E st = some st')
    (hl : Life E s₀ st.scheduler st.created) : Life E s₀ st'.scheduler st'.created := by
  obtain ⟨pod, q, -, ⟨-, rfl⟩ | ⟨err, -, ⟨relaxed, -, rfl⟩ | ⟨-, rfl⟩⟩⟩ := solveStep_some h
  · exact hl.add pod
  · exact (hl.add pod).update relaxed
  · exact hl.add pod

theorem solveLoop_life {fuel : Nat} {st st' : SolveState Pod Topology}
    (h : solveLoop E fuel st = some st') (hl : Life E s₀ st.scheduler st.created) :
    Life E s₀ st'.scheduler st'.created :=
  (@solveLoop_induction Pod Topology E (fun st => Life E s₀ st.scheduler st.created)
    (fun _ _ hl hs => solveStep_life hs hl) fuel st st' h hl).1

/-- What `Solve` returns is the state its loop ended in, with the prospective
    nodes finalized. -/
theorem solve_eq_some {fuel : Nat} {pods : List Pod} {r : SolveResult Pod Topology}
    (h : s₀.solve E fuel pods = some r) :
    ∃ st, solveLoop E fuel ⟨s₀, newQueue pods, fun _ => none, []⟩ = some st ∧
      Life E s₀ st.scheduler st.created ∧
      r.newNodes = st.scheduler.newNodes.map Node.finalizeScheduling ∧
      r.existingNodes = st.scheduler.existingNodes ∧ r.failed = st.queue.pods ∧
      r.errors = st.errors ∧ r.created = st.created ∧
      r.effects = (if st.scheduler.opts.simulationMode then [] else
        recordSchedulingResults E
          { st.scheduler with newNodes := st.scheduler.newNodes.map Node.finalizeScheduling }
          st.queue.pods st.errors) := by
  obtain ⟨st, hloop, rfl⟩ := Option.map_eq_some'.mp h
  exact ⟨st, hloop, solveLoop_life hloop .start, rfl, rfl, rfl, rfl, rfl, rfl⟩

/-! ### Prospective nodes and their creation records -/

/-- Each prospective node paired with its own creation record, under whose laws
    it lives. -/
def Paired (E : Env Pod Topology) (daemonOverhead : MachineTemplate → ResourceList)
    (nodes : List (Node Pod)) (cs : List (Created Pod)) : Prop :=
  ∃ order : List (Created Pod), order.Perm cs ∧ List.Forall₂ (NodeWF E daemonOverhead) nodes order

/-- Replacing one element of a list by one that relates to whatever it related
    to keeps a pointwise relation. -/
theorem forall₂_update_middle {α β : Type} {R : α → β → Prop} {pre post : List α}
    {a a' : α} {l : List β} (h : List.Forall₂ R (pre ++ a :: post) l)
    (hup : ∀ b, R a b → R a' b) : List.Forall₂ R (pre ++ a' :: post) l := by
  induction pre generalizing l with
  | nil =>
    cases h with
    | cons hab hrest => exact .cons (hup _ hab) hrest
  | cons x pre ih =>
    cases h with
    | cons hx hrest => exact .cons hx (ih hrest)

/-- An element related pointwise to a list relates to one of its elements. -/
theorem exists_of_forall₂ {α β : Type} {R : α → β → Prop} {l₁ : List α} {l₂ : List β}
    (h : List.Forall₂ R l₁ l₂) {a : α} (ha : a ∈ l₁) : ∃ b ∈ l₂, R a b := by
  induction h with
  | nil => cases ha
  | cons hab _ ih =>
    rcases List.mem_cons.mp ha with rfl | ha
    · exact ⟨_, List.mem_cons_self _ _, hab⟩
    · obtain ⟨b, hb, hr⟩ := ih ha
      exact ⟨b, List.mem_cons_of_mem _ hb, hr⟩

/-- The pairing survives `sort.Slice`: sorted nodes pair with a permutation of
    the same records. -/
private theorem Paired.sort {d : MachineTemplate → ResourceList} {nodes : List (Node Pod)}
    (h : Paired E d nodes cs) : Paired E d (E.sortByPods nodes) cs := by
  obtain ⟨order, hperm, hrel⟩ := h
  obtain ⟨order', hrel', hperm'⟩ := List.perm_comp_forall₂ (E.sortByPods_perm nodes) hrel
  exact ⟨order', hperm'.trans hperm, hrel'⟩

/-- A node that a template's `tryTemplate` created keeps its laws, relative to
    the record `tryTemplate` returned. -/
theorem NodeWF.of_tryTemplate {s s' : Scheduler Pod Topology} {pod : Pod} {t : MachineTemplate}
    {c : Created Pod} (h : s.tryTemplate E pod t = .ok (s', c)) :
    NodeWF E s.daemonOverhead c.node c := by
  obtain ⟨rfl, hinst, ⟨n₀, topology₁, hnew, hadd⟩, -⟩ := tryTemplate_ok h
  have hc : (⟨c.template, s.instanceTypesFor c.template, c.node⟩ : Created Pod) = c := by
    rw [← hinst]
  exact hc ▸ NodeWF.created hnew hadd

/-- `add` keeps the pairing: the node that takes the pod stays paired with its
    record, and a node a template creates is paired with the record `add`
    reports. -/
theorem Paired.add (pod : Pod) (h : Paired E s.daemonOverhead s.newNodes cs) :
    Paired E (s.add E pod).scheduler.daemonOverhead (s.add E pod).scheduler.newNodes
      (cs ++ (s.add E pod).created.toList) := by
  rw [(add_sameConfig E s pod).daemonOverhead]
  have hsorted := Paired.sort h
  rcases add_cases E s pod with ⟨_, _, _, _, _, _, _, _, hr⟩ |
    ⟨_, pre, n, post, n', topology, hsplit, _, hn, hr⟩ | ⟨_, _, hr⟩
  · rw [hr]; simpa using h
  · rw [hr]
    obtain ⟨order, hperm, hrel⟩ := hsorted
    rw [hsplit] at hrel
    exact ⟨order, by simpa using hperm, forall₂_update_middle hrel fun c hc => hc.add hn⟩
  · rw [hr]
    rcases addToNewNode_spec E pod s.machineTemplates none { s with newNodes := E.sortByPods s.newNodes }
      with ⟨hc, -, hreg⟩ | ⟨c, s₁, hc, -, -, hreg, hok⟩
    · rw [hc, hreg.eq]
      simpa using hsorted
    · obtain ⟨order, hperm, hrel⟩ := hsorted
      have hs₁ := hreg.eq
      have hwf := NodeWF.of_tryTemplate hok
      rw [hs₁] at hwf
      rw [hc, (tryTemplate_ok hok).2.2.2, hs₁]
      exact ⟨order ++ [c], hperm.append_right [c], List.rel_append hrel (.cons hwf .nil)⟩

/-- **Prospective nodes and creation records, one to one.** From a scheduler
    with no prospective node, every life pairs each prospective node with its
    own creation record, the node keeping the laws of `NodeWF`. -/
theorem Life.paired (h : Life E s₀ s cs) (h₀ : s₀.newNodes = []) :
    Paired E s.daemonOverhead s.newNodes cs := by
  induction h with
  | start => exact ⟨[], .nil, by rw [h₀]; exact .nil⟩
  | add pod _ ih => exact ih.add pod
  | update _ _ ih => exact ih

/-- Every node of a paired list keeps its laws relative to one of the records. -/
theorem Paired.exists_wf {d : MachineTemplate → ResourceList} {nodes : List (Node Pod)}
    (h : Paired E d nodes cs) {n : Node Pod} (hn : n ∈ nodes) : ∃ c ∈ cs, NodeWF E d n c := by
  obtain ⟨order, hperm, hrel⟩ := h
  obtain ⟨c, hc, hwf⟩ := exists_of_forall₂ hrel hn
  exact ⟨c, hperm.subset hc, hwf⟩

/-- `calculateExistingMachines` writes only the in-flight nodes and the remaining
    resources. -/
theorem calculateExistingMachines_eq (s : Scheduler Pod Topology)
    (named : String → Option MachineTemplate) (stateNodes : List StateNode) :
    s.calculateExistingMachines named stateNodes = { s with
      existingNodes := (s.calculateExistingMachines named stateNodes).existingNodes,
      remainingResources := (s.calculateExistingMachines named stateNodes).remainingResources } := by
  unfold Scheduler.calculateExistingMachines
  induction stateNodes generalizing s with
  | nil => rfl
  | cons node nodes ih =>
    rw [List.foldl_cons, ih]
    unfold Scheduler.addExistingMachine
    split
    · rfl
    · split <;> rfl

/-- Every in-flight node `calculateExistingMachines` adds is one that
    `NewExistingNode` built. -/
theorem mem_calculateExistingMachines {s : Scheduler Pod Topology}
    {named : String → Option MachineTemplate} {stateNodes : List StateNode} {n : ExistingNode Pod}
    (h : n ∈ (s.calculateExistingMachines named stateNodes).existingNodes) :
    n ∈ s.existingNodes ∨ ∃ node taints daemon, n = newExistingNode node taints daemon := by
  unfold Scheduler.calculateExistingMachines at h
  induction stateNodes generalizing s with
  | nil => exact .inl h
  | cons node nodes ih =>
    rcases ih h with h | h
    · unfold Scheduler.addExistingMachine at h
      split at h
      · exact .inl h
      · split at h
        · exact .inl h
        · rcases List.mem_append.mp h with h | h
          · exact .inl h
          · exact .inr ⟨_, _, _, List.mem_singleton.mp h⟩
    · exact .inr h

/-- What `NewScheduler` sets besides the in-flight nodes and the remaining
    resources: no prospective node, and its arguments as given. -/
theorem newScheduler_eq {machines : List MachineTemplate} {provisioners : List Provisioner}
    {stateNodes : List StateNode} {topology : Topology} {instanceTypes : String → List InstanceType}
    {daemonOverhead : MachineTemplate → ResourceList} {opts : SchedulerOptions} {nodeID : Nat}
    (h : newScheduler machines provisioners stateNodes topology instanceTypes daemonOverhead opts
      nodeID = some s₀) :
    s₀ = {
      newNodes := [], existingNodes := s₀.existingNodes, machineTemplates := machines,
      remainingResources := s₀.remainingResources, instanceTypes, daemonOverhead,
      preferences := s₀.preferences, topology, opts, nodeID } := by
  obtain ⟨named, -, rfl⟩ := Option.map_eq_some'.mp h
  rw [calculateExistingMachines_eq]

/-- `NewScheduler` builds each in-flight node with no pod and no reserved host
    port. -/
theorem newScheduler_existingNodes_fresh {machines : List MachineTemplate}
    {provisioners : List Provisioner} {stateNodes : List StateNode} {topology : Topology}
    {instanceTypes : String → List InstanceType} {daemonOverhead : MachineTemplate → ResourceList}
    {opts : SchedulerOptions} {nodeID : Nat}
    (h₀ : newScheduler machines provisioners stateNodes topology instanceTypes daemonOverhead opts
      nodeID = some s₀) :
    ∀ n ∈ s₀.existingNodes, n.pods = [] ∧ n.hostPortUsage.reserved = [] := by
  obtain ⟨named, -, rfl⟩ := Option.map_eq_some'.mp h₀
  intro n hn
  rcases mem_calculateExistingMachines hn with hn | ⟨_, _, _, rfl⟩
  · cases hn
  · exact ⟨rfl, rfl⟩

end KarpenterCore
