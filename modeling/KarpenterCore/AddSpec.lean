import KarpenterCore.Scheduler

/-!
# What one `add` does

The inversion lemmas of `Scheduler.add` and of the loops it runs: a node list
tried in order (`addFirst`), one machine template (`tryTemplate`), and the
templates in declaration order (`addToNewNode`). `add_cases` says everything
one call can do; every law about the scheduler's state cites it and never
unfolds `add`.

A template whose node rejects the pod still leaves a trace: `NewNode` registered
the node's placeholder hostname with the topology and advanced the counter.
`RegistersOnly` names that trace, and it is all a rejected template leaves.
-/

namespace KarpenterCore

variable {Pod Topology : Type} {E : Env Pod Topology}

open ResourceList

/-! ### Trying nodes in order -/

section AddFirst

variable {α ε : Type} {tryAdd : α → Except ε (α × Topology)}

/-- The loop over a node list places nothing exactly when every node rejects. -/
theorem addFirst_eq_none {l : List α} :
    addFirst tryAdd l = none ↔ ∀ n ∈ l, ∃ err, tryAdd n = .error err := by
  induction l with
  | nil => simp [addFirst]
  | cons n ns ih =>
    rcases hn : tryAdd n with err | ⟨n', topology⟩
    · simp [addFirst, hn, ih]
    · simp [addFirst, hn]

/-- The loop over a node list places the pod on the first node that accepts it,
    after every node before it rejected, and changes no other node. -/
theorem addFirst_eq_some {l l' : List α} {topology : Topology}
    (h : addFirst tryAdd l = some (l', topology)) :
    ∃ pre n post n', l = pre ++ n :: post ∧ (∀ m ∈ pre, ∃ err, tryAdd m = .error err) ∧
      tryAdd n = .ok (n', topology) ∧ l' = pre ++ n' :: post := by
  induction l generalizing l' with
  | nil => cases h
  | cons n ns ih =>
    rcases hn : tryAdd n with err | ⟨n', topology'⟩ <;> simp only [addFirst, hn] at h
    · obtain ⟨⟨l₁, t₁⟩, hr, hl⟩ := Option.map_eq_some'.mp h
      cases hl
      obtain ⟨pre, m, post, m', rfl, hpre, hm, rfl⟩ := ih hr
      refine ⟨n :: pre, m, post, m', rfl, ?_, hm, rfl⟩
      rintro x (_ | ⟨_, hx⟩)
      · exact ⟨err, hn⟩
      · exact hpre x hx
    · cases h
      exact ⟨[], n, ns, n', rfl, by simp, hn, rfl⟩

end AddFirst

/-! ### What a rejected template leaves -/

/-- `s'` is `s` after `NewNode` calls alone: each registered a placeholder
    hostname with the topology and advanced the counter, and nothing else moved;
    in particular `Topology.Record` never ran. -/
def RegistersOnly (E : Env Pod Topology) (s s' : Scheduler Pod Topology) : Prop :=
  ∃ hostnames : List String, s' = { s with
    topology := hostnames.foldl (fun topology h => E.register topology labelHostname h) s.topology,
    nodeID := s.nodeID + hostnames.length }

theorem RegistersOnly.refl (s : Scheduler Pod Topology) : RegistersOnly E s s :=
  ⟨[], rfl⟩

theorem RegistersOnly.trans {s₁ s₂ s₃ : Scheduler Pod Topology} (h₁ : RegistersOnly E s₁ s₂)
    (h₂ : RegistersOnly E s₂ s₃) : RegistersOnly E s₁ s₃ := by
  obtain ⟨hs₁, rfl⟩ := h₁
  obtain ⟨hs₂, rfl⟩ := h₂
  exact ⟨hs₁ ++ hs₂, by simp [List.foldl_append, Nat.add_assoc]⟩

/-- Only the topology and the counter differ. -/
theorem RegistersOnly.eq {s s' : Scheduler Pod Topology} (h : RegistersOnly E s s') :
    s' = { s with topology := s'.topology, nodeID := s'.nodeID } := by
  obtain ⟨hs, rfl⟩ := h
  rfl

/-! ### One machine template -/

/-- A template that does not take the pod leaves at most its node's hostname
    registration behind. -/
theorem tryTemplate_error {s s' : Scheduler Pod Topology} {pod : Pod} {t : MachineTemplate}
    {err : SchedulingError} (h : s.tryTemplate E pod t = .error (err, s')) :
    RegistersOnly E s s' := by
  unfold Scheduler.tryTemplate at h
  split at h
  · cases h
    exact RegistersOnly.refl s
  · simp only [newNode] at h
    split at h
    · cases h
      exact ⟨[hostnamePlaceholder (s.nodeID + 1)], rfl⟩
    · cases h

/-- A template that takes the pod: its fresh node, handed `instanceTypesFor`,
    accepted the pod, joins `newNodes`, and the template's provisioner entry of
    `remainingResources` drops by the node's largest instance types. -/
theorem tryTemplate_ok {s s' : Scheduler Pod Topology} {pod : Pod} {t : MachineTemplate}
    {c : Created Pod} (h : s.tryTemplate E pod t = .ok (s', c)) :
    c.template = t ∧ c.instanceTypes = s.instanceTypesFor t ∧
      (∃ n₀ topology₁, newNode E t s.topology (s.daemonOverhead t) (s.instanceTypesFor t) s.nodeID =
          (n₀, topology₁, s.nodeID + 1) ∧ n₀.add E topology₁ pod = .ok (c.node, s'.topology)) ∧
      s' = { s with
        newNodes := s.newNodes ++ [c.node], topology := s'.topology, nodeID := s.nodeID + 1,
        remainingResources := setRemaining s.remainingResources t.provisionerName
          (subtractMax ((s.remainingResources t.provisionerName).getD GoMap.empty)
            c.node.instanceTypeOptions) } := by
  unfold Scheduler.tryTemplate at h
  split at h
  · cases h
  · simp only [newNode] at h
    split at h
    · cases h
    · rename_i n₁ topology₂ hadd
      cases h
      exact ⟨rfl, rfl, ⟨_, _, rfl, hadd⟩, rfl⟩

/-! ### The loop over the templates -/

/-- `RejectChain E pod s ts s'`: the loop over the templates, run from `s` on
    `ts`, saw every template reject the pod, and `s'` is where it stood after
    the last of them. -/
inductive RejectChain (E : Env Pod Topology) (pod : Pod) :
    Scheduler Pod Topology → List MachineTemplate → Scheduler Pod Topology → Prop
  | nil (s : Scheduler Pod Topology) : RejectChain E pod s [] s
  | cons {s s₁ s₂ : Scheduler Pod Topology} {t : MachineTemplate} {ts : List MachineTemplate}
      {err : SchedulingError} : s.tryTemplate E pod t = .error (err, s₁) →
      RejectChain E pod s₁ ts s₂ → RejectChain E pod s (t :: ts) s₂

/-- **The loop over the machine templates.** Either no template took the pod:
    nothing was created, the result is an error unless there was no template
    and no earlier error, and the scheduler moved only by registrations. Or a
    template took it, the first that did: every template before it rejected the
    pod and moved the scheduler only by registrations, and the result is `nil`. -/
theorem addToNewNode_spec (E : Env Pod Topology) (pod : Pod) (ts : List MachineTemplate)
    (errs : Option SchedulingError) (s : Scheduler Pod Topology) :
    ((s.addToNewNode E pod ts errs).created = none ∧
      ((s.addToNewNode E pod ts errs).err = none ↔ ts = [] ∧ errs = none) ∧
      RegistersOnly E s (s.addToNewNode E pod ts errs).scheduler) ∨
    (∃ c s₁, (s.addToNewNode E pod ts errs).created = some c ∧
      (s.addToNewNode E pod ts errs).err = none ∧
      (∃ pre post, ts = pre ++ c.template :: post ∧ RejectChain E pod s pre s₁) ∧
      RegistersOnly E s s₁ ∧
      s₁.tryTemplate E pod c.template = .ok ((s.addToNewNode E pod ts errs).scheduler, c)) := by
  induction ts generalizing errs s with
  | nil => exact .inl ⟨rfl, by simp [Scheduler.addToNewNode], RegistersOnly.refl s⟩
  | cons t ts ih =>
    rcases h : s.tryTemplate E pod t with ⟨err, s'⟩ | ⟨s', c⟩
    · have hs' := tryTemplate_error h
      have hr : s.addToNewNode E pod (t :: ts) errs =
          s'.addToNewNode E pod ts (some (appendError errs err)) := by
        simp only [Scheduler.addToNewNode, h]
      rw [hr]
      rcases ih (some (appendError errs err)) s' with
        ⟨hc, herr, hreg⟩ | ⟨c, s₁, hc, herr, ⟨pre, post, hsplit, hchain⟩, hreg, hok⟩
      · exact .inl ⟨hc, by simpa using herr, hs'.trans hreg⟩
      · exact .inr ⟨c, s₁, hc, herr, ⟨t :: pre, post, by rw [hsplit]; rfl, .cons h hchain⟩,
          hs'.trans hreg, hok⟩
    · have ht := (tryTemplate_ok h).1
      have hr : s.addToNewNode E pod (t :: ts) errs = ⟨none, s', some c⟩ := by
        simp only [Scheduler.addToNewNode, h]
      rw [hr]
      exact .inr ⟨c, s, rfl, rfl, ⟨[], ts, by rw [ht]; rfl, .nil s⟩, RegistersOnly.refl s, ht ▸ h⟩

/-! ### `add` -/

/-- **Everything one `add` can do.** The pod goes to the first in-flight node
    that accepts it; else, with `newNodes` sorted by pod count, to the first
    prospective node that accepts it; else `add` runs the loop over the machine
    templates in declaration order. A node that accepts changes alone, and the
    topology is the one its `Add` recorded. -/
theorem add_cases (E : Env Pod Topology) (s : Scheduler Pod Topology) (pod : Pod) :
    (∃ pre n post n' topology, s.existingNodes = pre ++ n :: post ∧
      (∀ m ∈ pre, ∃ err, m.add E s.topology pod = .error err) ∧
      n.add E s.topology pod = .ok (n', topology) ∧
      s.add E pod = ⟨none, { s with existingNodes := pre ++ n' :: post, topology }, none⟩) ∨
    ((∀ m ∈ s.existingNodes, ∃ err, m.add E s.topology pod = .error err) ∧
      ∃ pre n post n' topology, E.sortByPods s.newNodes = pre ++ n :: post ∧
      (∀ m ∈ pre, ∃ err, m.add E s.topology pod = .error err) ∧
      n.add E s.topology pod = .ok (n', topology) ∧
      s.add E pod = ⟨none, { s with newNodes := pre ++ n' :: post, topology }, none⟩) ∨
    ((∀ m ∈ s.existingNodes, ∃ err, m.add E s.topology pod = .error err) ∧
      (∀ m ∈ s.newNodes, ∃ err, m.add E s.topology pod = .error err) ∧
      s.add E pod =
        { s with newNodes := E.sortByPods s.newNodes }.addToNewNode E pod s.machineTemplates none) := by
  rcases hex : addFirst (fun n => n.add E s.topology pod) s.existingNodes with _ | ⟨l, topology⟩
  · have hexNone := addFirst_eq_none.mp hex
    rcases hnew : addFirst (fun n => n.add E s.topology pod) (E.sortByPods s.newNodes)
      with _ | ⟨l, topology⟩
    · refine .inr (.inr ⟨hexNone, fun m hm => addFirst_eq_none.mp hnew m
        ((E.sortByPods_perm _).mem_iff.mpr hm), ?_⟩)
      simp only [Scheduler.add, hex, hnew]
    · obtain ⟨pre, n, post, n', hsplit, hpre, hn, rfl⟩ := addFirst_eq_some hnew
      refine .inr (.inl ⟨hexNone, pre, n, post, n', topology, hsplit, hpre, hn, ?_⟩)
      simp only [Scheduler.add, hex, hnew]
  · obtain ⟨pre, n, post, n', hsplit, hpre, hn, rfl⟩ := addFirst_eq_some hex
    refine .inl ⟨pre, n, post, n', topology, hsplit, hpre, hn, ?_⟩
    simp only [Scheduler.add, hex]

/-- The fields of the scheduler that `add` never writes. -/
structure Scheduler.SameConfig (s s' : Scheduler Pod Topology) : Prop where
  machineTemplates : s'.machineTemplates = s.machineTemplates
  instanceTypes : s'.instanceTypes = s.instanceTypes
  daemonOverhead : s'.daemonOverhead = s.daemonOverhead
  preferences : s'.preferences = s.preferences
  opts : s'.opts = s.opts

theorem Scheduler.SameConfig.of_eq {s s' : Scheduler Pod Topology}
    (h : s' = { s with
      newNodes := s'.newNodes, existingNodes := s'.existingNodes,
      remainingResources := s'.remainingResources, topology := s'.topology, nodeID := s'.nodeID }) :
    s.SameConfig s' := by
  rw [h]
  exact ⟨rfl, rfl, rfl, rfl, rfl⟩

theorem add_sameConfig (E : Env Pod Topology) (s : Scheduler Pod Topology) (pod : Pod) :
    s.SameConfig (s.add E pod).scheduler := by
  rcases add_cases E s pod with ⟨_, _, _, _, _, _, _, _, hr⟩ | ⟨_, _, _, _, _, _, _, _, _, hr⟩ |
    ⟨_, _, hr⟩
  · rw [hr]; exact ⟨rfl, rfl, rfl, rfl, rfl⟩
  · rw [hr]; exact ⟨rfl, rfl, rfl, rfl, rfl⟩
  · rw [hr]
    rcases addToNewNode_spec E pod s.machineTemplates none { s with newNodes := E.sortByPods s.newNodes }
      with ⟨-, -, hreg⟩ | ⟨c, s₁, -, -, -, hreg, hok⟩
    · exact .of_eq (by rw [hreg.eq])
    · exact .of_eq (by rw [(tryTemplate_ok hok).2.2.2, hreg.eq])

/-- What `add` does to the remaining resources: nothing, unless a template's
    `tryTemplate` created a node, run from a scheduler with the same remaining
    resources and instance types. -/
theorem add_created (E : Env Pod Topology) (s : Scheduler Pod Topology) (pod : Pod) :
    ((s.add E pod).created = none ∧
      (s.add E pod).scheduler.remainingResources = s.remainingResources) ∨
    ∃ (c : Created Pod) (s₁ : Scheduler Pod Topology), (s.add E pod).created = some c ∧
      s₁.remainingResources = s.remainingResources ∧
      s₁.instanceTypes = s.instanceTypes ∧
      s₁.tryTemplate E pod c.template = .ok ((s.add E pod).scheduler, c) := by
  rcases add_cases E s pod with ⟨_, _, _, _, _, _, _, _, hr⟩ | ⟨_, _, _, _, _, _, _, _, _, hr⟩ |
    ⟨_, _, hr⟩
  · rw [hr]; exact .inl ⟨rfl, rfl⟩
  · rw [hr]; exact .inl ⟨rfl, rfl⟩
  · rw [hr]
    rcases addToNewNode_spec E pod s.machineTemplates none { s with newNodes := E.sortByPods s.newNodes }
      with ⟨hc, -, hreg⟩ | ⟨c, s₁, hc, -, -, hreg, hok⟩
    · exact .inl ⟨hc, by rw [hreg.eq]⟩
    · exact .inr ⟨c, s₁, hc, by rw [hreg.eq], by rw [hreg.eq], hok⟩

/-- A failed `add` found no acceptor among the nodes and fell through to the
    machine templates. -/
theorem add_error_toNewNode {s : Scheduler Pod Topology} {pod : Pod} {err : SchedulingError}
    (herr : (s.add E pod).err = some err) :
    s.add E pod =
      { s with newNodes := E.sortByPods s.newNodes }.addToNewNode E pod s.machineTemplates none := by
  rcases add_cases E s pod with ⟨_, _, _, _, _, -, -, -, hr⟩ | ⟨-, _, _, _, _, _, -, -, -, hr⟩ |
    ⟨-, -, hr⟩
  · rw [hr] at herr; cases herr
  · rw [hr] at herr; cases herr
  · exact hr

/-- A failed pass over the templates created nothing and moved the scheduler
    only by hostname registrations. -/
theorem addToNewNode_error_frame {s : Scheduler Pod Topology} {pod : Pod}
    {ts : List MachineTemplate} {errs : Option SchedulingError} {err : SchedulingError}
    (herr : (s.addToNewNode E pod ts errs).err = some err) :
    (s.addToNewNode E pod ts errs).created = none ∧
      RegistersOnly E s (s.addToNewNode E pod ts errs).scheduler := by
  rcases addToNewNode_spec E pod ts errs s with ⟨hc, -, hreg⟩ | ⟨-, -, -, hnil, -⟩
  · exact ⟨hc, hreg⟩
  · rw [hnil] at herr; cases herr

end KarpenterCore
