import KarpenterCore.Life

/-!
# The in-flight nodes Solve returns

`ExistingNode.Add` makes the checks of `Node.Add`, and then checks that the
node's requests with the pod fit the node's available resources. Solve changes
an in-flight node only through an accepted `Add` (`add_existingNodes`). So every
in-flight node it returns is the node `NewScheduler` built, with the nominated
pods appended. Its requests are its daemon overhead plus those pods' requests,
and they fit its available resources. Each pod on it tolerates its taints and is
refined by its requirements, and no two of them reserve colliding host ports
(`solve_existingNodes_admit_pods`).
-/

namespace KarpenterCore

variable {Pod Topology : Type} {E : Env Pod Topology}

open ResourceList

/-- **What `ExistingNode.Add` does when it accepts a pod.** -/
structure ExistingAccepted (E : Env Pod Topology) (n : ExistingNode Pod) (pod : Pod)
    (n' : ExistingNode Pod) : Prop where
  tolerated : ∀ taint ∈ n.taints, E.toleratesTaint pod taint = true
  portsFree : n.hostPortUsage.validate (E.hostPorts pod) = none
  refinesNode : n'.requirements.Refines n.requirements
  refinesPod : n'.requirements.Refines (E.podRequirements pod)
  requests : n'.requests = merge [n.requests, E.requestsForPods pod]
  fits : ResourceList.fits n'.requests n'.node.available = true
  node : n'.node = n.node
  taints : n'.taints = n.taints
  pods : n'.pods = n.pods ++ [pod]
  usage : n'.hostPortUsage = n.hostPortUsage.add (E.hostPorts pod)

/-- The one inversion lemma of `ExistingNode.Add`. -/
theorem ExistingNode.add_accepted {topology topology' : Topology} {n n' : ExistingNode Pod}
    {pod : Pod} (h : n.add E topology pod = .ok (n', topology')) : ExistingAccepted E n pod n' := by
  unfold ExistingNode.add at h
  split at h
  · cases h
  rename_i htol
  split at h
  · cases h
  rename_i hports
  split at h
  · cases h
  rename_i nodeRequirements hreq
  dsimp only at h
  split at h
  · rename_i hfits
    cases h
    obtain ⟨hnode, hpod⟩ := nodeRequirementsFor_refines hreq
    exact ⟨fun taint ht => by simpa using List.find?_eq_none.mp htol taint ht, hports, hnode, hpod,
      rfl, hfits, rfl, rfl, rfl, rfl⟩
  · cases h

/-- **The laws of an in-flight node**, relative to the node `n₀` that
    `NewScheduler` built with no pod. -/
structure ExistingWF (E : Env Pod Topology) (n₀ n : ExistingNode Pod) : Prop where
  node : n.node = n₀.node
  taints : n.taints = n₀.taints
  requests : n.requests = requestsAfter E n₀.requests n.pods
  usage : n.hostPortUsage.reserved = n.pods.flatMap fun pod => hostPortsOf (E.hostPorts pod)
  tolerated : ∀ pod ∈ n.pods, ∀ taint ∈ n.taints, E.toleratesTaint pod taint = true
  refines : ∀ pod ∈ n.pods, n.requirements.Refines (E.podRequirements pod)
  ports : n.pods.Pairwise fun a b => portsConflict (E.hostPorts a) (E.hostPorts b) = false
  fits : n.pods ≠ [] → ResourceList.fits n.requests n.node.available = true

/-- A node with no pod and no reserved host port keeps the laws trivially. -/
theorem ExistingWF.fresh {n₀ : ExistingNode Pod} (hpods : n₀.pods = [])
    (husage : n₀.hostPortUsage.reserved = []) : ExistingWF E n₀ n₀ :=
  ⟨rfl, rfl, by rw [hpods]; rfl, by rw [husage, hpods]; rfl, by simp [hpods], by simp [hpods],
    by rw [hpods]; exact .nil, fun h => absurd hpods h⟩

theorem ExistingWF.add {n₀ n n' : ExistingNode Pod} {topology topology' : Topology} {pod : Pod}
    (hn : ExistingWF E n₀ n) (h : n.add E topology pod = .ok (n', topology')) :
    ExistingWF E n₀ n' := by
  have hacc := ExistingNode.add_accepted h
  constructor
  · rw [hacc.node, hn.node]
  · rw [hacc.taints, hn.taints]
  · rw [hacc.requests, hacc.pods, hn.requests, requestsAfter_append]
  · rw [hacc.usage, hacc.pods]; exact usage_append hn.usage
  · rw [hacc.pods, hacc.taints]; exact tolerated_append hn.tolerated hacc.tolerated
  · rw [hacc.pods]; exact refines_append hn.refines hacc.refinesNode hacc.refinesPod
  · rw [hacc.pods]; exact ports_append hn.ports hn.usage hacc.portsFree
  · exact fun _ => hacc.fits

/-! ### Through Solve -/

/-- `add` changes the in-flight nodes only by one accepted `ExistingNode.Add`. -/
theorem add_existingNodes (E : Env Pod Topology) (s : Scheduler Pod Topology) (pod : Pod) :
    (s.add E pod).scheduler.existingNodes = s.existingNodes ∨
      ∃ pre n post n' topology, s.existingNodes = pre ++ n :: post ∧
        n.add E s.topology pod = .ok (n', topology) ∧
        (s.add E pod).scheduler.existingNodes = pre ++ n' :: post := by
  rcases add_cases E s pod with ⟨pre, n, post, n', topology, hsplit, -, hn, hr⟩ |
    ⟨-, _, _, _, _, _, -, -, -, hr⟩ | ⟨-, -, hr⟩
  · exact .inr ⟨pre, n, post, n', topology, hsplit, hn, by rw [hr]⟩
  · exact .inl (by rw [hr])
  · refine .inl ?_
    rw [hr]
    rcases addToNewNode_spec E pod s.machineTemplates none { s with newNodes := E.sortByPods s.newNodes }
      with ⟨-, -, hreg⟩ | ⟨c, s₁, -, -, -, hreg, hok⟩
    · rw [hreg.eq]
    · rw [(tryTemplate_ok hok).2.2.2, hreg.eq]

/-- Along every life, each in-flight node keeps its laws relative to the node it
    was at the start. -/
theorem Life.existingWF {s₀ s : Scheduler Pod Topology} {cs : List (Created Pod)}
    (h : Life E s₀ s cs) (h₀ : List.Forall₂ (ExistingWF E) s₀.existingNodes s₀.existingNodes) :
    List.Forall₂ (ExistingWF E) s₀.existingNodes s.existingNodes := by
  induction h with
  | start => exact h₀
  | add pod _ ih =>
    rcases add_existingNodes E _ pod with hr | ⟨pre, n, post, n', topology, hsplit, hn, hr⟩
    · rw [hr]; exact ih
    · rw [hr]
      rw [hsplit] at ih
      exact (forall₂_update_middle ih.flip fun n₀ hwf => hwf.add hn).flip
  | update _ _ ih => exact ih

/-- **Every in-flight node Solve returns is the one `NewScheduler` built, with
    admissible pods that fit it.** The nodes pair one to one, in order, with
    those `NewScheduler` built. Each keeps its node and taints. Its requests are
    its daemon overhead plus the requests of its pods, and they fit its
    available resources once it holds a pod. Every pod on it tolerates its
    taints and is refined by its requirements, and no two of its pods reserve
    colliding host ports. -/
theorem solve_existingNodes_admit_pods {machines : List MachineTemplate}
    {provisioners : List Provisioner} {stateNodes : List StateNode} {topology : Topology}
    {instanceTypes : String → List InstanceType} {daemonOverhead : MachineTemplate → ResourceList}
    {opts : SchedulerOptions} {nodeID fuel : Nat} {pods : List Pod} {s₀ : Scheduler Pod Topology}
    {r : SolveResult Pod Topology}
    (h₀ : newScheduler machines provisioners stateNodes topology instanceTypes daemonOverhead opts
      nodeID = some s₀)
    (hr : s₀.solve E fuel pods = some r) :
    List.Forall₂ (fun n₀ n =>
      n.node = n₀.node ∧ n.taints = n₀.taints ∧ n.requests = requestsAfter E n₀.requests n.pods ∧
        (n.pods ≠ [] → ResourceList.fits n.requests n.node.available = true) ∧
        (∀ pod ∈ n.pods, ∀ taint ∈ n.taints, E.toleratesTaint pod taint = true) ∧
        (∀ pod ∈ n.pods, n.requirements.Refines (E.podRequirements pod)) ∧
        n.pods.Pairwise fun a b => portsConflict (E.hostPorts a) (E.hostPorts b) = false)
      s₀.existingNodes r.existingNodes := by
  obtain ⟨st, -, hlife, -, hex, -⟩ := solve_eq_some hr
  have hfresh := newScheduler_existingNodes_fresh h₀
  have hstart : List.Forall₂ (ExistingWF E) s₀.existingNodes s₀.existingNodes :=
    List.forall₂_same.mpr fun n hn => ExistingWF.fresh (hfresh n hn).1 (hfresh n hn).2
  rw [hex]
  exact (hlife.existingWF hstart).imp fun _ _ hwf =>
    ⟨hwf.node, hwf.taints, hwf.requests, hwf.fits, hwf.tolerated, hwf.refines, hwf.ports⟩

/-- An in-flight node of the provisioner `default`, with 4 CPUs available. -/
def sampleStateNode : StateNode where
  name := "node-a"
  labels := ⟨[(provisionerNameLabelKey, "default")], by decide⟩
  capacity := ⟨[("cpu", 4)], by decide⟩
  available := ⟨[("cpu", 4)], by decide⟩

theorem solve_existingNodes_admit_pods_sample :
    ∃ (s₀ : Scheduler String Unit) (r : SolveResult String Unit),
      newScheduler [sampleTemplate] [] [sampleStateNode] () (fun _ => [sampleType])
        (fun _ => GoMap.empty) ⟨false⟩ 0 = some s₀ ∧
      s₀.solve plainEnv 3 ["pod-a"] = some r ∧ r.existingNodes.map (·.pods) = [["pod-a"]] ∧
      List.Forall₂ (fun n₀ n =>
        n.node = n₀.node ∧ n.taints = n₀.taints ∧ n.requests = requestsAfter plainEnv n₀.requests n.pods ∧
          (n.pods ≠ [] → ResourceList.fits n.requests n.node.available = true) ∧
          (∀ pod ∈ n.pods, ∀ taint ∈ n.taints, plainEnv.toleratesTaint pod taint = true) ∧
          (∀ pod ∈ n.pods, n.requirements.Refines (plainEnv.podRequirements pod)) ∧
          n.pods.Pairwise fun a b => portsConflict (plainEnv.hostPorts a) (plainEnv.hostPorts b) = false)
        s₀.existingNodes r.existingNodes :=
  ⟨_, _, rfl, rfl, by decide, solve_existingNodes_admit_pods
    (rfl : newScheduler [sampleTemplate] [] [sampleStateNode] () (fun _ => [sampleType])
      (fun _ => GoMap.empty) ⟨false⟩ 0 = _) (rfl : Scheduler.solve plainEnv 3 _ ["pod-a"] = _)⟩

end KarpenterCore
