import KarpenterCore.Life
import Mathlib.Algebra.BigOperators.Group.List
import Mathlib.Algebra.Ring.Int.Defs

/-!
# The prospective nodes Solve returns

Each prospective node Solve returns, after `FinalizeScheduling`, can be
launched as an instance type it still offers, and every pod on it is admissible
there. Both are the laws of `NodeWF` (kept from the node's first `Add` on, see
`NodeLife.lean`), read through the pairing of `Life.paired` and through
`FinalizeScheduling`, which drops only the hostname key.
-/

namespace KarpenterCore

variable {Pod Topology : Type} {E : Env Pod Topology}

open ResourceList Requirements

/-- A node's requests, key by key: the daemon overhead plus each pod's requests. -/
theorem quantity_requestsAfter (daemon : ResourceList) (pods : List Pod) (k : String) :
    (requestsAfter E daemon pods).quantity k =
      daemon.quantity k + (pods.map fun pod => (E.requestsForPods pod).quantity k).sum := by
  induction pods generalizing daemon with
  | nil => simp [requestsAfter]
  | cons pod pods ih =>
    rw [requestsAfter, List.foldl_cons, ← requestsAfter, ih, quantity_merge_pair, List.map_cons,
      List.sum_cons, Int.add_assoc]

/-- What `fits` checks, key by key: the requests plus the type's own overhead
    are within its capacity. -/
theorem quantity_le_of_fits_node {it : InstanceType} {requests : ResourceList}
    (h : fits it requests = true) (k : String) :
    requests.quantity k + it.overhead.quantity k ≤ it.capacity.quantity k :=
  quantity_merge_pair requests it.overhead k ▸ quantity_le_of_fits h k

/-- What `FinalizeScheduling` leaves of a node's laws: the node can be launched
    as any instance type it still offers. -/
theorem NodeWF.launchable {d : MachineTemplate → ResourceList} {n : Node Pod} {c : Created Pod}
    (h : NodeWF E d n c) :
    n.finalizeScheduling.pods ≠ [] ∧ n.finalizeScheduling.instanceTypeOptions ≠ [] ∧
      n.finalizeScheduling.instanceTypeOptions.Sublist c.instanceTypes ∧
      (∀ k, n.finalizeScheduling.requests.quantity k = (d c.template).quantity k +
        (n.finalizeScheduling.pods.map fun pod => (E.requestsForPods pod).quantity k).sum) ∧
      ∀ it ∈ n.finalizeScheduling.instanceTypeOptions,
        compatible it n.finalizeScheduling.requirements = true ∧
        (∀ k, n.finalizeScheduling.requests.quantity k + it.overhead.quantity k ≤
          it.capacity.quantity k) ∧
        hasOffering it n.finalizeScheduling.requirements = true := by
  simp only [Node.finalizeScheduling_pods, Node.finalizeScheduling_instanceTypeOptions,
    Node.finalizeScheduling_requests, Node.finalizeScheduling_requirements,
    hasOffering_erase_hostname]
  refine ⟨h.pods_ne, h.options_ne, h.grown.options.trans h.handed,
    fun k => h.requests ▸ quantity_requestsAfter _ _ k, fun it hit => ?_⟩
  obtain ⟨hcompat, hfits, hoffer⟩ := h.options it hit
  exact ⟨compatible_erase hcompat labelHostname, quantity_le_of_fits_node hfits, hoffer⟩

/-- **Every prospective node Solve returns can be launched.** It holds a pod,
    and it still offers instance types, an order-preserving sublist of those it
    was created with. Its requests are its template's daemon overhead merged
    with the requests of its pods, and each instance type it offers is
    compatible with its requirements, fits its requests with its own overhead,
    and has an available offering they admit. The nodes pair one to one with
    the creation records. -/
theorem solve_newNodes_launchable {machines : List MachineTemplate}
    {provisioners : List Provisioner} {stateNodes : List StateNode} {topology : Topology}
    {instanceTypes : String → List InstanceType} {daemonOverhead : MachineTemplate → ResourceList}
    {opts : SchedulerOptions} {nodeID fuel : Nat} {pods : List Pod} {s₀ : Scheduler Pod Topology}
    {r : SolveResult Pod Topology}
    (h₀ : newScheduler machines provisioners stateNodes topology instanceTypes daemonOverhead opts
      nodeID = some s₀)
    (hr : s₀.solve E fuel pods = some r) :
    ∃ order : List (Created Pod), order.Perm r.created ∧ List.Forall₂ (fun n c =>
      n.pods ≠ [] ∧ n.instanceTypeOptions ≠ [] ∧ n.instanceTypeOptions.Sublist c.instanceTypes ∧
      (∀ k, n.requests.quantity k = (daemonOverhead c.template).quantity k +
        (n.pods.map fun pod => (E.requestsForPods pod).quantity k).sum) ∧
      ∀ it ∈ n.instanceTypeOptions, compatible it n.requirements = true ∧
        (∀ k, n.requests.quantity k + it.overhead.quantity k ≤ it.capacity.quantity k) ∧
        hasOffering it n.requirements = true) r.newNodes order := by
  obtain ⟨st, -, hlife, hnew, -, -, -, hcreated, -⟩ := solve_eq_some hr
  have h₀eq := newScheduler_eq h₀
  obtain ⟨order, hperm, hrel⟩ := hlife.paired (by rw [h₀eq])
  have hd : st.scheduler.daemonOverhead = daemonOverhead := by
    rw [hlife.sameConfig.daemonOverhead, h₀eq]
  rw [hd] at hrel
  refine ⟨order, hcreated ▸ hperm, ?_⟩
  rw [hnew, List.forall₂_map_left_iff]
  exact hrel.imp fun _ _ hwf => hwf.launchable

theorem solve_newNodes_launchable_sample :
    ∃ r, sampleScheduler.solve demoEnv 4 ["pod-a", "pod-b", "pod-c"] = some r ∧
      r.newNodes.map (·.pods) = [["pod-a", "pod-b"], ["pod-c"]] ∧
      ∃ order : List (Created String), order.Perm r.created ∧ List.Forall₂ (fun n c =>
        n.pods ≠ [] ∧ n.instanceTypeOptions ≠ [] ∧ n.instanceTypeOptions.Sublist c.instanceTypes ∧
        (∀ k, n.requests.quantity k = ResourceList.quantity GoMap.empty k +
          (n.pods.map fun pod => (demoEnv.requestsForPods pod).quantity k).sum) ∧
        ∀ it ∈ n.instanceTypeOptions, compatible it n.requirements = true ∧
          (∀ k, n.requests.quantity k + it.overhead.quantity k ≤ it.capacity.quantity k) ∧
          hasOffering it n.requirements = true) r.newNodes order :=
  ⟨_, rfl, by decide, solve_newNodes_launchable sampleScheduler_eq
    (rfl : sampleScheduler.solve demoEnv 4 ["pod-a", "pod-b", "pod-c"] = _)⟩

/-- **Every pod on a prospective node Solve returns is admissible there.** It
    tolerates the node's taints; every labelling the node's requirements admit
    meets the pod's requirements off the hostname key; and no two pods on the
    node declare host ports of one port and protocol with an equal address or a
    wildcard on either side. -/
theorem solve_newNodes_admit_pods {machines : List MachineTemplate}
    {provisioners : List Provisioner} {stateNodes : List StateNode} {topology : Topology}
    {instanceTypes : String → List InstanceType} {daemonOverhead : MachineTemplate → ResourceList}
    {opts : SchedulerOptions} {nodeID fuel : Nat} {pods : List Pod} {s₀ : Scheduler Pod Topology}
    {r : SolveResult Pod Topology}
    (h₀ : newScheduler machines provisioners stateNodes topology instanceTypes daemonOverhead opts
      nodeID = some s₀)
    (hr : s₀.solve E fuel pods = some r) :
    ∀ n ∈ r.newNodes,
      (∀ pod ∈ n.pods, ∀ taint ∈ n.taints, E.toleratesTaint pod taint = true) ∧
      (∀ pod ∈ n.pods, ∀ labels, n.requirements.admits labels = true →
        Requirements.admits ((E.podRequirements pod).erase labelHostname) labels = true) ∧
      n.pods.Pairwise fun a b => ∀ p ∈ E.hostPorts a, ∀ q ∈ E.hostPorts b, p.port ≠ 0 →
        p.port = q.port → p.protocol = q.protocol →
          p.ip ≠ q.ip ∧ p.ip ≠ "0.0.0.0" ∧ q.ip ≠ "0.0.0.0" := by
  obtain ⟨st, -, hlife, hnew, -⟩ := solve_eq_some hr
  intro n hn
  rw [hnew, List.mem_map] at hn
  obtain ⟨m, hm, rfl⟩ := hn
  obtain ⟨c, -, hwf⟩ := (hlife.paired (by rw [newScheduler_eq h₀])).exists_wf hm
  simp only [Node.finalizeScheduling_pods, Node.finalizeScheduling_taints,
    Node.finalizeScheduling_requirements]
  exact ⟨hwf.tolerated, fun pod hp _ => ((hwf.refines pod hp).erase labelHostname).admits,
    hwf.ports.imp portsConflict_eq_false_iff.mp⟩

theorem solve_newNodes_admit_pods_sample :
    ∃ r, sampleScheduler.solve demoEnv 4 ["pod-a", "pod-b", "pod-c"] = some r ∧
      r.newNodes.map (·.pods) = [["pod-a", "pod-b"], ["pod-c"]] ∧
      ∀ n ∈ r.newNodes,
        (∀ pod ∈ n.pods, ∀ taint ∈ n.taints, demoEnv.toleratesTaint pod taint = true) ∧
        (∀ pod ∈ n.pods, ∀ labels, n.requirements.admits labels = true →
          Requirements.admits ((demoEnv.podRequirements pod).erase labelHostname) labels = true) ∧
        n.pods.Pairwise fun a b => ∀ p ∈ demoEnv.hostPorts a, ∀ q ∈ demoEnv.hostPorts b, p.port ≠ 0 →
          p.port = q.port → p.protocol = q.protocol →
            p.ip ≠ q.ip ∧ p.ip ≠ "0.0.0.0" ∧ q.ip ≠ "0.0.0.0" :=
  ⟨_, rfl, by decide, solve_newNodes_admit_pods sampleScheduler_eq
    (rfl : sampleScheduler.solve demoEnv 4 ["pod-a", "pod-b", "pod-c"] = _)⟩

end KarpenterCore
