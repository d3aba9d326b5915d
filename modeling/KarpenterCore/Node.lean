import KarpenterCore.Types
import Mathlib.Data.List.Perm.Basic
import Mathlib.Data.List.Pairwise
import Mathlib.Data.List.Sort

/-!
# Prospective nodes

`Node`, `NewNode`, `Node.Add` and `Node.FinalizeScheduling` of
`provisioning/scheduling/node.go`, with the instance-type filter they use.

The scheduler's collaborators outside the file are the fields of `Env`: what it
reads of a pod, the topology tracker (its state threaded as a value of type
`Topology`), the preference relaxer and `sort.Slice`. The process-wide
`nodeID` counter is threaded explicitly.
-/

namespace KarpenterCore

/-- `Node`: a copy of a machine template, narrowed by the pods added to it. The
    shared `topology` pointer is the scheduler's topology state. -/
structure Node (Pod : Type) extends MachineTemplate where
  pods : List Pod
  hostPortUsage : HostPortUsage

/-- The collaborators of the scheduler that live outside `scheduling/node.go`. -/
structure Env (Pod Topology : Type) where
  /-- `pod.UID`. -/
  uid : Pod → String
  /-- `scheduling.NewPodRequirements(pod)`. -/
  podRequirements : Pod → Requirements
  /-- `resources.RequestsForPods(pod)`. -/
  requestsForPods : Pod → ResourceList
  /-- The pod's container ports. -/
  hostPorts : Pod → List HostPort
  /-- Whether a toleration of the pod tolerates the taint. -/
  toleratesTaint : Pod → Taint → Bool
  /-- `Topology.Register(key, value)`. -/
  register : Topology → String → String → Topology
  /-- `Topology.AddRequirements(podRequirements, nodeRequirements, pod)`. -/
  addRequirements : Topology → Requirements → Requirements → Pod → Except String Requirements
  /-- `Topology.Record(pod, requirements)`. -/
  record : Topology → Pod → Requirements → Topology
  /-- `Topology.Update(ctx, pod)`; Solve only logs its error. -/
  update : Topology → Pod → Topology
  /-- `Preferences.Relax(ctx, pod)` under `ToleratePreferNoSchedule`: the relaxed
      pod, or `none` when nothing is left to relax. -/
  relax : Bool → Pod → Option Pod
  /-- Relaxing rewrites a pod's scheduling constraints, never its identity. -/
  relax_uid : ∀ b pod pod', relax b pod = some pod' → uid pod' = uid pod
  /-- `sort.Slice(s.newNodes, ...)` by ascending pod count. -/
  sortByPods : List (Node Pod) → List (Node Pod)
  sortByPods_perm : ∀ nodes, (sortByPods nodes).Perm nodes
  sortByPods_sorted : ∀ nodes, (sortByPods nodes).Pairwise fun a b => a.pods.length ≤ b.pods.length

variable {Pod Topology : Type}

open Requirements Requirement

/-! ### The instance-type filter -/

/-- `compatible(instanceType, requirements)`. -/
def compatible (instanceType : InstanceType) (requirements : Requirements) : Bool :=
  (instanceType.requirements.intersects requirements).isNone

/-- `fits(instanceType, requests)`: the requests plus the type's overhead within
    its capacity. -/
def fits (instanceType : InstanceType) (requests : ResourceList) : Bool :=
  ResourceList.fits (ResourceList.merge [requests, instanceType.overhead]) instanceType.capacity

/-- `hasOffering(instanceType, requirements)`: an available offering in an
    admitted zone and capacity type. -/
def hasOffering (instanceType : InstanceType) (requirements : Requirements) : Bool :=
  instanceType.availableOfferings.any fun offering =>
    (!requirements.has labelTopologyZone ||
        (requirements.get labelTopologyZone).has offering.zone) &&
      (!requirements.has labelCapacityType ||
        (requirements.get labelCapacityType).has offering.capacityType)

/-- `filterInstanceTypesByRequirements`. -/
def filterInstanceTypesByRequirements (instanceTypes : List InstanceType)
    (requirements : Requirements) (requests : ResourceList) : List InstanceType :=
  instanceTypes.filter fun it =>
    compatible it requirements && fits it requests && hasOffering it requirements

/-! ### Creating and filling a node -/

/-- `fmt.Sprintf("hostname-placeholder-%04d", id)`. -/
def hostnamePlaceholder (id : Nat) : String :=
  let digits := toString id
  "hostname-placeholder-" ++ "".pushn '0' (4 - digits.length) ++ digits

/-- `NewNode`: the template copied with a fresh placeholder hostname, the given
    instance types and the daemon overhead as requests. Returns the node, the
    topology with the hostname registered, and the advanced `nodeID`. -/
def newNode (E : Env Pod Topology) (machineTemplate : MachineTemplate) (topology : Topology)
    (daemonResources : ResourceList) (instanceTypes : List InstanceType) (nodeID : Nat) :
    Node Pod × Topology × Nat :=
  let hostname := hostnamePlaceholder (nodeID + 1)
  let requirements := (newRequirements machineTemplate.requirements.values).add
    [(labelHostname, newRequirement .opIn [hostname])]
  ({ machineTemplate with
      requirements, instanceTypeOptions := instanceTypes, requests := daemonResources,
      pods := [], hostPortUsage := ⟨[]⟩ },
    E.register topology labelHostname hostname, nodeID + 1)

/-- `Taints.Tolerates(pod)`: the first taint no toleration of the pod tolerates. -/
def Env.tolerates (E : Env Pod Topology) (taints : List Taint) (pod : Pod) : Option Taint :=
  taints.find? fun taint => !E.toleratesTaint pod taint

/-- Lines 73–90 of `Node.Add`, also run by `ExistingNode.Add`: the node's
    requirements with the pod's and then the topology's intersected in. -/
def Env.nodeRequirementsFor (E : Env Pod Topology) (topology : Topology)
    (requirements : Requirements) (pod : Pod) : Except SchedulingError Requirements :=
  let nodeRequirements := newRequirements requirements.values
  let podRequirements := E.podRequirements pod
  match nodeRequirements.compatible podRequirements with
  | some key => .error (.incompatibleRequirements (.keyNotCompatible key))
  | none =>
    let nodeRequirements := nodeRequirements.add podRequirements.values
    match E.addRequirements topology podRequirements nodeRequirements pod with
    | .error reason => .error (.topologyInfeasible reason)
    | .ok topologyRequirements =>
      match nodeRequirements.compatible topologyRequirements with
      | some key => .error (.keyNotCompatible key)
      | none => .ok (nodeRequirements.add topologyRequirements.values)

/-- `Node.Add`: the node after the pod, and the topology after `Record`. -/
def Node.add (E : Env Pod Topology) (topology : Topology) (m : Node Pod) (pod : Pod) :
    Except SchedulingError (Node Pod × Topology) :=
  match E.tolerates m.taints pod with
  | some taint => .error (.taintNotTolerated taint)
  | none =>
    match m.hostPortUsage.validate (E.hostPorts pod) with
    | some port => .error (.hostPortConflict port)
    | none =>
      match E.nodeRequirementsFor topology m.requirements pod with
      | .error err => .error err
      | .ok nodeRequirements =>
        let requests := ResourceList.merge [m.requests, E.requestsForPods pod]
        let instanceTypes :=
          filterInstanceTypesByRequirements m.instanceTypeOptions nodeRequirements requests
        if instanceTypes.isEmpty then
          .error (.noInstanceTypeSatisfied (E.requestsForPods pod) nodeRequirements)
        else
          .ok ({ m with
                  pods := m.pods ++ [pod], instanceTypeOptions := instanceTypes, requests,
                  requirements := nodeRequirements,
                  hostPortUsage := m.hostPortUsage.add (E.hostPorts pod) },
            E.record topology pod nodeRequirements)

/-- `Node.FinalizeScheduling`: the placeholder hostname leaves the requirements. -/
def Node.finalizeScheduling (m : Node Pod) : Node Pod :=
  { m with requirements := m.requirements.erase labelHostname }

@[simp] theorem Node.finalizeScheduling_requirements (m : Node Pod) :
    m.finalizeScheduling.requirements = m.requirements.erase labelHostname := rfl

@[simp] theorem Node.finalizeScheduling_pods (m : Node Pod) :
    m.finalizeScheduling.pods = m.pods := rfl

@[simp] theorem Node.finalizeScheduling_instanceTypeOptions (m : Node Pod) :
    m.finalizeScheduling.instanceTypeOptions = m.instanceTypeOptions := rfl

@[simp] theorem Node.finalizeScheduling_requests (m : Node Pod) :
    m.finalizeScheduling.requests = m.requests := rfl

@[simp] theorem Node.finalizeScheduling_taints (m : Node Pod) :
    m.finalizeScheduling.taints = m.taints := rfl

@[simp] theorem Node.finalizeScheduling_provisionerName (m : Node Pod) :
    m.finalizeScheduling.provisionerName = m.provisionerName := rfl

/-! ### What an accepted pod does to a node -/

theorem nodeRequirementsFor_refines {E : Env Pod Topology} {topology : Topology}
    {requirements nodeRequirements : Requirements} {pod : Pod}
    (h : E.nodeRequirementsFor topology requirements pod = .ok nodeRequirements) :
    nodeRequirements.Refines requirements ∧ nodeRequirements.Refines (E.podRequirements pod) := by
  unfold Env.nodeRequirementsFor at h
  dsimp only at h
  split at h
  · cases h
  · split at h
    · cases h
    · split at h
      · cases h
      · cases h
        have hcopy : (newRequirements requirements.values).Refines requirements := by
          intro key q hq
          exact ⟨q, by rw [get?_newRequirements_values, hq], fun _ hl => hl⟩
        exact ⟨(refines_add_left _ _).trans ((refines_add_left _ _).trans hcopy),
          (refines_add_left _ _).trans (refines_add_right _ _)⟩

/-- **What `Node.Add` does when it accepts a pod.** -/
structure Accepted (E : Env Pod Topology) (m : Node Pod) (pod : Pod) (m' : Node Pod) : Prop where
  tolerated : ∀ taint ∈ m.taints, E.toleratesTaint pod taint = true
  portsFree : m.hostPortUsage.validate (E.hostPorts pod) = none
  refinesNode : m'.requirements.Refines m.requirements
  refinesPod : m'.requirements.Refines (E.podRequirements pod)
  requests : m'.requests = ResourceList.merge [m.requests, E.requestsForPods pod]
  instanceTypes : m'.instanceTypeOptions =
    filterInstanceTypesByRequirements m.instanceTypeOptions m'.requirements m'.requests
  nonempty : m'.instanceTypeOptions ≠ []
  pods : m'.pods = m.pods ++ [pod]
  usage : m'.hostPortUsage = m.hostPortUsage.add (E.hostPorts pod)
  template : m'.provisionerName = m.provisionerName ∧ m'.taints = m.taints ∧
    m'.startupTaints = m.startupTaints

/-- The one inversion lemma of `Node.Add`. -/
theorem Node.add_ok {E : Env Pod Topology} {topology topology' : Topology} {m m' : Node Pod}
    {pod : Pod} (h : m.add E topology pod = .ok (m', topology')) :
    Accepted E m pod m' ∧ topology' = E.record topology pod m'.requirements := by
  unfold Node.add at h
  split at h
  · cases h
  rename_i htol
  split at h
  · cases h
  rename_i hports
  split at h
  · cases h
  rename_i nodeRequirements hreq
  dsimp only at h
  split at h
  · cases h
  rename_i hne
  cases h
  obtain ⟨hnode, hpod⟩ := nodeRequirementsFor_refines hreq
  refine ⟨⟨fun taint ht => ?_, hports, hnode, hpod, rfl, rfl, ?_, rfl, rfl, rfl, rfl, rfl⟩, rfl⟩
  · have := List.find?_eq_none.mp htol taint ht
    simpa using this
  · simpa [List.isEmpty_iff] using hne

/-! ### A sample environment -/

/-- The order `sort.Slice` puts prospective nodes in: fewer pods first. -/
def fewerPods (a b : Node Pod) : Prop := a.pods.length ≤ b.pods.length

instance : DecidableRel (@fewerPods Pod) := fun a b => Nat.decLe a.pods.length b.pods.length

instance : IsTotal (Node Pod) fewerPods := ⟨fun a b => le_total a.pods.length b.pods.length⟩

instance : IsTrans (Node Pod) fewerPods := ⟨fun _ _ _ => Nat.le_trans⟩

/-- Pods known by their UID alone: they ask for no resources and no host port,
    tolerate every taint, carry no constraint and have nothing to relax; the
    topology tracks nothing, and `sort.Slice` is an insertion sort. -/
def plainEnv : Env String Unit where
  uid := id
  podRequirements := fun _ => GoMap.empty
  requestsForPods := fun _ => GoMap.empty
  hostPorts := fun _ => []
  toleratesTaint := fun _ _ => true
  register := fun _ _ _ => ()
  addRequirements := fun _ _ _ _ => .ok GoMap.empty
  record := fun _ _ _ => ()
  update := fun _ _ => ()
  relax := fun _ _ => none
  relax_uid := fun _ _ _ h => nomatch h
  sortByPods := List.insertionSort fewerPods
  sortByPods_perm := List.perm_insertionSort fewerPods
  sortByPods_sorted := List.sorted_insertionSort fewerPods

/-- Pods that each ask for one CPU. `pod-b` declares port 443 on one address
    and a container port with no host port; every other pod declares port 80 on
    all addresses. -/
def demoEnv : Env String Unit :=
  { plainEnv with
    requestsForPods := fun _ => ⟨[("cpu", 1)], by decide⟩
    hostPorts := fun pod =>
      if pod = "pod-b" then [⟨"10.0.0.1", 443, "TCP"⟩, ⟨"", 0, "TCP"⟩] else [⟨"0.0.0.0", 80, "TCP"⟩] }

/-- Pods known by a UID and the number of preferences `Relax` can still drop.
    The pod `big` asks for 16 CPUs, every other pod for one. -/
def relaxEnv : Env (String × Nat) Unit where
  uid := Prod.fst
  podRequirements := fun _ => GoMap.empty
  requestsForPods := fun pod => ⟨[("cpu", if pod.1 = "big" then 16 else 1)], by simp⟩
  hostPorts := fun _ => []
  toleratesTaint := fun _ _ => true
  register := fun _ _ _ => ()
  addRequirements := fun _ _ _ _ => .ok GoMap.empty
  record := fun _ _ _ => ()
  update := fun _ _ => ()
  relax := fun _ pod => match pod.2 with
    | 0 => none
    | k + 1 => some (pod.1, k)
  relax_uid := by
    rintro _ ⟨name, _ | k⟩ pod' h
    · cases h
    · cases h; rfl
  sortByPods := List.insertionSort fewerPods
  sortByPods_perm := List.perm_insertionSort fewerPods
  sortByPods_sorted := List.sorted_insertionSort fewerPods

open Requirement in
/-- A template of the provisioner `default`, as the provisioner controller
    builds it: its requirements name the provisioner. -/
def sampleTemplate : MachineTemplate where
  provisionerName := "default"
  instanceTypeOptions := []
  taints := []
  startupTaints := []
  requirements := newRequirements [(provisionerNameLabelKey, newRequirement .opIn ["default"])]
  requests := GoMap.empty

/-- An instance type with 4 CPUs, offered on demand in one zone. -/
def sampleType : InstanceType where
  name := "small"
  requirements := GoMap.empty
  offerings := [⟨"on-demand", "zone-a", true⟩]
  capacity := ⟨[("cpu", 4)], by decide⟩
  overhead := GoMap.empty

end KarpenterCore
