import KarpenterCore.Scheduler

/-!
# The life of a prospective node

What a prospective node satisfies from its first `Add` on, relative to the
record of its creation: every pod on it tolerates its taints and is refined by
its requirements, no two of its pods reserve colliding host ports, its requests
are the daemon overhead plus its pods' requests, and every instance type it
still offers was handed to it, admits its requirements, fits its requests and
has an offering. `Node.Add` keeps all of it (`NodeWF.add`), and the first `Add`
of a fresh node establishes it (`NodeWF.created`).
-/

namespace KarpenterCore

variable {Pod Topology : Type} (E : Env Pod Topology)

open ResourceList Requirements

/-- The requests of a node holding `pods` on top of `daemon`: the left fold of
    `Merge` that successive `Add` calls compute. -/
def requestsAfter (daemon : ResourceList) (pods : List Pod) : ResourceList :=
  pods.foldl (fun requests pod => merge [requests, E.requestsForPods pod]) daemon

/-- The laws a node keeps from its creation on. -/
structure NodeLaws (daemon : ResourceList) (n : Node Pod) : Prop where
  requests : n.requests = requestsAfter E daemon n.pods
  tolerated : ∀ pod ∈ n.pods, ∀ taint ∈ n.taints, E.toleratesTaint pod taint = true
  refines : ∀ pod ∈ n.pods, n.requirements.Refines (E.podRequirements pod)
  usage : n.hostPortUsage.reserved = n.pods.flatMap fun pod => hostPortsOf (E.hostPorts pod)
  ports : n.pods.Pairwise fun a b => portsConflict (E.hostPorts a) (E.hostPorts b) = false

/-- `n'` is `n` after further accepted `Add`s: its earlier pods and host-port
    reservations come first, its requirements only narrowed, its instance-type
    options only shrank, and its provisioner and taints are the same. -/
structure Node.Grows (n n' : Node Pod) : Prop where
  pods : n.pods <+: n'.pods
  ports : n.hostPortUsage.reserved <+: n'.hostPortUsage.reserved
  requirements : n'.requirements.Refines n.requirements
  options : n'.instanceTypeOptions.Sublist n.instanceTypeOptions
  provisionerName : n'.provisionerName = n.provisionerName
  taints : n'.taints = n.taints

/-- **The laws of a prospective node**, relative to the record `c` of its
    creation and the scheduler's daemon overheads: the record holds the node
    right after its first `Add`, and the node grew from it. -/
structure NodeWF (daemonOverhead : MachineTemplate → ResourceList) (n : Node Pod)
    (c : Created Pod) extends NodeLaws E (daemonOverhead c.template) n : Prop where
  provisionerName : n.provisionerName = c.template.provisionerName
  taints : n.taints = c.template.taints
  pods_ne : n.pods ≠ []
  options_ne : n.instanceTypeOptions ≠ []
  options : ∀ it ∈ n.instanceTypeOptions,
    compatible it n.requirements = true ∧ fits it n.requests = true ∧
      hasOffering it n.requirements = true
  grown : c.node.Grows n
  first : c.node.pods.length = 1
  handed : c.node.instanceTypeOptions.Sublist c.instanceTypes

variable {E}

theorem Node.Grows.refl (n : Node Pod) : n.Grows n :=
  ⟨List.prefix_refl _, List.prefix_refl _, Refines.refl _, List.Sublist.refl _, rfl, rfl⟩

theorem Node.Grows.trans {n₁ n₂ n₃ : Node Pod} (h₁ : n₁.Grows n₂) (h₂ : n₂.Grows n₃) : n₁.Grows n₃ :=
  ⟨h₁.pods.trans h₂.pods, h₁.ports.trans h₂.ports, h₂.requirements.trans h₁.requirements,
    h₂.options.trans h₁.options, h₂.provisionerName.trans h₁.provisionerName, h₂.taints.trans h₁.taints⟩

/-- An accepted `Node.Add` grows the node. -/
theorem Accepted.grows {m m' : Node Pod} {pod : Pod} (h : Accepted E m pod m') : m.Grows m' where
  pods := h.pods ▸ List.prefix_append _ _
  ports := h.usage ▸ List.prefix_append _ _
  requirements := h.refinesNode
  options := h.instanceTypes ▸ List.filter_sublist _
  provisionerName := h.template.1
  taints := h.template.2.1

/-- A fresh node holds no pod, so it keeps the laws trivially. -/
theorem NodeLaws.fresh (t : MachineTemplate) (topology : Topology) (daemon : ResourceList)
    (instanceTypes : List InstanceType) (nodeID : Nat) :
    NodeLaws E daemon (newNode E t topology daemon instanceTypes nodeID).1 :=
  ⟨rfl, by simp [newNode], by simp [newNode], rfl, List.Pairwise.nil⟩

/-- `Validate` checks the new pod's host ports against every port reserved by
    the pods already on the node. -/
theorem portsConflict_of_validate {u : HostPortUsage} {pods : List Pod} {pod : Pod}
    (husage : u.reserved = pods.flatMap fun p => hostPortsOf (E.hostPorts p))
    (hvalid : u.validate (E.hostPorts pod) = none) :
    ∀ a ∈ pods, portsConflict (E.hostPorts a) (E.hostPorts pod) = false := by
  intro a ha
  unfold HostPortUsage.validate at hvalid
  rw [List.find?_eq_none] at hvalid
  unfold portsConflict
  rw [Bool.eq_false_iff]
  intro hconf
  obtain ⟨p, hp, q, hq, hpq⟩ := by simpa using hconf
  have hfree := hvalid q hq
  apply hfree
  rw [List.any_eq_true]
  refine ⟨p, ?_, by rw [HostPort.matches_comm]; exact hpq⟩
  rw [husage, List.mem_flatMap]
  exact ⟨a, ha, hp⟩

/-! ### One more pod

Each law of a node's pods, from the pods before an accepted `Add` to the pods
after it. `Node.Add` and `ExistingNode.Add` both cite them. -/

theorem requestsAfter_append (daemon : ResourceList) (pods : List Pod) (pod : Pod) :
    requestsAfter E daemon (pods ++ [pod]) = merge [requestsAfter E daemon pods, E.requestsForPods pod] := by
  simp [requestsAfter]

theorem tolerated_append {taints : List Taint} {pods : List Pod} {pod : Pod}
    (hpods : ∀ p ∈ pods, ∀ taint ∈ taints, E.toleratesTaint p taint = true)
    (hpod : ∀ taint ∈ taints, E.toleratesTaint pod taint = true) :
    ∀ p ∈ pods ++ [pod], ∀ taint ∈ taints, E.toleratesTaint p taint = true := by
  intro p hp
  rcases List.mem_append.mp hp with hp | hp
  · exact hpods p hp
  · rw [List.mem_singleton.mp hp]; exact hpod

theorem refines_append {r r' : Requirements} {pods : List Pod} {pod : Pod}
    (hpods : ∀ p ∈ pods, r.Refines (E.podRequirements p)) (hnode : r'.Refines r)
    (hpod : r'.Refines (E.podRequirements pod)) :
    ∀ p ∈ pods ++ [pod], r'.Refines (E.podRequirements p) := by
  intro p hp
  rcases List.mem_append.mp hp with hp | hp
  · exact hnode.trans (hpods p hp)
  · rw [List.mem_singleton.mp hp]; exact hpod

theorem usage_append {u : HostPortUsage} {pods : List Pod} {pod : Pod}
    (h : u.reserved = pods.flatMap fun p => hostPortsOf (E.hostPorts p)) :
    (u.add (E.hostPorts pod)).reserved = (pods ++ [pod]).flatMap fun p => hostPortsOf (E.hostPorts p) := by
  simp [HostPortUsage.add, h]

theorem ports_append {u : HostPortUsage} {pods : List Pod} {pod : Pod}
    (hpods : pods.Pairwise fun a b => portsConflict (E.hostPorts a) (E.hostPorts b) = false)
    (husage : u.reserved = pods.flatMap fun p => hostPortsOf (E.hostPorts p))
    (hvalid : u.validate (E.hostPorts pod) = none) :
    (pods ++ [pod]).Pairwise fun a b => portsConflict (E.hostPorts a) (E.hostPorts b) = false := by
  rw [List.pairwise_append]
  exact ⟨hpods, List.pairwise_singleton _ _, fun a ha b hb => by
    rw [List.mem_singleton.mp hb]; exact portsConflict_of_validate husage hvalid a ha⟩

theorem NodeLaws.add {daemon : ResourceList} {n n' : Node Pod} {topology topology' : Topology}
    {pod : Pod} (hn : NodeLaws E daemon n) (h : n.add E topology pod = .ok (n', topology')) :
    NodeLaws E daemon n' := by
  obtain ⟨hacc, -⟩ := Node.add_ok h
  constructor
  · rw [hacc.requests, hacc.pods, hn.requests, requestsAfter_append]
  · rw [hacc.pods, hacc.template.2.1]; exact tolerated_append hn.tolerated hacc.tolerated
  · rw [hacc.pods]; exact refines_append hn.refines hacc.refinesNode hacc.refinesPod
  · rw [hacc.usage, hacc.pods]; exact usage_append hn.usage
  · rw [hacc.pods]; exact ports_append hn.ports hn.usage hacc.portsFree

private theorem options_of_accepted {n n' : Node Pod} {pod : Pod} (hacc : Accepted E n pod n') :
    ∀ it ∈ n'.instanceTypeOptions,
      compatible it n'.requirements = true ∧ fits it n'.requests = true ∧
        hasOffering it n'.requirements = true := by
  intro it hit
  rw [hacc.instanceTypes, filterInstanceTypesByRequirements, List.mem_filter] at hit
  simpa [Bool.and_assoc] using hit.2

theorem NodeWF.add {daemonOverhead : MachineTemplate → ResourceList} {n n' : Node Pod}
    {c : Created Pod} {topology topology' : Topology} {pod : Pod}
    (hn : NodeWF E daemonOverhead n c) (h : n.add E topology pod = .ok (n', topology')) :
    NodeWF E daemonOverhead n' c := by
  obtain ⟨hacc, -⟩ := Node.add_ok h
  exact { toNodeLaws := hn.toNodeLaws.add h
          provisionerName := hacc.template.1.trans hn.provisionerName
          taints := hacc.template.2.1.trans hn.taints
          pods_ne := by simp [hacc.pods]
          options_ne := hacc.nonempty
          options := options_of_accepted hacc
          grown := hn.grown.trans hacc.grows
          first := hn.first
          handed := hn.handed }

/-- The first `Add` of a fresh node establishes its laws, with the node right
    after that `Add` as its creation record. -/
theorem NodeWF.created {daemonOverhead : MachineTemplate → ResourceList} {t : MachineTemplate}
    {topology topology₁ topology₂ : Topology} {instanceTypes : List InstanceType}
    {nodeID nodeID' : Nat} {n₀ n₁ : Node Pod} {pod : Pod}
    (hnew : newNode E t topology (daemonOverhead t) instanceTypes nodeID = (n₀, topology₁, nodeID'))
    (h : n₀.add E topology₁ pod = .ok (n₁, topology₂)) :
    NodeWF E daemonOverhead n₁ ⟨t, instanceTypes, n₁⟩ := by
  obtain ⟨hacc, -⟩ := Node.add_ok h
  have hfresh : NodeLaws E (daemonOverhead t) n₀ := by
    have h₀ : NodeLaws E (daemonOverhead t) (newNode E t topology (daemonOverhead t) instanceTypes nodeID).1 :=
      NodeLaws.fresh t topology _ instanceTypes nodeID
    rwa [hnew] at h₀
  have hn₀ : n₀ = (newNode E t topology (daemonOverhead t) instanceTypes nodeID).1 := by rw [hnew]
  exact { toNodeLaws := hfresh.add h
          provisionerName := by rw [hacc.template.1, hn₀]; rfl
          taints := by rw [hacc.template.2.1, hn₀]; rfl
          pods_ne := by simp [hacc.pods]
          options_ne := hacc.nonempty
          options := options_of_accepted hacc
          grown := Node.Grows.refl _
          first := by rw [hacc.pods, hn₀]; rfl
          handed := by
            rw [hacc.instanceTypes, hn₀]
            exact List.filter_sublist _ }

/-! ### After `FinalizeScheduling` -/

/-- Dropping a key from a node's requirements keeps every instance type that was
    compatible with them compatible. -/
theorem compatible_erase {it : InstanceType} {rs : Requirements} (h : compatible it rs = true)
    (key : String) : compatible it (rs.erase key) = true := by
  unfold compatible at h ⊢
  rw [Option.isNone_iff_eq_none] at h ⊢
  exact intersects_erase h key

/-- `hasOffering` reads only the zone and capacity-type keys, so dropping the
    hostname key does not change it. -/
@[simp] theorem hasOffering_erase_hostname (it : InstanceType) (rs : Requirements) :
    hasOffering it (rs.erase labelHostname) = hasOffering it rs := by
  have hz : labelTopologyZone ≠ labelHostname := by decide
  have hc : labelCapacityType ≠ labelHostname := by decide
  simp only [hasOffering, has_erase_ne _ hz, get_erase_ne _ hz, has_erase_ne _ hc,
    get_erase_ne _ hc]

end KarpenterCore
