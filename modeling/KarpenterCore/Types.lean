import KarpenterCore.Resources
import KarpenterCore.Requirements

/-!
# Scheduling inputs

The data `provisioning/scheduling/node.go` reads besides pods: taints,
instance types and their offerings, host ports, machine templates, provisioners
and in-flight nodes, and the errors it returns. They are declared outside src/
(in `k8s.io/api`, `cloudprovider`, `apis/v1alpha5`, `controllers/state` and the
package's own `machinetemplate.go`); each keeps the fields the scheduler reads.
-/

namespace KarpenterCore

/-- `v1.TaintEffect`. -/
inductive TaintEffect where
  | noSchedule | preferNoSchedule | noExecute
deriving DecidableEq, Repr

/-- `v1.Taint`. -/
structure Taint where
  key : String
  value : String
  effect : TaintEffect
deriving DecidableEq, Repr

/-- `cloudprovider.Offering`. -/
structure Offering where
  capacityType : String
  zone : String
  available : Bool
deriving DecidableEq, Repr

/-- `cloudprovider.InstanceType`; `overhead` is what `Overhead.Total()` returns. -/
structure InstanceType where
  name : String
  requirements : Requirements
  offerings : List Offering
  capacity : ResourceList
  overhead : ResourceList

/-- `Offerings.Available()`. -/
def InstanceType.availableOfferings (it : InstanceType) : List Offering :=
  it.offerings.filter (·.available)

/-! ### Host ports -/

/-- A container port as `(hostIP, hostPort, protocol)`. -/
structure HostPort where
  ip : String
  port : Nat
  protocol : String
deriving DecidableEq, Repr

/-- Modelled from the spec (§4.2): two host-port entries collide when port and
    protocol agree and the IPs are equal or one is the wildcard `0.0.0.0`. -/
def HostPort.matches (a b : HostPort) : Bool :=
  a.port == b.port && a.protocol == b.protocol &&
    (a.ip == b.ip || a.ip == "0.0.0.0" || b.ip == "0.0.0.0")

theorem HostPort.matches_comm (a b : HostPort) : a.matches b = b.matches a := by
  unfold HostPort.matches
  rw [@Bool.beq_comm _ _ _ a.port, @Bool.beq_comm _ _ _ a.protocol, @Bool.beq_comm _ _ _ a.ip]
  cases a.ip == "0.0.0.0" <;> cases b.ip == "0.0.0.0" <;> simp

/-- `getHostPorts`: the container ports that reserve a host port. -/
def hostPortsOf (ports : List HostPort) : List HostPort := ports.filter (·.port != 0)

/-- Whether two pods' container ports reserve colliding host ports. -/
def portsConflict (a b : List HostPort) : Bool :=
  (hostPortsOf a).any fun p => (hostPortsOf b).any p.matches

/-- Two pods' container ports do not collide exactly when no declared host port
    of one, a nonzero port, has the port and protocol of a declared port of the
    other with an equal address or a wildcard on either side. -/
theorem portsConflict_eq_false_iff {a b : List HostPort} :
    portsConflict a b = false ↔ ∀ p ∈ a, ∀ q ∈ b, p.port ≠ 0 → p.port = q.port →
      p.protocol = q.protocol → p.ip ≠ q.ip ∧ p.ip ≠ "0.0.0.0" ∧ q.ip ≠ "0.0.0.0" := by
  simp only [portsConflict, hostPortsOf, HostPort.matches, Bool.eq_false_iff, ne_eq, List.any_eq_true,
    List.mem_filter, bne_iff_ne, Bool.and_eq_true, Bool.or_eq_true, beq_iff_eq, not_exists, not_and]
  constructor
  · intro h p hp q hq hport hpq hproto
    have h' := h p ⟨hp, hport⟩ q ⟨hq, hpq ▸ hport⟩ ⟨hpq, hproto⟩
    tauto
  · rintro h p ⟨hp, hport⟩ q ⟨hq, -⟩ ⟨hpq, hproto⟩ hip
    obtain ⟨h₁, h₂, h₃⟩ := h p hp q hq hport hpq hproto
    tauto

/-- Modelled from the spec (§4.2): `scheduling.HostPortUsage`, the host ports
    reserved by the pods on one node. -/
structure HostPortUsage where
  reserved : List HostPort

/-- `HostPortUsage.Validate(pod)`: the first of the pod's host ports that
    collides with a reserved one. -/
def HostPortUsage.validate (u : HostPortUsage) (ports : List HostPort) : Option HostPort :=
  (hostPortsOf ports).find? fun p => u.reserved.any p.matches

/-- `HostPortUsage.Add(ctx, pod)`. -/
def HostPortUsage.add (u : HostPortUsage) (ports : List HostPort) : HostPortUsage :=
  ⟨u.reserved ++ hostPortsOf ports⟩

/-! ### Templates, provisioners, in-flight nodes -/

/-- `MachineTemplate`, the scheduling prototype of a provisioner's nodes. -/
structure MachineTemplate where
  provisionerName : String
  instanceTypeOptions : List InstanceType
  taints : List Taint
  startupTaints : List Taint
  requirements : Requirements
  requests : ResourceList

/-- `v1alpha5.Provisioner`: its name, `Spec.Taints` and `Spec.Limits`
    (`none` for a nil `Limits`). -/
structure Provisioner where
  name : String
  taints : List Taint
  limits : Option ResourceList

/-- `state.Node`: an in-flight node of the cluster state. -/
structure StateNode where
  name : String
  labels : GoMap String String
  capacity : ResourceList
  available : ResourceList

/-- `SchedulerOptions`. -/
structure SchedulerOptions where
  simulationMode : Bool

/-! ### Errors -/

/-- The errors a scheduling attempt returns; each constructor is one place that
    builds an error. -/
inductive SchedulingError where
  /-- `Taints.Tolerates`: a taint no toleration of the pod tolerates. -/
  | taintNotTolerated (taint : Taint)
  /-- `HostPortUsage.Validate`: a host port of the pod already reserved. -/
  | hostPortConflict (port : HostPort)
  /-- `Requirements.Compatible`: a key whose values do not overlap. -/
  | keyNotCompatible (key : String)
  /-- `fmt.Errorf("incompatible requirements, %w", err)`. -/
  | incompatibleRequirements (err : SchedulingError)
  /-- `Topology.AddRequirements`: no admissible topology domain. -/
  | topologyInfeasible (reason : String)
  /-- `fmt.Errorf("no instance type satisfied resources %s and requirements %s",
      resources.String(resources.RequestsForPods(pod)), nodeRequirements)`. -/
  | noInstanceTypeSatisfied (requests : ResourceList) (requirements : Requirements)
  /-- `ExistingNode.Add`: the pod's requests exceed the node's available
      resources. -/
  | exceedsNodeResources
  /-- `fmt.Errorf("all available instance types exceed provisioner limits")`. -/
  | exceedProvisionerLimits
  /-- `fmt.Errorf("incompatible with provisioner %q, %w", name, err)`. -/
  | incompatibleWithProvisioner (name : String) (err : SchedulingError)
  /-- `multierr.Append` of two or more errors. -/
  | combined (errs : List SchedulingError)

/-- `multierr.Append(errs, err)`: the first error alone, later ones gathered. -/
def appendError : Option SchedulingError → SchedulingError → SchedulingError
  | none, err => err
  | some (.combined errs), err => .combined (errs ++ [err])
  | some first, err => .combined [first, err]

end KarpenterCore
