import KarpenterCore.ExistingNode

/-!
# The scheduler

`Scheduler`, `NewScheduler`, `calculateExistingMachines`, `add`, `subtractMax`
and `filterByRemainingResources` of `provisioning/scheduling/node.go`.

`add` also reports, as ghost output, the node it created (with the template it
came from and the instance types it was handed): Go drops both, and the laws
about a prospective node's life refer to them.
-/

namespace KarpenterCore

variable {Pod Topology : Type}

open ResourceList Requirements

/-- `Preferences`, as `NewScheduler` configures it. -/
structure Preferences where
  toleratePreferNoSchedule : Bool

/-- `Scheduler`; `nodeID` is the process-wide counter `NewNode` advances. -/
structure Scheduler (Pod Topology : Type) where
  newNodes : List (Node Pod)
  existingNodes : List (ExistingNode Pod)
  machineTemplates : List MachineTemplate
  /-- provisioner name → remaining resources for that provisioner -/
  remainingResources : String → Option ResourceList
  instanceTypes : String → List InstanceType
  daemonOverhead : MachineTemplate → ResourceList
  preferences : Preferences
  topology : Topology
  opts : SchedulerOptions
  nodeID : Nat

/-- `m[name] = value` on a map keyed by provisioner name. -/
def setRemaining (m : String → Option ResourceList) (name : String) (value : ResourceList) :
    String → Option ResourceList :=
  fun n => if n = name then some value else m n

@[simp] theorem setRemaining_self (m : String → Option ResourceList) (name : String)
    (value : ResourceList) : setRemaining m name value name = some value := by
  simp [setRemaining]

@[simp] theorem setRemaining_ne (m : String → Option ResourceList) {name n : String}
    (value : ResourceList) (h : n ≠ name) : setRemaining m name value n = m n := by
  simp [setRemaining, h]

/-! ### Limits -/

/-- `subtractMax`: the remaining resources less, per resource, the largest
    capacity among the instance types. -/
def subtractMax (remaining : ResourceList) (instanceTypes : List InstanceType) : ResourceList :=
  if instanceTypes.isEmpty then remaining
  else
    let itResources := maxResources (instanceTypes.map (·.capacity))
    remaining.mapVals fun k v => v - itResources.quantity k

/-- `filterByRemainingResources`: the instance types whose capacity is within the
    remaining quantity of every resource in `remaining`. -/
def filterByRemainingResources (instanceTypes : List InstanceType) (remaining : ResourceList) :
    List InstanceType :=
  instanceTypes.filter fun it =>
    remaining.entries.all fun e => !decide (it.capacity.quantity e.1 > e.2)

/-! ### Construction -/

/-- `lo.KeyBy(machines, ...)` keyed by each template's provisioner-name label;
    `none` when a template's label has no value, where `Values()[0]` panics. -/
def namedNodeTemplates (machines : List MachineTemplate) :
    Option (String → Option MachineTemplate) :=
  machines.foldlM (fun named t =>
    ((t.requirements.get provisionerNameLabelKey).values.head?).map fun key =>
      fun name => if name = key then some t else named name) fun _ => none

/-- One iteration of `calculateExistingMachines`. -/
def Scheduler.addExistingMachine (named : String → Option MachineTemplate)
    (s : Scheduler Pod Topology) (node : StateNode) : Scheduler Pod Topology :=
  match node.labels.get? provisionerNameLabelKey with
  | none => s
  | some name =>
    match named name with
    | none => s
    | some nodeTemplate =>
      { s with
        existingNodes := s.existingNodes ++
          [newExistingNode node nodeTemplate.startupTaints (s.daemonOverhead nodeTemplate)],
        remainingResources := setRemaining s.remainingResources name
          (subtract ((s.remainingResources name).getD GoMap.empty) node.capacity) }

/-- `calculateExistingMachines`. -/
def Scheduler.calculateExistingMachines (s : Scheduler Pod Topology)
    (named : String → Option MachineTemplate) (stateNodes : List StateNode) :
    Scheduler Pod Topology :=
  stateNodes.foldl (Scheduler.addExistingMachine named) s

/-- The loop of `NewScheduler` over the provisioners' limits. -/
def declaredLimits (provisioners : List Provisioner) : String → Option ResourceList :=
  provisioners.foldl (fun remaining p =>
    match p.limits with
    | some limits => setRemaining remaining p.name limits
    | none => remaining) fun _ => none

/-- `NewScheduler`; `none` where it panics. -/
def newScheduler (machines : List MachineTemplate) (provisioners : List Provisioner)
    (stateNodes : List StateNode) (topology : Topology)
    (instanceTypes : String → List InstanceType) (daemonOverhead : MachineTemplate → ResourceList)
    (opts : SchedulerOptions) (nodeID : Nat) : Option (Scheduler Pod Topology) :=
  let toleratePreferNoSchedule := provisioners.any fun prov =>
    prov.taints.any fun taint => taint.effect == .preferNoSchedule
  (namedNodeTemplates machines).map fun named =>
    Scheduler.calculateExistingMachines
      { newNodes := [], existingNodes := [], machineTemplates := machines,
        remainingResources := declaredLimits provisioners, instanceTypes, daemonOverhead,
        preferences := ⟨toleratePreferNoSchedule⟩, topology, opts, nodeID }
      named stateNodes

/-- The scheduler `NewScheduler` builds for the sample template, with no
    provisioner limit and no in-flight node. -/
def sampleScheduler : Scheduler String Unit where
  newNodes := []
  existingNodes := []
  machineTemplates := [sampleTemplate]
  remainingResources := fun _ => none
  instanceTypes := fun _ => [sampleType]
  daemonOverhead := fun _ => GoMap.empty
  preferences := ⟨false⟩
  topology := ()
  opts := ⟨false⟩
  nodeID := 0

theorem sampleScheduler_eq :
    newScheduler [sampleTemplate] [] [] () (fun _ => [sampleType]) (fun _ => GoMap.empty) ⟨false⟩ 0 =
      some sampleScheduler := rfl

/-- The scheduler `NewScheduler` builds for the sample template over pods whose
    preferences `Relax` can drop. -/
def relaxScheduler : Scheduler (String × Nat) Unit where
  newNodes := []
  existingNodes := []
  machineTemplates := [sampleTemplate]
  remainingResources := fun _ => none
  instanceTypes := fun _ => [sampleType]
  daemonOverhead := fun _ => GoMap.empty
  preferences := ⟨false⟩
  topology := ()
  opts := ⟨false⟩
  nodeID := 0

theorem relaxScheduler_eq :
    newScheduler [sampleTemplate] [] [] () (fun _ => [sampleType]) (fun _ => GoMap.empty) ⟨false⟩ 0 =
      some relaxScheduler := rfl

/-- The provisioner `default`, limited to 8 CPUs. -/
def sampleProvisioner : Provisioner where
  name := "default"
  taints := []
  limits := some ⟨[("cpu", 8)], by decide⟩

/-- The scheduler `NewScheduler` builds for the sample template under the
    limited provisioner. -/
def limitedScheduler : Scheduler String Unit :=
  { sampleScheduler with remainingResources := declaredLimits [sampleProvisioner] }

theorem limitedScheduler_eq :
    newScheduler [sampleTemplate] [sampleProvisioner] [] () (fun _ => [sampleType])
      (fun _ => GoMap.empty) ⟨false⟩ 0 = some limitedScheduler := rfl

/-! ### Adding a pod -/

/-- A prospective node as `add` created it: the template, the instance types
    `add` handed to `NewNode`, and the node right after its first `Add`. -/
structure Created (Pod : Type) where
  template : MachineTemplate
  instanceTypes : List InstanceType
  node : Node Pod

/-- What one `add` call did: the error it returns, the scheduler after it, and
    the node it created, if it did. -/
structure AddResult (Pod Topology : Type) where
  err : Option SchedulingError
  scheduler : Scheduler Pod Topology
  created : Option (Created Pod)

/-- `for _, node := range nodes { if err := node.Add(ctx, pod); err == nil {
    return nil } }`: the nodes with the first that accepts updated, and the
    topology its `Add` left. -/
def addFirst {α ε : Type} (tryAdd : α → Except ε (α × Topology)) :
    List α → Option (List α × Topology)
  | [] => none
  | n :: ns =>
    match tryAdd n with
    | .ok (n', topology) => some (n' :: ns, topology)
    | .error _ => (addFirst tryAdd ns).map fun r => (n :: r.1, r.2)

/-- The instance types `add` hands to `NewNode` for a template: the
    provisioner's, filtered by its remaining resources when it has an entry. -/
def Scheduler.instanceTypesFor (s : Scheduler Pod Topology) (t : MachineTemplate) :
    List InstanceType :=
  match s.remainingResources t.provisionerName with
  | some remaining => filterByRemainingResources (s.instanceTypes t.provisionerName) remaining
  | none => s.instanceTypes t.provisionerName

/-- The body of `add`'s loop over the templates: the scheduler with the new node
    when the template's node takes the pod, else the error to append and the
    scheduler to continue with. -/
def Scheduler.tryTemplate (E : Env Pod Topology) (pod : Pod) (s : Scheduler Pod Topology)
    (t : MachineTemplate) :
    Except (SchedulingError × Scheduler Pod Topology) (Scheduler Pod Topology × Created Pod) :=
  if (s.remainingResources t.provisionerName).isSome && (s.instanceTypesFor t).isEmpty then
    .error (.exceedProvisionerLimits, s)
  else
    let (node, topology, nodeID) :=
      newNode E t s.topology (s.daemonOverhead t) (s.instanceTypesFor t) s.nodeID
    match node.add E topology pod with
    | .error err => .error (.incompatibleWithProvisioner t.provisionerName err, { s with topology, nodeID })
    | .ok (node, topology) =>
      .ok ({ s with
              newNodes := s.newNodes ++ [node], topology, nodeID,
              remainingResources := setRemaining s.remainingResources t.provisionerName
                (subtractMax ((s.remainingResources t.provisionerName).getD GoMap.empty)
                  node.instanceTypeOptions) },
        ⟨t, s.instanceTypesFor t, node⟩)

/-- `add`'s loop over the machine templates, with the errors gathered so far. -/
def Scheduler.addToNewNode (E : Env Pod Topology) (pod : Pod) :
    List MachineTemplate → Option SchedulingError → Scheduler Pod Topology →
      AddResult Pod Topology
  | [], errs, s => ⟨errs, s, none⟩
  | t :: ts, errs, s =>
    match s.tryTemplate E pod t with
    | .ok (s', created) => ⟨none, s', some created⟩
    | .error (err, s') => Scheduler.addToNewNode E pod ts (some (appendError errs err)) s'

/-- `Scheduler.add`: an in-flight node, else a prospective node (fewest pods
    first), else a new node from the first template that takes the pod. -/
def Scheduler.add (E : Env Pod Topology) (s : Scheduler Pod Topology) (pod : Pod) :
    AddResult Pod Topology :=
  match addFirst (fun n => n.add E s.topology pod) s.existingNodes with
  | some (existingNodes, topology) => ⟨none, { s with existingNodes, topology }, none⟩
  | none =>
    let s := { s with newNodes := E.sortByPods s.newNodes }
    match addFirst (fun n => n.add E s.topology pod) s.newNodes with
    | some (newNodes, topology) => ⟨none, { s with newNodes, topology }, none⟩
    | none => s.addToNewNode E pod s.machineTemplates none

end KarpenterCore
