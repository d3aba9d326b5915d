import KarpenterCore.Node

/-!
# In-flight nodes

Modelled from the spec (§4.6): `ExistingNode` lives in `existingnode.go`, outside
src/. It is "semantically identical to the prospective node but starts from the
real node's labels (forming an In-requirement per label value)", its taint list
is the template's startup taints, and "it has no instance-type list": the pod's
requests must fit the node's available resources instead.
-/

namespace KarpenterCore

variable {Pod Topology : Type}

/-- Modelled from the spec: `ExistingNode`, an in-flight node with the pods the
    scheduler nominates to it during this solve. -/
structure ExistingNode (Pod : Type) where
  node : StateNode
  pods : List Pod
  requirements : Requirements
  taints : List Taint
  requests : ResourceList
  hostPortUsage : HostPortUsage

/-- Modelled from the spec: `NewExistingNode(node, topology, taints,
    daemonResources)`. -/
def newExistingNode (node : StateNode) (taints : List Taint) (daemonResources : ResourceList) :
    ExistingNode Pod :=
  { node, pods := [], requirements := Requirements.newLabelRequirements node.labels.entries,
    taints, requests := daemonResources, hostPortUsage := ⟨[]⟩ }

/-- Modelled from the spec: `ExistingNode.Add`, the checks of `Node.Add` with the
    node's available resources in place of the instance types. -/
def ExistingNode.add (E : Env Pod Topology) (topology : Topology) (n : ExistingNode Pod)
    (pod : Pod) : Except SchedulingError (ExistingNode Pod × Topology) :=
  match E.tolerates n.taints pod with
  | some taint => .error (.taintNotTolerated taint)
  | none =>
    match n.hostPortUsage.validate (E.hostPorts pod) with
    | some port => .error (.hostPortConflict port)
    | none =>
      match E.nodeRequirementsFor topology n.requirements pod with
      | .error err => .error err
      | .ok nodeRequirements =>
        let requests := ResourceList.merge [n.requests, E.requestsForPods pod]
        if ResourceList.fits requests n.node.available then
          .ok ({ n with
                  pods := n.pods ++ [pod], requests, requirements := nodeRequirements,
                  hostPortUsage := n.hostPortUsage.add (E.hostPorts pod) },
            E.record topology pod nodeRequirements)
        else .error .exceedsNodeResources

/-- An in-flight node that accepts a pod keeps its node and appends the pod. -/
theorem ExistingNode.add_ok {E : Env Pod Topology} {topology topology' : Topology}
    {n n' : ExistingNode Pod} {pod : Pod} (h : n.add E topology pod = .ok (n', topology')) :
    n'.node = n.node ∧ n'.pods = n.pods ++ [pod] := by
  unfold ExistingNode.add at h
  split at h
  · cases h
  split at h
  · cases h
  split at h
  · cases h
  dsimp only at h
  split at h
  · cases h; exact ⟨rfl, rfl⟩
  · cases h

end KarpenterCore
