import KarpenterCore.Scheduler
import KarpenterCore.Queue
import Mathlib.Data.List.Basic

/-!
# Solve

`Scheduler.Solve` and `recordSchedulingResults`. The loop is run on explicit
fuel; `Termination.lean` bounds the fuel it needs.

A pod is a value here: Go relaxes a pod in place through its pointer, the model
pushes the relaxed value back. The batch holds each pod once, and a pod leaves
the queue when `add` places it, so the value a node holds is the pod as Solve
returns it. The error map, keyed in Go by the pod pointer, is keyed by UID.
-/

namespace KarpenterCore

variable {Pod Topology : Type}

/-- The variables of `Solve`'s loop: the scheduler, the queue and the error map,
    and the nodes `add` created so far. -/
structure SolveState (Pod Topology : Type) where
  scheduler : Scheduler Pod Topology
  queue : Queue Pod
  errors : String → Option SchedulingError
  created : List (Created Pod)

/-- One iteration of `Solve`'s loop; `none` when `Pop` ends it. -/
def solveStep (E : Env Pod Topology) (st : SolveState Pod Topology) :
    Option (SolveState Pod Topology) :=
  match st.queue.pop E.uid with
  | none => none
  | some (pod, q) =>
    let r := st.scheduler.add E pod
    let errors := fun u => if u = E.uid pod then r.err else st.errors u
    let created := st.created ++ r.created.toList
    match r.err with
    | none => some ⟨r.scheduler, q, errors, created⟩
    | some _ =>
      match E.relax r.scheduler.preferences.toleratePreferNoSchedule pod with
      | some relaxed =>
        some ⟨{ r.scheduler with topology := E.update r.scheduler.topology relaxed },
          q.push E.uid relaxed true, errors, created⟩
      | none => some ⟨r.scheduler, q.push E.uid pod false, errors, created⟩

/-- **Everything one iteration of Solve's loop can do.** It pops a pod and
    records the error of `add` under the pod's UID; then the pod is placed, or
    relaxed and pushed back with the topology updated, or pushed back as it
    was. -/
theorem solveStep_some {E : Env Pod Topology} {st st' : SolveState Pod Topology}
    (h : solveStep E st = some st') :
    ∃ pod q, st.queue.pop E.uid = some (pod, q) ∧
      ((st.scheduler.add E pod).err = none ∧
        st' = ⟨(st.scheduler.add E pod).scheduler, q,
          fun u => if u = E.uid pod then (st.scheduler.add E pod).err else st.errors u,
          st.created ++ (st.scheduler.add E pod).created.toList⟩ ∨
      ∃ err, (st.scheduler.add E pod).err = some err ∧
        ((∃ relaxed, E.relax (st.scheduler.add E pod).scheduler.preferences.toleratePreferNoSchedule
            pod = some relaxed ∧
          st' = ⟨{ (st.scheduler.add E pod).scheduler with
              topology := E.update (st.scheduler.add E pod).scheduler.topology relaxed },
            q.push E.uid relaxed true,
            fun u => if u = E.uid pod then (st.scheduler.add E pod).err else st.errors u,
            st.created ++ (st.scheduler.add E pod).created.toList⟩) ∨
        (E.relax (st.scheduler.add E pod).scheduler.preferences.toleratePreferNoSchedule pod = none ∧
          st' = ⟨(st.scheduler.add E pod).scheduler, q.push E.uid pod false,
            fun u => if u = E.uid pod then (st.scheduler.add E pod).err else st.errors u,
            st.created ++ (st.scheduler.add E pod).created.toList⟩))) := by
  unfold solveStep at h
  split at h
  · cases h
  · rename_i pod q hpop
    refine ⟨pod, q, hpop, ?_⟩
    dsimp only at h
    split at h
    · rename_i herr
      exact .inl ⟨herr, (Option.some.inj h).symm⟩
    · rename_i err herr
      refine .inr ⟨err, herr, ?_⟩
      split at h
      · rename_i relaxed hrelax
        exact .inl ⟨relaxed, hrelax, (Option.some.inj h).symm⟩
      · rename_i hrelax
        exact .inr ⟨hrelax, (Option.some.inj h).symm⟩

/-- The loop stops exactly when `Pop` does. -/
theorem solveStep_eq_none {E : Env Pod Topology} {st : SolveState Pod Topology}
    (h : solveStep E st = none) : st.queue.pop E.uid = none := by
  unfold solveStep at h
  split at h
  · assumption
  · dsimp only at h
    split at h
    · cases h
    · split at h <;> cases h

/-- `Solve`'s loop on `fuel` iterations; `none` when the fuel runs out first. -/
def solveLoop (E : Env Pod Topology) : Nat → SolveState Pod Topology →
    Option (SolveState Pod Topology)
  | 0, _ => none
  | fuel + 1, st =>
    match solveStep E st with
    | none => some st
    | some st' => solveLoop E fuel st'

/-- A property kept by every iteration holds when the loop ends, and the loop
    ends only where `Pop` gives up. -/
theorem solveLoop_induction {E : Env Pod Topology} {P : SolveState Pod Topology → Prop}
    (hstep : ∀ st st', P st → solveStep E st = some st' → P st') :
    ∀ {fuel : Nat} {st st' : SolveState Pod Topology}, solveLoop E fuel st = some st' → P st →
      P st' ∧ st'.queue.pop E.uid = none
  | 0, _, _, h, _ => nomatch h
  | fuel + 1, st, st', h, hp => by
    unfold solveLoop at h
    split at h
    · rename_i hnone
      cases h
      exact ⟨hp, solveStep_eq_none hnone⟩
    · rename_i st₁ hstep₁
      exact solveLoop_induction hstep h (hstep st st₁ hp hstep₁)

/-- What `Solve` publishes. -/
inductive Event (Pod : Type) where
  /-- `events.PodFailedToSchedule(pod, errors[pod])`. -/
  | podFailedToSchedule (pod : Pod) (err : Option SchedulingError)
  /-- `events.NominatePod(pod, node)`. -/
  | nominatePod (pod : Pod) (node : String)

/-- The calls `recordSchedulingResults` makes on the recorder and the cluster. -/
inductive Effect (Pod : Type) where
  | publish (event : Event Pod)
  /-- `cluster.NominateNodeForPod(name)`. -/
  | nominateNodeForPod (node : String)

/-- The pod and error of a `PodFailedToSchedule` event. -/
def Effect.failure : Effect Pod → Option (Pod × Option SchedulingError)
  | .publish (.podFailedToSchedule pod err) => some (pod, err)
  | _ => none

/-- The pod and node of a `NominatePod` event. -/
def Effect.nomination : Effect Pod → Option (Pod × String)
  | .publish (.nominatePod pod node) => some (pod, node)
  | _ => none

/-- `recordSchedulingResults`, without its log lines. -/
def recordSchedulingResults (E : Env Pod Topology) (s : Scheduler Pod Topology)
    (failedToSchedule : List Pod) (errors : String → Option SchedulingError) : List (Effect Pod) :=
  failedToSchedule.map (fun pod => .publish (.podFailedToSchedule pod (errors (E.uid pod)))) ++
    s.existingNodes.flatMap fun node =>
      (if node.pods.isEmpty then [] else [.nominateNodeForPod node.node.name]) ++
        node.pods.map fun pod => .publish (.nominatePod pod node.node.name)

/-- `recordSchedulingResults` publishes one `PodFailedToSchedule` per failed pod,
    with the pod's error, in the order of the failed list. -/
theorem recordSchedulingResults_failures (E : Env Pod Topology) (s : Scheduler Pod Topology)
    (failed : List Pod) (errors : String → Option SchedulingError) :
    (recordSchedulingResults E s failed errors).filterMap Effect.failure =
      failed.map fun pod => (pod, errors (E.uid pod)) := by
  rw [recordSchedulingResults, List.filterMap_append,
    ← List.append_nil (failed.map fun pod => (pod, errors (E.uid pod)))]
  congr 1
  · induction failed <;> simp_all [Effect.failure]
  · rw [List.filterMap_eq_nil_iff]
    intro e he
    obtain ⟨node, -, he⟩ := List.mem_flatMap.mp he
    rcases List.mem_append.mp he with he | he
    · split at he <;> simp_all [Effect.failure]
    · obtain ⟨pod, -, rfl⟩ := List.mem_map.mp he
      rfl

/-- `recordSchedulingResults` publishes one `NominatePod` per pod on an in-flight
    node, naming the node. -/
theorem recordSchedulingResults_nominations (E : Env Pod Topology) (s : Scheduler Pod Topology)
    (failed : List Pod) (errors : String → Option SchedulingError) :
    (recordSchedulingResults E s failed errors).filterMap Effect.nomination =
      s.existingNodes.flatMap fun node => node.pods.map fun pod => (pod, node.node.name) := by
  rw [recordSchedulingResults, List.filterMap_append, List.filterMap_flatMap,
    ← List.nil_append (s.existingNodes.flatMap fun node => node.pods.map fun pod => (pod, node.node.name))]
  congr 1
  · rw [List.filterMap_eq_nil_iff]
    intro e he
    obtain ⟨pod, -, rfl⟩ := List.mem_map.mp he
    rfl
  · refine List.flatMap_congr fun node _ => ?_
    rw [List.filterMap_append, ← List.nil_append (node.pods.map fun pod => (pod, node.node.name))]
    congr 1
    · rw [List.filterMap_eq_nil_iff]
      intro e he
      split at he <;> simp_all [Effect.nomination]
    · induction node.pods <;> simp_all [Effect.nomination]

/-- What `Solve` returns and leaves behind: the prospective and in-flight nodes,
    `q.List()`, the error map, the published effects, the scheduler after the
    run, and the nodes `add` created. -/
structure SolveResult (Pod Topology : Type) where
  newNodes : List (Node Pod)
  existingNodes : List (ExistingNode Pod)
  failed : List Pod
  errors : String → Option SchedulingError
  effects : List (Effect Pod)
  scheduler : Scheduler Pod Topology
  created : List (Created Pod)

/-- `Scheduler.Solve`, on `fuel` loop iterations. -/
def Scheduler.solve (E : Env Pod Topology) (fuel : Nat) (s : Scheduler Pod Topology)
    (pods : List Pod) : Option (SolveResult Pod Topology) :=
  (solveLoop E fuel ⟨s, newQueue pods, fun _ => none, []⟩).map fun st =>
    let s := { st.scheduler with newNodes := st.scheduler.newNodes.map Node.finalizeScheduling }
    { newNodes := s.newNodes, existingNodes := s.existingNodes, failed := st.queue.list,
      errors := st.errors,
      effects := if s.opts.simulationMode then [] else
        recordSchedulingResults E s st.queue.list st.errors,
      scheduler := s, created := st.created }

end KarpenterCore
