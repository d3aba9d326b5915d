import KarpenterCore.Life

/-!
# Where each pod of a batch ends

One `add` places the pod on exactly one node when it returns `nil`, and changes
no node's pods when it returns an error, except in one case: with no machine
template, an `add` that finds no node for the pod still returns `nil`, since
its loop over the templates never runs and the accumulated error stays `nil`
(`add_placedPods`). Then Solve neither places the pod nor keeps it as failed,
and publishes nothing for it (`solve_drops_pod_without_templates`).

With at least one template, Solve partitions the batch: every pod ends on
exactly one node or in the failed list, with a `nil` error exactly when placed,
and `recordSchedulingResults` publishes one failure per failed pod and one
nomination per pod on an in-flight node (`solve_partitions_batch`). The loop
invariant is `Placement`: pods are identified by UID, since relaxing a pod
changes its value and keeps its UID, and the queue holds the pods not tried yet
ahead of those that failed.
-/

namespace KarpenterCore

variable {Pod Topology : Type} {E : Env Pod Topology}

/-- The pods on the scheduler's nodes: the in-flight nodes' pods, then the
    prospective nodes'. -/
def Scheduler.placedPods (s : Scheduler Pod Topology) : List Pod :=
  s.existingNodes.flatMap (·.pods) ++ s.newNodes.flatMap (·.pods)

/-- Appending a pod to one node's pods appends it to the pods of the list. -/
private theorem flatMap_update_perm {α : Type} {pods : α → List Pod} {pre post : List α}
    {n n' : α} {pod : Pod} (h : pods n' = pods n ++ [pod]) :
    ((pre ++ n' :: post).flatMap pods).Perm ((pre ++ n :: post).flatMap pods ++ [pod]) := by
  simp only [List.flatMap_append, List.flatMap_cons, h, List.append_assoc, List.singleton_append]
  exact .append_left _ (.append_left _ (List.perm_append_singleton pod _).symm)

private theorem perm_append_right_singleton {l l' m : List Pod} {pod : Pod}
    (h : l'.Perm (l ++ [pod])) : (l' ++ m).Perm (l ++ m ++ [pod]) := by
  have hm : (l ++ ([pod] ++ m)).Perm (l ++ (m ++ [pod])) := List.perm_append_comm.append_left l
  rw [List.append_assoc l m]
  exact (h.append_right m).trans (by rw [List.append_assoc]; exact hm)

/-- The node a template creates holds the pod alone. -/
private theorem tryTemplate_pods {s s' : Scheduler Pod Topology} {pod : Pod} {t : MachineTemplate}
    {c : Created Pod} (h : s.tryTemplate E pod t = .ok (s', c)) : c.node.pods = [pod] := by
  obtain ⟨-, -, ⟨n₀, topology₁, hnew, hadd⟩, -⟩ := tryTemplate_ok h
  have hn₀ : n₀.pods = [] := (congrArg (fun x => x.1.pods) hnew).symm
  rw [(Node.add_ok hadd).1.pods, hn₀, List.nil_append]

/-- **Where one `add` puts the pod.** It returns `nil` and the pod joins the
    nodes' pods; or it returns `nil` with no machine template and places
    nothing; or it returns an error and places nothing. -/
theorem add_placedPods (E : Env Pod Topology) (s : Scheduler Pod Topology) (pod : Pod) :
    ((s.add E pod).err = none ∧ (s.add E pod).scheduler.placedPods.Perm (s.placedPods ++ [pod])) ∨
    ((s.add E pod).err = none ∧ s.machineTemplates = [] ∧
      (s.add E pod).scheduler.placedPods.Perm s.placedPods) ∨
    ((s.add E pod).err ≠ none ∧ (s.add E pod).scheduler.placedPods.Perm s.placedPods) := by
  have hsort : ((E.sortByPods s.newNodes).flatMap (·.pods)).Perm (s.newNodes.flatMap (·.pods)) :=
    (E.sortByPods_perm _).flatMap_right _
  rcases add_cases E s pod with ⟨pre, n, post, n', topology, hsplit, -, hn, hr⟩ |
    ⟨-, pre, n, post, n', topology, hsplit, -, hn, hr⟩ | ⟨-, -, hr⟩
  · refine .inl ⟨by rw [hr], ?_⟩
    rw [hr, Scheduler.placedPods, Scheduler.placedPods, hsplit]
    exact perm_append_right_singleton (flatMap_update_perm (ExistingNode.add_ok hn).2)
  · refine .inl ⟨by rw [hr], ?_⟩
    rw [hr, Scheduler.placedPods, Scheduler.placedPods, List.append_assoc]
    refine .append_left _ (.trans ?_ (hsort.append_right [pod]))
    rw [hsplit]
    exact flatMap_update_perm (Node.add_ok hn).1.pods
  · rw [hr]
    rcases addToNewNode_spec E pod s.machineTemplates none { s with newNodes := E.sortByPods s.newNodes }
      with ⟨-, herr, hreg⟩ | ⟨c, s₁, -, herr, -, hreg, hok⟩
    · have hplaced : (Scheduler.addToNewNode E pod s.machineTemplates none
          { s with newNodes := E.sortByPods s.newNodes }).scheduler.placedPods.Perm s.placedPods := by
        rw [hreg.eq]
        exact .append_left _ hsort
      by_cases ht : s.machineTemplates = []
      · exact .inr (.inl ⟨herr.mpr ⟨ht, rfl⟩, ht, hplaced⟩)
      · exact .inr (.inr ⟨fun h => ht (herr.mp h).1, hplaced⟩)
    · refine .inl ⟨herr, ?_⟩
      rw [(tryTemplate_ok hok).2.2.2, hreg.eq]
      simp only [Scheduler.placedPods, List.flatMap_append, List.flatMap_cons, List.flatMap_nil,
        tryTemplate_pods hok, List.append_nil, ← List.append_assoc]
      exact (hsort.append_left _).append_right _

private theorem placedPods_of_add_ok {s : Scheduler Pod Topology} {pod : Pod}
    (herr : (s.add E pod).err = none) (ht : s.machineTemplates ≠ []) :
    (s.add E pod).scheduler.placedPods.Perm (s.placedPods ++ [pod]) := by
  rcases add_placedPods E s pod with h | ⟨-, h, -⟩ | ⟨h, -⟩
  · exact h.2
  · exact absurd h ht
  · exact absurd herr h

private theorem placedPods_of_add_error {s : Scheduler Pod Topology} {pod : Pod}
    {err : SchedulingError} (herr : (s.add E pod).err = some err) :
    (s.add E pod).scheduler.placedPods.Perm s.placedPods := by
  rcases add_placedPods E s pod with ⟨h, -⟩ | ⟨h, -⟩ | h
  · simp [h] at herr
  · simp [h] at herr
  · exact h.2

/-- **A failed `add` changes no node.** It creates no node, and the scheduler it
    leaves is the one it started from with `newNodes` sorted by pod count,
    moved only by the hostname registrations of `NewNode`: every in-flight and
    prospective node, the remaining resources and the configuration are as they
    were, and no `Add` recorded the pod in the topology. -/
theorem add_error_keeps_nodes {s : Scheduler Pod Topology} {pod : Pod} {err : SchedulingError}
    (herr : (s.add E pod).err = some err) :
    (s.add E pod).created = none ∧
      RegistersOnly E { s with newNodes := E.sortByPods s.newNodes } (s.add E pod).scheduler := by
  have hfall := add_error_toNewNode herr
  rw [hfall] at herr ⊢
  exact addToNewNode_error_frame herr

theorem add_error_keeps_nodes_sample :
    ∃ err, ({ sampleScheduler with instanceTypes := fun _ => [] }.add plainEnv "pod-a").err = some err ∧
      ({ sampleScheduler with instanceTypes := fun _ => [] }.add plainEnv "pod-a").created = none ∧
      RegistersOnly plainEnv
        { sampleScheduler with newNodes := plainEnv.sortByPods [], instanceTypes := fun _ => [] }
        ({ sampleScheduler with instanceTypes := fun _ => [] }.add plainEnv "pod-a").scheduler :=
  ⟨_, rfl, add_error_keeps_nodes (rfl : ({ sampleScheduler with instanceTypes := fun _ => [] }.add
    plainEnv "pod-a").err = _)⟩

/-- Where an `add` that returns `nil` put the pod: on the first candidate that
    accepts it. The order is the in-flight nodes in insertion order, then the
    prospective nodes sorted by pod count, then a fresh node per machine template
    in declaration order. Only the accepting node changes. A fresh node is
    appended to the sorted prospective nodes. -/
inductive FirstAcceptor (E : Env Pod Topology) (s : Scheduler Pod Topology) (pod : Pod) :
    AddResult Pod Topology → Prop
  | existing {pre post : List (ExistingNode Pod)} {n n' : ExistingNode Pod} {topology : Topology} :
      s.existingNodes = pre ++ n :: post →
      (∀ m ∈ pre, ∃ err, m.add E s.topology pod = .error err) →
      n.add E s.topology pod = .ok (n', topology) →
      FirstAcceptor E s pod ⟨none, { s with existingNodes := pre ++ n' :: post, topology }, none⟩
  | prospective {pre post : List (Node Pod)} {n n' : Node Pod} {topology : Topology} :
      (∀ m ∈ s.existingNodes, ∃ err, m.add E s.topology pod = .error err) →
      E.sortByPods s.newNodes = pre ++ n :: post →
      (∀ m ∈ pre, ∃ err, m.add E s.topology pod = .error err) →
      n.add E s.topology pod = .ok (n', topology) →
      FirstAcceptor E s pod ⟨none, { s with newNodes := pre ++ n' :: post, topology }, none⟩
  | template {r : AddResult Pod Topology} {preT postT : List MachineTemplate} {t : MachineTemplate}
      {s₁ : Scheduler Pod Topology} {c : Created Pod} :
      (∀ m ∈ s.existingNodes, ∃ err, m.add E s.topology pod = .error err) →
      (∀ m ∈ s.newNodes, ∃ err, m.add E s.topology pod = .error err) →
      s.machineTemplates = preT ++ t :: postT →
      RejectChain E pod { s with newNodes := E.sortByPods s.newNodes } preT s₁ →
      s₁.tryTemplate E pod t = .ok (r.scheduler, c) →
      r.err = none → r.created = some c →
      r.scheduler.existingNodes = s.existingNodes →
      r.scheduler.newNodes = E.sortByPods s.newNodes ++ [c.node] →
      FirstAcceptor E s pod r

/-- **An `add` that returns `nil` placed the pod, when there is a machine
    template.** The pod went to the first acceptor, and only the entry of
    `remainingResources` for the provisioner of the template that created a
    node can have changed. -/
theorem add_nil_first_acceptor {s : Scheduler Pod Topology} {pod : Pod}
    (hnil : (s.add E pod).err = none) (ht : s.machineTemplates ≠ []) :
    FirstAcceptor E s pod (s.add E pod) ∧
      ∀ p, (∀ c, (s.add E pod).created = some c → p ≠ c.template.provisionerName) →
        (s.add E pod).scheduler.remainingResources p = s.remainingResources p := by
  rcases add_cases E s pod with ⟨_, _, _, _, _, hsplit, hpre, hn, hr⟩ |
    ⟨hex, _, _, _, _, _, hsplit, hpre, hn, hr⟩ | ⟨hex, hnew, hr⟩
  · rw [hr]; exact ⟨.existing hsplit hpre hn, fun _ _ => rfl⟩
  · rw [hr]; exact ⟨.prospective hex hsplit hpre hn, fun _ _ => rfl⟩
  · rw [hr] at hnil ⊢
    rcases addToNewNode_spec E pod s.machineTemplates none { s with newNodes := E.sortByPods s.newNodes }
      with ⟨-, herr, -⟩ | ⟨c, s₁, hc, -, ⟨preT, postT, hsplit, hchain⟩, hreg, hok⟩
    · exact absurd (herr.mp hnil).1 ht
    · have hs' := (tryTemplate_ok hok).2.2.2
      have hs₁ := hreg.eq
      refine ⟨.template hex hnew hsplit hchain hok hnil hc (by rw [hs', hs₁]) (by rw [hs', hs₁]),
        fun p hp => ?_⟩
      rw [hs', hs₁]
      exact setRemaining_ne _ _ (hp c hc)

theorem add_nil_first_acceptor_sample :
    (sampleScheduler.add plainEnv "pod-a").err = none ∧ sampleScheduler.machineTemplates ≠ [] ∧
      FirstAcceptor plainEnv sampleScheduler "pod-a" (sampleScheduler.add plainEnv "pod-a") ∧
      ∀ p, (∀ c, (sampleScheduler.add plainEnv "pod-a").created = some c →
          p ≠ c.template.provisionerName) →
        (sampleScheduler.add plainEnv "pod-a").scheduler.remainingResources p =
          sampleScheduler.remainingResources p :=
  ⟨rfl, List.cons_ne_nil _ _,
    add_nil_first_acceptor (rfl : (sampleScheduler.add plainEnv "pod-a").err = _) (List.cons_ne_nil _ _)⟩

/-- With no in-flight node, no prospective node and no machine template, `add`
    returns `nil` and changes nothing. -/
theorem add_of_no_candidates {s : Scheduler Pod Topology} (hex : s.existingNodes = [])
    (hnew : s.newNodes = []) (ht : s.machineTemplates = []) (pod : Pod) :
    s.add E pod = ⟨none, s, none⟩ := by
  obtain ⟨newNodes, existingNodes, machineTemplates⟩ := s
  dsimp only at hex hnew ht
  subst hex hnew ht
  simp [Scheduler.add, addFirst, Scheduler.addToNewNode, (E.sortByPods_perm []).eq_nil]

/-- A scheduler `NewScheduler` builds with no machine template and no in-flight
    node: `add` returns `nil` for every pod, yet no node received the pod and
    no node was created. -/
theorem add_nil_without_placing (E : Env Pod Topology) (pod : Pod)
    (provisioners : List Provisioner) (topology : Topology)
    (instanceTypes : String → List InstanceType) (daemonOverhead : MachineTemplate → ResourceList)
    (opts : SchedulerOptions) (nodeID : Nat) :
    ∃ s, newScheduler [] provisioners [] topology instanceTypes daemonOverhead opts nodeID = some s ∧
      s.add E pod = ⟨none, s, none⟩ :=
  ⟨_, rfl, add_of_no_candidates rfl rfl rfl pod⟩

/-! ### Solve's loop -/

/-- `NewScheduler` starts with no pod on any node. -/
theorem newScheduler_placedPods {machines : List MachineTemplate}
    {provisioners : List Provisioner} {stateNodes : List StateNode} {topology : Topology}
    {instanceTypes : String → List InstanceType} {daemonOverhead : MachineTemplate → ResourceList}
    {opts : SchedulerOptions} {nodeID : Nat} {s₀ : Scheduler Pod Topology}
    (h₀ : newScheduler machines provisioners stateNodes topology instanceTypes daemonOverhead opts
      nodeID = some s₀) : s₀.placedPods = [] := by
  rw [Scheduler.placedPods, congrArg Scheduler.newNodes (newScheduler_eq h₀), List.flatMap_nil,
    List.append_nil, List.flatMap_eq_nil_iff]
  exact fun n hn => (newScheduler_existingNodes_fresh h₀ n hn).1

/-- **Where the pods of a batch are while Solve's loop runs.** Each UID of the
    batch is once on a node or in the queue; a pod on a node has a `nil` error;
    and the queue holds the pods not tried yet, with no error and no pass
    recorded, ahead of the pods that failed, each with an error. -/
structure Placement (E : Env Pod Topology) (batch : List Pod) (st : SolveState Pod Topology) :
    Prop where
  perm : ((st.scheduler.placedPods ++ st.queue.pods).map E.uid).Perm (batch.map E.uid)
  placed : ∀ p ∈ st.scheduler.placedPods, st.errors (E.uid p) = none
  queue : ∃ fresh tried, st.queue.pods = fresh ++ tried ∧
    (∀ p ∈ fresh, st.errors (E.uid p) = none ∧ st.queue.lastLen (E.uid p) = 0) ∧
    ∀ p ∈ tried, st.errors (E.uid p) ≠ none

theorem Placement.start {s₀ : Scheduler Pod Topology} (hs : s₀.placedPods = [])
    (batch : List Pod) : Placement E batch ⟨s₀, newQueue batch, fun _ => none, []⟩ :=
  ⟨by simp [hs, newQueue], by simp [hs],
    ⟨batch, [], by simp [newQueue], fun _ _ => ⟨rfl, rfl⟩, by simp⟩⟩

/-- Popping the head leaves the pods not tried ahead of the failed ones. -/
private theorem split_after_pop {pod : Pod} {rest fresh tried : List Pod}
    (h : pod :: rest = fresh ++ tried) :
    ∃ fresh' tried', rest = fresh' ++ tried' ∧ (∀ p ∈ fresh', p ∈ fresh) ∧ ∀ p ∈ tried', p ∈ tried := by
  cases fresh with
  | nil => exact ⟨[], rest, rfl, by simp, fun p hp => by rw [List.nil_append] at h; rw [← h]; exact List.mem_cons_of_mem _ hp⟩
  | cons f fs =>
    rw [List.cons_append, List.cons.injEq] at h
    exact ⟨fs, tried, h.2, fun p hp => List.mem_cons_of_mem _ hp, fun _ hp => hp⟩

/-- Pushing a pod back, relaxed or not, keeps its UID in the queue. -/
private theorem perm_push {placed placed' rest : List Pod} {pod x : Pod}
    (hplaced : placed'.Perm placed) (hx : E.uid x = E.uid pod) :
    ((placed' ++ (rest ++ [x])).map E.uid).Perm ((placed ++ pod :: rest).map E.uid) := by
  simp only [List.map_append, List.map_cons, List.map_nil, hx]
  exact (hplaced.map E.uid).append (List.perm_append_singleton _ _)

/-- What `Pop` leaves of the placement: the popped pod's UID is on no node and
    nowhere in the rest of the queue, and the rest holds the pods not tried yet
    ahead of the failed ones. -/
private theorem Placement.pop {batch : List Pod} {st : SolveState Pod Topology} {pod : Pod}
    {q : Queue Pod} (hP : Placement E batch st) (hnodup : (batch.map E.uid).Nodup)
    (hpop : st.queue.pop E.uid = some (pod, q)) :
    ((st.scheduler.placedPods ++ pod :: q.pods).map E.uid).Perm (batch.map E.uid) ∧
      (∀ p ∈ st.scheduler.placedPods, E.uid p ≠ E.uid pod) ∧
      ∃ fresh tried, q.pods = fresh ++ tried ∧
        (∀ p ∈ fresh, E.uid p ≠ E.uid pod ∧ st.errors (E.uid p) = none ∧ q.lastLen (E.uid p) = 0) ∧
        ∀ p ∈ tried, E.uid p ≠ E.uid pod ∧ st.errors (E.uid p) ≠ none := by
  obtain ⟨hq, hlast, -⟩ := Queue.pop_some hpop
  obtain ⟨fresh, tried, hsplit, hfresh, htried⟩ := hP.queue
  rw [hq] at hsplit
  obtain ⟨fresh', tried', hrest, hfresh', htried'⟩ := split_after_pop hsplit
  have hbatch : ((st.scheduler.placedPods ++ pod :: q.pods).map E.uid).Perm (batch.map E.uid) :=
    hq ▸ hP.perm
  have hnd := hbatch.nodup_iff.mpr hnodup
  rw [List.map_append, List.map_cons] at hnd
  have hne : ∀ p ∈ st.scheduler.placedPods ++ q.pods, E.uid p ≠ E.uid pod := fun p hp heq =>
    (List.nodup_cons.mp (List.nodup_middle.mp hnd)).1
      (by rw [← List.map_append, ← heq]; exact List.mem_map_of_mem E.uid hp)
  refine ⟨hbatch, fun p hp => hne p (List.mem_append_left _ hp), fresh', tried', hrest,
    fun p hp => ⟨hne p ?_, ?_⟩, fun p hp => ⟨hne p ?_, htried p (htried' p hp)⟩⟩
  · rw [hrest]; exact List.mem_append_right _ (List.mem_append_left _ hp)
  · rw [hlast]; exact hfresh p (hfresh' p hp)
  · rw [hrest]; exact List.mem_append_right _ (List.mem_append_right _ hp)

/-- **One iteration keeps the placement**, given distinct UIDs in the batch and
    at least one machine template. -/
theorem Placement.step {batch : List Pod} {st st' : SolveState Pod Topology}
    (hP : Placement E batch st) (hnodup : (batch.map E.uid).Nodup)
    (ht : st.scheduler.machineTemplates ≠ []) (h : solveStep E st = some st') :
    Placement E batch st' := by
  obtain ⟨pod, q, hpop, hcase⟩ := solveStep_some h
  obtain ⟨hbatch, hplaced_ne, fresh, tried, hrest, hfresh, htried⟩ := hP.pop hnodup hpop
  rcases hcase with ⟨herr, rfl⟩ | ⟨err, herr, hpush⟩
  · -- placed
    have hplaced := placedPods_of_add_ok herr ht
    refine ⟨?_, fun p hp => ?_, fresh, tried, hrest, fun p hp => ?_, fun p hp => ?_⟩
    · refine ((hplaced.append_right q.pods).map E.uid).trans (.trans ?_ hbatch)
      rw [List.append_assoc, List.singleton_append]
    · rcases List.mem_append.mp (hplaced.subset hp) with hp | hp
      · simp only [if_neg (hplaced_ne p hp)]
        exact hP.placed p hp
      · simp [List.mem_singleton.mp hp, herr]
    · simp only [if_neg (hfresh p hp).1]
      exact (hfresh p hp).2
    · simp only [if_neg (htried p hp).1]
      exact (htried p hp).2
  · -- pushed back, relaxed or as it was
    obtain ⟨x, b, s', huid, rfl, hs'⟩ : ∃ x b s', E.uid x = E.uid pod ∧
        st' = ⟨s', q.push E.uid x b,
          fun u => if u = E.uid pod then (st.scheduler.add E pod).err else st.errors u,
          st.created ++ (st.scheduler.add E pod).created.toList⟩ ∧
        s'.placedPods = (st.scheduler.add E pod).scheduler.placedPods := by
      rcases hpush with ⟨relaxed, hrelax, rfl⟩ | ⟨-, rfl⟩
      · exact ⟨relaxed, true, _, E.relax_uid _ _ _ hrelax, rfl, rfl⟩
      · exact ⟨pod, false, _, rfl, rfl, rfl⟩
    have hplaced : s'.placedPods.Perm st.scheduler.placedPods := hs' ▸ placedPods_of_add_error herr
    refine ⟨by dsimp only; rw [Queue.push_pods]; exact (perm_push hplaced huid).trans hbatch,
      fun p hp => ?_, fresh, tried ++ [x], by simp [hrest], fun p hp => ⟨?_, ?_⟩, fun p hp => ?_⟩
    · simp only [if_neg (hplaced_ne p (hplaced.subset hp))]
      exact hP.placed p (hplaced.subset hp)
    · simp only [if_neg (hfresh p hp).1]
      exact (hfresh p hp).2.1
    · cases b
      · have hne : E.uid p ≠ E.uid x := fun h => (hfresh p hp).1 (h.trans huid)
        simp only [Queue.push_false_lastLen, if_neg hne]
        exact (hfresh p hp).2.2
      · rfl
    · rcases List.mem_append.mp hp with hp | hp
      · simp only [if_neg (htried p hp).1]
        exact (htried p hp).2
      · rw [List.mem_singleton.mp hp]
        simp [huid, herr]

/-- Where `Pop` gives up, no pod in the queue is untried: each has an error. -/
theorem Placement.failed_tried {batch : List Pod} {st : SolveState Pod Topology}
    (hP : Placement E batch st) (hpop : st.queue.pop E.uid = none) :
    ∀ p ∈ st.queue.pods, st.errors (E.uid p) ≠ none := by
  obtain ⟨fresh, tried, hsplit, hfresh, htried⟩ := hP.queue
  have hnil : fresh = [] := by
    rcases Queue.pop_eq_none hpop with hq | ⟨head, rest, hq, hlen⟩
    · rw [hq] at hsplit
      exact (List.append_eq_nil.mp hsplit.symm).1
    · cases fresh with
      | nil => rfl
      | cons f fs =>
        rw [hq, List.cons_append, List.cons.injEq] at hsplit
        obtain ⟨rfl, -⟩ := hsplit
        have h0 := (hfresh head (List.mem_cons_self _ _)).2
        rw [hq, List.length_cons] at hlen
        omega
  intro p hp
  rw [hsplit, hnil, List.nil_append] at hp
  exact htried p hp

/-- **Solve partitions the batch.** With at least one machine template and a
    batch of distinct UIDs, each pod of the batch ends, by UID, on exactly one
    in-flight node, on exactly one prospective node, or in the failed list. The
    error map is `nil` for every placed pod and not `nil` for every failed pod.
    Outside simulation mode the events published are exactly one failure per
    failed pod, with its error, and one nomination per pod on an in-flight node;
    in simulation mode nothing is published. -/
theorem solve_partitions_batch {machines : List MachineTemplate}
    {provisioners : List Provisioner} {stateNodes : List StateNode} {topology : Topology}
    {instanceTypes : String → List InstanceType} {daemonOverhead : MachineTemplate → ResourceList}
    {opts : SchedulerOptions} {nodeID fuel : Nat} {pods : List Pod} {s₀ : Scheduler Pod Topology}
    {r : SolveResult Pod Topology}
    (h₀ : newScheduler machines provisioners stateNodes topology instanceTypes daemonOverhead opts
      nodeID = some s₀)
    (htemplates : machines ≠ []) (hnodup : (pods.map E.uid).Nodup)
    (hr : s₀.solve E fuel pods = some r) :
    ((r.existingNodes.flatMap (·.pods) ++ r.newNodes.flatMap (·.pods) ++ r.failed).map E.uid).Perm
        (pods.map E.uid) ∧
      (∀ p ∈ r.existingNodes.flatMap (·.pods) ++ r.newNodes.flatMap (·.pods),
        r.errors (E.uid p) = none) ∧
      (∀ p ∈ r.failed, r.errors (E.uid p) ≠ none) ∧
      (opts.simulationMode = false →
        r.effects.filterMap Effect.failure = r.failed.map (fun p => (p, r.errors (E.uid p))) ∧
        r.effects.filterMap Effect.nomination =
          r.existingNodes.flatMap fun n => n.pods.map fun p => (p, n.node.name)) ∧
      (opts.simulationMode = true → r.effects = []) := by
  obtain ⟨st, hloop, -, hnew, hexist, hfailed, herrors, -, heffects⟩ := solve_eq_some hr
  have h₀eq := newScheduler_eq h₀
  obtain ⟨⟨hP, hlife⟩, hpop⟩ := @solveLoop_induction Pod Topology E
    (fun st => Placement E pods st ∧ Life E s₀ st.scheduler st.created)
    (fun _ _ ⟨hP, hl⟩ hs => ⟨hP.step hnodup
      (by rw [hl.sameConfig.machineTemplates, h₀eq]; exact htemplates) hs, solveStep_life hs hl⟩)
    fuel _ st hloop ⟨Placement.start (newScheduler_placedPods h₀) pods, .start⟩
  have hplaced : r.existingNodes.flatMap (·.pods) ++ r.newNodes.flatMap (·.pods) =
      st.scheduler.placedPods := by
    simp [hexist, hnew, Scheduler.placedPods, List.flatMap_map, Function.comp_def]
  have hopts : st.scheduler.opts.simulationMode = opts.simulationMode := by
    rw [hlife.sameConfig.opts, h₀eq]
  rw [hplaced, hfailed, herrors]
  refine ⟨hP.perm, hP.placed, hP.failed_tried hpop, fun hsim => ?_, fun hsim => ?_⟩
  · rw [heffects, hopts, hsim, if_neg Bool.false_ne_true, recordSchedulingResults_failures,
      recordSchedulingResults_nominations, hexist]
    exact ⟨rfl, rfl⟩
  · rw [heffects, hopts, hsim, if_pos rfl]

theorem solve_partitions_batch_sample :
    ∃ r, sampleScheduler.solve plainEnv 5 ["pod-a", "pod-b"] = some r ∧
      r.newNodes.map (·.pods) = [["pod-a", "pod-b"]] ∧
      ((r.existingNodes.flatMap (·.pods) ++ r.newNodes.flatMap (·.pods) ++ r.failed).map
          plainEnv.uid).Perm (["pod-a", "pod-b"].map plainEnv.uid) ∧
      (∀ p ∈ r.existingNodes.flatMap (·.pods) ++ r.newNodes.flatMap (·.pods),
        r.errors (plainEnv.uid p) = none) ∧
      (∀ p ∈ r.failed, r.errors (plainEnv.uid p) ≠ none) ∧
      ((⟨false⟩ : SchedulerOptions).simulationMode = false →
        r.effects.filterMap Effect.failure = r.failed.map (fun p => (p, r.errors (plainEnv.uid p))) ∧
        r.effects.filterMap Effect.nomination =
          r.existingNodes.flatMap fun n => n.pods.map fun p => (p, n.node.name)) ∧
      ((⟨false⟩ : SchedulerOptions).simulationMode = true → r.effects = []) :=
  ⟨_, rfl, by decide, solve_partitions_batch sampleScheduler_eq (List.cons_ne_nil _ _) (by decide)
    (rfl : sampleScheduler.solve plainEnv 5 ["pod-a", "pod-b"] = _)⟩

/-- With no in-flight node, no prospective node and no machine template, Solve
    on one pod ends with the pod nowhere. -/
private theorem solve_of_no_candidates {s : Scheduler Pod Topology} (hex : s.existingNodes = [])
    (hnew : s.newNodes = []) (ht : s.machineTemplates = []) (pod : Pod) :
    ∃ r, s.solve E 2 [pod] = some r ∧ r.existingNodes = [] ∧ r.newNodes = [] ∧ r.failed = [] ∧
      r.errors (E.uid pod) = none ∧ r.effects = [] := by
  have hadd : s.add E pod = ⟨none, s, none⟩ := add_of_no_candidates hex hnew ht pod
  have hloop : solveLoop E 2 ⟨s, newQueue [pod], fun _ => none, []⟩ =
      some ⟨s, ⟨[], fun _ => 0⟩, fun _ => none, []⟩ := by
    simp [solveLoop, solveStep, newQueue, Queue.pop, hadd]
  refine ⟨_, by rw [Scheduler.solve, hloop]; rfl, hex, by simp [hnew], rfl, rfl, ?_⟩
  dsimp only
  split <;> simp [recordSchedulingResults, hex, Queue.list]

/-- A scheduler `NewScheduler` builds with no machine template and no in-flight
    node: Solve on any one pod ends with the pod on no node and not in the
    failed list, its error `nil`, and no event published. -/
theorem solve_drops_pod_without_templates (E : Env Pod Topology) (pod : Pod)
    (provisioners : List Provisioner) (topology : Topology)
    (instanceTypes : String → List InstanceType) (daemonOverhead : MachineTemplate → ResourceList)
    (opts : SchedulerOptions) (nodeID : Nat) :
    ∃ s, newScheduler [] provisioners [] topology instanceTypes daemonOverhead opts nodeID = some s ∧
      ∃ r, s.solve E 2 [pod] = some r ∧ r.existingNodes = [] ∧ r.newNodes = [] ∧ r.failed = [] ∧
        r.errors (E.uid pod) = none ∧ r.effects = [] :=
  ⟨_, rfl, solve_of_no_candidates rfl rfl rfl pod⟩

end KarpenterCore
