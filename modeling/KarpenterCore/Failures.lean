import KarpenterCore.Life

/-!
# Why a pod fails

Two laws about the pods Solve cannot place.

The first is about the error `add` returns. `add` tries the machine templates in
declaration order and `multierr.Append`s one error per template it passes over.
The error is `all available instance types exceed provisioner limits` when the
template's provisioner has remaining resources and none of its instance types
fits them. Otherwise it is the rejection of the template's fresh node, wrapped
with the provisioner's name (`add_error_per_template`). The limits error does
not name the provisioner: only its position in the list tells which template it
is about.

The second is about the failed list. Solve's queue gives up only when the pod
at its head was pushed back with the queue as long as it is now, so no pod was
placed since. A relaxation clears every pass recorded so far. So when Solve
returns, every pod it reports as failed was last tried, and rejected, against
the nodes Solve returns. The in-flight nodes are those nodes, the prospective
nodes are the same up to order, and the remaining resources are the same
(`solve_gives_up_after_full_pass`). Only the topology's hostname
registrations moved since.
-/

namespace KarpenterCore

variable {Pod Topology : Type} {E : Env Pod Topology}

/-! ### The error of `add` -/

/-- What `multierr.Append` leaves after appending `errs` to `nil` in order, when
    none of them is itself a combination: nothing, the one error, or all of
    them together. -/
def combinedError : List SchedulingError → Option SchedulingError
  | [] => none
  | [e] => some e
  | errs => some (.combined errs)

theorem appendError_some {a : SchedulingError} (ha : ∀ l, a ≠ .combined l) (e : SchedulingError) :
    appendError (some a) e = .combined [a, e] := by
  cases a <;> first | rfl | exact absurd rfl (ha _)

/-- Appending errors that are not combinations one by one to `nil` gives their
    combination. -/
theorem foldl_appendError {errs : List SchedulingError} (h : ∀ e ∈ errs, ∀ l, e ≠ .combined l) :
    errs.foldl (fun acc e => some (appendError acc e)) none = combinedError errs := by
  induction errs using List.reverseRecOn with
  | nil => rfl
  | append_singleton es e ih =>
    rw [List.foldl_append, ih fun a ha => h a (List.mem_append_left _ ha)]
    match es with
    | [] => rfl
    | [a] => exact congrArg some (appendError_some (h a (List.mem_cons_self _ _)) e)
    | _ :: _ :: _ => rfl

/-- The guard of `add`'s loop over the templates: the provisioner has an entry
    of remaining resources, and none of its instance types is within it. -/
def Scheduler.exceedsLimits (s : Scheduler Pod Topology) (t : MachineTemplate) : Bool :=
  (s.remainingResources t.provisionerName).isSome && (s.instanceTypesFor t).isEmpty

/-- The error `add` appends for a template it passes over. -/
def TemplateRejection (s : Scheduler Pod Topology) (t : MachineTemplate) (e : SchedulingError) :
    Prop :=
  (s.exceedsLimits t = true ∧ e = .exceedProvisionerLimits) ∨
    (s.exceedsLimits t = false ∧ ∃ inner, e = .incompatibleWithProvisioner t.provisionerName inner)

theorem TemplateRejection.not_combined {s : Scheduler Pod Topology} {t : MachineTemplate}
    {e : SchedulingError} (h : TemplateRejection s t e) (l : List SchedulingError) :
    e ≠ .combined l := by
  rcases h with ⟨-, rfl⟩ | ⟨-, _, rfl⟩ <;> exact SchedulingError.noConfusion

theorem tryTemplate_rejection {s s' : Scheduler Pod Topology} {pod : Pod} {t : MachineTemplate}
    {e : SchedulingError} (h : s.tryTemplate E pod t = .error (e, s')) : TemplateRejection s t e := by
  unfold Scheduler.tryTemplate at h
  split at h
  · rename_i hg
    cases h
    exact .inl ⟨hg, rfl⟩
  · rename_i hg
    simp only [newNode] at h
    split at h
    · cases h
      exact .inr ⟨Bool.eq_false_iff.mpr hg, _, rfl⟩
    · cases h

/-- Registrations leave the remaining resources and the instance types, so the
    guard, as they were. -/
theorem RegistersOnly.exceedsLimits {s s' : Scheduler Pod Topology} (h : RegistersOnly E s s')
    (t : MachineTemplate) : s'.exceedsLimits t = s.exceedsLimits t := by
  rw [h.eq]; rfl

/-- The loop over the templates fails with one error per template, appended in
    order to the error it started with. -/
theorem addToNewNode_error (E : Env Pod Topology) (pod : Pod) :
    ∀ (ts : List MachineTemplate) (errs₀ : Option SchedulingError) (s : Scheduler Pod Topology)
      {err : SchedulingError}, (s.addToNewNode E pod ts errs₀).err = some err →
      ∃ errs, List.Forall₂ (TemplateRejection s) ts errs ∧
        errs.foldl (fun acc e => some (appendError acc e)) errs₀ = some err
  | [], _, _, _, h => ⟨[], .nil, h⟩
  | t :: ts, errs₀, s, err, h => by
    rcases ht : s.tryTemplate E pod t with ⟨e, s'⟩ | ⟨s', c⟩
    · have hr : s.addToNewNode E pod (t :: ts) errs₀ =
          s'.addToNewNode E pod ts (some (appendError errs₀ e)) := by
        simp only [Scheduler.addToNewNode, ht]
      rw [hr] at h
      obtain ⟨errs, hrel, hfold⟩ := addToNewNode_error E pod ts _ s' h
      have hguard := (tryTemplate_error ht).exceedsLimits
      refine ⟨e :: errs, .cons (tryTemplate_rejection ht) (hrel.imp fun _ _ hrej => ?_), hfold⟩
      unfold TemplateRejection at hrej ⊢
      rwa [hguard] at hrej
    · simp [Scheduler.addToNewNode, ht] at h

/-- **The error of a failed `add` names each template in turn.** It holds one
    error per machine template, in declaration order: the limits error for a
    template whose provisioner has remaining resources and no instance type
    within them, else the rejection of the template's fresh node, wrapped with
    the provisioner's name. A lone template's error stands alone. -/
theorem add_error_per_template {s : Scheduler Pod Topology} {pod : Pod} {err : SchedulingError}
    (herr : (s.add E pod).err = some err) :
    ∃ errs, List.Forall₂ (TemplateRejection s) s.machineTemplates errs ∧ combinedError errs = some err := by
  rcases add_cases E s pod with ⟨_, _, _, _, _, -, -, -, hr⟩ | ⟨-, _, _, _, _, _, -, -, -, hr⟩ |
    ⟨-, -, hr⟩
  · rw [hr] at herr; cases herr
  · rw [hr] at herr; cases herr
  · rw [hr] at herr
    obtain ⟨errs, hrel, hfold⟩ := addToNewNode_error E pod s.machineTemplates none _ herr
    exact ⟨errs, hrel, (foldl_appendError fun e he =>
      (exists_of_forall₂ hrel.flip he).elim fun _ ⟨_, hrej⟩ => TemplateRejection.not_combined hrej).symm.trans hfold⟩

theorem add_error_per_template_sample :
    ∃ err, ({ sampleScheduler with
        machineTemplates := [sampleTemplate, sampleTemplate], instanceTypes := fun _ => [] }.add
          plainEnv "pod-a").err = some err ∧
      ∃ errs, List.Forall₂ (TemplateRejection { sampleScheduler with
          machineTemplates := [sampleTemplate, sampleTemplate], instanceTypes := fun _ => [] })
        [sampleTemplate, sampleTemplate] errs ∧ combinedError errs = some err :=
  ⟨_, rfl, add_error_per_template (rfl : ({ sampleScheduler with
    machineTemplates := [sampleTemplate, sampleTemplate], instanceTypes := fun _ => [] }.add
      plainEnv "pod-a").err = _)⟩

/-! ### When Solve gives up -/

/-- `s'` holds the nodes and budgets of `s`: the same in-flight nodes, the same
    prospective nodes up to order, and the same remaining resources. -/
def SameNodes (s s' : Scheduler Pod Topology) : Prop :=
  s'.existingNodes = s.existingNodes ∧ s'.newNodes.Perm s.newNodes ∧
    s'.remainingResources = s.remainingResources

theorem SameNodes.trans {s₁ s₂ s₃ : Scheduler Pod Topology} (h₁ : SameNodes s₁ s₂)
    (h₂ : SameNodes s₂ s₃) : SameNodes s₁ s₃ :=
  ⟨h₂.1.trans h₁.1, h₂.2.1.trans h₁.2.1, h₂.2.2.trans h₁.2.2⟩

/-- A failed `add` keeps the nodes and budgets. -/
theorem add_error_sameNodes {s : Scheduler Pod Topology} {pod : Pod} {err : SchedulingError}
    (herr : (s.add E pod).err = some err) : SameNodes s (s.add E pod).scheduler := by
  have hfall := add_error_toNewNode herr
  rw [hfall] at herr ⊢
  rw [(addToNewNode_error_frame herr).2.eq]
  exact ⟨rfl, E.sortByPods_perm _, rfl⟩

/-- **The invariant of Solve's queue.** The UIDs in the queue are distinct.
    Every pass recorded for a pod, if any, is at least the queue's length.
    Along the queue, once a pass is recorded, the recorded passes do not grow.
    A pod whose recorded pass equals the queue's length was last tried, and
    rejected, by a scheduler of the run with the nodes and budgets of the
    current one. -/
structure Retried (E : Env Pod Topology) (s₀ : Scheduler Pod Topology)
    (st : SolveState Pod Topology) : Prop where
  nodup : (st.queue.pods.map E.uid).Nodup
  above : ∀ p ∈ st.queue.pods,
    st.queue.lastLen (E.uid p) = 0 ∨ st.queue.pods.length ≤ st.queue.lastLen (E.uid p)
  ordered : st.queue.pods.Pairwise fun a b => st.queue.lastLen (E.uid a) = 0 ∨
    (st.queue.lastLen (E.uid b) ≠ 0 ∧ st.queue.lastLen (E.uid b) ≤ st.queue.lastLen (E.uid a))
  tried : ∀ p ∈ st.queue.pods, st.queue.lastLen (E.uid p) = st.queue.pods.length →
    ∃ s cs, Life E s₀ s cs ∧ (s.add E p).err ≠ none ∧ SameNodes s st.scheduler

variable {s₀ : Scheduler Pod Topology}

theorem Retried.start {pods : List Pod} (hnodup : (pods.map E.uid).Nodup) :
    Retried E s₀ ⟨s₀, newQueue pods, fun _ => none, []⟩ where
  nodup := hnodup
  above _ _ := .inl rfl
  ordered := List.pairwise_of_forall fun _ _ => .inl rfl
  tried _ hp h := absurd h (List.length_pos_of_mem hp).ne

/-- What the invariant says of the rest of the queue after `Pop`: the popped
    UID is not in it, every recorded pass is at least one more than its length,
    and a pod whose pass is exactly that was rejected against the current nodes. -/
theorem Retried.pop {st : SolveState Pod Topology} {pod : Pod} {q : Queue Pod}
    (hR : Retried E s₀ st) (hpop : st.queue.pop E.uid = some (pod, q)) :
    E.uid pod ∉ q.pods.map E.uid ∧ (q.pods.map E.uid).Nodup ∧
      (∀ p ∈ q.pods, q.lastLen (E.uid p) = 0 ∨ q.pods.length + 1 ≤ q.lastLen (E.uid p)) ∧
      (q.pods.Pairwise fun a b => q.lastLen (E.uid a) = 0 ∨
        (q.lastLen (E.uid b) ≠ 0 ∧ q.lastLen (E.uid b) ≤ q.lastLen (E.uid a))) ∧
      ∀ p ∈ q.pods, q.lastLen (E.uid p) = q.pods.length + 1 →
        ∃ s cs, Life E s₀ s cs ∧ (s.add E p).err ≠ none ∧ SameNodes s st.scheduler := by
  obtain ⟨hq, hlast, -⟩ := Queue.pop_some hpop
  have hlen : st.queue.pods.length = q.pods.length + 1 := by rw [hq, List.length_cons]
  have hmem : ∀ p ∈ q.pods, p ∈ st.queue.pods := fun p hp => hq ▸ List.mem_cons_of_mem _ hp
  have hnd := hR.nodup
  have hord := hR.ordered
  rw [hq, List.map_cons, List.nodup_cons] at hnd
  rw [hq, List.pairwise_cons] at hord
  rw [hlast, ← hlen]
  exact ⟨hnd.1, hnd.2, fun p hp => hR.above p (hmem p hp), hord.2, fun p hp => hR.tried p (hmem p hp)⟩

/-- **One iteration keeps the queue's invariant.** A placement shortens the
    queue below every recorded pass; a relaxation clears them all; a pod pushed
    back as it was records the queue's length, having just been rejected by the
    current nodes. -/
theorem Retried.step {st st' : SolveState Pod Topology} (hR : Retried E s₀ st)
    (hl : Life E s₀ st.scheduler st.created) (h : solveStep E st = some st') : Retried E s₀ st' := by
  obtain ⟨pod, q, hpop, hcase⟩ := solveStep_some h
  obtain ⟨hfresh, hnd, habove, hordered, htried⟩ := hR.pop hpop
  -- the pod pushed back keeps its UID, which is not in the rest of the queue
  have hpush : ∀ x, E.uid x = E.uid pod → ((q.pods ++ [x]).map E.uid).Nodup := fun x hx => by
    rw [List.map_append, List.map_singleton, hx]
    exact List.nodup_append.mpr ⟨hnd, List.nodup_singleton _, List.disjoint_singleton.mpr hfresh⟩
  rcases hcase with ⟨-, rfl⟩ | ⟨err, herr, ⟨relaxed, hrelax, rfl⟩ | ⟨-, rfl⟩⟩
  · -- placed: the queue lost its head
    refine ⟨hnd, fun p hp => (habove p hp).imp_right fun h => by dsimp only; omega, hordered,
      fun p hp hp' => absurd hp' ?_⟩
    have hpos : 0 < q.pods.length := List.length_pos_of_mem hp
    dsimp only
    rcases habove p hp with h0 | hge <;> omega
  · -- relaxed and pushed back: every recorded pass is cleared
    refine ⟨by simpa using hpush relaxed (E.relax_uid _ _ _ hrelax), fun _ _ => .inl rfl,
      List.pairwise_of_forall fun _ _ => .inl rfl, fun p _ hp' => absurd hp' ?_⟩
    simp
  · -- pushed back as it was: its pass is the queue's length
    have hlast' : ∀ p ∈ q.pods, (q.push E.uid pod false).lastLen (E.uid p) = q.lastLen (E.uid p) :=
      fun p hp => by
        rw [Queue.push_false_lastLen, if_neg fun (heq : E.uid p = E.uid pod) =>
          hfresh (heq ▸ List.mem_map_of_mem E.uid hp)]
    have hpod : (q.push E.uid pod false).lastLen (E.uid pod) = q.pods.length + 1 := by simp
    refine ⟨by simpa using hpush pod rfl, fun p hp => ?_, ?_, fun p hp hp' => ?_⟩
    · simp only [Queue.push_pods, List.length_append, List.length_singleton] at hp ⊢
      rcases List.mem_append.mp hp with hp | hp
      · rw [hlast' p hp]; exact habove p hp
      · rw [List.mem_singleton.mp hp, hpod]; exact .inr le_rfl
    · dsimp only
      rw [Queue.push_pods, List.pairwise_append]
      refine ⟨hordered.imp_of_mem fun ha hb hab => ?_, List.pairwise_singleton _ _, fun a ha b hb => ?_⟩
      · rwa [hlast' _ ha, hlast' _ hb]
      · rw [List.mem_singleton.mp hb, hlast' a ha, hpod]
        exact (habove a ha).imp_right fun hge => ⟨by omega, hge⟩
    · simp only [Queue.push_pods, List.length_append, List.length_singleton] at hp hp'
      rcases List.mem_append.mp hp with hp | hp
      · rw [hlast' p hp] at hp'
        obtain ⟨s, cs, hlife, hfail, hsame⟩ := htried p hp hp'
        exact ⟨s, cs, hlife, hfail, hsame.trans (add_error_sameNodes herr)⟩
      · rw [List.mem_singleton.mp hp]
        exact ⟨st.scheduler, st.created, hl, by rw [herr]; exact Option.some_ne_none _,
          add_error_sameNodes herr⟩

/-- Where `Pop` gives up, every pod in the queue has the queue's length as its
    recorded pass: the head has it, and no pod behind it has a larger one. -/
theorem Retried.all_tried {st : SolveState Pod Topology} (hR : Retried E s₀ st)
    (hpop : st.queue.pop E.uid = none) :
    ∀ p ∈ st.queue.pods, st.queue.lastLen (E.uid p) = st.queue.pods.length := by
  rcases Queue.pop_eq_none hpop with hq | ⟨head, rest, hq, hhead⟩
  · intro p hp
    rw [hq] at hp
    cases hp
  · have hord := hR.ordered
    rw [hq, List.pairwise_cons] at hord
    have hpos : 0 < st.queue.pods.length := by rw [hq]; exact Nat.succ_pos _
    intro p hp
    rcases List.mem_cons.mp (hq ▸ hp) with rfl | hp'
    · exact hhead
    · have h₁ := hord.1 p hp'
      have h₂ := hR.above p hp
      omega

/-- **Solve gives up on a pod only after it failed against the final nodes.**
    For a batch of distinct UIDs, every pod Solve reports as failed was rejected
    by `add` from a scheduler of the run. That scheduler held the in-flight nodes
    Solve returns, the prospective nodes Solve returns up to order and before
    `FinalizeScheduling`, and the remaining resources Solve leaves. -/
theorem solve_gives_up_after_full_pass {fuel : Nat} {pods : List Pod} {r : SolveResult Pod Topology}
    (hnodup : (pods.map E.uid).Nodup) (hr : s₀.solve E fuel pods = some r) :
    ∀ p ∈ r.failed, ∃ s cs, Life E s₀ s cs ∧ (s.add E p).err ≠ none ∧
      r.existingNodes = s.existingNodes ∧ r.newNodes.Perm (s.newNodes.map Node.finalizeScheduling) ∧
      r.scheduler.remainingResources = s.remainingResources := by
  obtain ⟨st, hloop, rfl⟩ := Option.map_eq_some'.mp hr
  obtain ⟨⟨hR, -⟩, hpop⟩ := @solveLoop_induction Pod Topology E
    (fun st => Retried E s₀ st ∧ Life E s₀ st.scheduler st.created)
    (fun _ _ ⟨hR, hl⟩ hs => ⟨hR.step hl hs, solveStep_life hs hl⟩) fuel _ st hloop
    ⟨.start hnodup, .start⟩
  intro p hp
  obtain ⟨s, cs, hlife, hfail, hex, hnew, hrem⟩ := hR.tried p hp (hR.all_tried hpop p hp)
  exact ⟨s, cs, hlife, hfail, hex, hnew.map _, hrem⟩

theorem solve_gives_up_after_full_pass_sample :
    (["pod-a"].map plainEnv.uid).Nodup ∧ ∃ r, { sampleScheduler with instanceTypes := fun _ => [] }.solve
        plainEnv 3 ["pod-a"] = some r ∧ r.failed = ["pod-a"] ∧
      ∀ p ∈ r.failed, ∃ s cs, Life plainEnv { sampleScheduler with instanceTypes := fun _ => [] } s cs ∧
        (s.add plainEnv p).err ≠ none ∧ r.existingNodes = s.existingNodes ∧
        r.newNodes.Perm (s.newNodes.map Node.finalizeScheduling) ∧
        r.scheduler.remainingResources = s.remainingResources :=
  ⟨by decide, _, rfl, rfl, solve_gives_up_after_full_pass (by decide)
    (rfl : { sampleScheduler with instanceTypes := fun _ => [] }.solve plainEnv 3 ["pod-a"] = _)⟩

end KarpenterCore
