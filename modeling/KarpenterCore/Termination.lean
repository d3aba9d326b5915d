import KarpenterCore.Life
import Mathlib.Algebra.BigOperators.Group.List
import Mathlib.Algebra.Order.Ring.Nat
import Mathlib.Data.Nat.Find

/-!
# Solve's loop ends

Every failed pod goes back to the queue, relaxed or not, so the queue need not
shrink. The loop still ends when `Preferences.Relax` finds something to relax
only finitely often for each pod. The measure of a queue weighs each pod by one
attempt plus the relaxations it has left, and adds the pods the current pass
may still try: those not pushed back unrelaxed at the queue's current length.
Placing a pod or relaxing it lowers the weight, and the second part stays
below the queue's length, which never grows. Pushing a pod back unrelaxed
keeps the weight and lowers the second part (`solveStep_measure`).

So the loop stops within the measure of the batch, and from then on more fuel
gives the same result (`solve_terminates`).
-/

namespace KarpenterCore

variable {Pod Topology : Type} {E : Env Pod Topology}

/-! ### Relaxations left -/

/-- The pod after `n` calls of `Preferences.Relax`, or `none` when one of them
    found nothing left to relax. -/
def Env.relaxes (E : Env Pod Topology) (b : Bool) : Nat → Pod → Option Pod
  | 0, pod => some pod
  | n + 1, pod => (E.relax b pod).bind (E.relaxes b n)

/-- When `Relax` gives out after finitely many calls on every pod, the least
    such number of calls ranks the pods, and a relaxed pod ranks below the pod
    it came from. -/
theorem exists_relaxRank {b : Bool} (hfinite : ∀ pod, ∃ n, E.relaxes b n pod = none) :
    ∃ rank : Pod → Nat, ∀ pod pod', E.relax b pod = some pod' → rank pod' < rank pod := by
  classical
  refine ⟨fun pod => Nat.find (hfinite pod), fun pod pod' h => ?_⟩
  show Nat.find (hfinite pod') < Nat.find (hfinite pod)
  have hspec := Nat.find_spec (hfinite pod)
  obtain ⟨k, hk⟩ : ∃ k, Nat.find (hfinite pod) = k + 1 :=
    Nat.exists_eq_succ_of_ne_zero fun h0 => by rw [h0] at hspec; cases hspec
  rw [hk, Env.relaxes, h, Option.some_bind] at hspec
  have hmin := Nat.find_min' (hfinite pod') hspec
  omega

/-! ### The measure of a queue -/

/-- Each pod of the queue weighs one attempt plus the relaxations it has left. -/
def Queue.weight (rank : Pod → Nat) (q : Queue Pod) : Nat :=
  (q.pods.map fun p => rank p + 1).sum

/-- The pods the current pass may still try: those not pushed back unrelaxed at
    the queue's current length. -/
def Queue.pending (uid : Pod → String) (q : Queue Pod) : Nat :=
  q.pods.countP fun p => q.lastLen (uid p) != q.pods.length

/-- The weight first, then the pending pods, which stay below `N + 1`. -/
def Queue.measure (uid : Pod → String) (rank : Pod → Nat) (N : Nat) (q : Queue Pod) : Nat :=
  q.weight rank * (N + 1) + q.pending uid

variable {uid : Pod → String} {rank : Pod → Nat}

theorem Queue.weight_pop {q q' : Queue Pod} {pod : Pod} (h : q.pop uid = some (pod, q')) :
    q.weight rank = rank pod + 1 + q'.weight rank := by
  simp [Queue.weight, (Queue.pop_some h).1]

@[simp] theorem Queue.weight_push (q : Queue Pod) (pod : Pod) (relaxed : Bool) :
    (q.push uid pod relaxed).weight rank = q.weight rank + (rank pod + 1) := by
  simp [Queue.weight]

theorem Queue.pending_le (q : Queue Pod) : q.pending uid ≤ q.pods.length :=
  List.countP_le_length _

/-- Pushing the popped pod back unrelaxed takes it, and every pod of its UID,
    out of the pending pods. -/
theorem Queue.pending_push_false {q q' : Queue Pod} {pod : Pod} (h : q.pop uid = some (pod, q')) :
    (q'.push uid pod false).pending uid < q.pending uid := by
  obtain ⟨hq, hlast, hne⟩ := Queue.pop_some h
  have hmono : (q'.pods.countP fun p => (q'.push uid pod false).lastLen (uid p) != q'.pods.length + 1) ≤
      q'.pods.countP fun p => q.lastLen (uid p) != q.pods.length := by
    refine List.countP_mono_left fun p _ hp => ?_
    rw [hq, List.length_cons, ← hlast]
    by_cases hu : uid p = uid pod <;> simp_all
  have hrhs : q.pods.countP (fun p => q.lastLen (uid p) != q.pods.length) =
      q'.pods.countP (fun p => q.lastLen (uid p) != q.pods.length) + 1 := by
    rw [hq] at hne ⊢
    exact List.countP_cons_of_pos _ _ (by simpa using hne)
  unfold Queue.pending
  rw [hrhs, Queue.push_pods, List.countP_append]
  simp only [List.countP_singleton, Queue.push_false_lastLen, List.length_append,
    List.length_singleton, if_true, eq_self_iff_true, bne_self_eq_false, Bool.false_eq_true,
    if_false, Nat.add_zero] at hmono ⊢
  omega

private theorem measure_lt_of_weight_lt {w w' p p' N : Nat} (hw : w' < w) (hp : p' ≤ N) :
    w' * (N + 1) + p' < w * (N + 1) + p := by
  have h := Nat.mul_le_mul_right (N + 1) hw
  rw [Nat.succ_mul] at h
  omega

/-! ### One iteration -/

/-- What one iteration of the loop does to the queue: the popped pod is placed,
    or pushed back relaxed, or pushed back as it was. -/
theorem solveStep_queue {st st' : SolveState Pod Topology} (h : solveStep E st = some st') :
    ∃ pod q, st.queue.pop E.uid = some (pod, q) ∧
      (st'.queue = q ∨
        (∃ relaxed, E.relax st.scheduler.preferences.toleratePreferNoSchedule pod = some relaxed ∧
          st'.queue = q.push E.uid relaxed true) ∨
        st'.queue = q.push E.uid pod false) := by
  obtain ⟨pod, q, hpop, ⟨-, rfl⟩ | ⟨-, -, ⟨relaxed, hrelax, rfl⟩ | ⟨-, rfl⟩⟩⟩ := solveStep_some h
  · exact ⟨pod, q, hpop, .inl rfl⟩
  · rw [(add_sameConfig E st.scheduler pod).preferences] at hrelax
    exact ⟨pod, q, hpop, .inr (.inl ⟨relaxed, hrelax, rfl⟩)⟩
  · exact ⟨pod, q, hpop, .inr (.inr rfl)⟩

/-- **Every iteration lowers the measure**, and the queue never grows. -/
theorem solveStep_measure {b : Bool} (hrank : ∀ pod pod', E.relax b pod = some pod' → rank pod' < rank pod)
    {N : Nat} {st st' : SolveState Pod Topology}
    (hb : st.scheduler.preferences.toleratePreferNoSchedule = b) (hN : st.queue.pods.length ≤ N)
    (h : solveStep E st = some st') :
    st'.queue.measure E.uid rank N < st.queue.measure E.uid rank N ∧ st'.queue.pods.length ≤ N := by
  obtain ⟨pod, q, hpop, hq | ⟨relaxed, hrelax, hq⟩ | hq⟩ := solveStep_queue h
  all_goals
    have hw : st.queue.weight rank = rank pod + 1 + q.weight rank := Queue.weight_pop hpop
    have hlen : st.queue.pods.length = q.pods.length + 1 := by rw [(Queue.pop_some hpop).1]; rfl
    rw [hq]
    unfold Queue.measure
  · have hp : q.pending E.uid ≤ q.pods.length := q.pending_le
    exact ⟨measure_lt_of_weight_lt (by omega) (by omega), by omega⟩
  · have hr := hrank pod relaxed (hb ▸ hrelax)
    have hp : (q.push E.uid relaxed true).pending E.uid ≤ (q.push E.uid relaxed true).pods.length :=
      Queue.pending_le _
    simp only [Queue.weight_push, Queue.push_pods, List.length_append, List.length_singleton] at hp ⊢
    exact ⟨measure_lt_of_weight_lt (by omega) (by omega), by omega⟩
  · have hp := Queue.pending_push_false hpop
    simp only [Queue.weight_push, Queue.push_pods, List.length_append, List.length_singleton]
    exact ⟨by rw [hw, Nat.add_comm (rank pod + 1)]; omega, by omega⟩

/-! ### The whole loop -/

/-- One more unit of fuel does not change where the loop stops. -/
theorem solveLoop_succ {fuel : Nat} {st st' : SolveState Pod Topology}
    (h : solveLoop E fuel st = some st') : solveLoop E (fuel + 1) st = some st' := by
  induction fuel generalizing st with
  | zero => cases h
  | succ fuel ih =>
    unfold solveLoop at h ⊢
    split at h
    · exact h
    · exact ih h

theorem solveLoop_mono {fuel fuel' : Nat} (hle : fuel ≤ fuel') {st st' : SolveState Pod Topology}
    (h : solveLoop E fuel st = some st') : solveLoop E fuel' st = some st' := by
  induction fuel', hle using Nat.le_induction with
  | base => exact h
  | succ _ _ ih => exact solveLoop_succ ih

/-- From a state of a life of `s₀`, the loop stops within the measure of its
    queue. -/
theorem solveLoop_some_of_measure {s₀ : Scheduler Pod Topology}
    (hrank : ∀ pod pod', E.relax s₀.preferences.toleratePreferNoSchedule pod = some pod' →
      rank pod' < rank pod) {N : Nat} :
    ∀ {fuel : Nat} {st : SolveState Pod Topology}, Life E s₀ st.scheduler st.created →
      st.queue.pods.length ≤ N → st.queue.measure E.uid rank N < fuel →
      ∃ st', solveLoop E fuel st = some st'
  | 0, _, _, _, hlt => absurd hlt (Nat.not_lt_zero _)
  | fuel + 1, st, hl, hN, hlt => by
    unfold solveLoop
    split
    · exact ⟨st, rfl⟩
    · rename_i st₁ hstep
      have hb : st.scheduler.preferences.toleratePreferNoSchedule =
          s₀.preferences.toleratePreferNoSchedule := by rw [hl.sameConfig.preferences]
      obtain ⟨hlt₁, hN₁⟩ := solveStep_measure hrank hb hN hstep
      exact solveLoop_some_of_measure hrank (solveStep_life hstep hl) hN₁ (by omega)

/-- **Solve's loop ends.** When `Preferences.Relax`, under the scheduler's
    `ToleratePreferNoSchedule`, gives out after finitely many calls on every
    pod, Solve returns for every batch, and every larger fuel gives the same
    result. -/
theorem solve_terminates (s₀ : Scheduler Pod Topology) (pods : List Pod)
    (hfinite : ∀ pod, ∃ n, E.relaxes s₀.preferences.toleratePreferNoSchedule n pod = none) :
    ∃ bound r, ∀ fuel, bound ≤ fuel → s₀.solve E fuel pods = some r := by
  obtain ⟨rank, hrank⟩ := exists_relaxRank hfinite
  obtain ⟨st, hst⟩ := @solveLoop_some_of_measure Pod Topology E rank s₀ hrank pods.length
    ((newQueue pods).measure E.uid rank pods.length + 1) ⟨s₀, newQueue pods, fun _ => none, []⟩
    .start le_rfl (Nat.lt_succ_self _)
  exact ⟨_, _, fun fuel hle => by rw [Scheduler.solve, solveLoop_mono hle hst]; rfl⟩

/-- A pod of the sample environment gives out after one more call of `Relax`
    than it has preferences left. -/
theorem relaxEnv_relaxes_eq_none (b : Bool) (name : String) (k : Nat) :
    relaxEnv.relaxes b (k + 1) (name, k) = none := by
  induction k with
  | zero => rfl
  | succ k ih => exact ih

theorem solve_terminates_sample :
    (∀ pod, ∃ n, relaxEnv.relaxes relaxScheduler.preferences.toleratePreferNoSchedule n pod = none) ∧
      (∃ bound r, ∀ fuel, bound ≤ fuel →
        relaxScheduler.solve relaxEnv fuel [("pod-a", 0), ("big", 2)] = some r) ∧
      (relaxScheduler.solve relaxEnv 8 [("pod-a", 0), ("big", 2)]).map (·.failed) = some [("big", 0)] := by
  have hfinite : ∀ pod, ∃ n,
      relaxEnv.relaxes relaxScheduler.preferences.toleratePreferNoSchedule n pod = none :=
    fun ⟨name, k⟩ => ⟨k + 1, relaxEnv_relaxes_eq_none _ name k⟩
  exact ⟨hfinite, solve_terminates relaxScheduler _ hfinite, by decide⟩

/-- **A bound on Solve's iterations.** When each relaxation lowers a rank of the
    pods, Solve returns within `W · (N + 1) + N` iterations. Here `N` is the size
    of the batch and `W` the sum, over its pods, of their rank plus one. -/
theorem solve_iterations_bound (s₀ : Scheduler Pod Topology) (pods : List Pod) (rank : Pod → Nat)
    (hrank : ∀ pod pod', E.relax s₀.preferences.toleratePreferNoSchedule pod = some pod' →
      rank pod' < rank pod)
    (fuel : Nat) (hfuel : (pods.map fun p => rank p + 1).sum * (pods.length + 1) + pods.length < fuel) :
    ∃ r, s₀.solve E fuel pods = some r := by
  have hmeasure : (newQueue pods).measure E.uid rank pods.length ≤
      (pods.map fun p => rank p + 1).sum * (pods.length + 1) + pods.length :=
    Nat.add_le_add_left (Queue.pending_le _) _
  obtain ⟨st, hst⟩ := @solveLoop_some_of_measure Pod Topology E rank s₀ hrank pods.length fuel
    ⟨s₀, newQueue pods, fun _ => none, []⟩ .start le_rfl (hmeasure.trans_lt hfuel)
  exact ⟨_, by rw [Scheduler.solve, hst]; rfl⟩

theorem solve_iterations_bound_sample :
    (∀ pod pod', relaxEnv.relax relaxScheduler.preferences.toleratePreferNoSchedule pod = some pod' →
      Prod.snd pod' < Prod.snd pod) ∧
      ([("pod-a", 0), ("big", 2)].map fun p : String × Nat => p.2 + 1).sum *
        ([("pod-a", 0), ("big", 2)].length + 1) + [("pod-a", 0), ("big", 2)].length < 15 ∧
      (∃ r, relaxScheduler.solve relaxEnv 15 [("pod-a", 0), ("big", 2)] = some r) ∧
      (relaxScheduler.solve relaxEnv 15 [("pod-a", 0), ("big", 2)]).map (·.failed) =
        some [("big", 0)] := by
  have hrank : ∀ pod pod', relaxEnv.relax relaxScheduler.preferences.toleratePreferNoSchedule pod =
      some pod' → Prod.snd pod' < Prod.snd pod := by
    rintro ⟨name, _ | k⟩ pod' h
    · cases h
    · cases h; exact Nat.lt_succ_self k
  exact ⟨hrank, by decide,
    solve_iterations_bound relaxScheduler [("pod-a", 0), ("big", 2)] Prod.snd hrank 15 (by decide),
    by decide⟩

end KarpenterCore
