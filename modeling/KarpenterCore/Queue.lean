import Mathlib.Data.List.Basic

/-!
# The work queue

Modelled from the spec (§4.7): `Queue` lives in `queue.go`, outside src/. Solve
"operates on a FIFO-ish work queue" where "a relaxed pod is re-pushed to the
back", and the loop "terminates when the queue drains without a successful
relaxation in the previous pass". The queue detects such a pass by remembering,
for each pod pushed back unrelaxed, the queue's length right after the push:
when the pod at the head was pushed back at the current length, every pod in
the queue has been pushed back unrelaxed since the queue last shrank, and `Pop`
gives up. A relaxation forgets every length.
-/

namespace KarpenterCore

variable {Pod : Type}

/-- Modelled from the spec: the work queue, and for each pod UID the queue's
    length right after the pod was last pushed back without a relaxation. -/
structure Queue (Pod : Type) where
  pods : List Pod
  lastLen : String → Nat

/-- Modelled from the spec: `NewQueue(pods...)`. -/
def newQueue (pods : List Pod) : Queue Pod := ⟨pods, fun _ => 0⟩

/-- Modelled from the spec: `Queue.Pop()`, the next pod, or `none` when the queue
    is empty or a whole pass made no progress. -/
def Queue.pop (uid : Pod → String) (q : Queue Pod) : Option (Pod × Queue Pod) :=
  match q.pods with
  | [] => none
  | p :: rest => if q.lastLen (uid p) = q.pods.length then none else some (p, { q with pods := rest })

/-- Modelled from the spec: `Queue.Push(pod, relaxed)`. -/
def Queue.push (uid : Pod → String) (q : Queue Pod) (pod : Pod) (relaxed : Bool) : Queue Pod :=
  if relaxed then ⟨q.pods ++ [pod], fun _ => 0⟩
  else ⟨q.pods ++ [pod], fun u => if u = uid pod then q.pods.length + 1 else q.lastLen u⟩

/-- Modelled from the spec: `Queue.List()`. -/
def Queue.list (q : Queue Pod) : List Pod := q.pods

theorem Queue.pop_some {uid : Pod → String} {q q' : Queue Pod} {pod : Pod}
    (h : q.pop uid = some (pod, q')) :
    q.pods = pod :: q'.pods ∧ q'.lastLen = q.lastLen ∧ q.lastLen (uid pod) ≠ q.pods.length := by
  unfold Queue.pop at h
  split at h
  · cases h
  · rename_i p rest hq
    split at h
    · cases h
    · rename_i hlen
      cases h
      exact ⟨hq, rfl, hlen⟩

/-- `Pop` gives up on an empty queue, or when the pod at the head was pushed
    back at the current length. -/
theorem Queue.pop_eq_none {uid : Pod → String} {q : Queue Pod} (h : q.pop uid = none) :
    q.pods = [] ∨ ∃ p rest, q.pods = p :: rest ∧ q.lastLen (uid p) = q.pods.length := by
  unfold Queue.pop at h
  split at h
  · exact .inl ‹_›
  · rename_i p rest hq
    split at h
    · exact .inr ⟨p, rest, hq, ‹_›⟩
    · cases h

@[simp] theorem Queue.push_pods (uid : Pod → String) (q : Queue Pod) (pod : Pod) (relaxed : Bool) :
    (q.push uid pod relaxed).pods = q.pods ++ [pod] := by
  unfold Queue.push; split <;> rfl

@[simp] theorem Queue.push_true_lastLen (uid : Pod → String) (q : Queue Pod) (pod : Pod) :
    (q.push uid pod true).lastLen = fun _ => 0 := rfl

@[simp] theorem Queue.push_false_lastLen (uid : Pod → String) (q : Queue Pod) (pod : Pod) (u : String) :
    (q.push uid pod false).lastLen u = if u = uid pod then q.pods.length + 1 else q.lastLen u := rfl

end KarpenterCore
