import KarpenterCore.Controller
import Mathlib.Logic.Function.Iterate

/-!
# The requests of a reconcile, and reconciling again

`typedDecorator.Reconcile` drops the status a controller set whenever the
controller also changed the body (`reconcile_loses_status_change`). The same
cause shows in the requests it sends, whatever the controller and the server:
a reconcile sends a `Patch` exactly when its `Get` succeeded and the controller
changed the body, and a `Status().Patch` exactly when its `Get` succeeded and
the controller changed the status alone (`reconcile_sent_writes`). So it never
sends both, and when the server refuses a request the reconcile sent, nothing
was written (`reconcile_refused_unchanged`).

The rest of the module follows the decorator over repeated reconciles of one
object, against an API server that accepts every request and that nothing else
writes to. Take a controller whose `Reconcile` reads only the body: it leaves
the body `f b` and the status `g b` for the body `b` it got, and `f` settles at
once (`f (f b) = f b`). The first reconcile persists `f b` and, when it changed
the body, keeps the old status. The second finds the body settled, so it sends
the status alone. From then on the server holds `⟨f b, g (f b)⟩` and every
reconcile sends only its `Get` (`reconcile_settles`). The lost status is
repaired by the next reconcile, and two reconciles are always enough.
-/

namespace KarpenterCore

variable {Body Status : Type} [DecidableEq Body] [DecidableEq Status]

/-! ### The requests of one reconcile -/

/-- The requests `patch` sends against a server holding `obj`: a `Patch` when
    the body changed, and then no `Status().Patch`, since the `Patch` answered
    with the stored status; a `Status().Patch` when only the status changed. -/
theorem patch_sent {a : ApiServer Body Status} {obj updated : Object Body Status}
    (hs : a.stored = obj) :
    (typedDecorator.patch a obj (some updated)).sent =
      if updated.body ≠ obj.body then [.patch]
      else if updated.status ≠ obj.status then [.statusPatch] else [] := by
  by_cases hb : updated.body = obj.body
  · by_cases hst : updated.status = obj.status
    · simp [typedDecorator.patch, bodyEqual, patchStatus, statusEqual, hb, hst]
    · rcases h : a.refuses .statusPatch with _ | e <;>
        simp [typedDecorator.patch, bodyEqual, patchStatus, statusEqual, ApiServer.statusPatch, hb,
          Ne.symm hst, hst, h]
  · rcases h : a.refuses .patch with _ | e <;>
      simp [typedDecorator.patch, bodyEqual, ApiServer.patch, patchStatus, statusEqual, hb, Ne.symm hb,
        h, hs]

/-- A reconcile sends its `Get` and then what its `patch` sends, whether or not
    the `patch` failed. -/
theorem reconcile_sent (deleting : Body → Bool) (c : TypedController Body Status)
    (a : ApiServer Body Status) :
    (typedDecorator.reconcile deleting c a).sent = .get :: match a.get with
      | .error _ => []
      | .ok obj => (typedDecorator.patch a obj (some (c.dispatch deleting obj).1)).sent := by
  unfold typedDecorator.reconcile
  rcases a.get with e | obj
  · rfl
  · dsimp only
    split <;> rfl

/-- A reconcile leaves the server its `patch` leaves, whether or not the
    `patch` failed, and the server it got when its `Get` failed. -/
theorem reconcile_server (deleting : Body → Bool) (c : TypedController Body Status)
    (a : ApiServer Body Status) :
    (typedDecorator.reconcile deleting c a).server = match a.get with
      | .error _ => a
      | .ok obj => (typedDecorator.patch a obj (some (c.dispatch deleting obj).1)).server := by
  unfold typedDecorator.reconcile
  rcases a.get with e | obj
  · rfl
  · dsimp only
    split <;> rfl

/-- **One reconcile writes at most once.** Whatever the controller and whatever
    the server refuses, a reconcile sends a `Patch` exactly when its `Get`
    succeeded and the controller changed the body, and a `Status().Patch`
    exactly when its `Get` succeeded and the controller changed the status
    alone. -/
theorem reconcile_sent_writes (deleting : Body → Bool) (c : TypedController Body Status)
    (a : ApiServer Body Status) :
    (.patch ∈ (typedDecorator.reconcile deleting c a).sent ↔
        a.refuses .get = none ∧ (c.dispatch deleting a.stored).1.body ≠ a.stored.body) ∧
      (.statusPatch ∈ (typedDecorator.reconcile deleting c a).sent ↔
        a.refuses .get = none ∧ (c.dispatch deleting a.stored).1.body = a.stored.body ∧
          (c.dispatch deleting a.stored).1.status ≠ a.stored.status) := by
  rw [reconcile_sent]
  rcases h : a.refuses .get with _ | e
  · have hget : a.get = .ok a.stored := by simp [ApiServer.get, h]
    rw [hget]
    dsimp only
    rw [patch_sent rfl]
    by_cases hb : (c.dispatch deleting a.stored).1.body = a.stored.body
    · by_cases hst : (c.dispatch deleting a.stored).1.status = a.stored.status <;> simp [hb, hst]
    · simp [hb]
  · have hget : a.get = .error e := by simp [ApiServer.get, h]
    rw [hget]
    simp

/-- A `patch` that had a request refused leaves the server as it was: the
    refused request is its only write. -/
theorem patch_refused {a : ApiServer Body Status} {obj updated : Object Body Status}
    (hs : a.stored = obj)
    (h : ∃ r ∈ (typedDecorator.patch a obj (some updated)).sent, a.refuses r ≠ none) :
    (typedDecorator.patch a obj (some updated)).server = a := by
  rw [patch_sent hs] at h
  by_cases hb : updated.body = obj.body
  · by_cases hst : updated.status = obj.status
    · simp [hb, hst] at h
    · obtain ⟨e, he⟩ := Option.ne_none_iff_exists'.mp (by simpa [hb, hst] using h)
      simp [typedDecorator.patch, bodyEqual, patchStatus, statusEqual, ApiServer.statusPatch, hb,
        Ne.symm hst, he]
  · obtain ⟨e, he⟩ := Option.ne_none_iff_exists'.mp (by simpa [hb] using h)
    simp [typedDecorator.patch, bodyEqual, ApiServer.patch, Ne.symm hb, he]

/-- **A refused request leaves the server as it was.** Whatever the controller
    and the server, when the server refused any request a reconcile sent, the
    reconcile wrote nothing: it never leaves a partial write behind. -/
theorem reconcile_refused_unchanged (deleting : Body → Bool) (c : TypedController Body Status)
    (a : ApiServer Body Status)
    (h : ∃ r ∈ (typedDecorator.reconcile deleting c a).sent, a.refuses r ≠ none) :
    (typedDecorator.reconcile deleting c a).server = a := by
  rw [reconcile_server]
  rcases hg : a.refuses .get with _ | e
  · have hget : a.get = .ok a.stored := by simp [ApiServer.get, hg]
    rw [reconcile_sent, hget] at h
    obtain ⟨r, hr, hne⟩ := h
    rw [hget]
    exact patch_refused rfl ⟨r, (List.mem_cons.mp hr).resolve_left (by rintro rfl; exact hne hg), hne⟩
  · have hget : a.get = .error e := by simp [ApiServer.get, hg]
    rw [hget]

theorem reconcile_refused_unchanged_conflict :
    (∃ r ∈ (typedDecorator.reconcile (fun _ => false) bumpController
        { stored := ⟨0, 0⟩, refuses := fun r => if r = .patch then some (.other "conflict") else none }).sent,
      ({ stored := ⟨0, 0⟩, refuses := fun r => if r = .patch then some (.other "conflict") else none } :
        ApiServer Nat Nat).refuses r ≠ none) ∧
    (typedDecorator.reconcile (fun _ => false) bumpController
        { stored := ⟨0, 0⟩, refuses := fun r => if r = .patch then some (.other "conflict") else none }).server =
      { stored := ⟨0, 0⟩, refuses := fun r => if r = .patch then some (.other "conflict") else none } :=
  ⟨⟨.patch, by decide, by decide⟩, reconcile_refused_unchanged _ _ _ ⟨.patch, by decide, by decide⟩⟩

section BodyDriven

variable {deleting : Body → Bool} {c : TypedController Body Status} {f : Body → Body}
  {g : Body → Status} {res : Body → ReconcileResult}

/-- **One reconcile against a server that accepts every request**, for a
    controller that leaves `⟨f b, g b⟩`: the server then holds `f b` and, only
    when the body was already settled, `g b`; a reconcile that finds the object
    as the controller would leave it sends only its `Get`. -/
theorem reconcile_accepting (hc : ∀ x, c.dispatch deleting x = (⟨f x.body, g x.body⟩, res x.body, none))
    {a : ApiServer Body Status} (hacc : ∀ r, a.refuses r = none) :
    (typedDecorator.reconcile deleting c a).server = { a with stored :=
        ⟨f a.stored.body, if f a.stored.body = a.stored.body then g a.stored.body else a.stored.status⟩ } ∧
      (f a.stored.body = a.stored.body → g a.stored.body = a.stored.status →
        (typedDecorator.reconcile deleting c a).sent = [.get]) := by
  obtain ⟨⟨b, st⟩, refuses⟩ := a
  dsimp only at hacc ⊢
  by_cases hb : f b = b
  · by_cases hs : g b = st
    · simp [typedDecorator.reconcile, ApiServer.get, hc, typedDecorator.patch, bodyEqual, patchStatus,
        statusEqual, hacc, hb, hs]
    · simp [typedDecorator.reconcile, ApiServer.get, hc, typedDecorator.patch, bodyEqual, patchStatus,
        statusEqual, ApiServer.statusPatch, hacc, hb, hs, Ne.symm hs]
  · simp [typedDecorator.reconcile, ApiServer.get, hc, typedDecorator.patch, bodyEqual, patchStatus,
      statusEqual, ApiServer.patch, hacc, hb, Ne.symm hb]

/-- The server after `n` reconciles in a row. -/
def reconcileRuns (deleting : Body → Bool) (c : TypedController Body Status) (n : Nat)
    (a : ApiServer Body Status) : ApiServer Body Status :=
  (fun a => (typedDecorator.reconcile deleting c a).server)^[n] a

variable (hc : ∀ x, c.dispatch deleting x = (⟨f x.body, g x.body⟩, res x.body, none))
  (hf : ∀ b, f (f b) = f b)
include hc hf

/-- A server holding a settled body and its status is left as it is, and the
    reconcile sends only its `Get`. -/
theorem reconcile_settled {a : ApiServer Body Status} (hacc : ∀ r, a.refuses r = none) {b : Body}
    (hstored : a.stored = ⟨f b, g (f b)⟩) :
    (typedDecorator.reconcile deleting c a).server = a ∧
      (typedDecorator.reconcile deleting c a).sent = [.get] := by
  obtain ⟨hserver, hsent⟩ := reconcile_accepting hc hacc
  have hb : f a.stored.body = a.stored.body := by rw [hstored]; exact hf b
  have hs : g a.stored.body = a.stored.status := by rw [hstored]
  refine ⟨?_, hsent hb hs⟩
  rw [hserver, if_pos hb, hs, hb]

/-- From a server holding a settled body, one reconcile settles the status. -/
theorem reconcile_settles_status {a : ApiServer Body Status} (hacc : ∀ r, a.refuses r = none)
    {b : Body} (hbody : a.stored.body = f b) :
    (typedDecorator.reconcile deleting c a).server = { a with stored := ⟨f b, g (f b)⟩ } := by
  rw [(reconcile_accepting hc hacc).1, hbody, hf, if_pos rfl]

omit hc hf in
theorem reconcileRuns_succ (n : Nat) (a : ApiServer Body Status) :
    reconcileRuns deleting c (n + 1) a =
      (typedDecorator.reconcile deleting c (reconcileRuns deleting c n a)).server :=
  Function.iterate_succ_apply' _ _ _

omit hf in
/-- Reconciles keep what the server refuses. -/
theorem reconcileRuns_refuses (a : ApiServer Body Status) (hacc : ∀ r, a.refuses r = none) :
    ∀ n, ∀ r, (reconcileRuns deleting c n a).refuses r = none := by
  intro n
  induction n with
  | zero => exact hacc
  | succ n ih =>
    rw [reconcileRuns_succ, (reconcile_accepting hc ih).1]
    exact ih

/-- **Two reconciles settle the object.** Against a server that accepts every
    request, a controller whose `Reconcile` (or `Finalize`) leaves the body
    `f b` and the status `g b` for the body `b` it got, with `f` settling at
    once, brings the server to `⟨f b, g (f b)⟩` within two reconciles of the
    object the server held. Every later reconcile leaves it there and sends only
    its `Get`. -/
theorem reconcile_settles (a : ApiServer Body Status) (hacc : ∀ r, a.refuses r = none) :
    ∀ n, 2 ≤ n →
      (reconcileRuns deleting c n a).stored = ⟨f a.stored.body, g (f a.stored.body)⟩ ∧
        (typedDecorator.reconcile deleting c (reconcileRuns deleting c n a)).sent = [.get] := by
  have hsettled : ∀ k, (reconcileRuns deleting c (k + 2) a).stored =
      ⟨f a.stored.body, g (f a.stored.body)⟩ := by
    intro k
    induction k with
    | zero =>
      have hfirst : (reconcileRuns deleting c 1 a).stored.body = f a.stored.body := by
        show (typedDecorator.reconcile deleting c a).server.stored.body = _
        rw [(reconcile_accepting hc hacc).1]
      rw [reconcileRuns_succ, reconcile_settles_status hc hf (reconcileRuns_refuses hc a hacc 1) hfirst]
    | succ k ih =>
      rw [reconcileRuns_succ, (reconcile_settled hc hf (reconcileRuns_refuses hc a hacc _) ih).1]
      exact ih
  intro n hn
  obtain ⟨k, rfl⟩ : ∃ k, n = k + 2 := ⟨n - 2, by omega⟩
  exact ⟨hsettled k, (reconcile_settled hc hf (reconcileRuns_refuses hc a hacc _) (hsettled k)).2⟩

end BodyDriven

/-- A controller that keeps the last decimal digit of the body and records in
    the status the body it was given. -/
def lastDigitController : TypedController Nat Nat where
  reconcile := fun obj => (⟨obj.body % 10, obj.body⟩, {}, none)
  finalize := none

theorem reconcile_settles_lastDigit :
    (∀ x, lastDigitController.dispatch (fun _ => false) x = (⟨x.body % 10, x.body⟩, {}, none)) ∧
      (∀ b : Nat, b % 10 % 10 = b % 10) ∧
      (∀ r, ({ stored := ⟨23, 0⟩, refuses := fun _ => none } : ApiServer Nat Nat).refuses r = none) ∧
      (reconcileRuns (fun _ => false) lastDigitController 2
        { stored := ⟨23, 0⟩, refuses := fun _ => none }).stored = ⟨23 % 10, 23 % 10⟩ ∧
      (typedDecorator.reconcile (fun _ => false) lastDigitController
        (reconcileRuns (fun _ => false) lastDigitController 2
          { stored := ⟨23, 0⟩, refuses := fun _ => none })).sent = [.get] :=
  ⟨fun _ => rfl, fun b => Nat.mod_mod b 10, fun _ => rfl,
    @reconcile_settles Nat Nat _ _ (fun _ => false) lastDigitController (fun b => b % 10) (fun b => b)
      (fun _ => {}) (fun _ => rfl) (fun b => Nat.mod_mod b 10) _ (fun _ => rfl) 2 (Nat.le_refl 2)⟩

end KarpenterCore
