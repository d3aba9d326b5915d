import Mathlib.Logic.Basic

/-!
# The typed controller decorator

`typedDecorator.Reconcile` gets the object, keeps a copy, runs the typed
controller's `Reconcile` (or `Finalize`, for a finalizing controller and an
object being deleted) and then `patch`es the object from the copy: the body,
every field but `status`, when `bodyEqual` finds it changed, then the status
when `statusEqual` finds it changed.

The API server is one with a status subresource: the main-resource `Patch`
persists only the body and answers with the object it holds, status included,
which the client writes back into `updated`; `Status().Patch` persists only the
status. The status comparison reads `updated` after the body `Patch` has
rewritten it. So when the controller changed both, the stored status is
compared with itself and the new status is never sent (`patch_persists`,
`reconcile_loses_status_change`).

The requests sent are returned as data, in order.
-/

namespace KarpenterCore

/-- An object as `ToUnstructured` splits it: every field but `status`, and
    `status`. -/
structure Object (Body Status : Type) where
  body : Body
  status : Status
deriving DecidableEq, Repr

/-- An `error` the decorator sees: a NotFound status error, or any other. -/
inductive Error where
  | notFound
  | other (reason : String)
deriving DecidableEq, Repr

/-- The requests the decorator sends through its `kubeClient`. -/
inductive Request where
  | get
  | patch
  | statusPatch
deriving DecidableEq, Repr

/-- `reconcile.Result`. -/
structure ReconcileResult where
  requeue : Bool := false
  requeueAfter : Nat := 0
deriving DecidableEq, Repr

variable {Body Status : Type} [DecidableEq Body] [DecidableEq Status]

/-- `bodyEqual`: the objects deep-equal once `status` is deleted from both. -/
def bodyEqual (a b : Object Body Status) : Bool := decide (a.body = b.body)

/-- `statusEqual`: the objects' `status` fields deep-equal. -/
def statusEqual (a b : Object Body Status) : Bool := decide (a.status = b.status)

/-! ### The API server -/

/-- The API server: the object it stores under the request's name, and the
    error it answers each kind of request with, if any. -/
structure ApiServer (Body Status : Type) where
  stored : Object Body Status
  refuses : Request → Option Error

/-- `kubeClient.Get`. -/
def ApiServer.get (a : ApiServer Body Status) : Except Error (Object Body Status) :=
  match a.refuses .get with
  | some e => .error e
  | none => .ok a.stored

/-- `kubeClient.Patch` on the main resource: the server persists `updated`'s
    body and keeps its own status; the object it then holds is what the client
    writes back into `updated`. -/
def ApiServer.patch (a : ApiServer Body Status) (updated : Object Body Status) :
    Except Error (ApiServer Body Status) :=
  match a.refuses .patch with
  | some e => .error e
  | none => .ok { a with stored := { a.stored with body := updated.body } }

/-- `kubeClient.Status().Patch`: the server persists `updated`'s status only. -/
def ApiServer.statusPatch (a : ApiServer Body Status) (updated : Object Body Status) :
    Except Error (ApiServer Body Status) :=
  match a.refuses .statusPatch with
  | some e => .error e
  | none => .ok { a with stored := { a.stored with status := updated.status } }

/-! ### `patch` -/

/-- What `patch` leaves: its error, the server, `updated` as the requests
    rewrote it, and the requests it sent. -/
structure PatchRun (Body Status : Type) where
  err : Option Error
  server : ApiServer Body Status
  updated : Option (Object Body Status)
  sent : List Request

/-- The status half of `patch`: `Status().Patch` when `statusEqual` finds the
    status changed. -/
def patchStatus (a : ApiServer Body Status) (obj updated : Object Body Status)
    (sent : List Request) : PatchRun Body Status :=
  if statusEqual obj updated then ⟨none, a, some updated, sent⟩
  else match a.statusPatch updated with
    | .error e => ⟨some e, a, some updated, sent ++ [.statusPatch]⟩
    | .ok a' => ⟨none, a', some a'.stored, sent ++ [.statusPatch]⟩

/-- `typedDecorator.patch(ctx, obj, updated)`; `none` is a nil `updated`. -/
def typedDecorator.patch (a : ApiServer Body Status) (obj : Object Body Status) :
    Option (Object Body Status) → PatchRun Body Status
  | none => ⟨none, a, none, []⟩
  | some updated =>
    if bodyEqual obj updated then patchStatus a obj updated []
    else match a.patch updated with
      | .error e => ⟨some e, a, some updated, [.patch]⟩
      | .ok a' => patchStatus a' obj a'.stored [.patch]

omit [DecidableEq Body] in
/-- When the status half returns `nil`, the server holds `updated`'s status if
    `statusEqual` found it changed, and is untouched otherwise. -/
theorem patchStatus_stored {a : ApiServer Body Status} {obj updated : Object Body Status}
    {sent : List Request} (herr : (patchStatus a obj updated sent).err = none) :
    (patchStatus a obj updated sent).server.stored =
      if obj.status = updated.status then a.stored else { a.stored with status := updated.status } := by
  unfold patchStatus at herr ⊢
  by_cases hs : obj.status = updated.status
  · simp [statusEqual, hs]
  · simp only [statusEqual, hs, decide_False, Bool.false_eq_true, if_false] at herr ⊢
    unfold ApiServer.statusPatch at herr ⊢
    rcases h : a.refuses .statusPatch with _ | e <;> simp only [h] at herr ⊢
    cases herr

/-- **What a `patch` that returns `nil` persists**, against a server holding
    `obj`: the body of `updated` always, and its status only when the body was
    unchanged; after a body `Patch` the server keeps its own status. -/
theorem patch_persists {a : ApiServer Body Status} {obj updated : Object Body Status}
    (hs : a.stored = obj) (herr : (typedDecorator.patch a obj (some updated)).err = none) :
    (typedDecorator.patch a obj (some updated)).server.stored =
      ⟨updated.body, if updated.body = obj.body then updated.status else obj.status⟩ := by
  unfold typedDecorator.patch at herr ⊢
  by_cases hb : obj.body = updated.body
  · simp only [bodyEqual, hb, decide_True, if_true] at herr ⊢
    rw [patchStatus_stored herr, hs]
    by_cases hst : obj.status = updated.status
    · rw [if_pos hst, ← hb, ← hst]
    · rw [if_neg hst]
      simp only [hb]
  · simp only [bodyEqual, hb, decide_False, Bool.false_eq_true, if_false] at herr ⊢
    unfold ApiServer.patch at herr ⊢
    rcases h : a.refuses .patch with _ | e <;> simp only [h] at herr ⊢
    · rw [patchStatus_stored herr]
      simp [hs, Ne.symm hb]
    · cases herr

theorem patch_persists_sample :
    ({ stored := ⟨0, 0⟩, refuses := fun _ => none } : ApiServer Nat Nat).stored = ⟨0, 0⟩ ∧
      (typedDecorator.patch { stored := ⟨0, 0⟩, refuses := fun _ => none } ⟨0, 0⟩
        (some ⟨1, 1⟩)).err = none ∧
      (typedDecorator.patch { stored := ⟨0, 0⟩, refuses := fun _ => none } ⟨0, 0⟩
        (some ⟨1, 1⟩)).server.stored = ⟨1, if (1 : Nat) = 0 then 1 else 0⟩ :=
  ⟨rfl, rfl, patch_persists rfl rfl⟩

/-! ### `Reconcile` -/

/-- A `TypedController[T]`: its `Reconcile`, and its `Finalize` when it is a
    `FinalizingTypedController[T]`. Each returns the object as it left it, the
    result and the error. -/
structure TypedController (Body Status : Type) where
  reconcile : Object Body Status → Object Body Status × ReconcileResult × Option Error
  finalize : Option (Object Body Status → Object Body Status × ReconcileResult × Option Error)

/-- `Finalize` for a finalizing controller and an object whose deletion
    timestamp is set, `Reconcile` otherwise. -/
def TypedController.dispatch (c : TypedController Body Status) (deleting : Body → Bool)
    (obj : Object Body Status) : Object Body Status × ReconcileResult × Option Error :=
  match c.finalize with
  | some finalize => if deleting obj.body then finalize obj else c.reconcile obj
  | none => c.reconcile obj

/-- What `Reconcile` returns and leaves: the result, the errors `multierr`
    combined (none is `nil`), the server, and the requests sent. -/
structure ReconcileRun (Body Status : Type) where
  result : ReconcileResult
  errs : List Error
  server : ApiServer Body Status
  sent : List Request

/-- `typedDecorator.Reconcile`, with `deleting` reading
    `!obj.GetDeletionTimestamp().IsZero()` off the body. -/
def typedDecorator.reconcile (deleting : Body → Bool) (c : TypedController Body Status)
    (a : ApiServer Body Status) : ReconcileRun Body Status :=
  match a.get with
  | .error e => ⟨{}, if e = .notFound then [] else [e], a, [.get]⟩
  | .ok obj =>
    let stored := obj
    let (obj, result, err) := c.dispatch deleting obj
    let run := typedDecorator.patch a stored (some obj)
    match run.err with
    | some e => ⟨{}, e :: err.toList, run.server, .get :: run.sent⟩
    | none => ⟨result, err.toList, run.server, .get :: run.sent⟩

/-- **What a `Reconcile` that returns `nil` persists.** The controller's own
    call returned `nil`, and the server holds the body the controller left,
    with the status the controller left only when it left the body unchanged. -/
theorem reconcile_ok_persists (deleting : Body → Bool) (c : TypedController Body Status)
    (a : ApiServer Body Status) (hget : a.refuses .get = none)
    (herr : (typedDecorator.reconcile deleting c a).errs = []) :
    (c.dispatch deleting a.stored).2.2 = none ∧
      (typedDecorator.reconcile deleting c a).server.stored =
        ⟨(c.dispatch deleting a.stored).1.body,
          if (c.dispatch deleting a.stored).1.body = a.stored.body then
            (c.dispatch deleting a.stored).1.status
          else a.stored.status⟩ := by
  have hok : a.get = .ok a.stored := by simp [ApiServer.get, hget]
  rcases hc : c.dispatch deleting a.stored with ⟨u, result, err⟩
  unfold typedDecorator.reconcile at herr ⊢
  simp only [hok, hc] at herr ⊢
  rcases hp : (typedDecorator.patch a a.stored (some u)).err with _ | e <;> simp only [hp] at herr ⊢
  · refine ⟨?_, patch_persists rfl hp⟩
    cases err
    · rfl
    · cases herr
  · cases herr

/-- A controller that bumps both the body and the status. -/
def bumpController : TypedController Nat Nat where
  reconcile := fun obj => (⟨obj.body + 1, obj.status + 1⟩, {}, none)
  finalize := none

theorem reconcile_ok_persists_sample :
    ({ stored := ⟨0, 0⟩, refuses := fun _ => none } : ApiServer Nat Nat).refuses .get = none ∧
      (typedDecorator.reconcile (fun _ => false) bumpController
        { stored := ⟨0, 0⟩, refuses := fun _ => none }).errs = [] ∧
      (bumpController.dispatch (fun _ => false) ⟨0, 0⟩).2.2 = none ∧
      (typedDecorator.reconcile (fun _ => false) bumpController
        { stored := ⟨0, 0⟩, refuses := fun _ => none }).server.stored =
        ⟨(bumpController.dispatch (fun _ => false) ⟨0, 0⟩).1.body,
          if (bumpController.dispatch (fun _ => false) ⟨0, 0⟩).1.body = 0 then
            (bumpController.dispatch (fun _ => false) ⟨0, 0⟩).1.status
          else 0⟩ :=
  ⟨rfl, by rfl, reconcile_ok_persists (fun _ => false) bumpController
    { stored := ⟨0, 0⟩, refuses := fun _ => none } (by rfl) (by rfl)⟩

/-- A server holding `⟨0, 0⟩` that accepts every request: `Reconcile` with a
    controller that sets both the body and the status to `1` returns `nil`,
    yet the server keeps status `0`, and no `Status().Patch` was sent. -/
theorem reconcile_loses_status_change :
    (bumpController.dispatch (fun _ => false) ⟨0, 0⟩).1 = ⟨1, 1⟩ ∧
      (typedDecorator.reconcile (fun _ => false) bumpController
        { stored := ⟨0, 0⟩, refuses := fun _ => none }).errs = [] ∧
      (typedDecorator.reconcile (fun _ => false) bumpController
        { stored := ⟨0, 0⟩, refuses := fun _ => none }).server.stored = ⟨1, 0⟩ ∧
      (typedDecorator.reconcile (fun _ => false) bumpController
        { stored := ⟨0, 0⟩, refuses := fun _ => none }).sent = [.get, .patch] :=
  ⟨rfl, rfl, rfl, rfl⟩

end KarpenterCore
