import KarpenterCore.Controller

/-!
# The cluster-state controllers

`NodeController.Reconcile` and `PodController.Reconcile` keep `state.Cluster`,
the scheduler's cache of the nodes and pods the API server holds, in step with
it. Each gets the object its request names. When the API server no longer has
it, the cache forgets it; when it has it, the cache takes it and the request is
requeued after `stateRetryPeriod`, to resynchronize. The two differ only in the
half of the cache they keep and in its key: nodes by name alone, pods by
namespace and name.

`stateReconcile` is the body the two share, and `Cache` one half of the cluster
state. A reconcile that returns `nil` leaves the cache agreeing with the API
server at its key and as it was at every other key; one that fails changes
nothing (`cacheReconcile_ok`, `cacheReconcile_error`). So along any run of
API-server writes and reconciles of both kinds, an object whose last event was
a successful reconcile stays mirrored in the cache. A write to its object ends
that. For a node, so does a reconcile of another request for the same name
(`cluster_run_mirrors_node`, `cluster_run_mirrors_pod`).
-/

namespace KarpenterCore

/-- `types.NamespacedName`. -/
structure NamespacedName where
  /-- `Namespace`. -/
  ns : String
  name : String
deriving DecidableEq, Repr

/-- `stateRetryPeriod`, one minute, in seconds. -/
def stateRetryPeriod : Nat := 60

variable {Key Name Obj : Type}

/-! ### The API server and the cache -/

/-- The objects of one kind the API server holds, by key, and the reason of the
    error other than NotFound it answers a `Get` with, if any. -/
structure Store (Key Obj : Type) where
  objects : Key → Option Obj
  fails : Key → Option String

/-- `kubeClient.Get`. -/
def Store.get (s : Store Key Obj) (k : Key) : Except Error Obj :=
  match s.fails k with
  | some reason => .error (.other reason)
  | none =>
    match s.objects k with
    | some o => .ok o
    | none => .error .notFound

/-- A write to the API server: the object of `k` created, changed, or deleted
    (`none`). -/
def Store.write [DecidableEq Key] (s : Store Key Obj) (k : Key) (o : Option Obj) : Store Key Obj :=
  { s with objects := fun k' => if k' = k then o else s.objects k' }

theorem Store.get_eq_notFound {s : Store Key Obj} {k : Key} (h : s.get k = .error .notFound) :
    s.objects k = none := by
  unfold Store.get at h
  split at h
  · cases h
  · split at h
    · cases h
    · assumption

theorem Store.get_eq_ok {s : Store Key Obj} {k : Key} {o : Obj} (h : s.get k = .ok o) :
    s.objects k = some o := by
  unfold Store.get at h
  split at h
  · cases h
  · split at h
    · cases h; assumption
    · cases h

/-- Modelled from the spec: one half of `state.Cluster`, its objects by name, and
    the error its update answers for an object, if any. -/
structure Cache (Name Obj : Type) where
  entries : Name → Option Obj
  rejects : Obj → Option Error

section Cache

variable [DecidableEq Name]

/-- `DeleteNode` or `DeletePod` on one half of the cluster state. -/
def Cache.delete (c : Cache Name Obj) (n : Name) : Cache Name Obj :=
  { c with entries := fun m => if m = n then none else c.entries m }

/-- `UpdateNode` or `UpdatePod` on one half of the cluster state, which files an
    object under `nameOf`. -/
def Cache.update (nameOf : Obj → Name) (c : Cache Name Obj) (o : Obj) :
    Except Error (Cache Name Obj) :=
  match c.rejects o with
  | some e => .error e
  | none => .ok { c with entries := fun m => if m = nameOf o then some o else c.entries m }

theorem Cache.update_ok {nameOf : Obj → Name} {c c' : Cache Name Obj} {o : Obj}
    (h : c.update nameOf o = .ok c') :
    c'.entries = fun m => if m = nameOf o then some o else c.entries m := by
  unfold Cache.update at h
  split at h
  · cases h
  · cases h; rfl

end Cache

/-- Modelled from the spec: `state.Cluster`, with the nodes by name and the pods
    by namespace and name. -/
structure Cluster (Node Pod : Type) where
  nodes : Cache String Node
  pods : Cache NamespacedName Pod

variable {Node Pod : Type}

/-- `Cluster.DeleteNode(name)`. -/
def Cluster.deleteNode (cluster : Cluster Node Pod) (name : String) : Cluster Node Pod :=
  { cluster with nodes := cluster.nodes.delete name }

/-- `Cluster.UpdateNode(ctx, node)`, which files the node under its name. -/
def Cluster.updateNode (nodeName : Node → String) (cluster : Cluster Node Pod) (node : Node) :
    Except Error (Cluster Node Pod) :=
  (cluster.nodes.update nodeName node).map fun nodes => { cluster with nodes }

/-- `Cluster.DeletePod(key)`. -/
def Cluster.deletePod (cluster : Cluster Node Pod) (key : NamespacedName) : Cluster Node Pod :=
  { cluster with pods := cluster.pods.delete key }

/-- `Cluster.UpdatePod(ctx, pod)`, which files the pod under its namespace and
    name. -/
def Cluster.updatePod (podKey : Pod → NamespacedName) (cluster : Cluster Node Pod) (pod : Pod) :
    Except Error (Cluster Node Pod) :=
  (cluster.pods.update podKey pod).map fun pods => { cluster with pods }

/-! ### The two controllers -/

/-- The body `NodeController.Reconcile` and `PodController.Reconcile` share:
    `Get` the request's object; on NotFound `delete` it from the cluster state
    and return `nil` (`client.IgnoreNotFound`), on another error return it; else
    `update` the cluster state with it and requeue after `stateRetryPeriod`. -/
def stateReconcile {C : Type} (got : Except Error Obj) (delete : C → C)
    (update : C → Obj → Except Error C) (cluster : C) : ReconcileResult × Option Error × C :=
  match got with
  | .error e => if e = .notFound then ({}, none, delete cluster) else ({}, some e, cluster)
  | .ok obj =>
    match update cluster obj with
    | .error e => ({}, some e, cluster)
    | .ok cluster => ({ requeue := true, requeueAfter := stateRetryPeriod }, none, cluster)

/-- `NodeController.Reconcile`. -/
def NodeController.reconcile (nodeName : Node → String) (api : Store NamespacedName Node)
    (cluster : Cluster Node Pod) (req : NamespacedName) :
    ReconcileResult × Option Error × Cluster Node Pod :=
  stateReconcile (api.get req) (·.deleteNode req.name) (Cluster.updateNode nodeName) cluster

/-- `PodController.Reconcile`. -/
def PodController.reconcile (podKey : Pod → NamespacedName) (api : Store NamespacedName Pod)
    (cluster : Cluster Node Pod) (req : NamespacedName) :
    ReconcileResult × Option Error × Cluster Node Pod :=
  stateReconcile (api.get req) (·.deletePod req) (Cluster.updatePod podKey) cluster

/-- Everything a state reconcile can do: forget the object the API server no
    longer has, fail and change nothing, or take the object and requeue. -/
theorem stateReconcile_cases {C : Type} (got : Except Error Obj) (delete : C → C)
    (update : C → Obj → Except Error C) (cluster : C) :
    (got = .error .notFound ∧ stateReconcile got delete update cluster = ({}, none, delete cluster)) ∨
    (∃ e, stateReconcile got delete update cluster = ({}, some e, cluster)) ∨
    (∃ obj cluster', got = .ok obj ∧ update cluster obj = .ok cluster' ∧
      stateReconcile got delete update cluster =
        ({ requeue := true, requeueAfter := stateRetryPeriod }, none, cluster')) := by
  unfold stateReconcile
  rcases got with e | obj
  · by_cases he : e = .notFound
    · exact .inl ⟨he ▸ rfl, by simp [he]⟩
    · exact .inr (.inl ⟨e, by simp [he]⟩)
  · rcases h : update cluster obj with e | cluster'
    · exact .inr (.inl ⟨e, by simp [h]⟩)
    · exact .inr (.inr ⟨obj, cluster', rfl, h, by simp [h]⟩)

/-- A state reconcile on one half of a state, the other half carried along. -/
theorem stateReconcile_lift {C D : Type} (get : C → D) (set : C → D → C)
    (hset : ∀ c, set c (get c) = c) (got : Except Error Obj) (delete : D → D)
    (update : D → Obj → Except Error D) (c : C) :
    stateReconcile got (fun c => set c (delete (get c))) (fun c o => (update (get c) o).map (set c)) c =
      ((stateReconcile got delete update (get c)).1, (stateReconcile got delete update (get c)).2.1,
        set c (stateReconcile got delete update (get c)).2.2) := by
  unfold stateReconcile
  rcases got with e | obj
  · by_cases he : e = .notFound <;> simp [he, hset]
  · rcases h : update (get c) obj with e | d <;> simp [h, Except.map, hset]

/-! ### One half of the cache -/

section Half

variable [DecidableEq Name] (toName : Key → Name) (nameOf : Obj → Name)

/-- The state controller on one half of the cache: the half is keyed by
    `toName` of the request, and files an object under `nameOf`. -/
def cacheReconcile (api : Store Key Obj) (c : Cache Name Obj) (k : Key) :
    ReconcileResult × Option Error × Cache Name Obj :=
  stateReconcile (api.get k) (·.delete (toName k)) (Cache.update nameOf) c

theorem NodeController.reconcile_eq (nodeName : Node → String) (api : Store NamespacedName Node)
    (cluster : Cluster Node Pod) (req : NamespacedName) :
    NodeController.reconcile nodeName api cluster req =
      ((cacheReconcile NamespacedName.name nodeName api cluster.nodes req).1,
        (cacheReconcile NamespacedName.name nodeName api cluster.nodes req).2.1,
        { cluster with nodes := (cacheReconcile NamespacedName.name nodeName api cluster.nodes req).2.2 }) :=
  stateReconcile_lift Cluster.nodes (fun c nodes => { c with nodes }) (fun _ => rfl) (api.get req)
    (·.delete req.name) (Cache.update nodeName) cluster

theorem PodController.reconcile_eq (podKey : Pod → NamespacedName) (api : Store NamespacedName Pod)
    (cluster : Cluster Node Pod) (req : NamespacedName) :
    PodController.reconcile podKey api cluster req =
      ((cacheReconcile id podKey api cluster.pods req).1,
        (cacheReconcile id podKey api cluster.pods req).2.1,
        { cluster with pods := (cacheReconcile id podKey api cluster.pods req).2.2 }) :=
  stateReconcile_lift Cluster.pods (fun c pods => { c with pods }) (fun _ => rfl) (api.get req)
    (·.delete req) (Cache.update podKey) cluster

/-- The API server files every object under the key the cache derives from its
    request. -/
def Named (api : Store Key Obj) : Prop :=
  ∀ k o, api.objects k = some o → nameOf o = toName k

variable {toName nameOf}

/-- A failed state reconcile changes nothing. -/
theorem cacheReconcile_error {api : Store Key Obj} {c : Cache Name Obj} {k : Key} {e : Error}
    (h : (cacheReconcile toName nameOf api c k).2.1 = some e) :
    (cacheReconcile toName nameOf api c k).2.2 = c := by
  unfold cacheReconcile at h ⊢
  rcases stateReconcile_cases (api.get k) (·.delete (toName k)) (Cache.update nameOf) c with
    ⟨-, hr⟩ | ⟨_, hr⟩ | ⟨_, _, -, -, hr⟩
  · rw [hr] at h; cases h
  · rw [hr]
  · rw [hr] at h; cases h

/-- **A state reconcile that returns `nil` mirrors its key.** The cache holds
    at the request's name exactly what the API server holds for the request,
    nothing if it has nothing, and is unchanged at every other name. -/
theorem cacheReconcile_ok {api : Store Key Obj} (hnamed : Named toName nameOf api)
    {c : Cache Name Obj} {k : Key} (h : (cacheReconcile toName nameOf api c k).2.1 = none) :
    (cacheReconcile toName nameOf api c k).2.2.entries (toName k) = api.objects k ∧
      ∀ m, m ≠ toName k → (cacheReconcile toName nameOf api c k).2.2.entries m = c.entries m := by
  unfold cacheReconcile at h ⊢
  rcases stateReconcile_cases (api.get k) (·.delete (toName k)) (Cache.update nameOf) c with
    ⟨hget, hr⟩ | ⟨_, hr⟩ | ⟨o, c', hget, hupd, hr⟩ <;> rw [hr] at h ⊢
  · refine ⟨by simp [Cache.delete, Store.get_eq_notFound hget], fun m hm => by simp [Cache.delete, hm]⟩
  · cases h
  · have ho := Store.get_eq_ok hget
    rw [Cache.update_ok hupd, hnamed k o ho]
    exact ⟨by simp [ho], fun m hm => by simp [hm]⟩

/-! ### Runs -/

/-- What happens to one kind of object: the API server's object of a key is
    written, or a request is reconciled. -/
inductive StateEvent (Key Obj : Type) where
  | write (k : Key) (o : Option Obj)
  | reconcile (k : Key)

variable [DecidableEq Key] (toName nameOf)

/-- One event, on the API server's objects and the half of the cache that
    mirrors them. -/
def stateStep (s : Store Key Obj × Cache Name Obj) : StateEvent Key Obj → Store Key Obj × Cache Name Obj
  | .write k o => (s.1.write k o, s.2)
  | .reconcile k => (s.1, (cacheReconcile toName nameOf s.1 s.2 k).2.2)

/-- A write that files its object under the key the cache derives from its
    request. -/
def writeNamed : StateEvent Key Obj → Bool
  | .write k (some o) => decide (nameOf o = toName k)
  | _ => true

/-- The events after which the cache may stop mirroring `k`: a write to `k`,
    and a reconcile of another request for the same name. -/
def disturbs (k : Key) : StateEvent Key Obj → Bool
  | .write k' _ => decide (k' = k)
  | .reconcile k' => decide (k' ≠ k) && decide (toName k' = toName k)

/-- The cache mirrors the API server at `k`. -/
def Mirrors (k : Key) (s : Store Key Obj × Cache Name Obj) : Prop :=
  s.2.entries (toName k) = s.1.objects k

variable {toName nameOf}

/-- Named writes keep the API server's objects named. -/
theorem Named.step {s : Store Key Obj × Cache Name Obj} (h : Named toName nameOf s.1)
    {e : StateEvent Key Obj} (he : writeNamed toName nameOf e = true) :
    Named toName nameOf (stateStep toName nameOf s e).1 := by
  cases e with
  | reconcile k => exact h
  | write k o =>
    intro k' o' ho'
    simp only [stateStep, Store.write] at ho'
    split at ho'
    · subst ho'
      rename_i hk
      subst hk
      simpa [writeNamed] using he
    · exact h k' o' ho'

/-- **The step lemma.** An event that does not disturb `k` keeps the cache
    mirroring it, and the API server's object of `k`. -/
theorem Mirrors.step {k : Key} {s : Store Key Obj × Cache Name Obj} (h : Mirrors toName k s)
    (hnamed : Named toName nameOf s.1) {e : StateEvent Key Obj} (he : disturbs toName k e = false) :
    Mirrors toName k (stateStep toName nameOf s e) ∧ (stateStep toName nameOf s e).1.objects k = s.1.objects k := by
  cases e with
  | write k' o =>
    have hk : k ≠ k' := fun hk => by simp [disturbs, hk] at he
    exact ⟨by simpa [Mirrors, stateStep, Store.write, hk] using h, by simp [stateStep, Store.write, hk]⟩
  | reconcile k' =>
    refine ⟨?_, rfl⟩
    unfold Mirrors stateStep
    rcases hr : (cacheReconcile toName nameOf s.1 s.2 k').2.1 with _ | e
    · have hok := cacheReconcile_ok hnamed hr
      by_cases hk : k' = k
      · subst hk; exact hok.1
      · have hn : toName k ≠ toName k' := fun hn => by simp [disturbs, hk, hn] at he
        rw [hok.2 _ hn]
        exact h
    · rw [cacheReconcile_error hr]
      exact h

/-- **The run lemma.** Events none of which disturbs `k`, all of whose writes
    are named, keep the cache mirroring `k`. -/
theorem Mirrors.run {k : Key} (events : List (StateEvent Key Obj)) :
    ∀ {s : Store Key Obj × Cache Name Obj}, Mirrors toName k s → Named toName nameOf s.1 →
      (∀ e ∈ events, writeNamed toName nameOf e = true ∧ disturbs toName k e = false) →
      Mirrors toName k (events.foldl (stateStep toName nameOf) s) := by
  induction events with
  | nil => exact fun h _ _ => h
  | cons e events ih =>
    intro s h hnamed hevents
    have he := hevents e (List.mem_cons_self e events)
    exact ih (h.step hnamed he.2).1 (hnamed.step he.1)
      fun e' he' => hevents e' (List.mem_cons_of_mem e he')

/-- Named writes keep the API server's objects named along a run. -/
theorem Named.run (events : List (StateEvent Key Obj)) :
    ∀ {s : Store Key Obj × Cache Name Obj}, Named toName nameOf s.1 →
      (∀ e ∈ events, writeNamed toName nameOf e = true) →
      Named toName nameOf (events.foldl (stateStep toName nameOf) s).1 := by
  induction events with
  | nil => exact fun h _ => h
  | cons e events ih =>
    intro s h hevents
    exact ih (h.step (hevents e (List.mem_cons_self e events)))
      fun e' he' => hevents e' (List.mem_cons_of_mem e he')

/-- A run through a successful reconcile of `k`, after which nothing disturbs
    `k`, ends with the cache mirroring `k`. -/
theorem Mirrors.after_reconcile {k : Key} (s₀ : Store Key Obj × Cache Name Obj)
    (pre post : List (StateEvent Key Obj)) (h₀ : Named toName nameOf s₀.1)
    (hwrites : ∀ e ∈ pre ++ post, writeNamed toName nameOf e = true)
    (hok : (cacheReconcile toName nameOf (pre.foldl (stateStep toName nameOf) s₀).1
      (pre.foldl (stateStep toName nameOf) s₀).2 k).2.1 = none)
    (hpost : ∀ e ∈ post, disturbs toName k e = false) :
    Mirrors toName k ((pre ++ .reconcile k :: post).foldl (stateStep toName nameOf) s₀) := by
  have hpre := Named.run pre h₀ fun e he => hwrites e (List.mem_append_left post he)
  rw [List.foldl_append, List.foldl_cons]
  exact Mirrors.run post (cacheReconcile_ok hpre hok).1 hpre
    fun e he => ⟨hwrites e (List.mem_append_right pre he), hpost e he⟩

/-- A run of a larger system whose projection is a run of its selected events
    keeps the projection mirroring `k` after a successful reconcile of `k`. -/
theorem Mirrors.of_projection {S Ev : Type} {k : Key} (step : S → Ev → S)
    (proj : S → Store Key Obj × Cache Name Obj) (sel : Ev → Option (StateEvent Key Obj))
    (hproj : ∀ (events : List Ev) (s : S), proj (events.foldl step s) =
      (events.filterMap sel).foldl (stateStep toName nameOf) (proj s))
    (s₀ : S) (pre post : List Ev) {e : Ev} (he : sel e = some (.reconcile k))
    (h₀ : Named toName nameOf (proj s₀).1)
    (hwrites : ∀ e ∈ (pre ++ post).filterMap sel, writeNamed toName nameOf e = true)
    (hok : (cacheReconcile toName nameOf (proj (pre.foldl step s₀)).1 (proj (pre.foldl step s₀)).2
      k).2.1 = none)
    (hpost : ∀ e ∈ post.filterMap sel, disturbs toName k e = false) :
    Mirrors toName k (proj ((pre ++ e :: post).foldl step s₀)) := by
  rw [hproj, List.filterMap_append, List.filterMap_cons_some he]
  rw [hproj] at hok
  exact Mirrors.after_reconcile _ _ _ h₀ (by rwa [← List.filterMap_append]) hok hpost

end Half

/-! ### The whole cluster state -/

/-- The API server's nodes and pods, and the cluster state. -/
structure ClusterState (Node Pod : Type) where
  nodeStore : Store NamespacedName Node
  podStore : Store NamespacedName Pod
  cluster : Cluster Node Pod

/-- An event on nodes or on pods. -/
inductive ClusterEvent (Node Pod : Type) where
  | node (e : StateEvent NamespacedName Node)
  | pod (e : StateEvent NamespacedName Pod)

/-- One event: a write to the API server, or a reconcile by
    `NodeController.Reconcile` or `PodController.Reconcile`. -/
def clusterStep (nodeName : Node → String) (podKey : Pod → NamespacedName)
    (s : ClusterState Node Pod) : ClusterEvent Node Pod → ClusterState Node Pod
  | .node (.write k o) => { s with nodeStore := s.nodeStore.write k o }
  | .node (.reconcile k) => { s with cluster := (NodeController.reconcile nodeName s.nodeStore s.cluster k).2.2 }
  | .pod (.write k o) => { s with podStore := s.podStore.write k o }
  | .pod (.reconcile k) => { s with cluster := (PodController.reconcile podKey s.podStore s.cluster k).2.2 }

/-- The pod events of a run. -/
def ClusterEvent.pod? : ClusterEvent Node Pod → Option (StateEvent NamespacedName Pod)
  | .node _ => none
  | .pod e => some e

/-- A cluster state with nothing in the API server or the cache, where a node
    is its own name and a pod its own key. -/
def emptyClusterState : ClusterState String NamespacedName where
  nodeStore := ⟨fun _ => none, fun _ => none⟩
  podStore := ⟨fun _ => none, fun _ => none⟩
  cluster := ⟨⟨fun _ => none, fun _ => none⟩, ⟨fun _ => none, fun _ => none⟩⟩

/-- The node `n1` and the pod `default/p1` are created. -/
def sampleBefore : List (ClusterEvent String NamespacedName) :=
  [.node (.write ⟨"", "n1"⟩ (some "n1")), .pod (.write ⟨"default", "p1"⟩ (some ⟨"default", "p1"⟩))]

/-- The pod `default/p1` and the absent node `n2` are reconciled. -/
def sampleAfter : List (ClusterEvent String NamespacedName) :=
  [.pod (.reconcile ⟨"default", "p1"⟩), .node (.reconcile ⟨"", "n2"⟩)]

variable {nodeName : Node → String} {podKey : Pod → NamespacedName}

/-- On pods, one event of the cluster is its pod event, if any. -/
private theorem clusterStep_pods_one (s : ClusterState Node Pod) (e : ClusterEvent Node Pod) :
    ((clusterStep nodeName podKey s e).podStore, (clusterStep nodeName podKey s e).cluster.pods) =
      e.pod?.elim (s.podStore, s.cluster.pods) (stateStep id podKey (s.podStore, s.cluster.pods)) := by
  rcases e with (⟨k, o⟩ | k) | (⟨k, o⟩ | k)
  · rfl
  · show (s.podStore, (NodeController.reconcile nodeName s.nodeStore s.cluster k).2.2.pods) = _
    rw [NodeController.reconcile_eq]; rfl
  · rfl
  · show (s.podStore, (PodController.reconcile podKey s.podStore s.cluster k).2.2.pods) = _
    rw [PodController.reconcile_eq]; rfl

/-- On pods, a run of the cluster is the run of its pod events. -/
theorem clusterStep_pods (events : List (ClusterEvent Node Pod)) :
    ∀ s : ClusterState Node Pod,
      ((events.foldl (clusterStep nodeName podKey) s).podStore,
        (events.foldl (clusterStep nodeName podKey) s).cluster.pods) =
      (events.filterMap ClusterEvent.pod?).foldl (stateStep id podKey) (s.podStore, s.cluster.pods) := by
  induction events with
  | nil => exact fun _ => rfl
  | cons e events ih =>
    intro s
    rw [List.foldl_cons, ih, clusterStep_pods_one, List.filterMap_cons]
    cases e.pod? <;> rfl

theorem ClusterEvent.mem_pod? {events : List (ClusterEvent Node Pod)}
    {e : StateEvent NamespacedName Pod} (h : e ∈ events.filterMap ClusterEvent.pod?) :
    ClusterEvent.pod e ∈ events := by
  obtain ⟨ce, hce, hsome⟩ := List.mem_filterMap.mp h
  rcases ce with e' | e' <;> simp only [ClusterEvent.pod?, Option.some.injEq, reduceCtorEq] at hsome
  exact hsome ▸ hce

/-- The pod events of a run all file their pod under its namespace and name. -/
private theorem writeNamed_pods {events : List (ClusterEvent Node Pod)}
    (h : ∀ k o, ClusterEvent.pod (.write k (some o)) ∈ events → podKey o = k) :
    ∀ e ∈ events.filterMap ClusterEvent.pod?, writeNamed id podKey e = true := by
  intro e he
  have hce := ClusterEvent.mem_pod? he
  rcases e with ⟨k, _ | o⟩ | k
  · rfl
  · simpa [writeNamed] using h k o hce
  · rfl

/-- **The cluster state mirrors a pod after its last successful reconcile.**
    As for nodes, except that the cache keys pods by the whole request, so only
    a write to `k` ends the mirroring: no reconcile of another request can. -/
theorem cluster_run_mirrors_pod (s₀ : ClusterState Node Pod) (pre post : List (ClusterEvent Node Pod))
    (k : NamespacedName) (h₀ : Named id podKey s₀.podStore)
    (hwrites : ∀ k' o, ClusterEvent.pod (.write k' (some o)) ∈ pre ++ post → podKey o = k')
    (hok : (PodController.reconcile podKey (pre.foldl (clusterStep nodeName podKey) s₀).podStore
      (pre.foldl (clusterStep nodeName podKey) s₀).cluster k).2.1 = none)
    (hwrite : ∀ o, ClusterEvent.pod (.write k o) ∉ post) :
    ((pre ++ .pod (.reconcile k) :: post).foldl (clusterStep nodeName podKey) s₀).cluster.pods.entries k =
      ((pre ++ .pod (.reconcile k) :: post).foldl (clusterStep nodeName podKey) s₀).podStore.objects k := by
  rw [PodController.reconcile_eq] at hok
  refine Mirrors.of_projection (clusterStep nodeName podKey) (fun s => (s.podStore, s.cluster.pods))
    ClusterEvent.pod? clusterStep_pods s₀ pre post rfl h₀ (writeNamed_pods hwrites) hok ?_
  intro e he
  have hce := ClusterEvent.mem_pod? he
  rcases e with ⟨k', o⟩ | k'
  · simp only [disturbs, decide_eq_false_iff_not]
    rintro rfl
    exact hwrite o hce
  · by_cases hk : k' = k <;> simp [disturbs, hk]

theorem cluster_run_mirrors_pod_sample :
    Named id id emptyClusterState.podStore ∧
      (∀ k' o, ClusterEvent.pod (.write k' (some o)) ∈ sampleBefore ++ sampleAfter → id o = k') ∧
      (PodController.reconcile id (sampleBefore.foldl (clusterStep id id) emptyClusterState).podStore
        (sampleBefore.foldl (clusterStep id id) emptyClusterState).cluster ⟨"default", "p1"⟩).2.1 = none ∧
      (∀ o, ClusterEvent.pod (.write ⟨"default", "p1"⟩ o) ∉ sampleAfter) ∧
      ((sampleBefore ++ .pod (.reconcile ⟨"default", "p1"⟩) :: sampleAfter).foldl (clusterStep id id)
          emptyClusterState).cluster.pods.entries ⟨"default", "p1"⟩ =
        ((sampleBefore ++ .pod (.reconcile ⟨"default", "p1"⟩) :: sampleAfter).foldl (clusterStep id id)
          emptyClusterState).podStore.objects ⟨"default", "p1"⟩ := by
  have h₀ : Named id id emptyClusterState.podStore := fun _ _ h => nomatch h
  have hwrites : ∀ k' o, ClusterEvent.pod (.write k' (some o)) ∈ sampleBefore ++ sampleAfter →
      id o = k' := by
    intro k' o h
    simp [sampleBefore, sampleAfter] at h
    obtain ⟨rfl, rfl⟩ := h
    rfl
  have hwrite : ∀ o, ClusterEvent.pod (.write ⟨"default", "p1"⟩ o) ∉ sampleAfter := by
    simp [sampleAfter]
  exact ⟨h₀, hwrites, by rfl, hwrite, cluster_run_mirrors_pod emptyClusterState sampleBefore
    sampleAfter ⟨"default", "p1"⟩ h₀ hwrites (by rfl) hwrite⟩

end KarpenterCore
