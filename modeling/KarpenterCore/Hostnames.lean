import KarpenterCore.Life
import Mathlib.Data.Nat.Digits

/-!
# Placeholder hostnames

`NewNode` names each prospective node `hostname-placeholder-%04d` after the
process-wide counter it advances, registers that hostname with the topology and
requires it of the node. `Node.Add` only narrows a node's requirements, so a
prospective node admits no other hostname for the rest of its life. The counter
never hands out an id twice, and `%04d` writes distinct positive ids as distinct
texts (`hostnamePlaceholder_inj`). So at every point of a scheduler's life each
prospective node admits only its own placeholder, and no labelling is admitted
by two of them (`life_newNodes_hostnames_disjoint`): a hostname topology domain
holds at most one prospective node.

`FinalizeScheduling` drops the hostname key before Solve returns the nodes, so
the law is about the scheduler's state while the loop runs, which is where the
topology reads it.
-/

namespace KarpenterCore

open Requirements Requirement

/-! ### `%d` and `%04d` -/

/-- `Nat.toDigitsCore` writes the decimal digits of a positive number, most
    significant first, in front of its accumulator, given enough fuel. -/
theorem toDigitsCore_ten {fuel n : Nat} (ds : List Char) (hn : 0 < n) (hfuel : n < fuel) :
    Nat.toDigitsCore 10 fuel n ds = ((Nat.digits 10 n).map Nat.digitChar).reverse ++ ds := by
  induction fuel generalizing n ds with
  | zero => omega
  | succ fuel ih =>
    rw [Nat.digits_def' (by norm_num) hn]
    by_cases h : n / 10 = 0
    · simp [Nat.toDigitsCore, h]
    · simp only [Nat.toDigitsCore, if_neg h]
      rw [ih _ (Nat.pos_of_ne_zero h) (by omega)]
      simp

/-- `%d` of a positive number: its decimal digits, most significant first. -/
theorem toString_data {n : Nat} (hn : 0 < n) :
    (toString n).data = ((Nat.digits 10 n).map Nat.digitChar).reverse :=
  (toDigitsCore_ten [] hn (Nat.lt_succ_self n)).trans (List.append_nil _)

private theorem digitChar_toNat_table :
    ∀ d ∈ List.range 10, (Nat.digitChar d).toNat - 48 = d := by
  decide

/-- The ten decimal digit characters are read back by their code less `'0'`. -/
theorem digitChar_toNat {d : Nat} (hd : d < 10) : (Nat.digitChar d).toNat - 48 = d :=
  digitChar_toNat_table d (List.mem_range.mpr hd)

theorem map_digitChar_inj {l₁ l₂ : List Nat} (h₁ : ∀ d ∈ l₁, d < 10) (h₂ : ∀ d ∈ l₂, d < 10)
    (h : l₁.map Nat.digitChar = l₂.map Nat.digitChar) : l₁ = l₂ := by
  have hread : ∀ l : List Nat, (∀ d ∈ l, d < 10) →
      (l.map Nat.digitChar).map (fun c => c.toNat - 48) = l := fun l hl => by
    rw [List.map_map]
    exact (List.map_congr_left fun d hd => digitChar_toNat (hl d hd)).trans (List.map_id l)
  rw [← hread l₁ h₁, h, hread l₂ h₂]

/-- `%d` writes distinct positive numbers as distinct texts. -/
theorem toString_inj {a b : Nat} (ha : 0 < a) (hb : 0 < b)
    (h : (toString a).data = (toString b).data) : a = b := by
  rw [toString_data ha, toString_data hb, List.reverse_inj] at h
  rw [← Nat.ofDigits_digits 10 a, ← Nat.ofDigits_digits 10 b,
    map_digitChar_inj (fun _ hd => Nat.digits_lt_base (by norm_num) hd)
      (fun _ hd => Nat.digits_lt_base (by norm_num) hd) h]

/-- `%d` of a positive number does not start with `'0'`. -/
theorem toString_head {n : Nat} (hn : 0 < n) : (toString n).data.head? ≠ some '0' := by
  have hne := (@Nat.digits_ne_nil_iff_ne_zero 10 n).mpr hn.ne'
  have hlast := Nat.digits_lt_base (by norm_num) (List.getLast_mem hne)
  rw [toString_data hn, ← List.dropLast_append_getLast hne]
  simp only [List.map_append, List.map_cons, List.map_nil, List.reverse_append, List.reverse_cons,
    List.reverse_nil, List.nil_append, List.singleton_append, List.head?_cons, ne_eq,
    Option.some.injEq]
  intro h0
  apply Nat.getLast_digit_ne_zero 10 hn.ne'
  have := digitChar_toNat hlast
  rw [h0] at this
  exact this.symm

theorem pushn_data (c : Char) (k : Nat) : ("".pushn c k).data = List.replicate k c := by
  induction k with
  | zero => rfl
  | succ k ih => rw [List.replicate_succ', ← ih]; rfl

/-- Zero padding in front of texts that do not start with `'0'` is read off
    unambiguously. -/
theorem replicate_zero_append_inj :
    ∀ {k m : Nat} {u v : List Char}, u.head? ≠ some '0' → v.head? ≠ some '0' →
      List.replicate k '0' ++ u = List.replicate m '0' ++ v → u = v
  | 0, 0, _, _, _, _, h => h
  | 0, m + 1, _, _, hu, _, h => absurd (by rw [List.replicate_zero, List.nil_append] at h; simp [h, List.replicate_succ]) hu
  | k + 1, 0, _, _, _, hv, h => absurd (by rw [List.replicate_zero, List.nil_append] at h; simp [← h, List.replicate_succ]) hv
  | k + 1, m + 1, _, _, hu, hv, h =>
    replicate_zero_append_inj hu hv (List.cons.inj h).2

/-- **`hostname-placeholder-%04d` names each positive id apart.** -/
theorem hostnamePlaceholder_inj {a b : Nat} (ha : 0 < a) (hb : 0 < b)
    (h : hostnamePlaceholder a = hostnamePlaceholder b) : a = b := by
  have hdata := congrArg String.data h
  simp only [hostnamePlaceholder, String.data_append, pushn_data, List.append_assoc] at hdata
  exact toString_inj ha hb
    (replicate_zero_append_inj (toString_head ha) (toString_head hb) (List.append_cancel_left hdata))

/-! ### The hostname requirement -/

/-- The requirement `NewNode` adds for its node's hostname:
    `NewRequirement(v1.LabelHostname, v1.NodeSelectorOpIn, hostname)`. -/
def hostnameRequirements (hostname : String) : Requirements :=
  newRequirements [(labelHostname, newRequirement .opIn [hostname])]

/-- A labelling the hostname requirement admits carries that hostname. -/
theorem admits_hostnameRequirements {hostname : String} {labels : String → Option String}
    (h : (hostnameRequirements hostname).admits labels = true) :
    labels labelHostname = some hostname := by
  have hget : (hostnameRequirements hostname).get? labelHostname =
      some (newRequirement .opIn [hostname]) := by
    simp [hostnameRequirements, newRequirements, Requirements.add, addOne, GoMap.get?_insert,
      GoMap.get?_empty]
  have hr := admits_iff.mp h labelHostname _ hget
  rcases hl : labels labelHostname with _ | v
  · simp [hl, newRequirement, Requirement.admits] at hr
  · simp [hl, newRequirement, Requirement.admits, Requirement.has, withinBounds] at hr
    rw [hr]

/-- The node a template's `tryTemplate` created requires the hostname of the
    next id of the counter it started from. -/
theorem tryTemplate_hostname {Pod Topology : Type} {E : Env Pod Topology}
    {s s' : Scheduler Pod Topology} {pod : Pod} {t : MachineTemplate} {c : Created Pod}
    (h : s.tryTemplate E pod t = .ok (s', c)) :
    c.node.requirements.Refines (hostnameRequirements (hostnamePlaceholder (s.nodeID + 1))) := by
  obtain ⟨-, -, ⟨n₀, topology₁, hnew, hadd⟩, -⟩ := tryTemplate_ok h
  have hreq : n₀.requirements = (newRequirements t.requirements.values).add
      (hostnameRequirements (hostnamePlaceholder (s.nodeID + 1))).values :=
    (congrArg (fun x => x.1.requirements) hnew).symm
  exact (Node.add_ok hadd).1.refinesNode.trans (hreq ▸ refines_add_right _ _)

/-! ### Along a scheduler's life -/

variable {Pod Topology : Type} {E : Env Pod Topology}

/-- **The hostname invariant.** The counter has not gone back below `nodeID₀`,
    and each prospective node keeps the hostname requirement of an id of its own,
    drawn from the counter after `nodeID₀`. -/
def Hostnamed (nodeID₀ : Nat) (s : Scheduler Pod Topology) : Prop :=
  nodeID₀ ≤ s.nodeID ∧ ∃ ids : List Nat,
    List.Forall₂ (fun n id => n.requirements.Refines (hostnameRequirements (hostnamePlaceholder id)))
      s.newNodes ids ∧ ids.Nodup ∧ ∀ id ∈ ids, nodeID₀ < id ∧ id ≤ s.nodeID

variable {nodeID₀ : Nat}

/-- Sorting the prospective nodes permutes their ids with them. -/
theorem Hostnamed.sort {s : Scheduler Pod Topology} (h : Hostnamed nodeID₀ s) :
    Hostnamed nodeID₀ { s with newNodes := E.sortByPods s.newNodes } := by
  obtain ⟨hle, ids, hrel, hnd, hbound⟩ := h
  obtain ⟨ids', hrel', hperm⟩ := List.perm_comp_forall₂ (E.sortByPods_perm s.newNodes) hrel
  exact ⟨hle, ids', hrel', hperm.nodup_iff.mpr hnd, fun id hid => hbound id (hperm.subset hid)⟩

/-- Hostname registrations only advance the counter. -/
theorem Hostnamed.registersOnly {s s' : Scheduler Pod Topology} (hreg : RegistersOnly E s s')
    (h : Hostnamed nodeID₀ s) : Hostnamed nodeID₀ s' := by
  obtain ⟨hostnames, rfl⟩ := hreg
  obtain ⟨hle, ids, hrel, hnd, hbound⟩ := h
  exact ⟨by dsimp only; omega, ids, hrel, hnd, fun id hid => by
    have := hbound id hid; dsimp only; omega⟩

/-- A created node takes the counter's next id, above every id before it. -/
theorem Hostnamed.tryTemplate {s s' : Scheduler Pod Topology} {pod : Pod} {t : MachineTemplate}
    {c : Created Pod} (hok : s.tryTemplate E pod t = .ok (s', c)) (h : Hostnamed nodeID₀ s) :
    Hostnamed nodeID₀ s' := by
  obtain ⟨hle, ids, hrel, hnd, hbound⟩ := h
  rw [(tryTemplate_ok hok).2.2.2]
  refine ⟨by dsimp only; omega, ids ++ [s.nodeID + 1],
    List.rel_append hrel (.cons (tryTemplate_hostname hok) .nil), ?_, fun id hid => ?_⟩
  · refine List.nodup_append.mpr ⟨hnd, List.nodup_singleton _, ?_⟩
    exact List.disjoint_singleton.mpr fun hmem => by have := hbound _ hmem; omega
  · rcases List.mem_append.mp hid with hid | hid
    · have := hbound id hid; dsimp only; omega
    · rw [List.mem_singleton.mp hid]; dsimp only; omega

/-- One `add` keeps the hostname invariant. -/
theorem Hostnamed.add {s : Scheduler Pod Topology} (h : Hostnamed nodeID₀ s) (pod : Pod) :
    Hostnamed nodeID₀ (s.add E pod).scheduler := by
  have hsorted := h.sort (E := E)
  rcases add_cases E s pod with ⟨_, _, _, _, _, _, _, _, hr⟩ |
    ⟨_, pre, n, post, n', topology, hsplit, _, hn, hr⟩ | ⟨_, _, hr⟩
  · rw [hr]; exact h
  · rw [hr]
    obtain ⟨hle, ids, hrel, hnd, hbound⟩ := hsorted
    dsimp only at hrel
    rw [hsplit] at hrel
    exact ⟨hle, ids, forall₂_update_middle hrel fun _ hr => (Node.add_ok hn).1.refinesNode.trans hr,
      hnd, hbound⟩
  · rw [hr]
    rcases addToNewNode_spec E pod s.machineTemplates none { s with newNodes := E.sortByPods s.newNodes }
      with ⟨-, -, hreg⟩ | ⟨c, s₁, -, -, -, hreg, hok⟩
    · exact hsorted.registersOnly hreg
    · exact (hsorted.registersOnly hreg).tryTemplate hok

/-- The hostname invariant holds at every point of a life that starts with no
    prospective node. -/
theorem Life.hostnamed {s₀ s : Scheduler Pod Topology} {cs : List (Created Pod)}
    (h : Life E s₀ s cs) (h₀ : s₀.newNodes = []) : Hostnamed s₀.nodeID s := by
  induction h with
  | start => exact ⟨le_rfl, [], by rw [h₀]; exact .nil, List.nodup_nil, by simp⟩
  | add pod _ ih => exact ih.add pod
  | update _ _ ih => exact ih

/-- A fact about every element of the right list joins the pairing. -/
theorem forall₂_and_mem {α β : Type} {R : α → β → Prop} {Q : β → Prop} {l : List α}
    {ids : List β} (h : List.Forall₂ R l ids) (hq : ∀ b ∈ ids, Q b) :
    List.Forall₂ (fun a b => R a b ∧ Q b) l ids := by
  induction h with
  | nil => exact .nil
  | cons hab _ ih =>
    exact .cons ⟨hab, hq _ (List.mem_cons_self _ _)⟩ (ih fun b hb => hq b (List.mem_cons_of_mem _ hb))

/-- Elements paired with pairwise distinct ids are pairwise related by any
    relation that distinct ids give. -/
theorem pairwise_of_forall₂_nodup {α β : Type} {R : α → β → Prop} {P : α → α → Prop}
    {l : List α} {ids : List β} (h : List.Forall₂ R l ids) (hnd : ids.Nodup)
    (hP : ∀ a b i j, R a i → R b j → i ≠ j → P a b) : l.Pairwise P := by
  induction h with
  | nil => exact .nil
  | @cons a i l ids hai htail ih =>
    obtain ⟨hi, hnd⟩ := List.nodup_cons.mp hnd
    refine .cons (fun b hb => ?_) (ih hnd)
    obtain ⟨j, hj, hbj⟩ := exists_of_forall₂ htail hb
    exact hP a b i j hai hbj fun hij => hi (hij ▸ hj)

/-- **Prospective nodes never share a hostname.** At every point of the life of a
    scheduler `NewScheduler` built, each prospective node admits only labellings
    whose hostname is the placeholder of an id of its own, drawn from the counter
    after the one `NewScheduler` was given. So no labelling is admitted by two
    prospective nodes. -/
theorem life_newNodes_hostnames_disjoint {machines : List MachineTemplate}
    {provisioners : List Provisioner} {stateNodes : List StateNode} {topology : Topology}
    {instanceTypes : String → List InstanceType} {daemonOverhead : MachineTemplate → ResourceList}
    {opts : SchedulerOptions} {nodeID : Nat} {s₀ s : Scheduler Pod Topology}
    {cs : List (Created Pod)}
    (h₀ : newScheduler machines provisioners stateNodes topology instanceTypes daemonOverhead opts
      nodeID = some s₀) (hlife : Life E s₀ s cs) :
    (∃ ids : List Nat, List.Forall₂ (fun n id => ∀ labels, n.requirements.admits labels = true →
        labels labelHostname = some (hostnamePlaceholder id)) s.newNodes ids ∧
      ids.Nodup ∧ ∀ id ∈ ids, nodeID < id ∧ id ≤ s.nodeID) ∧
    s.newNodes.Pairwise fun a b => ∀ labels, a.requirements.admits labels = true →
      b.requirements.admits labels = false := by
  have h₀eq := newScheduler_eq h₀
  obtain ⟨-, ids, hrel, hnd, hbound⟩ := hlife.hostnamed (by rw [h₀eq])
  have hid : s₀.nodeID = nodeID := by rw [h₀eq]
  rw [hid] at hbound
  have hadm : List.Forall₂ (fun n id => ∀ labels, n.requirements.admits labels = true →
      labels labelHostname = some (hostnamePlaceholder id)) s.newNodes ids :=
    hrel.imp fun _ _ hr _ hl => admits_hostnameRequirements (Refines.admits hr hl)
  refine ⟨⟨ids, hadm, hnd, hbound⟩, pairwise_of_forall₂_nodup
    (forall₂_and_mem hadm fun id hid => (hbound id hid).1) hnd fun a b i j hai hbj hij labels ha => ?_⟩
  rw [Bool.eq_false_iff]
  intro hb
  exact hij (hostnamePlaceholder_inj (Nat.zero_lt_of_lt hai.2) (Nat.zero_lt_of_lt hbj.2)
    (Option.some.inj ((hai.1 labels ha).symm.trans (hbj.1 labels hb))))

theorem life_newNodes_hostnames_disjoint_sample :
    newScheduler [sampleTemplate] [] [] () (fun _ => [sampleType]) (fun _ => GoMap.empty) ⟨false⟩ 0 =
        some sampleScheduler ∧
      ∃ s cs, Life demoEnv sampleScheduler s cs ∧
        s.newNodes.map (·.pods) = [["pod-a", "pod-b"], ["pod-c"]] ∧
        (∃ ids : List Nat, List.Forall₂ (fun n id => ∀ labels, n.requirements.admits labels = true →
            labels labelHostname = some (hostnamePlaceholder id)) s.newNodes ids ∧
          ids.Nodup ∧ ∀ id ∈ ids, 0 < id ∧ id ≤ s.nodeID) ∧
        s.newNodes.Pairwise fun a b =>
          ∀ labels, a.requirements.admits labels = true → b.requirements.admits labels = false :=
  ⟨sampleScheduler_eq, _, _, .add "pod-c" (.add "pod-b" (.add "pod-a" .start)), by decide,
    life_newNodes_hostnames_disjoint sampleScheduler_eq (.add "pod-c" (.add "pod-b" (.add "pod-a" .start)))⟩

end KarpenterCore
