import KarpenterCore.Life

/-!
# Prospective nodes only grow

`Scheduler.add` changes a prospective node only through an accepted
`Node.Add`, which appends the pod, narrows the requirements, filters the
instance-type options and reserves the pod's host ports, and keeps the
template's provisioner and taints. Sorting by pod count only reorders the nodes,
and a template only appends the node it creates.

So along any run of `add` calls and topology updates, from any scheduler to a
later one, the prospective nodes of the later scheduler are, one to one and up to
order, the nodes of the earlier one and the nodes the run created, each grown
(`life_newNodes_grow`). No node is dropped or merged into another, and no pod
leaves the node it was placed on.
-/

namespace KarpenterCore

variable {Pod Topology : Type} {E : Env Pod Topology}

theorem forall₂_grows_refl (ns : List (Node Pod)) : List.Forall₂ Node.Grows ns ns :=
  List.forall₂_same.mpr fun n _ => Node.Grows.refl n

theorem forall₂_grows_trans {ns₁ ns₂ ns₃ : List (Node Pod)} (h₁ : List.Forall₂ Node.Grows ns₁ ns₂)
    (h₂ : List.Forall₂ Node.Grows ns₂ ns₃) : List.Forall₂ Node.Grows ns₁ ns₃ := by
  induction h₁ generalizing ns₃ with
  | nil => exact h₂
  | cons hab _ ih =>
    cases h₂ with
    | cons hbc hrest => exact .cons (hab.trans hbc) (ih hrest)

/-- **One `add`.** Its prospective nodes are, up to order, those it started
    from, each grown, followed by the node it created, if any. -/
theorem add_newNodes_grow (s : Scheduler Pod Topology) (pod : Pod) :
    ∃ l, List.Forall₂ Node.Grows s.newNodes l ∧
      (s.add E pod).scheduler.newNodes.Perm (l ++ ((s.add E pod).created.map (·.node)).toList) := by
  have hsort := E.sortByPods_perm s.newNodes
  rcases add_cases E s pod with ⟨_, _, _, _, _, _, _, _, hr⟩ |
    ⟨_, pre, n, post, n', topology, hsplit, _, hn, hr⟩ | ⟨_, _, hr⟩
  · rw [hr]
    exact ⟨s.newNodes, forall₂_grows_refl _, by simp⟩
  · rw [hr]
    have hgrow : List.Forall₂ Node.Grows (E.sortByPods s.newNodes) (pre ++ n' :: post) := by
      rw [hsplit]
      exact List.rel_append (forall₂_grows_refl pre) (.cons (Node.add_ok hn).1.grows (forall₂_grows_refl post))
    obtain ⟨l, hl, hperm⟩ := List.perm_comp_forall₂ hsort.symm hgrow
    exact ⟨l, hl, by simpa using hperm.symm⟩
  · rw [hr]
    rcases addToNewNode_spec E pod s.machineTemplates none { s with newNodes := E.sortByPods s.newNodes }
      with ⟨hc, -, hreg⟩ | ⟨c, s₁, hc, -, -, hreg, hok⟩
    · rw [hc, hreg.eq]
      exact ⟨s.newNodes, forall₂_grows_refl _, by simpa using hsort⟩
    · rw [hc, (tryTemplate_ok hok).2.2.2, hreg.eq]
      exact ⟨s.newNodes, forall₂_grows_refl _, by simpa using hsort.append_right [c.node]⟩

/-- **Prospective nodes only grow, along any run.** From any scheduler `s`,
    after any sequence of `add` calls and topology updates that created the
    nodes recorded in `cs`, the prospective nodes are, up to order, the nodes of
    `s` followed by the nodes created, matched one to one, each grown. -/
theorem life_newNodes_grow {s s' : Scheduler Pod Topology} {cs : List (Created Pod)}
    (h : Life E s s' cs) :
    ∃ old new, List.Forall₂ Node.Grows s.newNodes old ∧
      List.Forall₂ Node.Grows (cs.map (·.node)) new ∧ s'.newNodes.Perm (old ++ new) := by
  induction h with
  | start => exact ⟨s.newNodes, [], forall₂_grows_refl _, .nil, by simp⟩
  | @add s₁ cs₁ pod _ ih =>
    obtain ⟨old, new, hold, hnew, hperm⟩ := ih
    obtain ⟨l, hl, hperm'⟩ := add_newNodes_grow (E := E) s₁ pod
    obtain ⟨w, hw, hwl⟩ := List.perm_comp_forall₂ hperm.symm hl
    have hsplit := List.take_append_drop old.length w
    have hw₁ := List.forall₂_take_append w old new hw.flip
    have hw₂ := List.forall₂_drop_append w old new hw.flip
    refine ⟨w.take old.length, w.drop old.length ++ ((s₁.add E pod).created.map (·.node)).toList,
      forall₂_grows_trans hold hw₁.flip, ?_, ?_⟩
    · rw [List.map_append]
      exact List.rel_append (forall₂_grows_trans hnew hw₂.flip) (by
        cases (s₁.add E pod).created <;> simp [Node.Grows.refl])
    · rw [← List.append_assoc, hsplit]
      exact hperm'.trans (hwl.symm.append_right _)
  | update _ _ ih => exact ih

theorem life_newNodes_grow_sample :
    Life plainEnv (sampleScheduler.add plainEnv "pod-a").scheduler
        ((sampleScheduler.add plainEnv "pod-a").scheduler.add plainEnv "pod-b").scheduler
        ([] ++ ((sampleScheduler.add plainEnv "pod-a").scheduler.add plainEnv "pod-b").created.toList) ∧
      List.map Node.pods ((sampleScheduler.add plainEnv "pod-a").scheduler.add plainEnv
        "pod-b").scheduler.newNodes = [["pod-a", "pod-b"]] ∧
      ∃ old new, List.Forall₂ Node.Grows (sampleScheduler.add plainEnv "pod-a").scheduler.newNodes old ∧
        List.Forall₂ Node.Grows (List.map Created.node ([] ++ ((sampleScheduler.add plainEnv
          "pod-a").scheduler.add plainEnv "pod-b").created.toList)) new ∧
        ((sampleScheduler.add plainEnv "pod-a").scheduler.add plainEnv "pod-b").scheduler.newNodes.Perm
          (old ++ new) :=
  ⟨.add "pod-b" .start, rfl, life_newNodes_grow (.add "pod-b" .start)⟩

end KarpenterCore
