import Ndk.Graph.Basic

/-!
# The cycle found does not depend on the order of the input

`Node` sorts its `outs` and `Graph` sorts its `nodes` by name. Names are pairwise distinct,
so a sorted list is determined by its elements, and the whole search runs the same on any
permutation of the input.

* `sorted_eq_of_perm`: `sorted` forgets the order of its input.
* `findCycle_init_perm`: `Graph(nodes).find_cycle()` is the same for every permutation of
  `nodes` and of each node's `outs`.
-/

namespace Ndk

variable {V : Type*} [LinearOrder V]

theorem sorted_perm (l : List V) : (sorted l).Perm l := List.mergeSort_perm _ _

theorem sorted_sorted (l : List V) : (sorted l).Sorted (· ≤ ·) := by
  simpa [sorted] using @List.sorted_mergeSort V (fun a b => decide (a ≤ b))
    (fun a b c hab hbc => by simp only [decide_eq_true_eq] at *; exact hab.trans hbc)
    (fun a b => by simpa using le_total a b) l

/-- Sorting by name forgets the order of a list. -/
theorem sorted_eq_of_perm {l l' : List V} (h : l.Perm l') : sorted l = sorted l' :=
  List.eq_of_perm_of_sorted ((sorted_perm l).trans (h.trans (sorted_perm l').symm))
    (sorted_sorted l) (sorted_sorted l')

theorem Graph.init_eq_of_perm {nodes nodes' : List V} {outs outs' : V → List V}
    (hn : nodes.Perm nodes') (ho : ∀ v, (outs v).Perm (outs' v)) :
    Graph.init nodes outs = Graph.init nodes' outs' := by
  simp only [Graph.init, sorted_eq_of_perm hn, sorted_eq_of_perm (ho _)]

/-- **The cycle reported does not depend on input order.** -/
theorem findCycle_init_perm [DecidableEq V] [Fintype V] {nodes nodes' : List V} {outs outs' : V → List V}
    (hn : nodes.Perm nodes') (ho : ∀ v, (outs v).Perm (outs' v)) :
    (Graph.init nodes outs).findCycle = (Graph.init nodes' outs').findCycle := by
  rw [Graph.init_eq_of_perm hn ho]

theorem findCycle_init_perm_fin3 :
    [2, 0, 1].Perm ([0, 1, 2] : List (Fin 3)) ∧
      (∀ v : Fin 3, (if v = 0 then ([2, 1] : List (Fin 3)) else [0]).Perm
        (if v = 0 then [1, 2] else [0])) ∧
      (Graph.init [2, 0, 1] fun v : Fin 3 => if v = 0 then [2, 1] else [0]).findCycle =
        (Graph.init [0, 1, 2] fun v : Fin 3 => if v = 0 then [1, 2] else [0]).findCycle :=
  have ho : ∀ v : Fin 3, (if v = 0 then ([2, 1] : List (Fin 3)) else [0]).Perm
      (if v = 0 then [1, 2] else [0]) :=
    fun v => by split_ifs; exacts [List.Perm.swap 1 2 [], List.Perm.refl _]
  have hn : [2, 0, 1].Perm ([0, 1, 2] : List (Fin 3)) :=
    (List.Perm.swap 0 2 [1]).trans (.cons 0 (.swap 1 2 []))
  ⟨hn, ho, findCycle_init_perm hn ho⟩

end Ndk
