import Ndk.Graph.Cycle

/-!
# The shared `visited` set hides no cycle

A node of `visited` that is off the live path has been searched to the end: everything it
reaches is visited, off the path, and on no cycle (`Closed`). Pushing a new node keeps this
(`closed_push`), and so does popping a node all of whose `outs` are closed (`closed_pop`).

* `findCycleFromNode_closed`: the induction invariant of the search.
* `findCycle_eq_none_iff`: `find_cycle` returns `None` exactly when no cycle is reachable
  from a node of the graph, whatever the order of the nodes.
-/

namespace Ndk.Graph

variable {V : Type*} {g : Graph V}

/-- Every visited node off the path reaches only visited nodes, none of them on the path,
and none on a cycle. -/
def Closed (g : Graph V) (visited : Finset V) (path : List V) : Prop :=
  ∀ v ∈ visited, v ∉ path → ∀ w, g.Reach v w → w ∈ visited ∧ w ∉ path ∧ ¬ g.Cyclic w

theorem closed_empty (path : List V) : g.Closed ∅ path := by simp [Closed]

variable [DecidableEq V]

/-- Pushing an unvisited node keeps the invariant. -/
theorem closed_push {visited : Finset V} {path : List V} {v : V} (hc : g.Closed visited path)
    (hv : v ∉ visited) : g.Closed (insert v visited) (path ++ [v]) := by
  intro u hu hup w hw
  have hu' : u ∈ visited := by simp at hup; simpa [hup.2] using hu
  obtain ⟨h₁, h₂, h₃⟩ := hc u hu' (by simp at hup; exact hup.1) w hw
  exact ⟨Finset.mem_insert_of_mem h₁, by simp [h₂]; rintro rfl; exact hv h₁, h₃⟩

/-- Popping a visited node all of whose `outs` are closed keeps the invariant. -/
theorem closed_pop {visited : Finset V} {path : List V} {v : V}
    (hc : g.Closed visited (path ++ [v])) (hv : v ∈ visited) (hvp : v ∉ path)
    (houts : ∀ x ∈ g.outs v, x ∈ visited ∧ x ∉ path ++ [v]) : g.Closed visited path := by
  have hx : ∀ x ∈ g.outs v, ∀ w, g.Reach x w → w ∈ visited ∧ w ∉ path ++ [v] ∧ ¬ g.Cyclic w :=
    fun x hx => hc x (houts x hx).1 (houts x hx).2
  intro u hu hup w hw
  by_cases huv : u = v
  · subst huv
    rcases Relation.ReflTransGen.cases_head_iff.1 hw with rfl | ⟨x, hux, hxw⟩
    · refine ⟨hu, hvp, fun hcyc => ?_⟩
      obtain ⟨x, hux, hxu⟩ := Relation.TransGen.head'_iff.1 hcyc
      simpa using (hx x hux u hxu).2.1
    · obtain ⟨h₁, h₂, h₃⟩ := hx x hux w hxw
      exact ⟨h₁, by simp at h₂; exact h₂.1, h₃⟩
  · obtain ⟨h₁, h₂, h₃⟩ := hc u hu (by simp [hup, huv]) w hw
    exact ⟨h₁, by simp at h₂; exact h₂.1, h₃⟩

/-- **The induction invariant of the search.** From a state where `visited` is closed with
respect to the path, a search that returns `None` restores the path, only adds to
`visited`, visits its node (which was off the path) and leaves `visited` closed. -/
theorem findCycleFromNode_closed :
    ∀ {fuel : ℕ} {node : V} {s s' : Search V}, g.Closed s.visited s.path →
      g.findCycleFromNode fuel node s = .ok s' →
      s'.path = s.path ∧ s.visited ⊆ s'.visited ∧ node ∈ s'.visited ∧ node ∉ s.path ∧
        g.Closed s'.visited s.path
  | 0, _, _, _, _, h => by cases h
  | fuel + 1, node, s, s', hc, h => by
    obtain ⟨hp, ⟨hv, rfl⟩ | ⟨hv, b, hb, rfl⟩⟩ := findCycleFromNode_eq_ok h
    · exact ⟨rfl, subset_rfl, hv, hp, hc⟩
    obtain ⟨⟨hbp, hbv, hbc⟩, houts⟩ := foldlM_ok_forall
      (fun b => b.path = s.path ++ [node] ∧ insert node s.visited ⊆ b.visited ∧
        g.Closed b.visited (s.path ++ [node]))
      (fun x b => x ∈ b.visited ∧ x ∉ s.path ++ [node])
      (fun b x b' hb hx => by
        obtain ⟨h₁, h₂, h₃, h₄, h₅⟩ := findCycleFromNode_closed (hb.1 ▸ hb.2.2) hx
        exact ⟨⟨h₁.trans hb.1, hb.2.1.trans h₂, hb.1 ▸ h₁ ▸ h₅⟩, h₃, hb.1 ▸ h₄⟩)
      (fun b x b' y _ hy hx => ⟨(findCycleFromNode_ok hx).2 hy.1, hy.2⟩)
      ⟨rfl, subset_rfl, closed_push hc hv⟩ hb
    have hnode : node ∈ b.visited := hbv (Finset.mem_insert_self _ _)
    refine ⟨by simp [hbp], (Finset.subset_insert _ _).trans hbv, hnode, hp, ?_⟩
    simpa [hbp] using closed_pop hbc hnode hp houts

/-- **What a search that returns `None` leaves behind.** From any `visited` set closed with
respect to the path, the path is restored exactly, `visited` only grows, everything reachable
from the node is now visited and on no cycle, and `visited` stays closed. -/
theorem findCycleFromNode_none {fuel : ℕ} {node : V} {s s' : Search V}
    (hc : g.Closed s.visited s.path) (h : g.findCycleFromNode fuel node s = .ok s') :
    s'.path = s.path ∧ s.visited ⊆ s'.visited ∧
      (∀ w, g.Reach node w → w ∈ s'.visited ∧ ¬ g.Cyclic w) ∧ g.Closed s'.visited s.path := by
  obtain ⟨h₁, h₂, h₃, h₄, h₅⟩ := findCycleFromNode_closed hc h
  exact ⟨h₁, h₂, fun w hw => ⟨(h₅ node h₃ h₄ w hw).1, (h₅ node h₃ h₄ w hw).2.2⟩, h₅⟩

theorem findCycleFromNode_none_chain :
    let g : Graph ℕ := ⟨[0, 1], fun v => if v = 0 then [1] else []⟩
    g.findCycleFromNode 3 0 ⟨∅, []⟩ = .ok ⟨{1, 0}, []⟩ ∧
      ([] : List ℕ) = [] ∧ (∅ : Finset ℕ) ⊆ {1, 0} ∧
      (∀ w, g.Reach 0 w → w ∈ ({1, 0} : Finset ℕ) ∧ ¬ g.Cyclic w) ∧ g.Closed {1, 0} [] :=
  have h : (⟨[0, 1], fun v => if v = 0 then [1] else []⟩ : Graph ℕ).findCycleFromNode 3 0
      ⟨∅, []⟩ = .ok ⟨{1, 0}, []⟩ := rfl
  ⟨h, findCycleFromNode_none (by exact closed_empty []) h⟩

/-- The search of every node of a list, sharing `visited`, keeps `visited` closed with
respect to the empty path and visits every node of the list. -/
theorem foldlM_roots_closed [Fintype V] {roots : List V} {v₀ v : Finset V}
    (h₀ : g.Closed v₀ []) (h : roots.foldlM (fun visited node =>
      (g.findCycleFromNode (Fintype.card V + 1) node ⟨visited, []⟩).map Search.visited) v₀ = .ok v) :
    g.Closed v [] ∧ ∀ r ∈ roots, r ∈ v :=
  foldlM_ok_forall (fun v => g.Closed v []) (fun r v => r ∈ v)
    (fun b x b' hb hx => by
      obtain ⟨s', hs', rfl⟩ := map_eq_ok.1 hx
      obtain ⟨-, -, h₃, -, h₅⟩ := findCycleFromNode_closed (by exact hb) hs'
      exact ⟨h₅, h₃⟩)
    (fun b x b' y _ hy hx => by
      obtain ⟨s', hs', rfl⟩ := map_eq_ok.1 hx
      exact (findCycleFromNode_ok hs').2 hy)
    h₀ h

/-- **`find_cycle` is complete and sound**: it returns `None` exactly when no cycle is
reachable from a node of the graph. -/
theorem findCycle_eq_none_iff [Fintype V] (g : Graph V) :
    g.findCycle = none ↔ ∀ r ∈ g.nodes, ∀ v, g.Reach r v → ¬ g.Cyclic v := by
  constructor
  · intro h r hr v hv
    unfold findCycle at h
    split at h
    · rename_i visited hf
      obtain ⟨hc, hroots⟩ := foldlM_roots_closed (closed_empty []) hf
      exact (hc r (hroots r hr) (List.not_mem_nil r) v hv).2.2
    · cases h
    · rename_i hf
      obtain ⟨b, x, -, -, hx⟩ :=
        foldlM_error_of_step (fun _ => True) (fun _ _ _ _ _ => trivial) trivial hf
      exact absurd (map_eq_error.1 hx)
        (findCycleFromNode_ne_outOfFuel (Nat.lt_succ_of_le (Finset.card_le_univ _)))
  · intro h
    cases hc : g.findCycle with
    | none => rfl
    | some c =>
      obtain ⟨hsc, r, hr, v, hv, hrv⟩ := findCycle_eq_some_reach hc
      exact absurd (hsc.cyclic hv) (h r hr v hrv)

end Ndk.Graph
