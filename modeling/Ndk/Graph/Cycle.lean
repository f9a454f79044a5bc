import Ndk.Graph.Basic

/-!
# A cycle `find_cycle` returns is a simple cycle of the graph

The live path of the search is a duplicate-free walk at every call; a node met again on it
closes the part of the path from its first occurrence into a cycle.

* `findCycleFromNode_cycle`: a search from a walk returns the closed suffix of a longer
  duplicate-free walk.
* `findCycle_isSimpleCycle`: the list `find_cycle` returns is `[v0, ..., vk]` with `k ≥ 1`,
  `v0 = vk`, `v0, ..., v(k-1)` pairwise distinct and an edge from each node to the next.
-/

namespace Ndk.Graph

variable {V : Type*} {g : Graph V}

/-- The shape `find_cycle` promises for the list it returns. -/
structure IsSimpleCycle (g : Graph V) (c : List V) : Prop where
  two_le_length : 2 ≤ c.length
  head_eq_getLast : c.head? = c.getLast?
  nodup_dropLast : c.dropLast.Nodup
  chain : c.Chain' g.Edge

/-- Every node of a walk is reachable from its first node. -/
theorem reach_of_chain' : ∀ {a b : V} {l : List V}, (a :: l).Chain' g.Edge → b ∈ a :: l →
    g.Reach a b
  | _, _, [], _, hb => by rw [List.mem_singleton.1 hb]; exact .refl
  | a, b, c :: l, hc, hb => by
    rw [List.chain'_cons] at hc
    rcases List.mem_cons.1 hb with rfl | hb
    · exact .refl
    · exact .head hc.1 (reach_of_chain' hc.2 hb)

/-- The first node of a simple cycle lies on a cycle. -/
theorem IsSimpleCycle.cyclic {c : List V} (hc : g.IsSimpleCycle c) {v : V} (hv : c.head? = some v) :
    g.Cyclic v := by
  obtain ⟨_ | ⟨x, l⟩, rfl⟩ : ∃ l, c = v :: l := ⟨c.tail, (List.eq_cons_of_mem_head? hv)⟩
  · simpa using hc.two_le_length
  have hch := hc.chain
  rw [List.chain'_cons] at hch
  have hlast : (x :: l).getLast (List.cons_ne_nil x l) = v := by
    have := hc.head_eq_getLast
    simp only [List.head?_cons, List.getLast?_cons_cons] at this
    rw [List.getLast?_eq_getLast _ (List.cons_ne_nil x l)] at this
    exact (Option.some.inj this).symm
  exact .head' hch.1 (hlast ▸ List.relationReflTransGen_of_exists_chain l hch.2 rfl)

variable [DecidableEq V]

theorem head?_drop_indexOf {w : List V} {m : V} (hm : m ∈ w) :
    ((w ++ [m]).drop (w.indexOf m)).head? = some m := by
  have hi := List.indexOf_lt_length.2 hm
  rw [List.drop_append_of_le_length hi.le, List.head?_append_of_ne_nil _ (by simp [hi]),
    List.head?_drop, List.getElem?_eq_getElem hi, List.getElem_indexOf]

/-- A walk `w ++ [m]` whose last node was already on the duplicate-free `w` closes a simple
cycle from the first occurrence of `m`. -/
theorem isSimpleCycle_drop {w : List V} {m : V} (hc : (w ++ [m]).Chain' g.Edge)
    (hw : w.Nodup) (hm : m ∈ w) : g.IsSimpleCycle ((w ++ [m]).drop (w.indexOf m)) := by
  have hi := List.indexOf_lt_length.2 hm
  have hh := head?_drop_indexOf hm
  have hs : (w ++ [m]).drop (w.indexOf m) <:+ w ++ [m] := List.drop_suffix _ _
  rw [List.drop_append_of_le_length hi.le] at hs hh ⊢
  refine ⟨by simp; omega, by simp [hh], ?_, hc.suffix hs⟩
  simpa using hw.sublist (List.drop_sublist _ _)

/-- **A search from a walk returns the closed suffix of a longer walk.** When the path with
`node` pushed is a walk and the path is duplicate-free, a cycle returned is
`(w ++ [m]).drop (w.indexOf m)` for a duplicate-free walk `w ++ [m]` extending it, with `m`
already on `w`. -/
theorem findCycleFromNode_cycle :
    ∀ {fuel : ℕ} {node : V} {s : Search V} {c : List V},
      (s.path ++ [node]).Chain' g.Edge → s.path.Nodup →
      g.findCycleFromNode fuel node s = .error (.cycle c) →
      ∃ w m, s.path ++ [node] <+: w ++ [m] ∧ (w ++ [m]).Chain' g.Edge ∧ w.Nodup ∧ m ∈ w ∧
        c = (w ++ [m]).drop (w.indexOf m)
  | 0, _, _, _, _, _, h => by cases h
  | fuel + 1, node, s, c, hc, hnd, h => by
    obtain ⟨hp, he⟩ | ⟨hp, -, h⟩ := findCycleFromNode_eq_error h
    · cases he; exact ⟨s.path, node, List.prefix_refl _, hc, hnd, hp, rfl⟩
    obtain ⟨b, x, hx, hb, hbx⟩ := foldlM_error_of_step (fun b => b.path = s.path ++ [node])
      (fun b x b' hb hx => (findCycleFromNode_ok hx).1.trans hb) rfl h
    have hcx : (b.path ++ [x]).Chain' g.Edge := by
      rw [hb, List.chain'_append]
      exact ⟨hc, List.chain'_singleton x, by simpa using hx⟩
    have hndx : b.path.Nodup := by
      rw [hb, List.nodup_append]; exact ⟨hnd, List.nodup_singleton _, by simpa using hp⟩
    obtain ⟨w, m, hpre, hw⟩ := findCycleFromNode_cycle hcx hndx hbx
    have hpx : s.path ++ [node] <+: b.path ++ [x] := by rw [hb]; exact List.prefix_append _ _
    exact ⟨w, m, hpx.trans hpre, hw⟩

/-- The cycle `find_cycle` returns comes from the search of one of the graph's nodes, started
on an empty path. -/
theorem findCycle_eq_some [Fintype V] {c : List V} (h : g.findCycle = some c) :
    ∃ r ∈ g.nodes, ∃ visited,
      g.findCycleFromNode (Fintype.card V + 1) r ⟨visited, []⟩ = .error (.cycle c) := by
  unfold findCycle at h
  split at h
  · cases h
  · rename_i c' hf
    cases h
    obtain ⟨visited, r, hr, -, he⟩ :=
      foldlM_error_of_step (fun _ => True) (fun _ _ _ _ _ => trivial) trivial hf
    exact ⟨r, hr, visited, map_eq_error.1 he⟩
  · cases h

/-- A cycle `find_cycle` returns is closed by a node reachable from a node of the graph. -/
theorem findCycle_eq_some_reach [Fintype V] {c : List V} (h : g.findCycle = some c) :
    g.IsSimpleCycle c ∧ ∃ r ∈ g.nodes, ∃ v, c.head? = some v ∧ g.Reach r v := by
  obtain ⟨r, hr, visited, he⟩ := findCycle_eq_some h
  obtain ⟨w, m, hpre, hc, hw, hm, rfl⟩ :=
    findCycleFromNode_cycle (by exact List.chain'_singleton r) (by exact List.nodup_nil) he
  obtain ⟨t, ht⟩ := hpre
  have hsc := isSimpleCycle_drop hc hw hm
  refine ⟨hsc, r, hr, m, ?_, ?_⟩
  · exact head?_drop_indexOf hm
  · have hmt : m ∈ r :: t := by
      have : m ∈ w ++ [m] := by simp
      rw [← ht] at this; simpa using this
    rw [← ht] at hc
    exact reach_of_chain' (by simpa using hc) hmt

/-- **The list `find_cycle` returns is a simple cycle of the graph.** -/
theorem findCycle_isSimpleCycle [Fintype V] {c : List V} (h : g.findCycle = some c) :
    g.IsSimpleCycle c :=
  (findCycle_eq_some_reach h).1

theorem findCycle_isSimpleCycle_fin3 :
    let g : Graph (Fin 3) := ⟨[0, 1, 2], fun v => if v = 0 then [1] else if v = 1 then [2] else [1]⟩
    g.findCycle = some [1, 2, 1] ∧ g.IsSimpleCycle [1, 2, 1] :=
  have h : (⟨[0, 1, 2], fun v => if v = 0 then [1] else if v = 1 then [2] else [1]⟩ :
      Graph (Fin 3)).findCycle = some [1, 2, 1] := by decide
  ⟨h, findCycle_isSimpleCycle h⟩

end Ndk.Graph
