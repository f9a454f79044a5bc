import Ndk.Python
import Mathlib.Data.Fintype.Card
import Mathlib.Data.List.Sort
import Mathlib.Logic.Relation

/-!
# `ndk.graph`: the cycle search

`Graph.find_cycle` is a depth-first search over `Node.outs`. Node names are pairwise
distinct, so a node is its name: `V` is the type of names, ordered as `Node.__cmp__`
orders them. The search threads one `visited` set through every root and keeps the live
`path` as a list; a node met again on the path closes a cycle.

* `findCycleFromNode`: `find_cycle_from_node`, its recursion depth bounded by `fuel`.
* `findCycle`: `find_cycle`, whose fuel `Fintype.card V + 1` is never exhausted.
* `findCycleFromNode_ok`: a search that returns `None` pops exactly what it pushed and
  only adds to `visited`.
-/

namespace Ndk

variable {V : Type*}

/-- Python's `sorted` on nodes: a stable merge sort under `Node.__cmp__`. -/
def sorted [LinearOrder V] (l : List V) : List V := l.mergeSort fun a b => decide (a ≤ b)

/-- A `Graph`: its `nodes` list and, for every node, its `outs` list. -/
structure Graph (V : Type*) where
  nodes : List V
  outs : V → List V

namespace Graph

/-- `Graph(nodes)` over nodes built as `Node(v, outs v)`: both constructors sort by name. -/
def init [LinearOrder V] (nodes : List V) (outs : V → List V) : Graph V :=
  ⟨sorted nodes, fun v => sorted (outs v)⟩

/-- An edge `u → v`: `v` is in `u.outs`. -/
def Edge (g : Graph V) (u v : V) : Prop := v ∈ g.outs u

/-- `v` is reachable from `u` by following `outs`. -/
def Reach (g : Graph V) : V → V → Prop := Relation.ReflTransGen g.Edge

/-- A directed cycle passes through `v` (a self-loop included). -/
def Cyclic (g : Graph V) (v : V) : Prop := Relation.TransGen g.Edge v v

end Graph

/-- The state `find_cycle_from_node` mutates: the shared `visited` set and the live `path`. -/
structure Search (V : Type*) where
  visited : Finset V
  path : List V

/-- Why a search stops early: it returns a cycle, or (in the model only) runs out of fuel. -/
inductive Halt (V : Type*)
  | cycle (c : List V)
  | outOfFuel

namespace Graph

variable [DecidableEq V]

/-- `Graph.find_cycle_from_node(node, visited, path)`. The node is pushed on the path and
looked up in `path[:-1]`, then in `visited`; a new node is added to `visited` and its `outs`
are searched in order, the first cycle found ending the search. `fuel` bounds the depth of
the recursion, which the source leaves unbounded. -/
def findCycleFromNode (g : Graph V) : ℕ → V → Search V → Except (Halt V) (Search V)
  | 0, _, _ => .error .outOfFuel
  | fuel + 1, node, s =>
    let path := s.path ++ [node]
    if node ∈ path.dropLast then .error (.cycle (path.drop (path.indexOf node)))
    else if node ∈ s.visited then .ok ⟨s.visited, path.dropLast⟩
    else
      ((g.outs node).foldlM (fun s inNode => g.findCycleFromNode fuel inNode s)
          ⟨insert node s.visited, path⟩).map fun s => ⟨s.visited, s.path.dropLast⟩

/-- `Graph.find_cycle`: search from every node in order, sharing `visited`, each search
starting from an empty path. -/
def findCycle [Fintype V] (g : Graph V) : Option (List V) :=
  match g.nodes.foldlM (fun visited node =>
      (g.findCycleFromNode (Fintype.card V + 1) node ⟨visited, []⟩).map Search.visited) ∅ with
  | .ok _ => none
  | .error (.cycle c) => some c
  | .error .outOfFuel => none

end Graph

namespace Graph

variable [DecidableEq V] {g : Graph V} {fuel : ℕ} {node : V} {s s' : Search V} {e : Halt V}

/-- The search from `node`'s `outs`, once `node` is pushed and marked visited. -/
theorem findCycleFromNode_succ :
    g.findCycleFromNode (fuel + 1) node s =
      if node ∈ s.path then .error (.cycle ((s.path ++ [node]).drop (s.path.indexOf node)))
      else if node ∈ s.visited then .ok s
      else ((g.outs node).foldlM (fun s inNode => g.findCycleFromNode fuel inNode s)
          ⟨insert node s.visited, s.path ++ [node]⟩).map fun s => ⟨s.visited, s.path.dropLast⟩ := by
  by_cases h : node ∈ s.path <;> simp [findCycleFromNode, h, List.indexOf_append_of_mem]

/-- **How a search returns `None`**: the node is off the path, and it was visited already
or the search of its `outs` returned `None`. -/
theorem findCycleFromNode_eq_ok (h : g.findCycleFromNode (fuel + 1) node s = .ok s') :
    node ∉ s.path ∧ (node ∈ s.visited ∧ s' = s ∨ node ∉ s.visited ∧
      ∃ b, (g.outs node).foldlM (fun s inNode => g.findCycleFromNode fuel inNode s)
          ⟨insert node s.visited, s.path ++ [node]⟩ = .ok b ∧ s' = ⟨b.visited, b.path.dropLast⟩) := by
  rw [findCycleFromNode_succ] at h
  split_ifs at h with hp hv
  · cases h; exact ⟨hp, .inl ⟨hv, rfl⟩⟩
  · obtain ⟨b, hb, rfl⟩ := map_eq_ok.1 h; exact ⟨hp, .inr ⟨hv, b, hb, rfl⟩⟩

/-- **How a search stops early**: the node is on the path and closes a cycle, or the search
of its `outs` stopped. -/
theorem findCycleFromNode_eq_error (h : g.findCycleFromNode (fuel + 1) node s = .error e) :
    node ∈ s.path ∧ e = .cycle ((s.path ++ [node]).drop (s.path.indexOf node)) ∨
      node ∉ s.path ∧ node ∉ s.visited ∧
        (g.outs node).foldlM (fun s inNode => g.findCycleFromNode fuel inNode s)
          ⟨insert node s.visited, s.path ++ [node]⟩ = .error e := by
  rw [findCycleFromNode_succ] at h
  split_ifs at h with hp hv
  · cases h; exact .inl ⟨hp, rfl⟩
  · exact .inr ⟨hp, hv, map_eq_error.1 h⟩

/-- **A search that returns `None` pops what it pushed** and only adds to `visited`. -/
theorem findCycleFromNode_ok :
    ∀ {fuel : ℕ} {node : V} {s s' : Search V}, g.findCycleFromNode fuel node s = .ok s' →
      s'.path = s.path ∧ s.visited ⊆ s'.visited
  | 0, _, _, _, h => by cases h
  | fuel + 1, node, s, s', h => by
    obtain ⟨-, ⟨-, rfl⟩ | ⟨-, b, hb, rfl⟩⟩ := findCycleFromNode_eq_ok h
    · exact ⟨rfl, subset_rfl⟩
    have hb := (foldlM_ok_forall
      (fun b => b.path = s.path ++ [node] ∧ insert node s.visited ⊆ b.visited) (fun _ _ => True)
      (fun b x b' hb hx => ⟨⟨(findCycleFromNode_ok hx).1.trans hb.1,
        hb.2.trans (findCycleFromNode_ok hx).2⟩, trivial⟩)
      (fun _ _ _ _ _ _ _ => trivial) ⟨rfl, subset_rfl⟩ hb).1
    exact ⟨by simp [hb.1], (Finset.subset_insert _ _).trans hb.2⟩

/-- **The measure decreases.** Once a node of `R` that was not visited is added to
`visited`, and whatever the sibling calls add after it, fewer nodes of `R` are unvisited. -/
theorem card_sdiff_lt_of_explore {R v v' : Finset V} {node : V} (hn : node ∈ R) (hv : node ∉ v)
    (hsub : insert node v ⊆ v') : (R \ v').card < (R \ v).card :=
  calc (R \ v').card ≤ (R \ insert node v).card :=
        Finset.card_le_card (Finset.sdiff_subset_sdiff subset_rfl hsub)
    _ < (R \ v).card := by
        rw [Finset.sdiff_insert]
        exact Finset.card_erase_lt_of_mem (Finset.mem_sdiff.2 ⟨hn, hv⟩)

/-- **Enough fuel**: over a finite set `R` of nodes closed under `outs`, a search from a node
of `R` with more fuel than the nodes of `R` not yet visited never runs out: a search of a
node's `outs` has added the node to `visited`, and each sibling call only adds more. -/
theorem findCycleFromNode_ne_outOfFuel_of_closed {R : Finset V}
    (hR : ∀ u ∈ R, ∀ v ∈ g.outs u, v ∈ R) :
    ∀ {fuel : ℕ} {node : V} {s : Search V}, node ∈ R → (R \ s.visited).card < fuel →
      g.findCycleFromNode fuel node s ≠ .error .outOfFuel
  | 0, _, _, _, hf, _ => by omega
  | fuel + 1, node, s, hn, hf, h => by
    obtain ⟨-, h⟩ | ⟨-, hv, h⟩ := findCycleFromNode_eq_error h
    · cases h
    obtain ⟨b, x, hx, hb, hxe⟩ := foldlM_error_of_step (fun b => insert node s.visited ⊆ b.visited)
      (fun b x b' hb hx => hb.trans (findCycleFromNode_ok hx).2) subset_rfl h
    have := card_sdiff_lt_of_explore hn hv hb
    exact findCycleFromNode_ne_outOfFuel_of_closed hR (hR node hn x hx) (by omega) hxe

/-- **Enough fuel**: a search with more fuel than there are unvisited nodes never runs out. -/
theorem findCycleFromNode_ne_outOfFuel [Fintype V] :
    ∀ {fuel : ℕ} {node : V} {s : Search V}, (Finset.univ \ s.visited).card < fuel →
      g.findCycleFromNode fuel node s ≠ .error .outOfFuel :=
  findCycleFromNode_ne_outOfFuel_of_closed (fun _ _ _ _ => Finset.mem_univ _) (Finset.mem_univ _)

end Graph

end Ndk
