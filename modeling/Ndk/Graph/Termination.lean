import Ndk.Graph.Basic

/-!
# `find_cycle_from_node` and `find_cycle` terminate

`find_cycle_from_node` threads one mutable `visited` set through the loop over a node's
`outs`, so its recursion has no syntactic measure, and the model bounds its depth by `fuel`.
Over a finite set `R` of nodes closed under `outs` (as the nodes reachable from the roots of a
finite graph are), the number of nodes of `R` not yet visited bounds the
depth: a call that searches a node's `outs` has added the node to `visited`, and the sibling
calls of the loop only add more (`card_sdiff_lt_of_explore`, whence
`findCycleFromNode_ne_outOfFuel_of_closed`). A search that does not run out of fuel gives the
same answer with more (`findCycleFromNode_fuel_mono`), so that fuel gives the answer of the
unbounded search.

* `findCycle_terminates`: **for every graph and every finite set of nodes closed under
  `outs`, from every node of the set, every `visited` set and every path, the search ends
  within one more call than the set has unvisited nodes, and more fuel gives the same answer;
  so does the loop of `find_cycle` over roots in the set, and `find_cycle` never uses up its
  fuel.**
-/

namespace Ndk.Graph

variable {V : Type*} {g : Graph V}

variable [DecidableEq V]

/-- The loop of `find_cycle` over the nodes, each search given `fuel`: the `visited` set it
ends with, or why it stopped. -/
def rootSearch (g : Graph V) (fuel : ℕ) : Except (Halt V) (Finset V) :=
  g.nodes.foldlM (fun visited node =>
    (g.findCycleFromNode fuel node ⟨visited, []⟩).map Search.visited) ∅

/-- `find_cycle` reads its loop at the fuel `Fintype.card V + 1`. -/
theorem findCycle_eq_rootSearch [Fintype V] :
    g.findCycle = match g.rootSearch (Fintype.card V + 1) with
      | .ok _ => none
      | .error (.cycle c) => some c
      | .error .outOfFuel => none := rfl

/-- **More fuel changes nothing**: a search that does not run out of fuel gives the same
answer with more. -/
theorem findCycleFromNode_fuel_mono : ∀ {fuel fuel' : ℕ}, fuel ≤ fuel' →
    ∀ {node : V} {s : Search V}, g.findCycleFromNode fuel node s ≠ .error .outOfFuel →
      g.findCycleFromNode fuel' node s = g.findCycleFromNode fuel node s
  | 0, _, _, _, _, h => absurd rfl h
  | _ + 1, 0, hle, _, _, _ => absurd hle (by omega)
  | fuel + 1, fuel' + 1, hle, node, s, h => by
    simp only [findCycleFromNode_succ] at h ⊢
    split_ifs at h ⊢
    · rfl
    · rfl
    · rw [foldlM_eq_of_ne_error (fun b x hx => (findCycleFromNode_fuel_mono
        (by omega : fuel ≤ fuel') hx : g.findCycleFromNode fuel' x b = _)) fun he => h (by rw [he]; rfl)]

section Roots

variable {R : Finset V} (hR : ∀ u ∈ R, ∀ v ∈ g.outs u, v ∈ R)
include hR

/-- The loop of `find_cycle` over roots in `R`, with more fuel than `R` has nodes, never runs
out of fuel. -/
theorem rootSearch_ne_outOfFuel (hroots : ∀ v ∈ g.nodes, v ∈ R) {fuel : ℕ} (hf : R.card < fuel) :
    g.rootSearch fuel ≠ .error .outOfFuel := fun h => by
  obtain ⟨b, x, hx, -, hxe⟩ :=
    foldlM_error_of_step (fun _ => True) (fun _ _ _ _ _ => trivial) trivial h
  exact findCycleFromNode_ne_outOfFuel_of_closed hR (hroots x hx)
    ((Finset.card_le_card Finset.sdiff_subset).trans_lt hf) (map_eq_error.1 hxe)

end Roots

/-- The loop of `find_cycle` that does not run out of fuel gives the same answer with more. -/
theorem rootSearch_fuel_mono {fuel fuel' : ℕ} (hle : fuel ≤ fuel')
    (h : g.rootSearch fuel ≠ .error .outOfFuel) : g.rootSearch fuel' = g.rootSearch fuel :=
  foldlM_eq_of_ne_error (fun b x hx => by
    rw [findCycleFromNode_fuel_mono hle fun he => hx (by rw [he]; rfl)]) h

/-- **`find_cycle_from_node` and `find_cycle` terminate.** For every graph and every finite set
`R` of nodes closed under `outs` (such as the nodes reachable from the roots): from every node
of `R`, every `visited` set and every path, a search with more fuel than the nodes of `R` not
yet visited never runs out of it, and gives the answer it gives with exactly one more; the
loop of `find_cycle` over roots in `R` with more fuel than `R` has nodes does the same; and on
a finite type of nodes `find_cycle`'s own fuel is never used up. -/
theorem findCycle_terminates (g : Graph V) (R : Finset V) (hR : ∀ u ∈ R, ∀ v ∈ g.outs u, v ∈ R) :
    (∀ node ∈ R, ∀ (s : Search V) (fuel : ℕ), (R \ s.visited).card < fuel →
      g.findCycleFromNode fuel node s ≠ .error .outOfFuel ∧
        g.findCycleFromNode fuel node s = g.findCycleFromNode ((R \ s.visited).card + 1) node s) ∧
    ((∀ v ∈ g.nodes, v ∈ R) → ∀ fuel, R.card < fuel →
      g.rootSearch fuel ≠ .error .outOfFuel ∧ g.rootSearch fuel = g.rootSearch (R.card + 1)) ∧
    ∀ [Fintype V], g.rootSearch (Fintype.card V + 1) ≠ .error .outOfFuel := by
  refine ⟨fun node hn s fuel hf => ?_, fun hroots fuel hf => ?_, fun {_} => ?_⟩
  · exact ⟨findCycleFromNode_ne_outOfFuel_of_closed hR hn hf, findCycleFromNode_fuel_mono hf
      (findCycleFromNode_ne_outOfFuel_of_closed hR hn (Nat.lt_succ_self _))⟩
  · exact ⟨rootSearch_ne_outOfFuel hR hroots hf,
      rootSearch_fuel_mono hf (rootSearch_ne_outOfFuel hR hroots (Nat.lt_succ_self _))⟩
  · exact rootSearch_ne_outOfFuel (R := Finset.univ) (fun _ _ _ _ => Finset.mem_univ _)
      (fun _ _ => Finset.mem_univ _) (Nat.lt_succ_of_le (Finset.card_le_univ _))

/-- The cycle `0 → 1 → 2 → 0` with `0` its only root, `1` and `2` reached only through `outs`,
and `R` all three nodes. -/
theorem findCycle_terminates_cycle3 :
    let g : Graph (Fin 3) := ⟨[0], fun v => [v + 1]⟩
    (∀ node ∈ (Finset.univ : Finset (Fin 3)), ∀ (s : Search (Fin 3)) (fuel : ℕ),
      (Finset.univ \ s.visited).card < fuel →
      g.findCycleFromNode fuel node s ≠ .error .outOfFuel ∧
        g.findCycleFromNode fuel node s =
          g.findCycleFromNode ((Finset.univ \ s.visited).card + 1) node s) ∧
    ((∀ v ∈ g.nodes, v ∈ (Finset.univ : Finset (Fin 3))) → ∀ fuel,
      (Finset.univ : Finset (Fin 3)).card < fuel →
      g.rootSearch fuel ≠ .error .outOfFuel ∧
        g.rootSearch fuel = g.rootSearch ((Finset.univ : Finset (Fin 3)).card + 1)) ∧
    ∀ [Fintype (Fin 3)], g.rootSearch (Fintype.card (Fin 3) + 1) ≠ .error .outOfFuel :=
  findCycle_terminates _ _ (by decide)

end Ndk.Graph
