import Mathlib
import Testbench.Proofs.Coverage.RoundTrip

/-!
Merging many coverage maps is their join: on reachable maps the result is the least map that
absorbs each of them, so it depends only on which maps are merged.
-/

namespace Testbench

namespace CoverageMap

variable {map other third : CoverageMap}

theorem Reachable.merge_comm (reachable : map.Reachable) (otherReachable : other.Reachable) :
    map.merge other = other.merge map :=
  CoverageMap.merge_comm reachable.wellFormed reachable.sorted otherReachable.wellFormed otherReachable.sorted

theorem Reachable.merge_assoc (reachable : map.Reachable) (otherReachable : other.Reachable)
    (thirdReachable : third.Reachable) : (map.merge other).merge third = map.merge (other.merge third) :=
  CoverageMap.merge_assoc reachable.wellFormed reachable.sorted otherReachable.wellFormed otherReachable.sorted
    thirdReachable.wellFormed thirdReachable.sorted

/-- A map absorbs another when merging the other into it changes nothing: it already knows every
function of the other, at least as large, with its instructions and covered offsets. -/
def Absorbs (map other : CoverageMap) : Prop := map.merge other = map

theorem absorbs_empty (map : CoverageMap) : map.Absorbs {} := rfl

theorem Reachable.absorbs_self (reachable : map.Reachable) : map.Absorbs map :=
  merge_self reachable.sorted

theorem Reachable.merge_absorbs (reachable : map.Reachable) (otherReachable : other.Reachable) :
    (map.merge other).Absorbs other := by
  unfold Absorbs
  rw [reachable.merge_assoc otherReachable otherReachable, merge_self otherReachable.sorted]

theorem Absorbs.merge_left (absorbs : map.Absorbs third) (reachable : map.Reachable)
    (otherReachable : other.Reachable) (thirdReachable : third.Reachable) :
    (map.merge other).Absorbs third := by
  unfold Absorbs at absorbs ⊢
  calc (map.merge other).merge third = map.merge (other.merge third) :=
        reachable.merge_assoc otherReachable thirdReachable
    _ = map.merge (third.merge other) := by rw [otherReachable.merge_comm thirdReachable]
    _ = (map.merge third).merge other := (reachable.merge_assoc thirdReachable otherReachable).symm
    _ = map.merge other := by rw [absorbs]

theorem Absorbs.merge (first : map.Absorbs other) (second : map.Absorbs third) (reachable : map.Reachable)
    (otherReachable : other.Reachable) (thirdReachable : third.Reachable) :
    map.Absorbs (other.merge third) := by
  unfold Absorbs at first second ⊢
  rw [← reachable.merge_assoc otherReachable thirdReachable, first, second]

theorem Absorbs.antisymm (absorbs : map.Absorbs other) (absorbed : other.Absorbs map)
    (reachable : map.Reachable) (otherReachable : other.Reachable) : map = other := by
  unfold Absorbs at absorbs absorbed
  rw [← absorbs, reachable.merge_comm otherReachable, absorbed]

variable {maps : List CoverageMap}

theorem Reachable.foldl_merge (reachable : map.Reachable) (all : ∀ each ∈ maps, each.Reachable) :
    (maps.foldl CoverageMap.merge map).Reachable := by
  induction maps generalizing map with
  | nil => exact reachable
  | cons first rest ih =>
    exact ih (reachable.merge (all first List.mem_cons_self))
      (fun each member => all each (List.mem_cons_of_mem _ member))

theorem Absorbs.foldl_merge_left (absorbs : map.Absorbs third) (reachable : map.Reachable)
    (thirdReachable : third.Reachable) (all : ∀ each ∈ maps, each.Reachable) :
    (maps.foldl CoverageMap.merge map).Absorbs third := by
  induction maps generalizing map with
  | nil => exact absorbs
  | cons first rest ih =>
    have firstReachable := all first List.mem_cons_self
    exact ih (absorbs.merge_left reachable firstReachable thirdReachable) (reachable.merge firstReachable)
      (fun each member => all each (List.mem_cons_of_mem _ member))

theorem Reachable.foldl_merge_absorbs (reachable : map.Reachable) (all : ∀ each ∈ maps, each.Reachable) :
    ∀ each ∈ maps, (maps.foldl CoverageMap.merge map).Absorbs each := by
  induction maps generalizing map with
  | nil => intro each member; cases member
  | cons first rest ih =>
    have firstReachable := all first List.mem_cons_self
    have restReachable : ∀ each ∈ rest, each.Reachable := fun each member => all each (List.mem_cons_of_mem _ member)
    intro each member
    rw [List.foldl_cons]
    rcases List.mem_cons.mp member with rfl | later
    · exact (reachable.merge_absorbs firstReachable).foldl_merge_left (reachable.merge firstReachable)
        firstReachable restReachable
    · exact ih (reachable.merge firstReachable) restReachable each later

theorem Absorbs.foldl_merge {bound : CoverageMap} (absorbs : bound.Absorbs map) (all : ∀ each ∈ maps, bound.Absorbs each)
    (boundReachable : bound.Reachable) (reachable : map.Reachable) (allReachable : ∀ each ∈ maps, each.Reachable) :
    bound.Absorbs (maps.foldl CoverageMap.merge map) := by
  induction maps generalizing map with
  | nil => exact absorbs
  | cons first rest ih =>
    have firstReachable := allReachable first List.mem_cons_self
    exact ih (absorbs.merge (all first List.mem_cons_self) boundReachable reachable firstReachable)
      (fun each member => all each (List.mem_cons_of_mem _ member)) (reachable.merge firstReachable)
      (fun each member => allReachable each (List.mem_cons_of_mem _ member))

/-- Merging maps in turn, starting from the empty map, depends only on which maps are merged: not
on their order, nor on how often each is merged. -/
theorem foldl_merge_eq_of_mem_iff {others : List CoverageMap} (same : ∀ each, each ∈ maps ↔ each ∈ others)
    (all : ∀ each ∈ maps, each.Reachable) :
    maps.foldl CoverageMap.merge {} = others.foldl CoverageMap.merge {} := by
  have othersReachable : ∀ each ∈ others, each.Reachable := fun each member => all each ((same each).mpr member)
  have joined := Reachable.empty.foldl_merge all
  have othersJoined := Reachable.empty.foldl_merge othersReachable
  refine Absorbs.antisymm ?_ ?_ joined othersJoined
  · exact (absorbs_empty _).foldl_merge
      (fun each member => Reachable.empty.foldl_merge_absorbs all each ((same each).mpr member))
      joined Reachable.empty othersReachable
  · exact (absorbs_empty _).foldl_merge
      (fun each member => Reachable.empty.foldl_merge_absorbs othersReachable each ((same each).mp member))
      othersJoined Reachable.empty all

end CoverageMap

end Testbench
