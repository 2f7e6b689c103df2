import Mathlib.Data.List.Nodup
import Mathlib.Data.List.Perm.Subperm
import NetworkTopology.Proofs.Graph.Enumeration

/-!
# Edges that are added

An edge that is added to a multigraph under a new key, be it given or chosen, is one
more edge between its ends, and the edges that were there stay.
-/

namespace NetworkTopology.Graph

variable {β : Type}

/-! ## Keys -/

/-- The key that is chosen is none of those in use: of so many candidates, one is
left. -/
theorem not_same_newKey {keys : List NodeId} {key : NodeId} (hkey : key ∈ keys) :
    ¬ key.Same (newKey keys) := by
  let candidates : List NodeId := (List.range (keys.length + 1)).map fun (i : Nat) =>
    NodeId.int ((keys.length + i : Nat) : Int)
  let isNew (candidate : NodeId) : Bool := !keys.any fun key => decide (key.Same candidate)
  have hnodup : candidates.Nodup := by
    refine List.Nodup.map ?_ List.nodup_range
    intro i j hij
    have hsum := Int.ofNat_inj.mp (NodeId.int.inj hij)
    omega
  cases hfind : candidates.find? isNew with
  | some candidate =>
      have hchosen : newKey keys = candidate := by
        change (candidates.find? isNew).getD _ = candidate
        rw [hfind]
        rfl
      have hnew : isNew candidate = true := List.find?_some hfind
      intro hsame
      rw [hchosen] at hsame
      rw [Bool.not_eq_true', List.any_eq_false] at hnew
      exact hnew key hkey (decide_eq_true hsame)
  | none =>
      have hused : candidates ⊆ keys.map NodeId.identity := by
        intro candidate hcandidate
        have hold := List.find?_eq_none.mp hfind candidate hcandidate
        have hany : keys.any (fun key => decide (key.Same candidate)) = true := by
          by_contra hnone
          exact hold (Bool.not_eq_true' _ |>.mpr (Bool.eq_false_iff.mpr hnone))
        obtain ⟨old, hmem, hsame⟩ := List.any_eq_true.mp hany
        obtain ⟨i, -, rfl⟩ := List.mem_map.mp hcandidate
        have hidentity : old.identity = NodeId.int ((keys.length + i : Nat) : Int) :=
          of_decide_eq_true hsame
        exact List.mem_map.mpr ⟨old, hmem, hidentity⟩
      have hlength := (List.subperm_of_subset hnodup hused).length_le
      rw [List.length_map, List.length_map, List.length_range] at hlength
      omega

theorem addParallel_of_new {parallel : List (NodeId × Fields)} {key : NodeId}
    {data : Fields} (hnew : ∀ edge ∈ parallel, ¬ edge.1.Same key) :
    addParallel parallel key data = parallel ++ [(key, data)] := by
  have hnone : ¬ (parallel.any fun edge => decide (edge.1.Same key)) = true := by
    intro hany
    obtain ⟨edge, hedge, hsame⟩ := List.any_eq_true.mp hany
    exact hnew edge hedge (of_decide_eq_true hsame)
  rw [addParallel, if_neg hnone]

theorem mem_map_fst_addParallel {parallel : List (NodeId × Fields)} {key name : NodeId}
    {data : Fields} (h : name ∈ (addParallel parallel key data).map Prod.fst) :
    name = key ∨ name ∈ parallel.map Prod.fst := by
  obtain ⟨edge, hedge, rfl⟩ := List.mem_map.mp h
  unfold addParallel at hedge
  split at hedge
  · obtain ⟨old, hold, rfl⟩ := List.mem_map.mp hedge
    refine .inr (List.mem_map.mpr ⟨old, hold, ?_⟩)
    split <;> rfl
  · rcases List.mem_append.mp hedge with hold | hnew
    · exact .inr (List.mem_map_of_mem hold)
    · rw [List.mem_singleton.mp hnew]
      exact .inl rfl

/-! ## Links -/

section Links

variable {directed : Bool} {pair : NodeId → NodeId → β} {source target : NodeId}
  {view : NodeId → NodeId → Option NodeId × Fields → β}

/-- A link that joins two ends has the same ends, but for their spelling and, without
direction, their order. -/
theorem pair_of_joins (hpair : OnEnds directed pair) {link : Link}
    (h : joins directed link source target = true) :
    pair link.source link.target = pair source target := by
  simp only [joins, Bool.or_eq_true, Bool.and_eq_true, Bool.not_eq_true',
    decide_eq_true_eq] at h
  rcases h with ⟨hsource, htarget⟩ | ⟨⟨hdirected, hsource⟩, htarget⟩
  · exact hpair.congr hsource htarget
  · rw [hpair.congr hsource htarget, hpair.swap hdirected]

def edgeKeys (links : List Link) : List NodeId :=
  links.flatMap fun link => link.parallel.map Prod.fst

/-- The edge that is added under a new key goes to the parallel ones of its link. -/
theorem views_addParallel (hview : OnEnds directed view) {link : Link}
    (hjoins : joins directed link source target = true) {key : NodeId} {data : Fields}
    (hnew : ∀ edge ∈ link.parallel, ¬ edge.1.Same key) :
    (Link.views true view { link with parallel := addParallel link.parallel key data }).Perm
      (view source target (some key, data) :: link.views true view) := by
  rw [Link.views, Link.views, addParallel_of_new hnew, List.map_append, List.map_singleton,
    pair_of_joins hview hjoins]
  exact List.perm_append_singleton _ _

/-- An edge under a new key, be it given or chosen, is one more edge between its ends,
and those that are there stay as they are. -/
theorem exists_views_addToLinks_perm (hview : OnEnds directed view) {key : Option NodeId}
    {data : Fields} {links : List Link}
    (hnew : ∀ given, key = some given → ∀ name ∈ edgeKeys links, ¬ name.Same given) :
    ∃ name, (∀ given, key = some given → name = given) ∧
      ((addToLinks directed true source target key data links).flatMap (Link.views true view)).Perm
        (view source target (some name, data) :: links.flatMap (Link.views true view)) := by
  induction links with
  | nil =>
      refine ⟨key.getD (.int 0), ?_, List.Perm.refl _⟩
      rintro given rfl
      rfl
  | cons link links ih =>
      rw [addToLinks]
      split
      · rename_i hjoins
        refine ⟨key.getD (newKey (link.parallel.map Prod.fst)), ?_, ?_⟩
        · rintro given rfl
          rfl
        · have hparallel : ∀ edge ∈ link.parallel,
              ¬ edge.1.Same (key.getD (newKey (link.parallel.map Prod.fst))) := by
            intro edge hedge
            cases key with
            | none => exact not_same_newKey (List.mem_map_of_mem hedge)
            | some given =>
                exact hnew given rfl edge.1 (List.mem_append_left _ (List.mem_map_of_mem hedge))
          rw [List.flatMap_cons, List.flatMap_cons]
          exact (views_addParallel hview hjoins hparallel).append_right _
      · obtain ⟨name, hname, hrest⟩ := ih fun given hgiven name hname =>
          hnew given hgiven name (List.mem_append_right _ hname)
        refine ⟨name, hname, ?_⟩
        rw [List.flatMap_cons, List.flatMap_cons]
        exact (List.Perm.append_left _ hrest).trans List.perm_middle

theorem mem_edgeKeys_addToLinks {key name : NodeId} {data : Fields} {links : List Link}
    (h : name ∈ edgeKeys (addToLinks directed true source target (some key) data links)) :
    name = key ∨ name ∈ edgeKeys links := by
  induction links with
  | nil => exact .inl (List.mem_singleton.mp h)
  | cons link links ih =>
      rw [addToLinks] at h
      split at h
      · rcases List.mem_append.mp h with hhere | hrest
        · rcases mem_map_fst_addParallel hhere with hkey | hold
          · exact .inl hkey
          · exact .inr (List.mem_append_left _ hold)
        · exact .inr (List.mem_append_right _ hrest)
      · rcases List.mem_append.mp h with hhere | hrest
        · exact .inr (List.mem_append_left _ hhere)
        · rcases ih hrest with hkey | hold
          · exact .inl hkey
          · exact .inr (List.mem_append_right _ hold)

end Links

/-! ## Graphs -/

section Graphs

variable {g : Graph}

@[simp] theorem directed_addNode (g : Graph) (id : NodeId) (fields : Fields) :
    (g.addNode id fields).directed = g.directed := by
  unfold addNode
  split <;> rfl

@[simp] theorem multigraph_addNode (g : Graph) (id : NodeId) (fields : Fields) :
    (g.addNode id fields).multigraph = g.multigraph := by
  unfold addNode
  split <;> rfl

theorem links_addEdge (g : Graph) (source target : NodeId) (key : Option NodeId)
    (data : Fields) :
    (g.addEdge source target key data).links =
      addToLinks g.directed g.multigraph source target key data g.links := by
  simp only [addEdge, directed_addNode, multigraph_addNode, links_addNode]

@[simp] theorem directed_addEdge (g : Graph) (source target : NodeId) (key : Option NodeId)
    (data : Fields) : (g.addEdge source target key data).directed = g.directed := by
  simp only [addEdge, directed_addNode]

@[simp] theorem multigraph_addEdge (g : Graph) (source target : NodeId) (key : Option NodeId)
    (data : Fields) : (g.addEdge source target key data).multigraph = g.multigraph := by
  simp only [addEdge, multigraph_addNode]

/-- A multigraph has one edge more, with the key and data of an edge that was added
under a new key. -/
theorem exists_views_addEdge_perm {view : NodeId → NodeId → Option NodeId × Fields → β}
    (hview : OnEnds g.directed view) (hmultigraph : g.multigraph = true)
    {source target : NodeId} {key : Option NodeId} {data : Fields}
    (hnew : ∀ given, key = some given → ∀ name ∈ edgeKeys g.links, ¬ name.Same given) :
    ∃ name, (∀ given, key = some given → name = given) ∧
      ((g.addEdge source target key data).links.flatMap (Link.views true view)).Perm
        (view source target (some name, data) :: g.links.flatMap (Link.views true view)) := by
  rw [links_addEdge, hmultigraph]
  exact exists_views_addToLinks_perm hview hnew

theorem ends_addEdge_perm {pair : NodeId → NodeId → β} (hpair : OnEnds g.directed pair)
    (hmultigraph : g.multigraph = true) {source target : NodeId} {key : Option NodeId}
    {data : Fields}
    (hnew : ∀ given, key = some given → ∀ name ∈ edgeKeys g.links, ¬ name.Same given) :
    ((g.addEdge source target key data).links.flatMap (Link.ends pair)).Perm
      (pair source target :: g.links.flatMap (Link.ends pair)) := by
  obtain ⟨_, -, hperm⟩ := exists_views_addEdge_perm (hpair.const _) hmultigraph hnew
  rw [Link.views_const] at hperm
  exact hperm

/-- Steps each of which is one item more are together as many items more; `Ready` says
what a step needs of the graph that it is applied to. -/
theorem perm_foldl {α : Type} (items : Graph → List β) {one : α → β}
    {step : Graph → α → Graph} (Ready : Graph → List α → Prop)
    (hstep : ∀ g x xs, Ready g (x :: xs) →
      Ready (step g x) xs ∧ (items (step g x)).Perm (one x :: items g))
    {xs : List α} (h : Ready g xs) :
    (items (xs.foldl step g)).Perm (xs.map one ++ items g) := by
  induction xs generalizing g with
  | nil => exact List.Perm.refl _
  | cons x xs ih =>
      obtain ⟨hready, hmore⟩ := hstep g x xs h
      exact ((ih hready).trans (List.Perm.append_left _ hmore)).trans List.perm_middle

end Graphs

end NetworkTopology.Graph
