import Mathlib.Data.List.Perm.Basic
import NetworkTopology.Proofs.Graph.Distinct

/-!
# The enumeration of edges

The edges of a graph are enumerated node by node.  With direction an edge shows at its
source; without, at the end that is met first, and not again at the other one.  So
each edge is enumerated once, with its key and data, although the order is not that of
the links and a pair of ends may come the other way round.
-/

namespace NetworkTopology

variable {β : Type}

/-- What is made of the ends of an edge depends on their names alone, and without
direction not on which comes first. -/
structure OnEnds (directed : Bool) (pair : NodeId → NodeId → β) : Prop where
  congr : ∀ {source source' target target' : NodeId}, source.Same source' →
    target.Same target' → pair source target = pair source' target'
  swap : directed = false → ∀ source target : NodeId, pair source target = pair target source

theorem OnEnds.const {directed : Bool} {pair : NodeId → NodeId → β} (h : OnEnds directed pair)
    (α : Type) : OnEnds directed fun source target => Function.const α (pair source target) := by
  constructor
  · intro source source' target target' hsource htarget
    exact congrArg (Function.const α) (h.congr hsource htarget)
  · intro hdirected source target
    exact congrArg (Function.const α) (h.swap hdirected source target)

namespace Link

/-- The ends of the edges of a link, once for each edge. -/
def ends (pair : NodeId → NodeId → β) (link : Link) : List β :=
  List.replicate link.parallel.length (pair link.source link.target)

/-- What is made of each edge of a link: of its ends, and of its key, which only a
multigraph shows, and its data. -/
def views (multigraph : Bool) (view : NodeId → NodeId → Option NodeId × Fields → β)
    (link : Link) : List β :=
  link.parallel.map fun edge =>
    view link.source link.target (if multigraph then some edge.1 else none, edge.2)

/-- The ends alone are one way to view an edge. -/
theorem views_const (multigraph : Bool) (pair : NodeId → NodeId → β) :
    views multigraph (fun source target => Function.const _ (pair source target)) =
      ends pair := by
  funext link
  exact List.map_const'

/-- Does a link show at one of the nodes? -/
def meets (directed : Bool) (ids : List NodeId) (link : Link) : Bool :=
  ids.any (fun id => decide (id.Same link.source)) ||
    !directed && ids.any fun id => decide (id.Same link.target)

end Link

namespace Graph

variable {g : Graph} {pair : NodeId → NodeId → β}
  {view : NodeId → NodeId → Option NodeId × Fields → β}

/-- The neighbour of a node along a link. -/
def neighbourAlong (g : Graph) (id : NodeId) (link : Link) :
    Option (NodeId × List (NodeId × Fields)) :=
  if link.source.Same id then some (link.target, link.parallel)
  else if !g.directed && decide (link.target.Same id) then some (link.source, link.parallel)
  else none

theorem neighbours_eq (g : Graph) (id : NodeId) :
    g.neighbours id = g.links.filterMap (g.neighbourAlong id) := rfl

/-- Does an edge to a neighbour show at none of the nodes before? -/
def fresh (g : Graph) (seen : List NodeId) (neighbour : NodeId × List (NodeId × Fields)) : Bool :=
  g.directed || !seen.any fun other => decide (other.Same neighbour.1)

theorem edgesOf_cons (g : Graph) (seen : List NodeId) (id : NodeId) (fields : Fields)
    (nodes : List (NodeId × Fields)) :
    g.edgesOf seen ((id, fields) :: nodes) =
      (((g.neighbours id).filter (g.fresh seen)).flatMap fun neighbour =>
        neighbour.2.map fun edge =>
          { source := id, target := neighbour.1
            key := if g.multigraph then some edge.1 else none, data := edge.2 })
      ++ g.edgesOf (id :: seen) nodes := rfl

theorem any_same_eq_false {id other : NodeId} {seen : List NodeId}
    (hnew : ∀ other ∈ seen, ¬ other.Same id) (h : other.Same id) :
    (seen.any fun earlier => decide (earlier.Same other)) = false := by
  rw [List.any_eq_false]
  intro earlier hearlier hsame
  exact hnew earlier hearlier ((of_decide_eq_true hsame).trans h)

/-- A link that shows at a node and at none before leads to a fresh neighbour, and its
edges are those between the node and the neighbour. -/
theorem neighbourAlong_of_meets (hpair : OnEnds g.directed pair) {id : NodeId}
    {seen : List NodeId} (hnew : ∀ other ∈ seen, ¬ other.Same id) {link : Link}
    (hmeets : link.meets g.directed [id] = true) :
    ∃ neighbour, g.neighbourAlong id link = some neighbour ∧
      g.fresh seen neighbour = !link.meets g.directed seen ∧
      neighbour.2 = link.parallel ∧ pair id neighbour.1 = pair link.source link.target := by
  unfold neighbourAlong
  by_cases hsource : link.source.Same id
  · refine ⟨_, if_pos hsource, ?_, rfl, ?_⟩
    · rw [fresh, Link.meets, any_same_eq_false hnew hsource]
      cases g.directed <;> rfl
    · exact (hpair.congr hsource (NodeId.Same.refl link.target)).symm
  · have hself : decide (id.Same link.source) = false :=
      decide_eq_false fun h => hsource h.symm
    have hundirected : g.directed = false ∧ link.target.Same id := by
      simp only [Link.meets, List.any_cons, List.any_nil, hself, Bool.or_false, Bool.false_or,
        Bool.and_eq_true, Bool.not_eq_true', decide_eq_true_eq] at hmeets
      exact ⟨hmeets.1, hmeets.2.symm⟩
    obtain ⟨hdirected, htarget⟩ := hundirected
    have hcondition : (!g.directed && decide (link.target.Same id)) = true := by
      rw [hdirected, decide_eq_true htarget]
      rfl
    refine ⟨_, (if_neg hsource).trans (if_pos hcondition), ?_, rfl, ?_⟩
    · rw [fresh, Link.meets, any_same_eq_false hnew htarget, hdirected]
      simp
    · rw [hpair.swap hdirected,
        hpair.congr (NodeId.Same.refl link.source) htarget]

theorem neighbourAlong_of_not_meets {id : NodeId} {link : Link}
    (hmeets : link.meets g.directed [id] = false) : g.neighbourAlong id link = none := by
  simp only [Link.meets, List.any_cons, List.any_nil, Bool.or_false, Bool.or_eq_false_iff,
    Bool.and_eq_false_iff, Bool.not_eq_false', decide_eq_false_iff_not] at hmeets
  obtain ⟨hsource, htarget⟩ := hmeets
  have hcondition : (!g.directed && decide (link.target.Same id)) = false := by
    rcases htarget with hdirected | htarget
    · rw [hdirected]
      rfl
    · rw [decide_eq_false fun h => htarget h.symm, Bool.and_false]
  rw [neighbourAlong, if_neg fun h => hsource h.symm, hcondition]
  rfl

/-- The edges that one node adds to the enumeration are those of the links that show
there and at none of the nodes before. -/
theorem views_at_node (hview : OnEnds g.directed view) {id : NodeId} {seen : List NodeId}
    (hnew : ∀ other ∈ seen, ¬ other.Same id) :
    ((g.neighbours id).filter (g.fresh seen)).flatMap
      (fun neighbour => neighbour.2.map fun edge =>
        view id neighbour.1 (if g.multigraph then some edge.1 else none, edge.2)) =
    (g.links.filter fun link =>
        link.meets g.directed [id] && !link.meets g.directed seen).flatMap
          (Link.views g.multigraph view) := by
  rw [neighbours_eq]
  induction g.links with
  | nil => rfl
  | cons link links ih =>
      cases hmeets : link.meets g.directed [id] with
      | false =>
          have hnone : g.neighbourAlong id link = none := neighbourAlong_of_not_meets hmeets
          rw [List.filterMap_cons_none hnone, ih, List.filter_cons, hmeets]
          rfl
      | true =>
          obtain ⟨neighbour, hsome, hfresh, hparallel, hends⟩ :=
            neighbourAlong_of_meets hview hnew hmeets
          rw [List.filterMap_cons_some hsome, List.filter_cons, List.filter_cons, hmeets, hfresh,
            Bool.true_and]
          by_cases hseen : (!link.meets g.directed seen) = true
          · rw [if_pos hseen, if_pos hseen, List.flatMap_cons, List.flatMap_cons, ih, hparallel,
              hends, Link.views]
          · rw [if_neg hseen, if_neg hseen, ih]

theorem meets_cons (directed : Bool) (id : NodeId) (ids : List NodeId) (link : Link) :
    link.meets directed (id :: ids) = (link.meets directed [id] || link.meets directed ids) := by
  simp only [Link.meets, List.any_cons, List.any_nil, Bool.or_false, Bool.and_or_distrib_left]
  ac_rfl

/-- Going through nodes enumerates the links that show at one of them and at none of
those gone through before. -/
theorem edgesOf_perm (hview : OnEnds g.directed view) {nodes : List (NodeId × Fields)}
    {seen : List NodeId} (hdistinct : nodes.Pairwise fun node other => ¬ node.1.Same other.1)
    (hnew : ∀ node ∈ nodes, ∀ other ∈ seen, ¬ other.Same node.1) :
    ((g.edgesOf seen nodes).map fun e => view e.source e.target (e.key, e.data)).Perm
      ((g.links.filter fun link =>
        link.meets g.directed (nodes.map Prod.fst) && !link.meets g.directed seen).flatMap
          (Link.views g.multigraph view)) := by
  induction nodes generalizing seen with
  | nil =>
      have hnone : ∀ link : Link, link.meets g.directed ([] : List NodeId) = false := by
        intro link
        simp [Link.meets]
      simp [edgesOf, hnone]
  | cons node nodes ih =>
      obtain ⟨id, fields⟩ := node
      obtain ⟨hapart, hdistinct⟩ := List.pairwise_cons.mp hdistinct
      have hhere := views_at_node hview (hnew (id, fields) List.mem_cons_self)
      have hlater : ∀ other ∈ nodes, ∀ earlier ∈ id :: seen, ¬ earlier.Same other.1 := by
        intro other hother earlier hearlier
        rcases List.mem_cons.mp hearlier with rfl | hearlier
        · exact hapart other hother
        · exact hnew other (List.mem_cons_of_mem _ hother) earlier hearlier
      have hrest := ih hdistinct hlater
      have hlist : ((g.edgesOf seen ((id, fields) :: nodes)).map fun e =>
          view e.source e.target (e.key, e.data)) =
          ((g.neighbours id).filter (g.fresh seen)).flatMap
            (fun neighbour => neighbour.2.map fun edge =>
              view id neighbour.1 (if g.multigraph then some edge.1 else none, edge.2)) ++
          (g.edgesOf (id :: seen) nodes).map fun e => view e.source e.target (e.key, e.data) := by
        rw [edgesOf_cons, List.map_append, List.map_flatMap]
        simp only [List.map_map]
        rfl
      -- The links that show at the node are split off from those that show later.
      have hsplit := List.filter_append_perm (fun link : Link => link.meets g.directed [id])
        (g.links.filter fun link =>
          link.meets g.directed (id :: nodes.map Prod.fst) && !link.meets g.directed seen)
      rw [List.filter_filter, List.filter_filter] at hsplit
      rw [hlist, hhere]
      refine ((List.Perm.append_left _ hrest).trans ?_).trans
        (hsplit.flatMap fun _ _ => List.Perm.refl _)
      rw [← List.flatMap_append]
      refine List.Perm.of_eq (congrArg _ (congr (congrArg _ ?_) ?_))
      · apply List.filter_congr
        intro link _
        rw [meets_cons _ id (nodes.map _)]
        cases link.meets g.directed [id] <;> simp
      · apply List.filter_congr
        intro link _
        rw [meets_cons _ id (nodes.map _), meets_cons _ id seen]
        cases link.meets g.directed [id] <;> simp

/-- Every edge is enumerated once, with its key and data. -/
theorem views_perm (hclosed : g.Closed) (hdistinct : g.Distinct)
    (hview : OnEnds g.directed view) :
    (g.edges.map fun e => view e.source e.target (e.key, e.data)).Perm
      (g.links.flatMap (Link.views g.multigraph view)) := by
  have hall : (g.links.filter fun link =>
      link.meets g.directed (g.nodes.map Prod.fst) && !link.meets g.directed []) = g.links := by
    rw [List.filter_eq_self]
    intro link hlink
    obtain ⟨node, hnode, hsame⟩ := hasNode_iff.mp (hclosed link hlink).1
    have hsource : (g.nodes.map Prod.fst).any (fun id => decide (id.Same link.source)) = true :=
      List.any_eq_true.mpr ⟨node.1, List.mem_map_of_mem hnode, decide_eq_true hsame⟩
    simp [Link.meets, hsource]
  have hnone : ∀ node ∈ g.nodes, ∀ other ∈ ([] : List NodeId), ¬ other.Same node.1 := by
    intro _ _ other hother
    cases hother
  have hperm := edgesOf_perm hview hdistinct hnone
  rw [hall] at hperm
  exact hperm

/-- The ends of every edge are enumerated once. -/
theorem edges_perm (hclosed : g.Closed) (hdistinct : g.Distinct)
    (hpair : OnEnds g.directed pair) :
    (g.edges.map fun e => pair e.source e.target).Perm
      (g.links.flatMap (Link.ends pair)) := by
  have hperm := views_perm hclosed hdistinct (hpair.const _)
  rw [Link.views_const] at hperm
  exact hperm

end Graph

end NetworkTopology
