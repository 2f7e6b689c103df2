import NetworkTopology.Entity.Basic

/-!
# Adjacency matrices

The adjacency matrix of a topology has a row and a column for each vertex id, in ascending order.
Counting runs through the edges once; an edge with an end that is no vertex id does not count, and a
self-loop counts once.
-/

namespace NetworkTopology

/-- A square matrix of edge counts with the ids of its rows and columns.  Cells have no upper limit
here; in floating-point numbers with 24 bits of precision, adding one no longer changes a cell of
2^24, so such a matrix shows the same counts only as long as none is above that. -/
structure AdjacencyMatrix where
  ids : List String
  rows : List (List Nat)
  deriving DecidableEq, Repr

namespace AdjacencyMatrix

def bump (rows : List (List Nat)) (i j : Nat) : List (List Nat) :=
  rows.modify i fun row => row.modify j (· + 1)

/-- Counts an edge in the cells of its ends, once where these are the same cell. -/
def count (ids : List String) (rows : List (List Nat)) (e : Edge) : List (List Nat) :=
  match ids.idxOf? e.sourceKey.id, ids.idxOf? e.targetKey.id with
  | some i, some j => if i = j then bump rows i j else bump (bump rows i j) j i
  | _, _ => rows

def make (vertexIds : List String) (edges : List Edge) : AdjacencyMatrix :=
  let ids := sortIds vertexIds
  let zeros := List.replicate ids.length (List.replicate ids.length 0)
  { ids, rows := edges.foldl (count ids) zeros }

end AdjacencyMatrix

end NetworkTopology
