import NetworkTopology.Graph.NodeLink

/-!
# Sources of graphs

A graph is loaded from a node-link document or from the characters of a file with one.  A source may
also have nothing to offer, or fail, or be a directory where a file is expected.
-/

namespace NetworkTopology

/-- Where a graph comes from. -/
inductive GraphSource where
  | document (content : Json)
  | text (content : String)
  | empty
  | failing (message : String)
  | directory
  deriving Repr

namespace GraphSource

def load : GraphSource → Except Fault Graph
  | document content => Graph.ofDocument content
  | text content => Graph.read content
  | empty => .ok {}
  | failing message => .error (.scripted message)
  | directory => .error .notAFile

/-- Loads the graph of a number; where there are no sources at all, an empty one. -/
def loadFrom (sources : List GraphSource) (number : Nat) : Except Fault Graph :=
  if sources.isEmpty then .ok {}
  else
    match sources[number]? with
    | some source => source.load
    | none => .error .unknownGraph

end GraphSource

end NetworkTopology
