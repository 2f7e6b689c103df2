import NetworkTopology.Event

/-!
# Log records

The records that operations leave for the people who run them.
-/

namespace NetworkTopology

/-- Something that an operation passed over. -/
inductive Warning where
  /-- An entity of another namespace than the store's. -/
  | foreign (kind : StoreKind) (entity : Entity) (ns : String)
  /-- An edge was asked for without its ends. -/
  | noEnds
  | noSource
  | noTarget
  /-- A removal was asked for without a vertex. -/
  | noVertex
  deriving DecidableEq, Repr

def Warning.text : Warning → String
  | foreign .vertices entity ns =>
    "Ignoring vertex " ++ entity.description ++ ", store serves namespace " ++ ns
  | foreign .edges entity ns =>
    "Ignoring edge " ++ entity.description ++ ", store serves namespace " ++ ns
  | noEnds => "Source and target vertices are None"
  | noSource => "Source vertex is None"
  | noTarget => "Target vertex is None"
  | noVertex => "Ignoring None vertex in remove_vertex"

/-- A log record. -/
inductive LogRecord where
  | warning (warning : Warning)
  | listenerFailed (listener : String) (kind : EventKind) (ns : String)
  deriving DecidableEq, Repr

def LogRecord.level : LogRecord → String
  | warning _ => "WARNING"
  | listenerFailed .. => "ERROR"

def LogRecord.text : LogRecord → String
  | warning w => w.text
  | listenerFailed listener kind ns =>
    "Listener <listener " ++ listener ++ "> failed on " ++ kind.name ++ " event in namespace " ++ ns

end NetworkTopology
