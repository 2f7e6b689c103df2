import NetworkTopology.Json.Basic

/-!
# Settings

What can be set: how to log, which namespace to serve and how generated ids begin, and where the
REST interface listens.  A namespace is never empty and a port number is in range; both are part of
the types.
-/

namespace NetworkTopology

/-- The severity from which on records are logged. -/
inductive LogLevel where
  | critical
  | error
  | warning
  | info
  | debug
  deriving DecidableEq, Repr

namespace LogLevel

def all : List LogLevel := [critical, error, warning, info, debug]

def name : LogLevel → String
  | critical => "CRITICAL"
  | error => "ERROR"
  | warning => "WARNING"
  | info => "INFO"
  | debug => "DEBUG"

def ofName? (text : String) : Option LogLevel :=
  all.find? fun level => level.name == text

end LogLevel

/-- How to log. -/
structure LoggingSettings where
  level : LogLevel := .info
  format : String := "%(asctime)-20s %(name)-32s %(levelname)-8s: %(message)s"
  deriving DecidableEq, Repr

/-- Which namespace to serve, and how generated ids begin. -/
structure TopologySettings where
  ns : String := "default"
  ns_ne : ns ≠ "" := by decide
  vertexStem : String := "v"
  edgeStem : String := "e"
  deriving DecidableEq, Repr

/-- Where the REST interface listens. -/
structure ApiSettings where
  host : String := "127.0.0.1"
  portNumber : Int := 5000
  port_in_range : 1 ≤ portNumber ∧ portNumber ≤ 65535 := by decide
  debug : Bool := false
  deriving DecidableEq, Repr

/-- All settings. -/
structure Settings where
  logging : LoggingSettings := {}
  topology : TopologySettings := {}
  api : ApiSettings := {}
  deriving DecidableEq, Repr

def Settings.document (s : Settings) : Json :=
  .obj [
    ("logging", .obj [("level", .str s.logging.level.name), ("format", .str s.logging.format)]),
    ("topology", .obj [("namespace", .str s.topology.ns),
      ("vertex_id_prefix", .str s.topology.vertexStem),
      ("edge_id_prefix", .str s.topology.edgeStem)]),
    ("api", .obj [("host", .str s.api.host), ("port", .int s.api.portNumber),
      ("debug", .bool s.api.debug)])]

end NetworkTopology
