import NetworkTopology.Cli.Run
import NetworkTopology.Json.Printer
import NetworkTopology.Main
import NetworkTopology.Proofs.Cli.Agreement
import NetworkTopology.Proofs.IdGenerator.History
import NetworkTopology.Proofs.Rest.Consistency
import NetworkTopology.Proofs.Rest.Soundness
import NetworkTopology.Proofs.Topology.Adjacency
import NetworkTopology.Proofs.Topology.Cascade
import NetworkTopology.Proofs.Topology.Connection
import NetworkTopology.Proofs.Topology.Degree
import NetworkTopology.Proofs.Topology.Detachment
import NetworkTopology.Proofs.Topology.Mirror
import NetworkTopology.Proofs.Topology.NodeLink
import NetworkTopology.Proofs.Topology.Replay
import NetworkTopology.Session.Setup
import NetworkTopology.Settings.LogFormat
import NetworkTopology.Proofs.IdGenerator.LeastFree
import NetworkTopology.Proofs.Topology.Export
import NetworkTopology.Proofs.Number.Canonical
import NetworkTopology.Proofs.Number.Rounding
import NetworkTopology.Proofs.Number.Shortest
import NetworkTopology.Proofs.Number.Notation
import NetworkTopology.Proofs.Graph.Names
import NetworkTopology.Proofs.Graph.Loaded
import NetworkTopology.Proofs.Topology.Merging
import NetworkTopology.Proofs.Registry
import NetworkTopology.Proofs.Topology.Listing
import NetworkTopology.Proofs.Topology.Chosen
import NetworkTopology.Proofs.Topology.Construction
import NetworkTopology.Proofs.IdGenerator.Suffix
import NetworkTopology.Proofs.IdGenerator.Lookup
import NetworkTopology.Proofs.Topology.Alarm
import NetworkTopology.Proofs.Topology.Attachment
import NetworkTopology.Proofs.Rest.LastUpdate
