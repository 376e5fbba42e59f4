import ColdStore.Proto.Records
import ColdStore.Rust.Split

/-! The configuration of a metadata cluster, read at the start and reported to clients. -/

namespace ColdStore

open Rust

/-- A node of the cluster, with the address it is to listen on. -/
structure MetadataClusterNode where
  nodeId : Nat
  listen : String
  deriving DecidableEq

/-- An address without the schemes in front of it. -/
def stripListenScheme (entry : String) : String :=
  trimStartMatches (trimStartMatches (trimStartMatches (trim entry) "http://") "https://") "grpc://"

def normalizeListenAddr (listen : String) : String :=
  trim (trimEndMatches (trim (stripListenScheme listen)) '/')

/-- Read one entry, which has white space neither in front of it nor behind it. -/
def parseClusterEntry (rawEntry : String) : Except String MetadataClusterNode := do
  let (nodeId, listen) ←
    okOr ("invalid cluster entry '" ++ rawEntry ++ "', expected node_id:listen_addr")
      (splitOnce rawEntry ':')
  let nodeId ← okOr ("invalid node id in cluster entry '" ++ rawEntry ++ "'")
    (parseUnsigned 64 (trim nodeId))
  let listen := normalizeListenAddr listen
  ensure (!listen.isEmpty) ("invalid cluster entry '" ++ rawEntry ++ "', listen address is empty")
  pure ⟨nodeId, listen⟩

/-- Read the entries behind those that the parsed nodes come from. -/
def parseClusterEntries :
    List MetadataClusterNode → List String → Except String (List MetadataClusterNode)
  | parsed, [] => .ok parsed
  | parsed, rawEntry :: rest => do
    let node ← parseClusterEntry rawEntry
    -- The sets of numbers and addresses seen so far are those of the parsed nodes.
    ensure (!(parsed.map MetadataClusterNode.nodeId).contains node.nodeId)
      ("duplicated metadata node_id '" ++ decimal node.nodeId ++ "' in cluster config")
    ensure (!(parsed.map MetadataClusterNode.listen).contains node.listen)
      ("duplicated metadata listen address '" ++ node.listen ++ "' in cluster config")
    parseClusterEntries (parsed ++ [node]) rest

/-- The entries of a configuration, without those that are blank. -/
def clusterEntries (cluster : String) : List String :=
  ((split cluster ',').map trim).filter fun entry => !entry.isEmpty

/-- The nodes that a configuration lists. -/
def parseClusterNodes (cluster : String) : Except String (List MetadataClusterNode) := do
  let parsed ← parseClusterEntries [] (clusterEntries cluster)
  ensure (!parsed.isEmpty)
    "metadata cluster configuration is invalid or empty; expected node_id:listen_addr entries"
  pure parsed

/-- How the commands of a cluster are agreed on. -/
inductive MetadataConsensusMode where
  | standalone
  | localRaft
  | persistentRaft
  deriving DecidableEq

/-- The configuration of a node. -/
structure MetadataConfig where
  nodeId : Nat := 1
  listen : String := "0.0.0.0:21001"
  cluster : String := "1:127.0.0.1:21001"
  consensusMode : MetadataConsensusMode := .persistentRaft

/-- The host and the port of an address, if it has both. -/
def splitHostPort (addr : String) : Option (String × String) :=
  (rsplitOnce addr ':').bind fun (host, port) =>
    if host.isEmpty || port.isEmpty then none
    else some (String.ofList (trimChars (fun c => c == '[' || c == ']') host.toList), port)

def isWildcardHost (host : String) : Bool := host == "0.0.0.0" || host == "::" || host == "*"

/-- A node may listen on all hosts instead of the one that the cluster knows it by. -/
def listenAddrsMatch (localListen clusterListen : String) : Bool :=
  let clusterListen := normalizeListenAddr clusterListen
  localListen == clusterListen || match splitHostPort localListen, splitHostPort clusterListen with
    | some (localHost, localPort), some (_, clusterPort) =>
      localPort == clusterPort && isWildcardHost localHost
    | _, _ => false

/-- Check that a node is part of its cluster, and that the cluster is one that can be run. -/
def enforceConsensusMode (config : MetadataConfig) (clusterNodes : List MetadataClusterNode) :
    Except String Unit := do
  let localNode ← okOr
    ("metadata node_id " ++ decimal config.nodeId ++ " not present in cluster definition")
    (clusterNodes.find? fun node => node.nodeId == config.nodeId)
  ensure (listenAddrsMatch (normalizeListenAddr config.listen) localNode.listen)
    ("metadata listen mismatch: node_id " ++ decimal config.nodeId ++ " uses " ++ config.listen ++
      " but cluster entry expects " ++ localNode.listen)
  ensure (clusterNodes.length != 0) "metadata cluster_size must be greater than 0"
  ensure (!decide (1 < clusterNodes.length)) <| match config.consensusMode with
    | .standalone => "standalone mode only supports a single metadata node; " ++
        "distributed metadata clusters require a real Raft runtime"
    | .localRaft => "local_raft mode is not valid for multi-node metadata clusters; " ++
        "distributed metadata clusters require a real Raft runtime"
    | .persistentRaft => "persistent_raft multi-node metadata clusters require the distributed " ++
        "Raft runtime; this build only supports single-node persistent_raft safely"

/-- Whether a node is there to be talked to. -/
inductive NodeStatus where
  | unspecified
  | nodeOnline
  | nodeOffline
  | nodeDraining
  | nodeMaintenance
  deriving DecidableEq

/-- A node of the cluster as clients are told about it. -/
structure MetadataNodeInfo where
  nodeId : Nat
  addr : String
  raftRole : String
  lastHeartbeat : Option Timestamp
  status : NodeStatus
  deriving DecidableEq

/-- The nodes that the configuration lists, with the time at which each entry was read. -/
def metadataNodes (cluster : String) (leaderHint : Option Nat) (now : Nat → Timestamp) :
    List MetadataNodeInfo := (split cluster ',').zipIdx.filterMap fun (entry, position) => do
    let (nodeId, addr) ← splitOnce entry ':'
    -- Unlike at the start, white space around the number is not dropped.
    let nodeId ← parseUnsigned 64 nodeId
    pure { nodeId, addr, raftRole := if some nodeId = leaderHint then "Leader" else "Follower",
           lastHeartbeat := some (now position), status := .nodeOnline }

end ColdStore
