import Uncloud.Go.Numeric
import Uncloud.Go.Strings
import Mathlib.Data.Finset.Basic

/-! What the `image` commands see of the cluster client: the shape of each response and, in
`Cluster`, the answer to each request they send, as a function of the request's arguments. Each
per-machine response carries the machine it comes from and that machine's error, if any. -/
namespace Uncloud
namespace Image

structure Metadata where
  machine : String
  error : String := ""
  deriving DecidableEq, Repr

/-- `image.DeleteResponse`. -/
structure DeleteResponse where
  untagged : String := ""
  deleted : String := ""
  deriving DecidableEq, Repr

/-- `jsonmessage.JSONProgress`, its `int64` counters. -/
structure JSONProgress where
  current : BitVec 64
  total : BitVec 64
  deriving DecidableEq, Repr

/-- `jsonmessage.JSONMessage`, the fields `pull` reads. -/
structure JSONMessage where
  id : String := ""
  status : String := ""
  progress : Option JSONProgress := none
  deriving DecidableEq, Repr

structure PullMessage where
  message : JSONMessage := {}
  err : Option String := none
  deriving DecidableEq, Repr

/-- `image.PullOptions`. -/
structure ImagePullOptions where
  all : Bool
  deriving DecidableEq, Repr

/-- `image.RemoveOptions`. -/
structure ImageRemoveOptions where
  force : Bool
  pruneChildren : Bool
  deriving DecidableEq, Repr

structure RemoveImageResponse where
  metadata : Metadata
  response : List DeleteResponse := []
  deriving DecidableEq, Repr

/-- `image.PruneReport`; `spaceReclaimed` is a `uint64`. -/
structure PruneReport where
  imagesDeleted : List DeleteResponse := []
  spaceReclaimed : Nat := 0
  deriving DecidableEq, Repr

structure PruneImagesResponse where
  metadata : Metadata
  report : PruneReport := {}
  deriving DecidableEq, Repr

structure MachineImage (ι : Type) where
  metadata : Metadata
  image : ι

/-- `filters.Args`: a set of values under each key, that is, a set of (key, value) pairs. -/
structure FilterArgs where
  pairs : Finset (String × String)
  deriving DecidableEq

/-- `filters.NewArgs()`. -/
def FilterArgs.newArgs : FilterArgs := ⟨∅⟩

/-- `args.Add(key, value)`. -/
def FilterArgs.add (args : FilterArgs) (key value : String) : FilterArgs :=
  ⟨insert (key, value) args.pairs⟩

/-- The cluster as the image commands use it. `listMachines` is the listed machines seen through
`FindByNameOrID(nameOrID).Machine.Name`, the only use the commands make of them. -/
structure Cluster (ι : Type) where
  connect : Option String
  listMachines : Except String (String → Option String)
  pullImage : String → ImagePullOptions → List String → Except String (List PullMessage)
  removeImage : String → ImageRemoveOptions → List String → Except String (List RemoveImageResponse)
  pruneImages : FilterArgs → List String → Except String (List PruneImagesResponse)
  tagImage : String → String → List String → Option String
  inspectImage : String → Except String (List (MachineImage ι))
  inspectRemoteImage : String → Except String (List (MachineImage ι))

def machineName (allMachines : String → Option String) (machine : String) : String :=
  (allMachines machine).getD machine

def withMachines {ι : Type} (c : Cluster ι)
    (k : (String → Option String) → List String × Option String) : List String × Option String :=
  match c.connect with
  | some err => ([], some ("connect to cluster: " ++ err))
  | none =>
    match c.listMachines with
    | .error err => ([], some ("list machines: " ++ err))
    | .ok allMachines => k allMachines

def sessionError {ι : Type} (c : Cluster ι) : Option String :=
  match c.connect with
  | some err => some ("connect to cluster: " ++ err)
  | none =>
    match c.listMachines with
    | .error err => some ("list machines: " ++ err)
    | .ok _ => none

end Image
end Uncloud
