import Uncloud.Compose.Secret
import Mathlib.Data.List.Sort
import Mathlib.Data.String.Basic

/-! The parts of compose-go's project model that the compatibility scanner reads. A Go map whose
values are not read is the list of its keys; a pointer whose target is not read is an `Option Unit`;
a slice whose elements are not read is a `List Unit`. Go strings compare byte by byte, which on UTF-8
text is the order of their characters, so the model compares `String.data`. -/
namespace Uncloud
namespace Compose

def strLe (a b : String) : Prop := a.data ≤ b.data

instance : DecidableRel strLe := fun a b => inferInstanceAs (Decidable (a.data ≤ b.data))

theorem strLe_iff (a b : String) : strLe a b ↔ a ≤ b := String.le_iff_toList_le.symm

structure Float32 where
  bits : UInt32
  deriving DecidableEq, Repr

def Float32.pos (x : Float32) : Bool := 0 < x.bits.toNat && x.bits.toNat ≤ 0x7F800000

/-- compose-go's `UpdateConfig`; durations are int64 nanoseconds. -/
structure UpdateConfig where
  parallelism : Option Nat := none
  delay : Int := 0
  failureAction : String := ""
  monitor : Int := 0
  maxFailureRatio : Float32 := ⟨0⟩
  deriving DecidableEq, Repr

/-- compose-go's `Placement`; a nil and an empty `Constraints` slice differ. -/
structure Placement where
  constraints : Option (List String) := none
  preferences : List String := []
  deriving DecidableEq, Repr

/-- compose-go's `DeployConfig`, the fields `checkDeployWarnings` reads. -/
structure DeployConfig where
  labels : List String := []
  rollbackConfig : Option UpdateConfig := none
  restartPolicy : Option Unit := none
  endpointMode : String := ""
  placement : Placement := {}
  updateConfig : Option UpdateConfig := none
  deriving DecidableEq, Repr

/-- compose-go's `ServiceConfig`, the fields `checkServiceWarnings` reads. The defaults are Go's
zero values. -/
structure ServiceConfig where
  build : Option Unit := none
  containerName : String := ""
  dependsOn : List String := []
  networks : List String := []
  networkMode : String := ""
  restart : String := ""
  secrets : List ServiceSecretConfig := []
  profiles : List String := []
  links : List String := []
  externalLinks : List String := []
  volumesFrom : List String := []
  develop : Option Unit := none
  hostname : String := ""
  dns : List String := []
  dnsOpts : List String := []
  dnsSearch : List String := []
  extraHosts : List String := []
  securityOpt : List String := []
  platform : String := ""
  workingDir : String := ""
  tmpfs : List String := []
  readOnly : Bool := false
  shmSize : Int := 0
  cpuSet : String := ""
  memSwapLimit : Int := 0
  pid : String := ""
  ipc : String := ""
  uts : String := ""
  userNSMode : String := ""
  cgroupParent : String := ""
  cgroup : String := ""
  isolation : String := ""
  runtime : String := ""
  stopSignal : String := ""
  stopGracePeriod : Option Unit := none
  macAddress : String := ""
  tty : Bool := false
  stdinOpen : Bool := false
  oomKillDisable : Bool := false
  oomScoreAdj : Int := 0
  pidsLimit : Int := 0
  storageOpt : List String := []
  deviceCgroupRules : List String := []
  credentialSpec : Option Unit := none
  groupAdd : List String := []
  blkioConfig : Option Unit := none
  cpuCount : Int := 0
  cpuPercent : Float32 := ⟨0⟩
  cpuPeriod : Int := 0
  cpuQuota : Int := 0
  cpuRTPeriod : Int := 0
  cpuRTRuntime : Int := 0
  cpuShares : Int := 0
  memSwappiness : Int := 0
  domainName : String := ""
  attach : Option Bool := none
  labels : List String := []
  annotations : List String := []
  «extends» : Option Unit := none
  postStart : List Unit := []
  preStop : List Unit := []
  provider : Option Unit := none
  models : List String := []
  volumeDriver : String := ""
  useAPISocket : Bool := false
  net : String := ""
  deploy : Option DeployConfig := none

/-- compose-go's `Project`: its name and its map of services, whose keys are distinct. -/
structure Project where
  name : String
  services : List (String × ServiceConfig)
  keys_nodup : (services.map Prod.fst).Nodup

/-- `project.ServiceNames()`: the service names in `sort.Strings` order. -/
def Project.serviceNames (p : Project) : List String :=
  (p.services.map Prod.fst).insertionSort strLe

theorem Project.serviceNames_perm (p : Project) : p.serviceNames.Perm (p.services.map Prod.fst) :=
  List.perm_insertionSort _ _

theorem Project.serviceNames_sorted_lt (p : Project) : p.serviceNames.Sorted (· < ·) := by
  have hle : p.serviceNames.Sorted strLe := @List.sorted_insertionSort String strLe _
    ⟨fun a b => by simp only [strLe_iff]; exact le_total a b⟩
    ⟨fun a b c => by simp only [strLe_iff]; exact le_trans⟩ _
  have hnd : p.serviceNames.Nodup := (serviceNames_perm p).nodup_iff.2 p.keys_nodup
  exact (hle.and hnd).imp fun h => lt_of_le_of_ne ((strLe_iff _ _).1 h.1) h.2

/-- `project.Services[name]`, Go's zero value when the name is absent. -/
def Project.service (p : Project) (name : String) : ServiceConfig :=
  (p.services.lookup name).getD {}

theorem lookup_eq_some_iff_mem {α β : Type} [DecidableEq α] {l : List (α × β)}
    (h : (l.map Prod.fst).Nodup) {k : α} {b : β} : l.lookup k = some b ↔ (k, b) ∈ l := by
  induction l with
  | nil => simp
  | cons e l ih =>
    obtain ⟨k', v⟩ := e
    rw [List.map_cons, List.nodup_cons] at h
    by_cases hk : k = k'
    · subst hk
      have hnot : (k, b) ∉ l := fun hm => h.1 (List.mem_map.2 ⟨_, hm, rfl⟩)
      simp [hnot, eq_comm]
    · have hne : (k == k') = false := by simpa using hk
      simp [List.lookup_cons, hne, hk, ih h.2]

theorem Project.serviceNames_eq_of_perm {p p' : Project} (h : p'.services.Perm p.services) :
    p'.serviceNames = p.serviceNames :=
  List.eq_of_perm_of_sorted
    (((serviceNames_perm p').trans (h.map Prod.fst)).trans (serviceNames_perm p).symm)
    (serviceNames_sorted_lt p') (serviceNames_sorted_lt p)

theorem Project.service_eq_of_perm {p p' : Project} (h : p'.services.Perm p.services)
    (n : String) : p'.service n = p.service n := by
  have hlookup : p'.services.lookup n = p.services.lookup n := Option.ext fun s => by
    rw [Option.mem_def, Option.mem_def, lookup_eq_some_iff_mem p'.keys_nodup,
      lookup_eq_some_iff_mem p.keys_nodup, h.mem_iff]
  rw [Project.service, Project.service, hlookup]

/-- `Warning`: a service name, the key of the unsupported feature and a message. -/
structure Warning where
  service : String
  key : String
  message : String
  deriving DecidableEq, Repr

/-- `Warning.String`. -/
def Warning.toString (w : Warning) : String :=
  if w.service = "" then w.message else "service '" ++ w.service ++ "': " ++ w.message

end Compose
end Uncloud
