import Uncloud.Compose.Project

/-! The compatibility scanner of `warnings.go`. `checkServiceWarnings` is a chain of `if` blocks,
each appending one warning; here each block is an entry of a table, in source order, with the
block's condition, key and message, and running the table keeps the warnings of the blocks whose
condition holds. The service's warnings are then sorted by key with `slices.SortFunc`. -/
namespace Uncloud
namespace Compose

structure Check (α : Type) where
  fires : α → Bool
  key : String
  message : String

def Check.unsupported {α : Type} (key : String) (fires : α → Bool) : Check α :=
  ⟨fires, key, "'" ++ key ++ "' is not supported."⟩

def Check.warning {α : Type} (c : Check α) (serviceName : String) : Warning :=
  ⟨serviceName, c.key, c.message⟩

def runChecks {α : Type} (checks : List (Check α)) (serviceName : String) (x : α) : List Warning :=
  checks.filterMap fun c => if c.fires x then some (c.warning serviceName) else none

/-- `hasUserDefinedNetworks`: the service names a network other than the project's default one
(named after the project) and `default`; the loop returns at the first such name. -/
def hasUserDefinedNetworks (project : Project) (service : ServiceConfig) : Bool :=
  let defaultNetworkName := project.name
  if service.networks.length = 0 then false
  else service.networks.any fun networkName =>
    networkName != defaultNetworkName && networkName != "default"

/-- `depends_on` is reported only when `links`, which compose-go turns into `depends_on`
entries, is empty. -/
def dependsOnCheck : Check (Project × ServiceConfig) :=
  ⟨fun (_, s) => s.dependsOn.length > 0 && s.links.length == 0, "depends_on",
    "'depends_on' is not supported. Services start independently."⟩

def networksCheck : Check (Project × ServiceConfig) :=
  ⟨fun (p, s) => s.networks.length > 0 && hasUserDefinedNetworks p s, "networks",
    "'networks' is not supported. Uncloud uses a flat mesh network with built-in service discovery."⟩

def serviceCheck (key message : String) (fires : ServiceConfig → Bool) :
    Check (Project × ServiceConfig) :=
  ⟨fun x => fires x.2, key, message⟩

def serviceUnsupported (key : String) (fires : ServiceConfig → Bool) :
    Check (Project × ServiceConfig) :=
  serviceCheck key ("'" ++ key ++ "' is not supported.") fires

@[simp] theorem serviceCheck_fires (key message : String) (fires : ServiceConfig → Bool)
    (x : Project × ServiceConfig) : (serviceCheck key message fires).fires x = fires x.2 := rfl

@[simp] theorem serviceUnsupported_fires (key : String) (fires : ServiceConfig → Bool)
    (x : Project × ServiceConfig) : (serviceUnsupported key fires).fires x = fires x.2 := rfl

def serviceChecks : List (Check (Project × ServiceConfig)) := [
  serviceCheck "build"
    "'build' is not supported. Pre-build images and specify 'image' instead."
    fun s => s.build.isSome,
  serviceCheck "container_name"
    "'container_name' is not supported. Uncloud generates container names automatically."
    fun s => s.containerName != "",
  dependsOnCheck,
  networksCheck,
  serviceCheck "network_mode"
    "'network_mode' is not supported. Uncloud uses a flat mesh network."
    fun s => s.networkMode != "" && s.networkMode != "default",
  serviceCheck "restart"
    "'restart' is not supported. Uncloud manages container lifecycle automatically."
    fun s => s.restart != "",
  serviceCheck "secrets"
    "'secrets' is not supported. Use environment variables or configs instead."
    fun s => s.secrets.length > 0,
  serviceCheck "profiles"
    "'profiles' is not supported. Specify services explicitly during deploy."
    fun s => s.profiles.length > 0,
  serviceCheck "links"
    "'links' is deprecated and not supported. Use service names for discovery."
    fun s => s.links.length > 0,
  serviceCheck "external_links"
    "'external_links' is deprecated and not supported."
    fun s => s.externalLinks.length > 0,
  serviceCheck "volumes_from"
    "'volumes_from' is not supported. Define volumes explicitly."
    fun s => s.volumesFrom.length > 0,
  serviceCheck "develop"
    "'develop' is not supported. This is a development-only feature."
    fun s => s.develop.isSome,
  serviceCheck "hostname"
    "'hostname' is not supported. Use service name for DNS resolution."
    fun s => s.hostname != "",
  serviceCheck "dns"
    "'dns' is not supported. Uncloud provides built-in DNS."
    fun s => s.dns.length > 0,
  serviceUnsupported "dns_opt" fun s => s.dnsOpts.length > 0,
  serviceUnsupported "dns_search" fun s => s.dnsSearch.length > 0,
  serviceUnsupported "extra_hosts" fun s => s.extraHosts.length > 0,
  serviceUnsupported "security_opt" fun s => s.securityOpt.length > 0,
  serviceUnsupported "platform" fun s => s.platform != "",
  serviceUnsupported "working_dir" fun s => s.workingDir != "",
  serviceCheck "tmpfs"
    "'tmpfs' at service level is not supported. Use volumes with tmpfs type instead."
    fun s => s.tmpfs.length > 0,
  serviceUnsupported "read_only" fun s => s.readOnly,
  serviceUnsupported "shm_size" fun s => s.shmSize > 0,
  serviceUnsupported "cpuset" fun s => s.cpuSet != "",
  serviceUnsupported "memswap_limit" fun s => s.memSwapLimit > 0,
  serviceUnsupported "pid" fun s => s.pid != "",
  serviceUnsupported "ipc" fun s => s.ipc != "",
  serviceUnsupported "uts" fun s => s.uts != "",
  serviceUnsupported "userns_mode" fun s => s.userNSMode != "",
  serviceUnsupported "cgroup_parent" fun s => s.cgroupParent != "",
  serviceUnsupported "cgroup" fun s => s.cgroup != "",
  serviceUnsupported "isolation" fun s => s.isolation != "",
  serviceUnsupported "runtime" fun s => s.runtime != "",
  serviceUnsupported "stop_signal" fun s => s.stopSignal != "",
  serviceUnsupported "stop_grace_period" fun s => s.stopGracePeriod.isSome,
  serviceUnsupported "mac_address" fun s => s.macAddress != "",
  serviceUnsupported "tty" fun s => s.tty,
  serviceUnsupported "stdin_open" fun s => s.stdinOpen,
  serviceUnsupported "oom_kill_disable" fun s => s.oomKillDisable,
  serviceUnsupported "oom_score_adj" fun s => s.oomScoreAdj != 0,
  serviceUnsupported "pids_limit" fun s => s.pidsLimit != 0,
  serviceUnsupported "storage_opt" fun s => s.storageOpt.length > 0,
  serviceUnsupported "device_cgroup_rules" fun s => s.deviceCgroupRules.length > 0,
  serviceUnsupported "credential_spec" fun s => s.credentialSpec.isSome,
  serviceUnsupported "group_add" fun s => s.groupAdd.length > 0,
  serviceUnsupported "blkio_config" fun s => s.blkioConfig.isSome,
  serviceUnsupported "cpu_count" fun s => s.cpuCount > 0,
  serviceUnsupported "cpu_percent" fun s => s.cpuPercent.pos,
  serviceUnsupported "cpu_period" fun s => s.cpuPeriod > 0,
  serviceUnsupported "cpu_quota" fun s => s.cpuQuota > 0,
  serviceUnsupported "cpu_rt_period" fun s => s.cpuRTPeriod > 0,
  serviceUnsupported "cpu_rt_runtime" fun s => s.cpuRTRuntime > 0,
  serviceUnsupported "cpu_shares" fun s => s.cpuShares != 0,
  serviceUnsupported "mem_swappiness" fun s => s.memSwappiness > 0,
  serviceUnsupported "domainname" fun s => s.domainName != "",
  serviceUnsupported "attach" fun s => s.attach == some false,
  serviceCheck "labels" "'labels' at service level is not supported." fun s => s.labels.length > 0,
  serviceUnsupported "annotations" fun s => s.annotations.length > 0,
  serviceUnsupported "extends" fun s => s.«extends».isSome,
  serviceUnsupported "post_start" fun s => s.postStart.length > 0,
  serviceUnsupported "pre_stop" fun s => s.preStop.length > 0,
  serviceUnsupported "provider" fun s => s.provider.isSome,
  serviceUnsupported "models" fun s => s.models.length > 0,
  serviceUnsupported "volume_driver" fun s => s.volumeDriver != "",
  serviceUnsupported "use_api_socket" fun s => s.useAPISocket,
  serviceCheck "net"
    "'net' is deprecated and not supported. Use 'network_mode' instead."
    fun s => s.net != ""]

def deployChecks : List (Check DeployConfig) := [
  .unsupported "deploy.labels" fun d => d.labels.length > 0,
  .unsupported "deploy.rollback_config" fun d => d.rollbackConfig.isSome,
  ⟨fun d => d.restartPolicy.isSome, "deploy.restart_policy",
    "'deploy.restart_policy' is not supported. Uncloud manages container lifecycle."⟩,
  .unsupported "deploy.endpoint_mode" fun d => d.endpointMode != "",
  ⟨fun d => d.placement.constraints.isSome || d.placement.preferences.length > 0,
    "deploy.placement",
    "'deploy.placement' is not supported. Use 'x-machines' extension for machine placement."⟩,
  .unsupported "deploy.update_config.parallelism" fun d =>
    d.updateConfig.any fun u => u.parallelism.isSome,
  .unsupported "deploy.update_config.delay" fun d => d.updateConfig.any fun u => u.delay > 0,
  .unsupported "deploy.update_config.failure_action" fun d =>
    d.updateConfig.any fun u => u.failureAction != "",
  .unsupported "deploy.update_config.monitor" fun d => d.updateConfig.any fun u => u.monitor > 0,
  .unsupported "deploy.update_config.max_failure_ratio" fun d =>
    d.updateConfig.any fun u => u.maxFailureRatio.pos]

def checkDeployWarnings (serviceName : String) (deploy : DeployConfig) : List Warning :=
  runChecks deployChecks serviceName deploy

def compareKeys (a b : Warning) : Int :=
  if a.key.data < b.key.data then -1 else if b.key.data < a.key.data then 1 else 0

/-- `slices.SortFunc`: ascending order of `cmp`, here by insertion sort. Go's sort is not stable,
but on warnings with distinct keys every sorting algorithm returns the same list. -/
def sortFunc {α : Type} (cmp : α → α → Int) (xs : List α) : List α :=
  xs.insertionSort fun a b => cmp a b ≤ 0

def serviceWarnings (project : Project) (name : String) (service : ServiceConfig) : List Warning :=
  let warnings := runChecks serviceChecks name (project, service)
  match service.deploy with
  | some deploy => warnings ++ checkDeployWarnings name deploy
  | none => warnings

def checkServiceWarnings (project : Project) (name : String) (service : ServiceConfig) :
    List Warning :=
  sortFunc compareKeys (serviceWarnings project name service)

def checkProjectWarnings (project : Project) : List Warning :=
  project.serviceNames.foldl
    (fun warnings name => warnings ++ checkServiceWarnings project name (project.service name)) []

end Compose
end Uncloud
