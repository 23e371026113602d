import Uncloud.Image.Cluster

/-! `image rm`, `image inspect` and `image tag`: what each prints, per image and per machine, and
the error it returns. The output is the list of strings printed, in order. A failure of one image
is printed and the loop goes on, so these commands fail only before their loop starts. -/
namespace Uncloud
namespace Image

/-- `removeOptions`: the flags of `rm`. -/
structure RemoveOptions where
  machines : List String := []
  force : Bool := false
  noPrune : Bool := false
  deriving DecidableEq, Repr

/-- `tagOptions`: the flags of `tag`. -/
structure TagOptions where
  machines : List String := []
  deriving DecidableEq, Repr

def removeResponseLines (allMachines : String → Option String) (img : String)
    (resp : RemoveImageResponse) : List String :=
  let machineName := machineName allMachines resp.metadata.machine
  if resp.metadata.error ≠ "" then ["[" ++ machineName ++ "] Error: " ++ resp.metadata.error ++ "\n"]
  else if resp.response.length = 0 then
    ["[" ++ machineName ++ "] Image '" ++ img ++ "' not found or not removed.\n"]
  else resp.response.flatMap fun item =>
    (if item.untagged ≠ "" then ["[" ++ machineName ++ "] Untagged: " ++ item.untagged ++ "\n"]
      else []) ++
    (if item.deleted ≠ "" then ["[" ++ machineName ++ "] Deleted: " ++ item.deleted ++ "\n"] else [])

def machineImageLines {ι : Type} (marshal : ι → Except String String)
    (allMachines : String → Option String) (header : String) (mi : MachineImage ι) :
    List String :=
  let machineName := machineName allMachines mi.metadata.machine
  (header ++ machineName ++ "\n") ::
    if mi.metadata.error ≠ "" then ["Error: " ++ mi.metadata.error ++ "\n"]
    else
      match marshal mi.image with
      | .error err => ["Error marshaling image info: " ++ err ++ "\n"]
      | .ok b => [b ++ "\n"]

section
variable {ι : Type} (expand : List String → List String)

/-- `remove`, the body of `rm`. -/
def remove (c : Cluster ι) (images : List String) (opts : RemoveOptions) :
    List String × Option String :=
  withMachines c fun allMachines =>
    let machines := expand opts.machines
    let removeOpts : ImageRemoveOptions := { force := opts.force, pruneChildren := !opts.noPrune }
    (images.flatMap fun img =>
      match c.removeImage img removeOpts machines with
      | .error err => ["Error removing image '" ++ img ++ "': " ++ err ++ "\n"]
      | .ok responses => responses.flatMap (removeResponseLines allMachines img), none)

/-- `inspect`; `marshal` is `json.MarshalIndent` with a four-space indent. An image the cluster
cannot inspect is looked up in its registry. -/
def inspect (marshal : ι → Except String String) (c : Cluster ι) (images : List String) :
    List String × Option String :=
  withMachines c fun allMachines =>
    (images.flatMap fun img =>
      match c.inspectImage img with
      | .ok machineImages =>
        machineImages.flatMap (machineImageLines marshal allMachines "Machine: ")
      | .error _ =>
        match c.inspectRemoteImage img with
        | .error err => ["Error inspecting image '" ++ img ++ "': " ++ err ++ "\n"]
        | .ok remoteImages =>
          remoteImages.flatMap (machineImageLines marshal allMachines "Machine (Remote Lookup): "),
      none)

def tag (c : Cluster ι) (source target : String) (opts : TagOptions) :
    List String × Option String :=
  match c.connect with
  | some err => ([], some ("connect to cluster: " ++ err))
  | none =>
    let machines := expand opts.machines
    match c.tagImage source target machines with
    | some err => ([], some ("tag image: " ++ err))
    | none => (["Tagged " ++ source ++ " as " ++ target ++ "\n"], none)

theorem withMachines_snd {c : Cluster ι}
    {k : (String → Option String) → List String × Option String} (hk : ∀ m, (k m).2 = none) :
    (withMachines c k).2 = sessionError c := by
  unfold withMachines sessionError
  rcases c.connect with _ | err
  · rcases c.listMachines with err | m
    · rfl
    · exact hk m
  · rfl

theorem machineImageLines_error (marshal : ι → Except String String)
    (allMachines : String → Option String) (header : String) {mi : MachineImage ι}
    (h : mi.metadata.error ≠ "") :
    "Error: " ++ mi.metadata.error ++ "\n" ∈ machineImageLines marshal allMachines header mi := by
  simp [machineImageLines, h]

/-- `inspect` looks an image up in the registry only when the cluster cannot inspect it: the
registry's answers for the images the cluster inspects never change what it prints or returns. -/
theorem inspect_registry_only_on_failure (marshal : ι → Except String String) (c : Cluster ι)
    (images : List String) (answer : String → Except String (List (MachineImage ι)))
    (h : ∀ img ∈ images, (∃ err, c.inspectImage img = .error err) →
      answer img = c.inspectRemoteImage img) :
    inspect marshal { c with inspectRemoteImage := answer } images = inspect marshal c images := by
  simp only [inspect, withMachines]
  rcases c.connect with _ | err
  · rcases c.listMachines with err | allMachines
    · rfl
    · refine congrArg (·, none) (List.flatMap_congr fun img himg => ?_)
      rcases hi : c.inspectImage img with err | machineImages
      · simp only [h img himg ⟨err, hi⟩]
      · rfl
  · rfl

end

theorem inspect_found_with_registry_down :
    let c : Cluster Unit := {
      connect := none, listMachines := .ok fun _ => none, pullImage := fun _ _ _ => .ok [],
      removeImage := fun _ _ _ => .ok [], pruneImages := fun _ _ => .ok [],
      tagImage := fun _ _ _ => none, inspectImage := fun _ => .ok [⟨⟨"m1", ""⟩, ()⟩],
      inspectRemoteImage := fun _ => .ok [] }
    (∀ img ∈ ["app"], (∃ err, c.inspectImage img = .error err) →
      (fun _ => .error "registry down") img = c.inspectRemoteImage img) ∧
    inspect (fun _ => .ok "image") { c with inspectRemoteImage := fun _ => .error "registry down" }
        ["app"] = inspect (fun _ => .ok "image") c ["app"] := by
  intro c
  have h : ∀ img ∈ ["app"], (∃ err, c.inspectImage img = .error err) →
      (fun _ => .error "registry down") img = c.inspectRemoteImage img := by
    rintro img - ⟨err, herr⟩
    cases herr
  exact ⟨h, inspect_registry_only_on_failure _ c ["app"] _ h⟩

end Image
end Uncloud
