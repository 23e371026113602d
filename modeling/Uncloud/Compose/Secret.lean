import Uncloud.Api.Secret

/-! Resolution of a service's compose secrets into secret specs and mounts
(`secretSpecsFromCompose`). The project's secret map is read by lookup and the file system by
`os.ReadFile`, both parameters; the path of a file-backed secret is built with the Unix `filepath`
of `Go.Filepath`. A Go result `(specs, mounts, err)` is a triple, so that the
all-or-nothing behaviour on errors is a statement about the code rather than about `Except`. -/
namespace Uncloud
namespace Compose

open Go Api

/-- compose-go's `SecretConfig`, the fields the resolver reads. -/
structure SecretConfig where
  file : String := ""
  content : String := ""
  external : Bool := false
  deriving DecidableEq, Repr

/-- compose-go's `ServiceSecretConfig`; `mode` is compose-go's int64 `FileMode`. -/
structure ServiceSecretConfig where
  source : String
  target : String := ""
  uid : String := ""
  gid : String := ""
  mode : Option Int := none
  deriving DecidableEq, Repr

/-- `types.Secrets`, read only by lookup. -/
abbrev Secrets := String → Option SecretConfig

/-- `os.ReadFile`: the bytes of a file, or the text of the error. -/
abbrev FileSystem := String → Except String (List UInt8)

/-- `[]byte(s)`, the UTF-8 encoding of a string. -/
def stringBytes (s : String) : List UInt8 := s.toUTF8.data.toList

inductive ResolveError
  | external (source : String)
  | readFile (file err : String)
  | notFound (source : String)
  deriving DecidableEq, Repr

def ResolveError.message : ResolveError → String
  | .external source => "external secrets are not supported: " ++ source
  | .readFile file err => "read secret from file '" ++ file ++ "': " ++ err
  | .notFound source => "secret '" ++ source ++ "' not found in project secrets"

section
variable (readFile : FileSystem) (secrets : Secrets) (workingDir : String)

def serviceSecretSpec (serviceSecret : ServiceSecretConfig) : Except ResolveError SecretSpec :=
  match secrets serviceSecret.source with
  | some projectSecret =>
    if projectSecret.external then .error (.external serviceSecret.source)
    else
      let spec : SecretSpec :=
        { name := serviceSecret.source, content := stringBytes projectSecret.content }
      if projectSecret.file ≠ "" then
        let secretPath := if isAbs projectSecret.file then projectSecret.file
          else join [workingDir, projectSecret.file]
        match readFile secretPath with
        | .error err => .error (.readFile projectSecret.file err)
        | .ok fileContent => .ok { spec with content := fileContent }
      else .ok spec
  | none => .error (.notFound serviceSecret.source)

def serviceSecretMount (serviceSecret : ServiceSecretConfig) (spec : SecretSpec) : SecretMount :=
  let target := if serviceSecret.target = "" then "/run/secrets/" ++ serviceSecret.source
    else serviceSecret.target
  { secretName := spec.name, containerPath := target, uid := serviceSecret.uid,
    gid := serviceSecret.gid, mode := serviceSecret.mode.map fileMode }

/-- The loop of `secretSpecsFromCompose` over the service secrets, with its two accumulators; the
first error returns at once. -/
def secretSpecsLoop (secretSpecs : List SecretSpec) (secretMounts : List SecretMount) :
    List ServiceSecretConfig → Except ResolveError (List SecretSpec × List SecretMount)
  | [] => .ok (secretSpecs, secretMounts)
  | serviceSecret :: serviceSecrets =>
    match serviceSecretSpec readFile secrets workingDir serviceSecret with
    | .error err => .error err
    | .ok spec => secretSpecsLoop (secretSpecs ++ [spec])
        (secretMounts ++ [serviceSecretMount serviceSecret spec]) serviceSecrets

end

def secretSpecsFromCompose (readFile : FileSystem) (secrets : Secrets)
    (serviceSecrets : List ServiceSecretConfig) (workingDir : String) :
    List SecretSpec × List SecretMount × Option ResolveError :=
  match secretSpecsLoop readFile secrets workingDir [] [] serviceSecrets with
  | .ok (secretSpecs, secretMounts) => (secretSpecs, secretMounts, none)
  | .error err => ([], [], some err)

def referenceFailure (readFile : FileSystem) (secrets : Secrets) (workingDir : String)
    (r : ServiceSecretConfig) : Option ResolveError :=
  match secrets r.source with
  | none => some (.notFound r.source)
  | some d =>
    if d.external then some (.external r.source)
    else if d.file = "" then none
    else match readFile (if isAbs d.file then d.file else join [workingDir, d.file]) with
      | .ok _ => none
      | .error err => some (.readFile d.file err)

section
variable {readFile : FileSystem} {secrets : Secrets} {workingDir : String}

theorem serviceSecretSpec_eq_error (r : ServiceSecretConfig) (e : ResolveError) :
    serviceSecretSpec readFile secrets workingDir r = .error e ↔
      referenceFailure readFile secrets workingDir r = some e := by
  unfold serviceSecretSpec referenceFailure
  rcases secrets r.source with _ | d
  · simp
  · by_cases hx : d.external
    · simp [hx]
    by_cases hf : d.file = ""
    · simp [hx, hf]
    · simp only [hx, hf, if_false, ne_eq, not_false_eq_true, if_true, Bool.false_eq_true]
      cases readFile (if isAbs d.file then d.file else join [workingDir, d.file]) <;> simp

theorem serviceSecretSpec_eq_ok {r : ServiceSecretConfig} {spec : SecretSpec}
    (h : serviceSecretSpec readFile secrets workingDir r = .ok spec) :
    spec.name = r.source ∧ ∃ d, secrets r.source = some d ∧
      (d.file ≠ "" → readFile (if isAbs d.file then d.file else join [workingDir, d.file]) =
        .ok spec.content) ∧
      (d.file = "" → spec.content = stringBytes d.content) := by
  unfold serviceSecretSpec at h
  rcases hd : secrets r.source with _ | d <;> rw [hd] at h
  · cases h
  · by_cases hx : d.external
    · simp [hx] at h
    by_cases hf : d.file = ""
    · simp only [hx, hf, Bool.false_eq_true, if_false, ne_eq, not_true_eq_false,
        Except.ok.injEq] at h
      subst h
      exact ⟨rfl, d, rfl, fun h => absurd hf h, fun _ => rfl⟩
    · simp only [hx, hf, Bool.false_eq_true, if_false, ne_eq, not_false_eq_true, if_true] at h
      split at h
      · cases h
      · rename_i content hread
        cases h
        exact ⟨rfl, d, rfl, fun _ => hread, fun h => absurd h hf⟩

theorem secretSpecsLoop_cases (secretSpecs : List SecretSpec) (secretMounts : List SecretMount)
    (serviceSecrets : List ServiceSecretConfig) :
    (∃ e, secretSpecsLoop readFile secrets workingDir secretSpecs secretMounts serviceSecrets =
        .error e ∧ serviceSecrets.findSome? (referenceFailure readFile secrets workingDir) = some e) ∨
    (serviceSecrets.findSome? (referenceFailure readFile secrets workingDir) = none ∧
      ∃ specs, List.Forall₂ (fun r s => serviceSecretSpec readFile secrets workingDir r = .ok s)
          serviceSecrets specs ∧
        secretSpecsLoop readFile secrets workingDir secretSpecs secretMounts serviceSecrets =
          .ok (secretSpecs ++ specs,
            secretMounts ++ List.zipWith serviceSecretMount serviceSecrets specs)) := by
  induction serviceSecrets generalizing secretSpecs secretMounts with
  | nil => exact .inr ⟨rfl, [], .nil, by simp [secretSpecsLoop]⟩
  | cons r rs ih =>
    rcases hr : serviceSecretSpec readFile secrets workingDir r with e | s
    · have hf := (serviceSecretSpec_eq_error r e).1 hr
      exact .inl ⟨e, by simp [secretSpecsLoop, hr], by simp [hf]⟩
    · have hf : referenceFailure readFile secrets workingDir r = none := by
        rcases hf : referenceFailure readFile secrets workingDir r with _ | e
        · rfl
        · cases hr.symm.trans ((serviceSecretSpec_eq_error r e).2 hf)
      rcases ih (secretSpecs ++ [s]) (secretMounts ++ [serviceSecretMount r s]) with
        ⟨e, hl, he⟩ | ⟨hn, specs, hs, hl⟩
      · exact .inl ⟨e, by simp [secretSpecsLoop, hr, hl], by simp [hf, he]⟩
      · exact .inr ⟨by simp [hf, hn], s :: specs, .cons hr hs, by simp [secretSpecsLoop, hr, hl]⟩

theorem map_name_eq_of_forall₂ {serviceSecrets : List ServiceSecretConfig}
    {specs : List SecretSpec}
    (h : List.Forall₂ (fun r s => s.name = r.source) serviceSecrets specs) :
    specs.map SecretSpec.name = serviceSecrets.map ServiceSecretConfig.source := by
  induction h with
  | nil => rfl
  | cons hs _ ih => simp [hs, ih]

theorem zipWith_serviceSecretMount {serviceSecrets : List ServiceSecretConfig}
    {specs : List SecretSpec}
    (h : List.Forall₂ (fun r s => s.name = r.source) serviceSecrets specs) :
    List.zipWith serviceSecretMount serviceSecrets specs =
      serviceSecrets.map fun r => serviceSecretMount r { name := r.source } := by
  induction h with
  | nil => rfl
  | cons hs _ ih => simp [ih, serviceSecretMount, hs]

theorem secretSpecsFromCompose_eq_ok {serviceSecrets : List ServiceSecretConfig}
    {specs : List SecretSpec} {mounts : List SecretMount}
    (h : secretSpecsFromCompose readFile secrets serviceSecrets workingDir = (specs, mounts, none)) :
    List.Forall₂ (fun r s => serviceSecretSpec readFile secrets workingDir r = .ok s)
        serviceSecrets specs ∧
      specs.map SecretSpec.name = serviceSecrets.map ServiceSecretConfig.source ∧
      mounts = serviceSecrets.map fun r => serviceSecretMount r { name := r.source } := by
  unfold secretSpecsFromCompose at h
  rcases @secretSpecsLoop_cases readFile secrets workingDir [] [] serviceSecrets with
    ⟨e, hl, -⟩ | ⟨-, specs', hs, hl⟩
  · simp [hl] at h
  · simp only [hl, List.nil_append, Prod.mk.injEq] at h
    obtain ⟨rfl, rfl, -⟩ := h
    have hn := hs.imp fun _ _ h => (serviceSecretSpec_eq_ok h).1
    exact ⟨hs, map_name_eq_of_forall₂ hn, zipWith_serviceSecretMount hn⟩

end

/-- `secretSpecsFromCompose` fails exactly when some reference fails, with the error of the first
failing one and no specs or mounts; otherwise it yields, in reference order, the spec and the mount
each reference describes. -/
theorem secretSpecsFromCompose_spec (readFile : FileSystem) (secrets : Secrets)
    (serviceSecrets : List ServiceSecretConfig) (workingDir : String) :
    let res := secretSpecsFromCompose readFile secrets serviceSecrets workingDir
    res.2.2 = serviceSecrets.findSome? (referenceFailure readFile secrets workingDir) ∧
    (res.2.2.isSome → res.1 = [] ∧ res.2.1 = []) ∧
    (res.2.2 = none →
      List.Forall₂ (fun r spec => spec.name = r.source ∧ ∃ d, secrets r.source = some d ∧
          (d.file ≠ "" → readFile (if isAbs d.file then d.file else join [workingDir, d.file]) =
            .ok spec.content) ∧
          (d.file = "" → spec.content = d.content.toUTF8.data.toList))
        serviceSecrets res.1 ∧
      List.Forall₂ (fun r mount =>
          mount.containerPath = (if r.target = "" then "/run/secrets/" ++ r.source else r.target) ∧
          mount.uid = r.uid ∧ mount.gid = r.gid ∧ (mount.mode = none ↔ r.mode = none))
        serviceSecrets res.2.1 ∧
      res.2.1.map SecretMount.secretName = res.1.map SecretSpec.name) := by
  intro res
  have hres : res = secretSpecsFromCompose readFile secrets serviceSecrets workingDir := rfl
  rcases @secretSpecsLoop_cases readFile secrets workingDir [] [] serviceSecrets with
    ⟨e, hl, he⟩ | ⟨hn, specs, -, hl⟩
  · have : res = ([], [], some e) := by simp [hres, secretSpecsFromCompose, hl]
    simp [this, he]
  · obtain ⟨hs, hnames, hmounts⟩ := @secretSpecsFromCompose_eq_ok readFile secrets workingDir
      serviceSecrets specs (List.zipWith serviceSecretMount serviceSecrets specs)
      (by simp [secretSpecsFromCompose, hl])
    have : res = (specs, List.zipWith serviceSecretMount serviceSecrets specs, none) := by
      simp [hres, secretSpecsFromCompose, hl]
    rw [this, hmounts]
    refine ⟨hn.symm, by simp, fun _ => ⟨hs.imp fun _ _ h => serviceSecretSpec_eq_ok h, ?_, ?_⟩⟩
    · rw [List.forall₂_map_right_iff, List.forall₂_same]
      intro r _
      simp [serviceSecretMount]
    · simp [hnames, serviceSecretMount]

/-- On success the spec names are the references' sources in order and each mount names the spec at
its index, so the names are distinct exactly when the sources are, and two references to one secret
make `ValidateSecretsAndMounts` fail. -/
theorem secretSpecsFromCompose_names {readFile : FileSystem} {secrets : Secrets}
    {serviceSecrets : List ServiceSecretConfig} {workingDir : String} {specs : List SecretSpec}
    {mounts : List SecretMount}
    (h : secretSpecsFromCompose readFile secrets serviceSecrets workingDir = (specs, mounts, none)) :
    specs.map SecretSpec.name = serviceSecrets.map ServiceSecretConfig.source ∧
    mounts.map SecretMount.secretName = specs.map SecretSpec.name ∧
    ((specs.map SecretSpec.name).Nodup ↔ (serviceSecrets.map ServiceSecretConfig.source).Nodup) ∧
    (∀ m ∈ mounts, m.secretName ∈ specs.map SecretSpec.name) ∧
    (¬ (serviceSecrets.map ServiceSecretConfig.source).Nodup →
      ∀ size os, validateSecretsAndMounts size os specs mounts ≠ .ok ()) := by
  obtain ⟨-, hn, rfl⟩ := secretSpecsFromCompose_eq_ok h
  refine ⟨hn, by simp [hn, serviceSecretMount], by rw [hn], ?_,
    fun hnd size os hv => hnd (hn ▸ ((validateSecretsAndMounts_eq_ok size os _ _).1 hv).2.1)⟩
  rw [hn]
  simp only [List.mem_map, forall_exists_index, and_imp, forall_apply_eq_imp_iff₂]
  exact fun r hr => ⟨r, hr, rfl⟩

theorem secretSpecsFromCompose_names_two_references :
    let secrets : Secrets := fun n =>
      if n = "db_password" then some { content := "s3cret" }
      else if n = "api_key" then some { file := "api.key" } else none
    let specs : List SecretSpec := [{ name := "db_password", content := stringBytes "s3cret" },
      { name := "api_key", content := [107] }]
    let mounts : List SecretMount :=
      [{ secretName := "db_password", containerPath := "/run/secrets/db_password" },
        { secretName := "api_key", containerPath := "/etc/api/key" }]
    secretSpecsFromCompose (fun _ => .ok [107]) secrets
        [{ source := "db_password" }, { source := "api_key", target := "/etc/api/key" }] "/srv" =
      (specs, mounts, none) ∧
    specs.map SecretSpec.name = ["db_password", "api_key"] ∧
    mounts.map SecretMount.secretName = specs.map SecretSpec.name := by
  intro secrets specs mounts
  have h : secretSpecsFromCompose (fun _ => .ok [107]) secrets
      [{ source := "db_password" }, { source := "api_key", target := "/etc/api/key" }] "/srv" =
      (specs, mounts, none) := by
    decide
  exact ⟨h, (secretSpecsFromCompose_names h).1, (secretSpecsFromCompose_names h).2.1⟩

theorem secretSpecsFromCompose_same_secret_twice :
    let res := secretSpecsFromCompose (fun _ => .error "no such file")
      (fun n => if n = "db_password" then some { content := "s3cret" } else none)
      [{ source := "db_password", target := "/run/secrets/db" },
        { source := "db_password", target := "/etc/db/password" }] "."
    res.2.2 = none ∧ ¬ (res.1.map SecretSpec.name).Nodup := by
  decide

end Compose
end Uncloud
