import Uncloud.Compose.Secret

/-!
# Secret sources

The design the resolver implements, with the source of a secret made explicit: a project secret is
external, backed by a file, or inline bytes, and a service's references are resolved by reading
each one's source in order, all of them or none. The resolver infers the source from which fields
of the definition are set, the external flag first and then a non-empty `file` over any inline
content; here that inference is `SecretConfig.secretSource`, and the resolver's loop, with its two
accumulators and its early return, is shown to compute the abstract resolution.
-/

namespace Uncloud
namespace Compose

open Go Api

/-- Where a project secret's bytes come from. A file-backed source names a non-empty path, so no
value of this type is ambiguous. -/
inductive SecretSource
  | external
  | fileBacked (path : String) (nonempty : path ≠ "")
  | inline (bytes : List UInt8)
  deriving DecidableEq

def SecretConfig.secretSource (d : SecretConfig) : SecretSource :=
  if d.external then .external
  else if h : d.file ≠ "" then .fileBacked d.file h
  else .inline (stringBytes d.content)

def secretSources (secrets : Secrets) (name : String) : Option SecretSource :=
  (secrets name).map SecretConfig.secretSource

section
variable (readFile : FileSystem) (workingDir : String)

def SecretSource.read (name : String) : SecretSource → Except ResolveError (List UInt8)
  | .external => .error (.external name)
  | .fileBacked path _ =>
    (readFile (if isAbs path then path else join [workingDir, path])).mapError (.readFile path)
  | .inline bytes => .ok bytes

def resolveReference (sources : String → Option SecretSource) (r : ServiceSecretConfig) :
    Except ResolveError SecretSpec :=
  match sources r.source with
  | none => .error (.notFound r.source)
  | some s => (s.read readFile workingDir r.source).map fun content => { name := r.source, content }

def resolveAll (sources : String → Option SecretSource) :
    List ServiceSecretConfig → Except ResolveError (List (SecretSpec × SecretMount))
  | [] => .ok []
  | r :: rs =>
    (resolveReference readFile workingDir sources r).bind fun spec =>
      (resolveAll sources rs).map ((spec, serviceSecretMount r spec) :: ·)

end

def goResult : Except ResolveError (List (SecretSpec × SecretMount)) →
    List SecretSpec × List SecretMount × Option ResolveError
  | .ok pairs => (pairs.map Prod.fst, pairs.map Prod.snd, none)
  | .error e => ([], [], some e)

section
variable {readFile : FileSystem} {workingDir : String}

theorem serviceSecretSpec_eq_resolveReference (secrets : Secrets) (r : ServiceSecretConfig) :
    serviceSecretSpec readFile secrets workingDir r =
      resolveReference readFile workingDir (secretSources secrets) r := by
  unfold serviceSecretSpec resolveReference secretSources
  rcases secrets r.source with _ | d
  · rfl
  · by_cases hx : d.external
    · simp [SecretConfig.secretSource, SecretSource.read, Except.map, hx]
    by_cases hf : d.file = ""
    · simp [SecretConfig.secretSource, SecretSource.read, Except.map, hx, hf]
    · simp only [Option.map_some', SecretConfig.secretSource, hx, hf, Bool.false_eq_true, if_false,
        ne_eq, not_false_eq_true, if_true, dif_pos, SecretSource.read]
      cases readFile (if isAbs d.file then d.file else join [workingDir, d.file]) <;> rfl

theorem secretSpecsLoop_eq_resolveAll (secrets : Secrets) (secretSpecs : List SecretSpec)
    (secretMounts : List SecretMount) (serviceSecrets : List ServiceSecretConfig) :
    secretSpecsLoop readFile secrets workingDir secretSpecs secretMounts serviceSecrets =
      (resolveAll readFile workingDir (secretSources secrets) serviceSecrets).map fun pairs =>
        (secretSpecs ++ pairs.map Prod.fst, secretMounts ++ pairs.map Prod.snd) := by
  induction serviceSecrets generalizing secretSpecs secretMounts with
  | nil => simp [secretSpecsLoop, resolveAll, Except.map]
  | cons r rs ih =>
    rw [secretSpecsLoop, resolveAll, serviceSecretSpec_eq_resolveReference]
    rcases resolveReference readFile workingDir (secretSources secrets) r with e | spec
    · rfl
    · simp only [ih, Except.bind]
      rcases resolveAll readFile workingDir (secretSources secrets) rs with e | pairs
      · rfl
      · simp [Except.map]

theorem resolveAll_congr {sources sources' : String → Option SecretSource}
    {serviceSecrets : List ServiceSecretConfig}
    (h : ∀ r ∈ serviceSecrets, sources r.source = sources' r.source) :
    resolveAll readFile workingDir sources serviceSecrets =
      resolveAll readFile workingDir sources' serviceSecrets := by
  induction serviceSecrets with
  | nil => rfl
  | cons r rs ih =>
    obtain ⟨hr, hrs⟩ := List.forall_mem_cons.1 h
    rw [resolveAll, resolveAll, ih hrs, resolveReference, resolveReference, hr]

end

/-- The resolver is the abstract design: each referenced secret's tagged source is read in order,
and the result is every spec with its mount, or the first failure with nothing. -/
theorem secretSpecsFromCompose_refines (readFile : FileSystem) (secrets : Secrets)
    (serviceSecrets : List ServiceSecretConfig) (workingDir : String) :
    secretSpecsFromCompose readFile secrets serviceSecrets workingDir =
      goResult (resolveAll readFile workingDir (secretSources secrets) serviceSecrets) := by
  rw [secretSpecsFromCompose, secretSpecsLoop_eq_resolveAll]
  rcases resolveAll readFile workingDir (secretSources secrets) serviceSecrets with e | pairs <;> rfl

/-- Two projects whose referenced secrets have the same sources resolve alike: in particular the
inline content of a secret that names a file is never read. -/
theorem secretSpecsFromCompose_eq_of_sources (readFile : FileSystem) {secrets secrets' : Secrets}
    {serviceSecrets : List ServiceSecretConfig} (workingDir : String)
    (h : ∀ r ∈ serviceSecrets, secretSources secrets r.source = secretSources secrets' r.source) :
    secretSpecsFromCompose readFile secrets serviceSecrets workingDir =
      secretSpecsFromCompose readFile secrets' serviceSecrets workingDir := by
  rw [secretSpecsFromCompose, secretSpecsFromCompose, secretSpecsLoop_eq_resolveAll,
    secretSpecsLoop_eq_resolveAll, resolveAll_congr h]

theorem secretSpecsFromCompose_file_over_content :
    (∀ r ∈ [({ source := "db" } : ServiceSecretConfig)],
      secretSources (fun n => if n = "db" then some { file := "db.txt", content := "inline" }
        else none) r.source =
      secretSources (fun n => if n = "db" then some { file := "db.txt" } else none) r.source) ∧
    secretSpecsFromCompose (fun _ => .ok [1]) (fun n => if n = "db" then
        some { file := "db.txt", content := "inline" } else none) [{ source := "db" }] "/srv" =
      secretSpecsFromCompose (fun _ => .ok [1]) (fun n => if n = "db" then some { file := "db.txt" }
        else none) [{ source := "db" }] "/srv" := by
  have h : ∀ r ∈ [({ source := "db" } : ServiceSecretConfig)],
      secretSources (fun n => if n = "db" then some { file := "db.txt", content := "inline" }
        else none) r.source =
      secretSources (fun n => if n = "db" then some { file := "db.txt" } else none) r.source := by
    decide
  exact ⟨h, secretSpecsFromCompose_eq_of_sources _ _ h⟩

end Compose
end Uncloud
