import Uncloud.Compose.Secret

/-! The resolver followed by the cross-validator, as the deploy pipeline runs them: which reference
lists `ValidateSecretsAndMounts` accepts once `secretSpecsFromCompose` has succeeded, and what the
produced mounts look like to the validator (their modes and their default paths). -/
namespace Uncloud
namespace Compose

open Go Api

theorem getNumericId_empty (size : IntSize) (field : String) :
    getNumericId size field "" = .ok none := rfl

theorem serviceSecretMount_checks_iff (size : IntSize) (os : OS) (r : ServiceSecretConfig) :
    let m := serviceSecretMount r { name := r.source }
    ((m.containerPath = "" ∨ os.isAbs m.containerPath) ∧ (∃ v, m.getNumericUid size = .ok v) ∧
        (∃ v, m.getNumericGid size = .ok v)) ↔
      ((r.target ≠ "" → os.isAbs r.target) ∧ (r.target = "" → os = .unix) ∧
        (r.uid ≠ "" → ∃ v, getNumericId size "Uid" r.uid = .ok v) ∧
        (r.gid ≠ "" → ∃ v, getNumericId size "Gid" r.gid = .ok v)) := by
  have hdefault : ("/run/secrets/" ++ r.source = "" ∨ os.isAbs ("/run/secrets/" ++ r.source)) ↔
      os = .unix := by
    rw [or_iff_right (ne_empty_of_isAbs (@isAbs_append_of_isAbs "/run/secrets/" r.source rfl))]
    exact OS.isAbs_run_secrets_append os r.source
  have hid : ∀ field value, (value ≠ "" → ∃ v, getNumericId size field value = .ok v) ↔
      ∃ v, getNumericId size field value = .ok v := fun field value => by
    by_cases hv : value = ""
    · simp [hv, getNumericId_empty]
    · simp [hv]
  simp only [serviceSecretMount, SecretMount.getNumericUid, SecretMount.getNumericGid, hid]
  by_cases ht : r.target = "" <;> simp [ht, hdefault]

/-- A produced mount's mode is its reference's mode truncated to the 32 bits of `os.FileMode`, and
validation accepts or rejects whatever the modes are. -/
theorem secretSpecsFromCompose_mode (size : IntSize) {readFile : FileSystem} {secrets : Secrets}
    {serviceSecrets : List ServiceSecretConfig} {workingDir : String} {specs : List SecretSpec}
    {mounts : List SecretMount}
    (h : secretSpecsFromCompose readFile secrets serviceSecrets workingDir = (specs, mounts, none)) :
    List.Forall₂ (fun r m => m.mode.map (fun x => (x.toNat : Int)) = r.mode.map (· % 4294967296))
      serviceSecrets mounts ∧
    ∀ (os : OS) (f : SecretMount → Option UInt32),
      validateSecretsAndMounts size os specs (mounts.map fun m => { m with mode := f m }) =
        validateSecretsAndMounts size os specs mounts := by
  obtain ⟨-, -, rfl⟩ := secretSpecsFromCompose_eq_ok h
  refine ⟨?_, fun os => validateSecretsAndMounts_map_mode size os specs _⟩
  rw [List.forall₂_map_right_iff, List.forall₂_same]
  intro r _
  rcases hm : r.mode with _ | m <;> simp [serviceSecretMount, hm, fileMode_toNat]

theorem secretSpecsFromCompose_mode_0400 :
    List.Forall₂ (fun (r : ServiceSecretConfig) (m : SecretMount) =>
        m.mode.map (fun x => (x.toNat : Int)) = r.mode.map (· % 4294967296))
      [{ source := "db_password", mode := some 256 }]
      [{ secretName := "db_password", containerPath := "/run/secrets/db_password",
         mode := some 256 }] :=
  (@secretSpecsFromCompose_mode .w64 (fun _ => .error "no such file")
    (fun n => if n = "db_password" then some { content := "s3cret" } else none)
    [{ source := "db_password", mode := some 256 }] "."
    [{ name := "db_password", content := stringBytes "s3cret" }] _ (by decide)).1

theorem secretSpecsFromCompose_mode_wraps :
    let res := secretSpecsFromCompose (fun _ => .error "no such file")
      (fun n => if n = "db_password" then some { content := "s3cret" } else none)
      [{ source := "db_password", mode := some 4294967552 }] "."
    res.2.2 = none ∧ validateSecretsAndMounts .w64 .unix res.1 res.2.1 = .ok () ∧
      res.2.1.map (fun m => m.mode.map UInt32.toNat) = [some 256] := by
  decide

/-! ## Default mount paths -/

def IsSecretName (name : String) : Prop :=
  name ≠ "" ∧ ∀ c ∈ name.data, c.isAlphanum ∨ c = '.' ∨ c = '_' ∨ c = '-'

instance (name : String) : Decidable (IsSecretName name) :=
  inferInstanceAs (Decidable (_ ∧ _))

def IsStrictlyInside (dir path : String) : Prop := ∃ rest, rest ≠ "" ∧ path = dir ++ "/" ++ rest

theorem not_mem_slash_of_isSecretName {name : String} (h : IsSecretName name) : '/' ∉ name.data :=
  fun hm => by rcases h.2 '/' hm with h | h | h | h <;> revert h <;> decide

theorem not_isStrictlyInside_of_length_le {dir path : String} (h : path.length ≤ dir.length) :
    ¬ IsStrictlyInside dir path := by
  rintro ⟨rest, hne, rfl⟩
  have : 0 < rest.length := by
    rcases rest with ⟨_ | _⟩
    · exact absurd rfl hne
    · simp [String.length]
  simp only [String.length_append] at h
  omega

end Compose
end Uncloud
