import Uncloud.Go.Platform
import Mathlib.Data.List.Nodup

/-! The secret objects of `pkg/api`: a `SecretSpec` names a secret and holds its content, a
`SecretMount` places one in a container. `ValidateSecretsAndMounts` is the cross-validator run before
a deploy: it checks each spec and each mount and that every mount refers to a spec by name.
Go's `int` width and the platform are parameters: the uid and gid range check depends on the one,
and the container path check, made with the host's `filepath.IsAbs`, on the other. -/
namespace Uncloud
namespace Api

open Go

/-- `SecretSpec`: a secret object that can be mounted into containers. -/
structure SecretSpec where
  name : String
  content : List UInt8 := []
  deriving DecidableEq, Repr

inductive SecretError
  | nameRequired
  deriving DecidableEq, Repr

def SecretError.message : SecretError → String
  | .nameRequired => "secret name is required"

def SecretSpec.validate (s : SecretSpec) : Except SecretError Unit :=
  if s.name = "" then .error .nameRequired else .ok ()

/-- `SecretSpec.Equals`; `bytes.Equal` treats a nil and an empty content alike, as lists do. -/
def SecretSpec.equals (s other : SecretSpec) : Bool :=
  s.name == other.name && s.content == other.content

theorem SecretSpec.equals_iff (s other : SecretSpec) : s.equals other ↔ s = other := by
  cases s; cases other; simp [SecretSpec.equals]

/-- `SecretMount`: how a secret is mounted into a container. `mode` is an `os.FileMode`. -/
structure SecretMount where
  secretName : String
  containerPath : String := ""
  uid : String := ""
  gid : String := ""
  mode : Option UInt32 := none
  deriving DecidableEq, Repr

inductive MountError
  | sourceRequired
  | invalidId (field value : String) (err : NumError)
  | valueTooHigh (field value : String)
  | pathNotAbsolute
  deriving DecidableEq, Repr

def MountError.message : MountError → String
  | .sourceRequired => "secret mount source is required"
  | .invalidId field value err =>
    "invalid " ++ field ++ " '" ++ value ++ "': strconv." ++ err.func ++ ": parsing " ++
      err.num.quote ++ ": " ++ err.err.message
  | .valueTooHigh field value => "invalid " ++ field ++ " '" ++ value ++ "': value too high"
  | .pathNotAbsolute => "container path must be absolute"

/-- The body shared by `GetNumericUid` and `GetNumericGid`, which differ only in the field they
read and the name their errors give it. -/
def getNumericId (size : IntSize) (field value : String) : Except MountError (Option Nat) :=
  if value = "" then .ok none
  else match parseUint value with
    | .error err => .error (.invalidId field value err)
    | .ok id => if toInt size id < 0 then .error (.valueTooHigh field value) else .ok (some id)

def SecretMount.getNumericUid (size : IntSize) (s : SecretMount) : Except MountError (Option Nat) :=
  getNumericId size "Uid" s.uid

def SecretMount.getNumericGid (size : IntSize) (s : SecretMount) : Except MountError (Option Nat) :=
  getNumericId size "Gid" s.gid

def SecretMount.validate (size : IntSize) (os : OS) (s : SecretMount) : Except MountError Unit := do
  if s.secretName = "" then throw .sourceRequired
  discard <| s.getNumericUid size
  discard <| s.getNumericGid size
  if s.containerPath ≠ "" ∧ !os.isAbs s.containerPath then throw .pathNotAbsolute

inductive ValidationError
  | invalidSecret (err : SecretError)
  | duplicateSecretName (name : String)
  | invalidSecretMount (err : MountError)
  | undefinedSecret (name : String)
  deriving DecidableEq, Repr

def ValidationError.message : ValidationError → String
  | .invalidSecret err => "invalid secret: " ++ err.message
  | .duplicateSecretName name => "duplicate secret name: '" ++ name ++ "'"
  | .invalidSecretMount err => "invalid secret mount: " ++ err.message
  | .undefinedSecret name =>
    "secret mount source '" ++ name ++ "' does not refer to any defined secret"

/-- The first loop of `ValidateSecretsAndMounts`, with `secretMap` as the names seen so far. -/
def collectSecrets (secretMap : List String) : List SecretSpec → Except ValidationError (List String)
  | [] => .ok secretMap
  | secret :: secrets =>
    match secret.validate with
    | .error err => .error (.invalidSecret err)
    | .ok () =>
      if secret.name ∈ secretMap then .error (.duplicateSecretName secret.name)
      else collectSecrets (secret.name :: secretMap) secrets

/-- The second loop of `ValidateSecretsAndMounts`. -/
def checkMounts (size : IntSize) (os : OS) (secretMap : List String) :
    List SecretMount → Except ValidationError Unit
  | [] => .ok ()
  | mount :: mounts =>
    match mount.validate size os with
    | .error err => .error (.invalidSecretMount err)
    | .ok () =>
      if mount.secretName ∈ secretMap then checkMounts size os secretMap mounts
      else .error (.undefinedSecret mount.secretName)

def validateSecretsAndMounts (size : IntSize) (os : OS) (secrets : List SecretSpec)
    (mounts : List SecretMount) : Except ValidationError Unit := do
  let secretMap ← collectSecrets [] secrets
  checkMounts size os secretMap mounts

/-! ## Uid and gid -/

theorem getNumericId_eq_ok (size : IntSize) (field value : String) (r : Option Nat) :
    getNumericId size field value = .ok r ↔
      (value = "" ∧ r = none) ∨
      (IsDecimal value ∧ digitsValue 0 value.data < 18446744073709551616 ∧
        digitsValue 0 value.data % size.modulus < size.half ∧
        r = some (digitsValue 0 value.data)) := by
  unfold getNumericId
  by_cases hv : value = ""
  · have hd : ¬ IsDecimal value := fun h => h.1 hv
    simp only [hv, if_true, Except.ok.injEq, true_and]
    exact ⟨fun h => .inl h.symm, fun h => h.elim Eq.symm (fun h' => absurd (hv ▸ h'.1) hd)⟩
  · cases hp : parseUint value with
    | error err =>
      have hbad : ¬ (IsDecimal value ∧ digitsValue 0 value.data < 18446744073709551616) :=
        fun ⟨hd, hlt⟩ => by simpa [hp] using (parseUint_eq_ok value _).2 ⟨hd, rfl, hlt⟩
      simp only [hv, if_false, false_and, false_or, reduceCtorEq, false_iff]
      exact fun ⟨hd, hlt, _⟩ => hbad ⟨hd, hlt⟩
    | ok id =>
      obtain ⟨hd, rfl, hlt⟩ := (parseUint_eq_ok value id).1 hp
      simp only [hv, hd, hlt, if_false, false_and, false_or, true_and, toInt_neg_iff]
      split_ifs <;> simp [eq_comm] <;> omega

/-- On a 64-bit platform the accepted ids are exactly the decimal strings up to `2^63 - 1`. -/
theorem getNumericId_w64_eq_ok (field value : String) (r : Option Nat) :
    getNumericId .w64 field value = .ok r ↔
      (value = "" ∧ r = none) ∨
      (IsDecimal value ∧ digitsValue 0 value.data ≤ 9223372036854775807 ∧
        r = some (digitsValue 0 value.data)) := by
  rw [getNumericId_eq_ok]
  simp only [IntSize.modulus, IntSize.half]
  constructor <;> rintro (h | ⟨hd, h⟩) <;> first | exact .inl h | right
  · exact ⟨hd, by rw [Nat.mod_eq_of_lt h.1] at h; omega, h.2.2⟩
  · exact ⟨hd, by omega, by rw [Nat.mod_eq_of_lt (by omega)]; omega, h.2⟩

/-- The errors of `GetNumericUid` and `GetNumericGid` on a non-empty value: the parse error of a
string `ParseUint` rejects, a range error when its leading digits already exceed `2^64 - 1`, or
"value too high" for a uint64 whose low bits read as a negative `int`. -/
theorem getNumericId_eq_error (size : IntSize) (field value : String) (e : MountError) :
    getNumericId size field value = .error e ↔ value ≠ "" ∧
      ((¬ (IsDecimal value ∧ digitsValue 0 value.data < 18446744073709551616) ∧
        e = .invalidId field value ⟨"ParseUint", value,
          if digitsValue 0 (value.data.takeWhile Char.isDigit) < 18446744073709551616
          then .invalid else .outOfRange⟩) ∨
       (IsDecimal value ∧ digitsValue 0 value.data < 18446744073709551616 ∧
        size.half ≤ digitsValue 0 value.data % size.modulus ∧ e = .valueTooHigh field value)) := by
  unfold getNumericId
  by_cases hv : value = ""
  · simp [hv]
  · rcases hp : parseUint value with err | id
    · obtain ⟨hbad, rfl⟩ := (parseUint_eq_error value err).1 hp
      simp only [hv, if_false, ne_eq, not_false_eq_true, true_and]
      constructor
      · intro h
        exact .inl ⟨hbad, (Except.error.inj h).symm⟩
      · rintro (⟨-, rfl⟩ | ⟨hd, hlt, -⟩)
        · rfl
        · exact absurd ⟨hd, hlt⟩ hbad
    · obtain ⟨hd, rfl, hlt⟩ := (parseUint_eq_ok value id).1 hp
      simp only [hv, if_false, ne_eq, not_false_eq_true, true_and, hd, hlt, and_true, not_true_eq_false,
        false_and, false_or, toInt_neg_iff]
      split_ifs with hneg
      · exact ⟨fun h => ⟨hneg, (Except.error.inj h).symm⟩, fun h => h.2 ▸ rfl⟩
      · exact ⟨fun h => (nomatch h), fun h => absurd h.1 hneg⟩
theorem getNumericId_error_message {size : IntSize} {field value : String} {e : MountError}
    (h : getNumericId size field value = .error e) :
    ∃ rest, e.message = "invalid " ++ field ++ " '" ++ value ++ "': " ++ rest := by
  unfold getNumericId at h
  split_ifs at h
  split at h
  · obtain rfl := Except.error.inj h
    exact ⟨_, by simp only [MountError.message, String.append_assoc]; rfl⟩
  · split_ifs at h
    obtain rfl := Except.error.inj h
    exact ⟨"value too high", by simp only [MountError.message, String.append_assoc]; rfl⟩

/-- On a 32-bit platform `int(uid)` keeps only the low 32 bits of `2^32`, so the range check passes a
uid that does not fit in an `int`. -/
theorem getNumericUid_w32_accepts_two_pow_32 :
    SecretMount.getNumericUid .w32 { secretName := "app-secret", uid := "4294967296" } =
      .ok (some 4294967296) := by
  decide

/-! ## Validation -/

theorem SecretMount.validate_eq_ok (size : IntSize) (os : OS) (m : SecretMount) :
    m.validate size os = .ok () ↔
      m.secretName ≠ "" ∧ (∃ v, m.getNumericUid size = .ok v) ∧
        (∃ v, m.getNumericGid size = .ok v) ∧
        (m.containerPath = "" ∨ os.isAbs m.containerPath) := by
  unfold SecretMount.validate
  by_cases hn : m.secretName = "" <;> cases m.getNumericUid size <;> cases m.getNumericGid size <;>
    by_cases hp : m.containerPath = "" <;>
    simp [hn, hp, discard, Functor.mapConst, Except.map, throw, throwThe, MonadExceptOf.throw, bind,
      Except.bind, pure, Except.pure]

theorem SecretMount.validate_eq_error (size : IntSize) (os : OS) (m : SecretMount)
    (e : MountError) :
    m.validate size os = .error e ↔
      (m.secretName = "" ∧ e = .sourceRequired) ∨
      (m.secretName ≠ "" ∧ m.getNumericUid size = .error e) ∨
      (m.secretName ≠ "" ∧ (∃ v, m.getNumericUid size = .ok v) ∧ m.getNumericGid size = .error e) ∨
      (m.secretName ≠ "" ∧ (∃ v, m.getNumericUid size = .ok v) ∧
        (∃ v, m.getNumericGid size = .ok v) ∧ m.containerPath ≠ "" ∧
        os.isAbs m.containerPath = false ∧ e = .pathNotAbsolute) := by
  unfold SecretMount.validate
  by_cases hn : m.secretName = "" <;> cases m.getNumericUid size <;> cases m.getNumericGid size <;>
    by_cases hp : m.containerPath = "" <;> cases ha : os.isAbs m.containerPath <;>
    simp [hn, hp, ha, discard, Functor.mapConst, Except.map, throw, throwThe, MonadExceptOf.throw,
      bind, Except.bind, pure, Except.pure] <;> exact eq_comm

theorem collectSecrets_eq_ok (secretMap : List String) (secrets : List SecretSpec)
    (r : List String) :
    collectSecrets secretMap secrets = .ok r ↔
      (∀ s ∈ secrets, s.name ≠ "") ∧ (secrets.map SecretSpec.name).Nodup ∧
        (∀ s ∈ secrets, s.name ∉ secretMap) ∧ r = (secrets.map SecretSpec.name).reverse ++ secretMap := by
  induction secrets generalizing secretMap with
  | nil => simp [collectSecrets, eq_comm]
  | cons s secrets ih =>
    by_cases hn : s.name = ""
    · simp [collectSecrets, SecretSpec.validate, hn]
    by_cases hm : s.name ∈ secretMap
    · simp [collectSecrets, SecretSpec.validate, hn, hm]
    simp only [collectSecrets, SecretSpec.validate, hn, hm, if_false, ih]
    simp only [List.mem_cons, List.map_cons, List.nodup_cons, List.mem_map, forall_eq_or_imp,
      List.reverse_cons, List.append_assoc, List.singleton_append, not_or]
    constructor
    · rintro ⟨hne, hnd, hdisj, rfl⟩
      exact ⟨⟨hn, hne⟩, ⟨fun ⟨t, ht, he⟩ => (hdisj t ht).1 he, hnd⟩, ⟨hm, fun t ht => (hdisj t ht).2⟩, rfl⟩
    · rintro ⟨⟨-, hne⟩, ⟨hs, hnd⟩, ⟨-, hdisj⟩, rfl⟩
      exact ⟨hne, hnd, fun t ht => ⟨fun he => hs ⟨t, ht, he⟩, hdisj t ht⟩, rfl⟩

theorem collectSecrets_eq_error (secretMap : List String) (pre : List SecretSpec) (s : SecretSpec)
    (post : List SecretSpec) (hpre : ∀ t ∈ pre, t.name ≠ "") (hnd : (pre.map SecretSpec.name).Nodup)
    (hdisj : ∀ t ∈ pre, t.name ∉ secretMap)
    (hbad : s.name = "" ∨ s.name ∈ secretMap ∨ s.name ∈ pre.map SecretSpec.name) :
    collectSecrets secretMap (pre ++ s :: post) =
      .error (if s.name = "" then .invalidSecret .nameRequired else .duplicateSecretName s.name) := by
  induction pre generalizing secretMap with
  | nil =>
    by_cases hn : s.name = ""
    · simp [collectSecrets, SecretSpec.validate, hn]
    · have hm : s.name ∈ secretMap := by simpa [hn] using hbad
      simp [collectSecrets, SecretSpec.validate, hn, hm]
  | cons t pre ih =>
    simp only [List.mem_cons, forall_eq_or_imp, List.map_cons, List.nodup_cons] at hpre hnd hdisj
    simp only [List.cons_append, collectSecrets, SecretSpec.validate, hpre.1, hdisj.1, if_false]
    refine ih _ hpre.2 hnd.2 (fun u hu hm => ?_) ?_
    · rcases List.mem_cons.1 hm with he | hm
      · exact hnd.1 (List.mem_map.2 ⟨u, hu, he⟩)
      · exact hdisj.2 u hu hm
    · simp only [List.map_cons, List.mem_cons] at hbad
      rcases hbad with h | h | h | h
      · exact .inl h
      · exact .inr (.inl (List.mem_cons_of_mem _ h))
      · exact .inr (.inl (h ▸ List.mem_cons_self _ _))
      · exact .inr (.inr h)

theorem checkMounts_eq_ok (size : IntSize) (os : OS) (secretMap : List String)
    (mounts : List SecretMount) :
    checkMounts size os secretMap mounts = .ok () ↔
      ∀ m ∈ mounts, m.validate size os = .ok () ∧ m.secretName ∈ secretMap := by
  induction mounts with
  | nil => simp [checkMounts]
  | cons m mounts ih =>
    rcases hv : m.validate size os with err | ⟨⟩
    · simp [checkMounts, hv]
    · by_cases hm : m.secretName ∈ secretMap <;> simp [checkMounts, hv, hm, ih]

theorem checkMounts_eq_error (size : IntSize) (os : OS) (secretMap : List String)
    (pre : List SecretMount) (m : SecretMount) (post : List SecretMount)
    (hpre : ∀ n ∈ pre, n.validate size os = .ok () ∧ n.secretName ∈ secretMap)
    (hbad : m.validate size os ≠ .ok () ∨ m.secretName ∉ secretMap) :
    checkMounts size os secretMap (pre ++ m :: post) =
      match m.validate size os with
      | .error err => .error (.invalidSecretMount err)
      | .ok () => .error (.undefinedSecret m.secretName) := by
  induction pre with
  | nil =>
    rcases hv : m.validate size os with err | ⟨⟩
    · simp [checkMounts, hv]
    · have hm : m.secretName ∉ secretMap := hbad.resolve_left (by simp [hv])
      simp [checkMounts, hv, hm]
  | cons n pre ih =>
    obtain ⟨⟨hv, hm⟩, hpre⟩ := List.forall_mem_cons.1 hpre
    rw [List.cons_append, checkMounts, hv]
    simp only [hm, if_true]
    exact ih hpre

theorem validateSecretsAndMounts_eq_ok (size : IntSize) (os : OS) (secrets : List SecretSpec)
    (mounts : List SecretMount) :
    validateSecretsAndMounts size os secrets mounts = .ok () ↔
      (∀ s ∈ secrets, s.name ≠ "") ∧ (secrets.map SecretSpec.name).Nodup ∧
      ∀ m ∈ mounts, m.secretName ≠ "" ∧ m.secretName ∈ secrets.map SecretSpec.name ∧
        (m.containerPath = "" ∨ os.isAbs m.containerPath) ∧
        (∃ v, m.getNumericUid size = .ok v) ∧ (∃ v, m.getNumericGid size = .ok v) := by
  simp only [validateSecretsAndMounts, except_bind_eq_ok, collectSecrets_eq_ok, checkMounts_eq_ok,
    SecretMount.validate_eq_ok]
  constructor
  · rintro ⟨r, ⟨hne, hnd, -, rfl⟩, hm⟩
    exact ⟨hne, hnd, fun m hmem => by
      obtain ⟨⟨h1, h2, h3, h4⟩, h5⟩ := hm m hmem
      exact ⟨h1, by simpa using h5, h4, h2, h3⟩⟩
  · rintro ⟨hne, hnd, hm⟩
    refine ⟨_, ⟨hne, hnd, by simp, rfl⟩, fun m hmem => ?_⟩
    obtain ⟨h1, h5, h4, h2, h3⟩ := hm m hmem
    exact ⟨⟨h1, h2, h3, h4⟩, by simpa using h5⟩

theorem validateSecretsAndMounts_perm (size : IntSize) (os : OS)
    {secrets secrets' : List SecretSpec} {mounts mounts' : List SecretMount} (hs : secrets'.Perm secrets) (hm : mounts'.Perm mounts) :
    validateSecretsAndMounts size os secrets' mounts' = .ok () ↔
      validateSecretsAndMounts size os secrets mounts = .ok () := by
  simp only [validateSecretsAndMounts_eq_ok, hs.mem_iff, hm.mem_iff,
    (hs.map SecretSpec.name).nodup_iff, (hs.map SecretSpec.name).mem_iff]

theorem validateSecretsAndMounts_map_mode (size : IntSize) (os : OS) (secrets : List SecretSpec)
    (mounts : List SecretMount) (f : SecretMount → Option UInt32) :
    validateSecretsAndMounts size os secrets (mounts.map fun m => { m with mode := f m }) =
      validateSecretsAndMounts size os secrets mounts := by
  have hloop : ∀ secretMap,
      checkMounts size os secretMap (mounts.map fun m => { m with mode := f m }) =
        checkMounts size os secretMap mounts := by
    intro secretMap
    induction mounts with
    | nil => rfl
    | cons m mounts ih => simp only [List.map_cons, checkMounts, ih]; rfl
  simp only [validateSecretsAndMounts, hloop]

/-- Validation never reads a spec's content: it is referential and syntactic. -/
theorem validateSecretsAndMounts_map_content (size : IntSize) (os : OS) (secrets : List SecretSpec)
    (mounts : List SecretMount) (f : SecretSpec → List UInt8) :
    validateSecretsAndMounts size os (secrets.map fun s => { s with content := f s }) mounts =
      validateSecretsAndMounts size os secrets mounts := by
  have hloop : ∀ secretMap, collectSecrets secretMap (secrets.map fun s => { s with content := f s }) =
      collectSecrets secretMap secrets := by
    induction secrets with
    | nil => exact fun _ => rfl
    | cons s secrets ih => exact fun secretMap => by simp only [List.map_cons, collectSecrets, ih]; rfl
  simp only [validateSecretsAndMounts, hloop]

/-- `ValidateSecretsAndMounts` as a whole: what it accepts, the error of its first failing spec, and
that neither list's order changes the verdict. -/
theorem validateSecretsAndMounts_spec (size : IntSize) (os : OS) (secrets : List SecretSpec)
    (mounts : List SecretMount) :
    (validateSecretsAndMounts size os secrets mounts = .ok () ↔
      (∀ s ∈ secrets, s.name ≠ "") ∧ (secrets.map SecretSpec.name).Nodup ∧
      ∀ m ∈ mounts, m.secretName ≠ "" ∧ m.secretName ∈ secrets.map SecretSpec.name ∧
        (m.containerPath = "" ∨ os.isAbs m.containerPath) ∧
        (∃ v, m.getNumericUid size = .ok v) ∧ (∃ v, m.getNumericGid size = .ok v)) ∧
    (∀ pre s post, secrets = pre ++ s :: post → (∀ t ∈ pre, t.name ≠ "") →
      (pre.map SecretSpec.name).Nodup → (s.name = "" ∨ s.name ∈ pre.map SecretSpec.name) →
      validateSecretsAndMounts size os secrets mounts =
        .error (if s.name = "" then .invalidSecret .nameRequired else .duplicateSecretName s.name)) ∧
    (∀ secrets' mounts', secrets'.Perm secrets → mounts'.Perm mounts →
      (validateSecretsAndMounts size os secrets' mounts' = .ok () ↔
        validateSecretsAndMounts size os secrets mounts = .ok ())) := by
  refine ⟨validateSecretsAndMounts_eq_ok size os secrets mounts, ?_,
    fun _ _ hs hm => validateSecretsAndMounts_perm size os hs hm⟩
  rintro pre s post rfl hpre hnd hbad
  have herr := collectSecrets_eq_error [] pre s post hpre hnd (by simp)
    (by simpa using hbad)
  simp only [validateSecretsAndMounts, herr]
  rfl

/-- When the specs are valid, `ValidateSecretsAndMounts` reports the first mount that fails: the
error of that mount's first failing check, or that its source names no spec. -/
theorem validateSecretsAndMounts_first_bad_mount (size : IntSize) (os : OS)
    {secrets : List SecretSpec} {pre : List SecretMount} {m : SecretMount} {post : List SecretMount}
    (hs : ∀ s ∈ secrets, s.name ≠ "") (hnd : (secrets.map SecretSpec.name).Nodup)
    (hpre : ∀ n ∈ pre, n.validate size os = .ok () ∧
      n.secretName ∈ secrets.map SecretSpec.name)
    (hbad : m.validate size os ≠ .ok () ∨ m.secretName ∉ secrets.map SecretSpec.name) :
    validateSecretsAndMounts size os secrets (pre ++ m :: post) =
      match m.validate size os with
      | .error err => .error (.invalidSecretMount err)
      | .ok () => .error (.undefinedSecret m.secretName) := by
  have hc : collectSecrets [] secrets = .ok ((secrets.map SecretSpec.name).reverse ++ []) :=
    (collectSecrets_eq_ok [] secrets _).2 ⟨hs, hnd, by simp, rfl⟩
  simp only [List.append_nil] at hc
  simp only [validateSecretsAndMounts, hc, bind, Except.bind]
  exact checkMounts_eq_error size os _ pre m post (by simpa using hpre) (by simpa using hbad)

theorem validateSecretsAndMounts_bad_uid_after_valid_mount :
    let secrets : List SecretSpec := [{ name := "db" }]
    let ok : SecretMount := { secretName := "db", containerPath := "/run/secrets/db" }
    let bad : SecretMount := { secretName := "db", uid := "abc" }
    ((∀ s ∈ secrets, s.name ≠ "") ∧ (secrets.map SecretSpec.name).Nodup ∧
      (∀ n ∈ [ok], n.validate .w64 .unix = .ok () ∧ n.secretName ∈ secrets.map SecretSpec.name) ∧
      (bad.validate .w64 .unix ≠ .ok () ∨ bad.secretName ∉ secrets.map SecretSpec.name)) ∧
    validateSecretsAndMounts .w64 .unix secrets ([ok] ++ bad :: [ok]) =
      .error (.invalidSecretMount (.invalidId "Uid" "abc" ⟨"ParseUint", "abc", .invalid⟩)) := by
  intro secrets ok bad
  have h : (∀ s ∈ secrets, s.name ≠ "") ∧ (secrets.map SecretSpec.name).Nodup ∧
      (∀ n ∈ [ok], n.validate .w64 .unix = .ok () ∧ n.secretName ∈ secrets.map SecretSpec.name) ∧
      (bad.validate .w64 .unix ≠ .ok () ∨ bad.secretName ∉ secrets.map SecretSpec.name) := by
    decide
  exact ⟨h, (validateSecretsAndMounts_first_bad_mount .w64 .unix h.1 h.2.1 h.2.2.1 h.2.2.2).trans
    (by decide)⟩

end Api
end Uncloud
