import Uncloud.Compose.Warnings

/-! What the scanner promises about its output: a service's block holds exactly the warnings of the
blocks that fire, each once, sorted by key, and the project's warnings are the services' blocks in
`ServiceNames` order. The proofs rest on the catalogue's keys being distinct and on `SortFunc`
returning a sorted permutation. -/
namespace Uncloud
namespace Compose

section
variable {α : Type}

theorem mem_runChecks {checks : List (Check α)} {n : String} {x : α} {w : Warning} :
    w ∈ runChecks checks n x ↔ ∃ c ∈ checks, c.fires x ∧ c.warning n = w := by
  simp [runChecks]

theorem runChecks_keys_sublist (checks : List (Check α)) (n : String) (x : α) :
    ((runChecks checks n x).map Warning.key).Sublist (checks.map Check.key) := by
  induction checks with
  | nil => simp [runChecks]
  | cons c cs ih =>
    by_cases h : c.fires x
    · simpa [runChecks, h, Check.warning] using ih
    · simpa [runChecks, h] using ih.cons c.key

theorem runChecks_congr {checks : List (Check α)} {x y : α}
    (h : ∀ c ∈ checks, c.fires x = c.fires y) (n : String) :
    runChecks checks n x = runChecks checks n y :=
  List.filterMap_congr fun c hc => by simp [h c hc]

theorem runChecks_eq_nil_iff {checks : List (Check α)} {n : String} {x : α} :
    runChecks checks n x = [] ↔ ∀ c ∈ checks, c.fires x = false := by
  simp [runChecks]

theorem key_mem_runChecks_iff {checks : List (Check α)} {c : Check α} (hc : c ∈ checks)
    (hnd : (checks.map Check.key).Nodup) (n : String) (x : α) :
    c.key ∈ (runChecks checks n x).map Warning.key ↔ c.fires x := by
  simp only [List.mem_map, mem_runChecks]
  constructor
  · rintro ⟨w, ⟨c', hc', hf, rfl⟩, hk⟩
    rwa [← List.inj_on_of_nodup_map hnd hc' hc hk]
  · exact fun hf => ⟨_, ⟨c, hc, hf, rfl⟩, rfl⟩

end

theorem catalogue_keys_nodup :
    (serviceChecks.map Check.key ++ deployChecks.map Check.key).Nodup := by
  decide

theorem serviceWarnings_keys_sublist (p : Project) (n : String) (s : ServiceConfig) :
    ((serviceWarnings p n s).map Warning.key).Sublist
      (serviceChecks.map Check.key ++ deployChecks.map Check.key) := by
  unfold serviceWarnings
  rcases s.deploy with _ | d
  · exact (runChecks_keys_sublist _ _ _).trans (List.sublist_append_left _ _)
  · simpa using (runChecks_keys_sublist _ _ _).append (runChecks_keys_sublist deployChecks n d)

theorem serviceWarnings_keys_nodup (p : Project) (n : String) (s : ServiceConfig) :
    ((serviceWarnings p n s).map Warning.key).Nodup :=
  catalogue_keys_nodup.sublist (serviceWarnings_keys_sublist p n s)

theorem mem_serviceWarnings {p : Project} {n : String} {s : ServiceConfig} {w : Warning} :
    w ∈ serviceWarnings p n s ↔
      (∃ c ∈ serviceChecks, c.fires (p, s) ∧ c.warning n = w) ∨
      ∃ d, s.deploy = some d ∧ ∃ c ∈ deployChecks, c.fires d ∧ c.warning n = w := by
  unfold serviceWarnings checkDeployWarnings
  rcases s.deploy with _ | d <;> simp [mem_runChecks]

/-! ## Sorting by key -/

theorem compareKeys_eq (a b : Warning) :
    compareKeys a b = if a.key < b.key then -1 else if b.key < a.key then 1 else 0 := by
  simp only [compareKeys, String.lt_iff_toList_lt]
  rfl

theorem compareKeys_nonpos_iff (a b : Warning) : compareKeys a b ≤ 0 ↔ a.key ≤ b.key := by
  rw [compareKeys_eq]
  split_ifs with h1 h2
  · exact iff_of_true (by decide) h1.le
  · exact iff_of_false (by decide) (not_le.2 h2)
  · exact iff_of_true le_rfl (not_lt.1 h2)

theorem sortFunc_compareKeys_perm (ws : List Warning) : (sortFunc compareKeys ws).Perm ws :=
  List.perm_insertionSort _ ws

theorem sortFunc_compareKeys_sorted (ws : List Warning) :
    (sortFunc compareKeys ws).Sorted fun a b => a.key ≤ b.key := by
  have h := @List.sorted_insertionSort Warning (fun a b => compareKeys a b ≤ 0) _
    ⟨fun a b => by simp only [compareKeys_nonpos_iff]; exact le_total _ _⟩
    ⟨fun a b c => by simp only [compareKeys_nonpos_iff]; exact le_trans⟩ ws
  exact h.imp fun hab => (compareKeys_nonpos_iff _ _).1 hab

theorem keys_sorted_lt {ws : List Warning} (hs : ws.Sorted fun a b => a.key ≤ b.key)
    (hnd : (ws.map Warning.key).Nodup) : (ws.map Warning.key).Sorted (· < ·) := by
  have hle : (ws.map Warning.key).Pairwise (· ≤ ·) := List.pairwise_map.2 hs
  exact (hle.and hnd).imp fun h => lt_of_le_of_ne h.1 h.2

/-! ## One service -/

theorem checkServiceWarnings_perm (p : Project) (n : String) (s : ServiceConfig) :
    (checkServiceWarnings p n s).Perm (serviceWarnings p n s) :=
  sortFunc_compareKeys_perm _

theorem mem_checkServiceWarnings {p : Project} {n : String} {s : ServiceConfig} {w : Warning} :
    w ∈ checkServiceWarnings p n s ↔ w ∈ serviceWarnings p n s :=
  (checkServiceWarnings_perm p n s).mem_iff

theorem service_of_mem_checkServiceWarnings {p : Project} {n : String} {s : ServiceConfig}
    {w : Warning} (h : w ∈ checkServiceWarnings p n s) : w.service = n := by
  rcases mem_serviceWarnings.1 (mem_checkServiceWarnings.1 h) with
    ⟨c, -, -, rfl⟩ | ⟨d, -, c, -, -, rfl⟩ <;> rfl

theorem checkServiceWarnings_keys_sorted (p : Project) (n : String) (s : ServiceConfig) :
    ((checkServiceWarnings p n s).map Warning.key).Sorted (· < ·) :=
  keys_sorted_lt (sortFunc_compareKeys_sorted _)
    (((checkServiceWarnings_perm p n s).map Warning.key).nodup_iff.2
      (serviceWarnings_keys_nodup p n s))

/-- Go's `SortFunc` is not stable, but the keys of a service's warnings are distinct, so the order
is forced: every permutation of them sorted by key is the modelled output. -/
theorem eq_checkServiceWarnings_of_perm_sorted {p : Project} {n : String} {s : ServiceConfig}
    {ws : List Warning} (hp : ws.Perm (serviceWarnings p n s))
    (hs : ws.Sorted fun a b => a.key ≤ b.key) : ws = checkServiceWarnings p n s := by
  have hnd : (ws.map Warning.key).Nodup :=
    (hp.map Warning.key).nodup_iff.2 (serviceWarnings_keys_nodup p n s)
  have hlt : ws.Sorted fun a b => a.key < b.key := List.pairwise_map.1 (keys_sorted_lt hs hnd)
  have hlt' : (checkServiceWarnings p n s).Sorted fun a b => a.key < b.key :=
    List.pairwise_map.1 (checkServiceWarnings_keys_sorted p n s)
  have : IsAntisymm Warning fun a b => a.key < b.key :=
    ⟨fun _ _ h h' => absurd (h.trans h') (lt_irrefl _)⟩
  exact List.eq_of_perm_of_sorted (hp.trans (checkServiceWarnings_perm p n s).symm) hlt hlt'

theorem checkServiceWarnings_build_restart :
    let s : ServiceConfig := { build := some (), restart := "always" }
    let p : Project := ⟨"app", [("web", s)], by decide⟩
    let ws : List Warning :=
      [⟨"web", "build", "'build' is not supported. Pre-build images and specify 'image' instead."⟩,
        ⟨"web", "restart",
          "'restart' is not supported. Uncloud manages container lifecycle automatically."⟩]
    ws.Perm (serviceWarnings p "web" s) ∧ ws.Sorted (fun a b => a.key ≤ b.key) ∧
      ws = checkServiceWarnings p "web" s := by
  intro s p ws
  have hp : ws.Perm (serviceWarnings p "web" s) := by decide
  have hs : ws.Sorted fun a b => a.key ≤ b.key :=
    List.sorted_cons.2 ⟨fun b hb => by
      rw [List.mem_singleton.1 hb]; exact (strLe_iff _ _).1 (by decide), List.sorted_singleton _⟩
  exact ⟨hp, hs, eq_checkServiceWarnings_of_perm_sorted hp hs⟩

theorem mem_checkServiceWarnings_iff {p : Project} {n : String} {s : ServiceConfig} {w : Warning} :
    w ∈ checkServiceWarnings p n s ↔
      (∃ c ∈ serviceChecks, c.fires (p, s) ∧ w = ⟨n, c.key, c.message⟩) ∨
      ∃ d, s.deploy = some d ∧ ∃ c ∈ deployChecks, c.fires d ∧ w = ⟨n, c.key, c.message⟩ := by
  rw [mem_checkServiceWarnings, mem_serviceWarnings]
  simp only [Check.warning, eq_comm]

theorem checkServiceWarnings_congr {p p' : Project} (h : p'.name = p.name) (n : String)
    (s : ServiceConfig) : checkServiceWarnings p' n s = checkServiceWarnings p n s := by
  have hnet : hasUserDefinedNetworks p' s = hasUserDefinedNetworks p s := by
    simp [hasUserDefinedNetworks, h]
  have hchecks : ∀ c ∈ serviceChecks, c.fires (p', s) = c.fires (p, s) := by
    simp only [serviceChecks, List.forall_mem_cons, serviceCheck_fires, serviceUnsupported_fires,
      List.not_mem_nil, false_implies, implies_true, and_true, networksCheck, dependsOnCheck, hnet]
  simp only [checkServiceWarnings, serviceWarnings, runChecks_congr hchecks]

theorem key_mem_checkServiceWarnings_iff {c : Check (Project × ServiceConfig)}
    (hc : c ∈ serviceChecks) (p : Project) (n : String) (s : ServiceConfig) :
    c.key ∈ (checkServiceWarnings p n s).map Warning.key ↔ c.fires (p, s) := by
  have hnd := List.nodup_append.1 catalogue_keys_nodup
  have hkey : c.key ∈ serviceChecks.map Check.key := List.mem_map_of_mem _ hc
  rw [((checkServiceWarnings_perm p n s).map Warning.key).mem_iff,
    ← key_mem_runChecks_iff hc hnd.1 n (p, s)]
  unfold serviceWarnings checkDeployWarnings
  rcases s.deploy with _ | d
  · rfl
  · simp only [List.map_append, List.mem_append, or_iff_left_iff_imp]
    exact fun hd => absurd ((runChecks_keys_sublist deployChecks n d).subset hd) (hnd.2.2 hkey)

/-! ## The project -/

theorem foldl_append_eq_flatMap {β : Type} (f : β → List Warning) (l : List β)
    (acc : List Warning) : l.foldl (fun ws x => ws ++ f x) acc = acc ++ l.flatMap f := by
  induction l generalizing acc with
  | nil => simp
  | cons x xs ih => simp [ih]

theorem checkProjectWarnings_eq_flatMap (p : Project) :
    checkProjectWarnings p =
      p.serviceNames.flatMap fun n => checkServiceWarnings p n (p.service n) := by
  simp [checkProjectWarnings, foldl_append_eq_flatMap]

/-- `CheckProjectWarnings` is one block per service name in `ServiceNames` order; a block depends
on the project only through its name, names its service in every warning, and has strictly
increasing keys. -/
theorem checkProjectWarnings_blocks (p : Project) :
    checkProjectWarnings p =
      p.serviceNames.flatMap (fun n => checkServiceWarnings p n (p.service n)) ∧
    (∀ p' : Project, p'.name = p.name →
      ∀ n s, checkServiceWarnings p' n s = checkServiceWarnings p n s) ∧
    ∀ n s, (∀ w ∈ checkServiceWarnings p n s, w.service = n) ∧
      ((checkServiceWarnings p n s).map Warning.key).Sorted (· < ·) :=
  ⟨checkProjectWarnings_eq_flatMap p, fun _ h => checkServiceWarnings_congr h,
    fun n s => ⟨fun _ => service_of_mem_checkServiceWarnings, checkServiceWarnings_keys_sorted p n s⟩⟩

/-- The project's warnings are strictly increasing in (service, key): services come in
`ServiceNames` order, which is strictly sorted, so no warning is reported twice. -/
theorem checkProjectWarnings_sorted (p : Project) :
    (checkProjectWarnings p).Sorted fun a b =>
      a.service < b.service ∨ (a.service = b.service ∧ a.key < b.key) := by
  rw [checkProjectWarnings_eq_flatMap, List.Sorted, List.pairwise_flatMap]
  constructor
  · intro n _
    have hsvc : ∀ w ∈ checkServiceWarnings p n (p.service n), w.service = n :=
      fun _ => service_of_mem_checkServiceWarnings
    exact (List.pairwise_map.1 (checkServiceWarnings_keys_sorted p n _)).imp_of_mem
      fun ha hb hab => .inr ⟨(hsvc _ ha).trans (hsvc _ hb).symm, hab⟩
  · exact (Project.serviceNames_sorted_lt p).imp fun hlt x hx y hy => .inl <| by
      rwa [service_of_mem_checkServiceWarnings hx, service_of_mem_checkServiceWarnings hy]

theorem mem_checkProjectWarnings {p : Project} {w : Warning} :
    w ∈ checkProjectWarnings p ↔
      ∃ n ∈ p.services.map Prod.fst, w ∈ checkServiceWarnings p n (p.service n) := by
  rw [checkProjectWarnings_eq_flatMap, List.mem_flatMap]
  simp only [(Project.serviceNames_perm p).mem_iff]

/-- The warnings do not depend on the order in which the project's map holds its services: Go walks
a map in no fixed order, and `CheckProjectWarnings` goes through the sorted names instead. -/
theorem checkProjectWarnings_eq_of_perm {p p' : Project} (hname : p'.name = p.name)
    (h : p'.services.Perm p.services) : checkProjectWarnings p' = checkProjectWarnings p := by
  rw [checkProjectWarnings_eq_flatMap, checkProjectWarnings_eq_flatMap,
    Project.serviceNames_eq_of_perm h]
  exact List.flatMap_congr fun n _ => by
    rw [Project.service_eq_of_perm h, checkServiceWarnings_congr hname]

theorem checkProjectWarnings_two_orders :
    let web : String × ServiceConfig := ("web", { restart := "always" })
    let db : String × ServiceConfig := ("db", { containerName := "db" })
    let p : Project := ⟨"app", [web, db], by decide⟩
    let p' : Project := ⟨"app", [db, web], by decide⟩
    (p'.name = p.name ∧ p'.services.Perm p.services) ∧
      checkProjectWarnings p' = checkProjectWarnings p := by
  intro web db p p'
  have h : p'.name = p.name ∧ p'.services.Perm p.services := ⟨rfl, List.Perm.swap web db []⟩
  exact ⟨h, checkProjectWarnings_eq_of_perm h.1 h.2⟩

theorem checkServiceWarnings_default (p : Project) (n : String) :
    checkServiceWarnings p n {} = [] ∧ checkServiceWarnings p n { deploy := some {} } = [] :=
  ⟨rfl, rfl⟩

theorem checkProjectWarnings_eq_nil_iff (p : Project) :
    checkProjectWarnings p = [] ↔ ∀ n ∈ p.services.map Prod.fst,
      (∀ c ∈ serviceChecks, c.fires (p, p.service n) = false) ∧
      ∀ d, (p.service n).deploy = some d → ∀ c ∈ deployChecks, c.fires d = false := by
  rw [checkProjectWarnings_eq_flatMap, List.flatMap_eq_nil_iff]
  simp only [(Project.serviceNames_perm p).mem_iff]
  refine forall₂_congr fun n _ => ?_
  rw [← List.isEmpty_iff, (checkServiceWarnings_perm p n _).isEmpty_eq, List.isEmpty_iff,
    serviceWarnings]
  rcases (p.service n).deploy with _ | d <;>
    simp [runChecks_eq_nil_iff, checkDeployWarnings]

/-! ## `depends_on` and `networks` -/

/-- `depends_on` is reported exactly when the service has dependencies and no links. -/
theorem dependsOn_warning_iff (p : Project) (n : String) (s : ServiceConfig) :
    "depends_on" ∈ (checkServiceWarnings p n s).map Warning.key ↔
      s.dependsOn ≠ [] ∧ s.links = [] := by
  rw [show "depends_on" = dependsOnCheck.key from rfl,
    key_mem_checkServiceWarnings_iff (by simp [serviceChecks]) p n s]
  simp [dependsOnCheck, List.length_pos]

def linkService (link : String) : String := ⟨link.data.takeWhile (· ≠ ':')⟩

theorem dependsOn_unreported_beside_links :
    let s : ServiceConfig := { dependsOn := ["db"], links := ["cache"] }
    let p : Project := ⟨"app", [("web", s)], by decide⟩
    "depends_on" ∉ (checkServiceWarnings p "web" s).map Warning.key ∧
      ∃ k ∈ s.dependsOn, ∀ l ∈ s.links, linkService l ≠ k := by
  decide

theorem networksCheck_fires_iff (p : Project) (s : ServiceConfig) :
    networksCheck.fires (p, s) ↔ ∃ k ∈ s.networks, k ≠ p.name ∧ k ≠ "default" := by
  rcases hs : s.networks with _ | ⟨k, ks⟩
  · simp [networksCheck, hs]
  · simp [networksCheck, hasUserDefinedNetworks, hs]

/-- `networks` is reported exactly when some network is neither the project's default network nor
`default`, whatever order the map's keys come in. -/
theorem networks_warning_iff (p : Project) (n : String) (s : ServiceConfig) :
    ("networks" ∈ (checkServiceWarnings p n s).map Warning.key ↔
      ∃ k ∈ s.networks, k ≠ p.name ∧ k ≠ "default") ∧
    ∀ nets : List String, nets.Perm s.networks →
      ("networks" ∈ (checkServiceWarnings p n { s with networks := nets }).map Warning.key ↔
        "networks" ∈ (checkServiceWarnings p n s).map Warning.key) := by
  have hmem : networksCheck ∈ serviceChecks := by simp [serviceChecks]
  have key : ∀ s, "networks" ∈ (checkServiceWarnings p n s).map Warning.key ↔
      ∃ k ∈ s.networks, k ≠ p.name ∧ k ≠ "default" := fun s => by
    rw [show "networks" = networksCheck.key from rfl, key_mem_checkServiceWarnings_iff hmem,
      networksCheck_fires_iff]
  refine ⟨key s, fun nets hnets => ?_⟩
  rw [key, key]
  simp only [hnets.mem_iff]

end Compose
end Uncloud
