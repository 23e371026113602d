import Uncloud.Image.Cluster

/-! `image prune`: the confirmation step, the filters built from `--all` and `--filter`, and the
report printed for each machine. Output is the list of strings printed, in order; `humanSize` is
`units.HumanSize` of the reclaimed bytes, and `expand` is `cli.ExpandCommaSeparatedValues`. -/
namespace Uncloud
namespace Image
open Go

/-- `pruneOptions`: the command's flags. -/
structure PruneOptions where
  machines : List String := []
  force : Bool := false
  all : Bool := false
  filter : List String := []
  deriving DecidableEq, Repr

def addFilter (args : FilterArgs) (f : String) : Except String FilterArgs :=
  let (name, value, ok) := cut f '='
  if !ok then .error ("invalid filter '" ++ f ++ "'") else .ok (args.add name value)

def pruneFilters (all : Bool) (filter : List String) : Except String FilterArgs :=
  let pruneFilters := FilterArgs.newArgs
  let pruneFilters := if all then pruneFilters.add "dangling" "false" else pruneFilters
  filter.foldlM addFilter pruneFilters

def filterPair (f : String) : String × String := ((cut f '=').1, (cut f '=').2.1)

theorem addFilter_eq_ok {args args' : FilterArgs} {f : String} :
    addFilter args f = .ok args' ↔ '=' ∈ f.data ∧ args' = ⟨insert (filterPair f) args.pairs⟩ := by
  simp only [addFilter, filterPair, FilterArgs.add, cut_found]
  by_cases h : '=' ∈ f.data <;> simp [h, eq_comm]

theorem addFilter_eq_error {args : FilterArgs} {f : String} (h : '=' ∉ f.data) :
    addFilter args f = .error ("invalid filter '" ++ f ++ "'") := by
  simp [addFilter, cut_found, h]

theorem foldlM_addFilter_eq_ok (filter : List String) {args args' : FilterArgs} :
    filter.foldlM addFilter args = .ok args' ↔
      (∀ f ∈ filter, '=' ∈ f.data) ∧ args'.pairs = args.pairs ∪ (filter.map filterPair).toFinset := by
  induction filter generalizing args with
  | nil =>
    show Except.ok args = .ok args' ↔ _
    simp only [Except.ok.injEq, List.not_mem_nil, false_implies, implies_true, List.map_nil,
      List.toFinset_nil, Finset.union_empty, true_and]
    exact ⟨fun h => h ▸ rfl, fun h => by cases args; cases args'; simp_all⟩
  | cons f fs ih =>
    simp only [List.foldlM_cons, except_bind_eq_ok, addFilter_eq_ok, List.mem_cons,
      forall_eq_or_imp, List.map_cons, List.toFinset_cons]
    constructor
    · rintro ⟨a, ⟨hf, rfl⟩, hrest⟩
      obtain ⟨hfs, heq⟩ := ih.1 hrest
      refine ⟨⟨hf, hfs⟩, ?_⟩
      rw [heq, Finset.insert_union, Finset.union_insert]
    · rintro ⟨⟨hf, hfs⟩, heq⟩
      refine ⟨_, ⟨hf, rfl⟩, ih.2 ⟨hfs, ?_⟩⟩
      rw [heq, Finset.insert_union, Finset.union_insert]

theorem foldlM_addFilter_eq_error {pre post : List String} {f : String}
    (hpre : ∀ g ∈ pre, '=' ∈ g.data) (hf : '=' ∉ f.data) (args : FilterArgs) :
    (pre ++ f :: post).foldlM addFilter args = .error ("invalid filter '" ++ f ++ "'") := by
  induction pre generalizing args with
  | nil => simp [List.foldlM_cons, addFilter_eq_error hf, bind, Except.bind]
  | cons g gs ih =>
    obtain ⟨hg, hgs⟩ := List.forall_mem_cons.1 hpre
    have hadd : addFilter args g = .ok ⟨insert (filterPair g) args.pairs⟩ :=
      addFilter_eq_ok.2 ⟨hg, rfl⟩
    simp only [List.cons_append, List.foldlM_cons, hadd]
    exact ih hgs _

/-- `--all` and the filters become a set of pairs, all of them or none: the first filter without
`=` is rejected by name. -/
theorem pruneFilters_spec (all : Bool) (filter : List String) :
    (∀ args, pruneFilters all filter = .ok args ↔ (∀ f ∈ filter, '=' ∈ f.data) ∧
      args.pairs = (if all then {("dangling", "false")} else ∅) ∪ (filter.map filterPair).toFinset) ∧
    ∀ pre f post, filter = pre ++ f :: post → (∀ g ∈ pre, '=' ∈ g.data) → '=' ∉ f.data →
      pruneFilters all filter = .error ("invalid filter '" ++ f ++ "'") := by
  refine ⟨fun args => ?_, fun pre f post hfilter hpre hf => ?_⟩
  · rw [pruneFilters, foldlM_addFilter_eq_ok]
    cases all <;> rfl
  · rw [pruneFilters, hfilter]
    exact foldlM_addFilter_eq_error hpre hf _

/-- Filters written as `key=value`, with no `=` in the key, are read back as exactly those pairs. -/
theorem pruneFilters_format (pairs : List (String × String)) (hkeys : ∀ p ∈ pairs, '=' ∉ p.1.data) :
    pruneFilters false (pairs.map fun p => p.1 ++ "=" ++ p.2) = .ok ⟨pairs.toFinset⟩ := by
  have hcut : ∀ p ∈ pairs, cut (p.1 ++ "=" ++ p.2) '=' = (p.1, p.2, true) :=
    fun p hp => cut_append (hkeys p hp) p.2
  have hmap : (pairs.map fun p => p.1 ++ "=" ++ p.2).map filterPair = pairs := by
    rw [List.map_map]
    exact (List.map_congr_left fun p hp => by simp [filterPair, hcut p hp]).trans (List.map_id _)
  rw [pruneFilters, foldlM_addFilter_eq_ok]
  refine ⟨fun f hf => ?_, by simp [hmap, FilterArgs.newArgs]⟩
  obtain ⟨p, hp, rfl⟩ := List.mem_map.1 hf
  simp

theorem pruneFilters_format_until_label : ('=' ∉ "until".data ∧ '=' ∉ "label".data) ∧
    pruneFilters false ["until=24h", "label=env=dev"] =
      .ok ⟨[("until", "24h"), ("label", "env=dev")].toFinset⟩ :=
  ⟨by decide, pruneFilters_format [("until", "24h"), ("label", "env=dev")]
    (by simp only [List.mem_cons, List.mem_singleton, List.not_mem_nil, or_false,
      forall_eq_or_imp, forall_eq]; decide)⟩

def pruneItemLines (item : DeleteResponse) : List String :=
  (if item.untagged ≠ "" then ["untagged: " ++ item.untagged ++ "\n"] else []) ++
    (if item.deleted ≠ "" then ["deleted: " ++ item.deleted ++ "\n"] else [])

def pruneReportLines (humanSize : Nat → String) (allMachines : String → Option String)
    (resp : PruneImagesResponse) : List String :=
  let machineName := machineName allMachines resp.metadata.machine
  if resp.metadata.error ≠ "" then ["[" ++ machineName ++ "] Error: " ++ resp.metadata.error ++ "\n"]
  else
    let report := resp.report
    (if report.imagesDeleted.length > 0 then
      ("[" ++ machineName ++ "] Deleted Images:\n") ::
        report.imagesDeleted.flatMap pruneItemLines ++ ["\n"]
    else []) ++
      ["[" ++ machineName ++ "] Total reclaimed space: " ++ humanSize report.spaceReclaimed ++ "\n"]

section
variable {ι : Type} (humanSize : Nat → String) (expand : List String → List String)

/-- `prune`: what it prints, then the error it returns. -/
def prune (c : Cluster ι) (opts : PruneOptions) : List String × Option String :=
  withMachines c fun allMachines =>
    let machines := expand opts.machines
    match pruneFilters opts.all opts.filter with
    | .error err => ([], some err)
    | .ok pruneFilters =>
      match c.pruneImages pruneFilters machines with
      | .error err => ([], some ("prune images: " ++ err))
      | .ok responses => (responses.flatMap (pruneReportLines humanSize allMachines), none)

def pruneQuestion : String := "Are you sure you want to remove all dangling images?\n"

/-- The command's `RunE`; `confirm` is the answer of `cli.Confirm`. -/
def runPrune (confirm : Except String Bool) (c : Cluster ι) (opts : PruneOptions) :
    List String × Option String :=
  if !opts.force then
    match confirm with
    | .error err => ([pruneQuestion], some err)
    | .ok false => ([pruneQuestion], none)
    | .ok true =>
      let r := prune humanSize expand c opts
      (pruneQuestion :: r.1, r.2)
  else prune humanSize expand c opts

theorem pruneFilters_eq_error_of_not_mem {all : Bool} {filter : List String}
    (h : ∃ f ∈ filter, '=' ∉ f.data) : ∃ err, pruneFilters all filter = .error err := by
  rcases hp : pruneFilters all filter with err | args
  · exact ⟨err, rfl⟩
  · obtain ⟨f, hf, hnf⟩ := h
    exact absurd (((foldlM_addFilter_eq_ok filter).1 hp).1 f hf) hnf

theorem prune_answer_congr (c : Cluster ι) (opts : PruneOptions)
    (h : c.connect ≠ none ∨ (∃ err, c.listMachines = .error err) ∨
      ∃ f ∈ opts.filter, '=' ∉ f.data)
    (answer : FilterArgs → List String → Except String (List PruneImagesResponse)) :
    prune humanSize expand { c with pruneImages := answer } opts = prune humanSize expand c opts := by
  rcases h with hconn | ⟨err, hlist⟩ | hbad
  · obtain ⟨err, hc⟩ := Option.ne_none_iff_exists'.1 hconn
    simp only [prune, withMachines, hc]
  · simp only [prune, withMachines, hlist]
  · obtain ⟨err, herr⟩ := @pruneFilters_eq_error_of_not_mem opts.all _ hbad
    simp only [prune, herr]
    rfl

/-- The prune request is sent only with `--force` or a confirmation, once connected, and only when
every filter is well formed: otherwise what the command prints and returns does not depend on how
the cluster would answer it. -/
theorem runPrune_sends_only_when_allowed (confirm : Except String Bool) (c : Cluster ι)
    (opts : PruneOptions)
    (h : (opts.force = false ∧ confirm ≠ .ok true) ∨ c.connect ≠ none ∨
      (∃ err, c.listMachines = .error err) ∨ ∃ f ∈ opts.filter, '=' ∉ f.data)
    (answer : FilterArgs → List String → Except String (List PruneImagesResponse)) :
    runPrune humanSize expand confirm { c with pruneImages := answer } opts =
      runPrune humanSize expand confirm c opts := by
  unfold runPrune
  rcases h with ⟨hforce, hconf⟩ | hp
  · simp only [hforce, Bool.not_false, if_true]
    rcases confirm with err | (_ | _)
    · rfl
    · rfl
    · exact absurd rfl hconf
  · simp only [prune_answer_congr humanSize expand c opts hp answer]

end

theorem runPrune_malformed_filter :
    let c : Cluster Unit := {
      connect := none, listMachines := .ok fun _ => none, pullImage := fun _ _ _ => .ok [],
      removeImage := fun _ _ _ => .ok [], pruneImages := fun _ _ => .ok [],
      tagImage := fun _ _ _ => none, inspectImage := fun _ => .ok [],
      inspectRemoteImage := fun _ => .ok [] }
    let opts : PruneOptions := { force := true, filter := ["dangling"] }
    ((opts.force = false ∧ (.ok true : Except String Bool) ≠ .ok true) ∨ c.connect ≠ none ∨
      (∃ err, c.listMachines = .error err) ∨ ∃ f ∈ opts.filter, '=' ∉ f.data) ∧
    runPrune toString id (.ok true) { c with pruneImages := fun _ _ => .error "refused" } opts =
      runPrune toString id (.ok true) c opts := by
  intro c opts
  have h : (opts.force = false ∧ (.ok true : Except String Bool) ≠ .ok true) ∨ c.connect ≠ none ∨
      (∃ err, c.listMachines = .error err) ∨ ∃ f ∈ opts.filter, '=' ∉ f.data :=
    .inr (.inr (.inr ⟨"dangling", List.mem_singleton_self _, by decide⟩))
  exact ⟨h, runPrune_sends_only_when_allowed toString id (.ok true) c opts h _⟩

end Image
end Uncloud
