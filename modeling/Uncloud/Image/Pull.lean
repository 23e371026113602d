import Uncloud.Image.Cluster

/-! `image pull`: the events it writes to the progress display while it reads the pull stream.
The stream is the list of messages received before the channel closes; Go's `int` has the width
`size`, and `progressText` is `JSONProgress.String`, which draws a layer's progress bar and panics on
some counters (a negative share of a positive total makes `strings.Repeat` panic). A run that panics
is `none`. -/
namespace Uncloud
namespace Image
open Go

/-- `progress.EventStatus`, the two values `pull` writes. -/
inductive EventStatus
  | working
  | done
  deriving DecidableEq, Repr

/-- `progress.Event`, the fields `pull` sets. -/
structure Event where
  id : String
  parentID : String := ""
  text : String := ""
  status : EventStatus
  statusText : String := ""
  current : BitVec 64 := 0
  total : BitVec 64 := 0
  percent : Int := 0
  deriving DecidableEq, Repr

def doneStatuses : List String := ["Pull complete", "Already exists", "Download complete"]

section
variable (size : IntSize) (progressText : JSONProgress → Option String)

def layerPercent (progress : JSONProgress) : Int :=
  if 0 < progress.total.toInt then
    let percent := toInt size ((progress.current * 100).sdiv progress.total).toNat
    if percent > 100 then 100 else percent
  else 0

/-- `toProgressEvent`: `none` when `jm.Progress.String()` panics, else the pointer it returns. -/
def toProgressEvent (jm : JSONMessage) : Option (Option Event) :=
  match jm.progress with
  | none => some none
  | some progress =>
    if jm.id = "" then some none
    else
      let done := decide (jm.status ∈ doneStatuses)
      (progressText progress).map fun statusText => some {
        id := jm.id, current := progress.current, total := progress.total,
        percent := if done then 100 else layerPercent size progress, text := jm.status,
        status := if done then .done else .working, statusText }

theorem toProgressEvent_eq_some {jm : JSONMessage} {e : Event} :
    toProgressEvent size progressText jm = some (some e) ↔
      ∃ p t, jm.progress = some p ∧ jm.id ≠ "" ∧ progressText p = some t ∧ e = {
        id := jm.id, current := p.current, total := p.total,
        percent := if jm.status ∈ doneStatuses then 100 else layerPercent size p,
        text := jm.status, status := if jm.status ∈ doneStatuses then .done else .working,
        statusText := t } := by
  unfold toProgressEvent
  rcases jm.progress with _ | p
  · simp
  · by_cases h : jm.id = ""
    · simp [h]
    · cases ht : progressText p <;> simp [h, ht, eq_comm]

theorem layerPercent_le (p : JSONProgress) : layerPercent size p ≤ 100 := by
  simp only [layerPercent]
  split_ifs <;> omega

theorem layerPercent_eq {p : JSONProgress} (hc : 0 ≤ p.current.toInt)
    (hct : p.current.toInt ≤ p.total.toInt) (ht : 0 < p.total.toInt)
    (hov : p.current.toInt * 100 < 9223372036854775808) :
    layerPercent size p = p.current.toInt * 100 / p.total.toInt := by
  obtain ⟨hc1, hc2⟩ := toNat_of_toInt_nonneg hc
  obtain ⟨ht1, ht2⟩ := toNat_of_toInt_nonneg ht.le
  have hmul : (p.current * 100).toNat = p.current.toNat * 100 := by
    rw [BitVec.toNat_mul, show (100 : BitVec 64).toNat = 100 from rfl]
    exact Nat.mod_eq_of_lt (by omega)
  have hq : ((p.current * 100).sdiv p.total).toNat = p.current.toNat * 100 / p.total.toNat := by
    rw [BitVec.sdiv_eq, BitVec.msb_eq_false_iff_two_mul_lt.2 (by rw [hmul]; omega),
      BitVec.msb_eq_false_iff_two_mul_lt.2 ht2]
    simp only [BitVec.udiv_eq, BitVec.toNat_udiv, hmul]
  have hle : p.current.toNat * 100 / p.total.toNat ≤ 100 := Nat.div_le_of_le_mul (by omega)
  have hsmall : p.current.toNat * 100 / p.total.toNat < size.half := by
    cases size <;> simp only [IntSize.half] <;> omega
  simp only [layerPercent, if_pos ht, hq, toInt_of_lt_half hsmall]
  rw [if_neg (by omega), ← hc1, ← ht1]
  push_cast
  rfl

/-- A layer's event shows at most 100%, exactly 100% once the layer is complete, and otherwise
`current * 100 / total` while the product fits in an `int64`. -/
theorem toProgressEvent_percent {jm : JSONMessage} {e : Event}
    (h : toProgressEvent size progressText jm = some (some e)) :
    e.percent ≤ 100 ∧ (jm.status ∈ doneStatuses → e.status = .done ∧ e.percent = 100) ∧
    ∀ p, jm.progress = some p → jm.status ∉ doneStatuses → 0 ≤ p.current.toInt →
      p.current.toInt ≤ p.total.toInt → 0 < p.total.toInt →
      p.current.toInt * 100 < 9223372036854775808 →
      e.percent = p.current.toInt * 100 / p.total.toInt := by
  obtain ⟨p, t, hp, -, -, rfl⟩ := (toProgressEvent_eq_some size progressText).1 h
  refine ⟨?_, fun hd => by simp [hd], fun p' hp' hnd hc hct ht hov => ?_⟩
  · split_ifs
    · exact le_rfl
    · exact layerPercent_le size p
  · obtain rfl := Option.some.inj (hp.symm.trans hp')
    simp only [if_neg hnd, layerPercent_eq size hc hct ht hov]

theorem toProgressEvent_percent_quarter :
    let jm : JSONMessage := { id := "layer", status := "Downloading", progress := some ⟨50, 200⟩ }
    let e : Event := {
      id := "layer", text := "Downloading", status := .working, current := 50, total := 200,
      percent := 25 }
    toProgressEvent .w64 (fun _ => some "") jm = some (some e) ∧
      (e.percent ≤ 100 ∧ (jm.status ∈ doneStatuses → e.status = .done ∧ e.percent = 100) ∧
      ∀ p, jm.progress = some p → jm.status ∉ doneStatuses → 0 ≤ p.current.toInt →
        p.current.toInt ≤ p.total.toInt → 0 < p.total.toInt →
        p.current.toInt * 100 < 9223372036854775808 →
        e.percent = p.current.toInt * 100 / p.total.toInt) := by
  intro jm e
  have h : toProgressEvent .w64 (fun _ => some "") jm = some (some e) := by decide
  exact ⟨h, toProgressEvent_percent .w64 _ h⟩

/-- A layer of `10^17` bytes, complete but reported as still downloading, shows `-84%`: the product
`current * 100` wraps around in `int64`. -/
example : (toProgressEvent .w64 (fun _ => some "") {
      id := "layer", status := "Downloading",
      progress := some ⟨100000000000000000, 100000000000000000⟩ }).map (·.map Event.percent) =
      some (some (-84)) := by
  decide

def messageEvents (eventID : String) (jm : JSONMessage) : Option (List Event) :=
  if jm.id ≠ "" then
    (toProgressEvent size progressText jm).map fun e =>
      e.toList.map fun e => { e with parentID := eventID }
  else if jm.status ≠ "" then
    some [{ id := eventID, parentID := eventID, status := .working, text := jm.status }]
  else some []

theorem messageEvents_eq_none (eventID : String) (jm : JSONMessage) :
    messageEvents size progressText eventID jm = none ↔
      jm.id ≠ "" ∧ ∃ p, jm.progress = some p ∧ progressText p = none := by
  unfold messageEvents toProgressEvent
  by_cases hid : jm.id = ""
  · by_cases hs : jm.status = "" <;> simp [hid, hs]
  · rcases jm.progress with _ | p <;> simp [hid]

theorem parentID_of_mem_messageEvents {eventID : String} {jm : JSONMessage} {es : List Event}
    (h : messageEvents size progressText eventID jm = some es) : ∀ e ∈ es, e.parentID = eventID := by
  unfold messageEvents at h
  split_ifs at h
  · obtain ⟨e', -, rfl⟩ := Option.map_eq_some'.1 h
    simp
  · cases h; simp
  · cases h; simp

def startEvent (eventID : String) : Event :=
  { id := eventID, status := .working, statusText := "Pulling..." }

def doneEvent (eventID : String) : Event :=
  { id := eventID, status := .done, statusText := "Pulled" }

/-- The `for msg := range ch` loop, from the value of `started`: the events it writes, then the error
it returns at the first failed message; `none` when it panics. -/
def pullLoop (eventID : String) : Bool → List PullMessage → Option (List Event × Option String)
  | _, [] => some ([], none)
  | started, msg :: msgs =>
    match msg.err with
    | some err => some ([], some ("pull image: " ++ err))
    | none => do
      let events ← messageEvents size progressText eventID msg.message
      let rest ← pullLoop eventID true msgs
      return ((if started then [] else [startEvent eventID]) ++ events ++ rest.1, rest.2)

theorem pullLoop_eq (eventID : String) (started : Bool) (msgs : List PullMessage) :
    pullLoop size progressText eventID started msgs =
      let read := msgs.takeWhile fun m => m.err = none
      (read.mapM fun m => messageEvents size progressText eventID m.message).map fun events =>
        ((if started || read.isEmpty then [] else [startEvent eventID]) ++ events.flatten,
          (msgs.findSome? PullMessage.err).map ("pull image: " ++ ·)) := by
  induction msgs generalizing started with
  | nil => cases started <;> rfl
  | cons m ms ih =>
    rcases hm : m.err with _ | err
    · simp only [pullLoop, hm, ih, List.takeWhile_cons, List.findSome?_cons, eq_self_iff_true,
        decide_True, if_true, List.mapM_cons]
      cases messageEvents size progressText eventID m.message with
      | none => rfl
      | some events =>
        cases (ms.takeWhile fun m => m.err = none).mapM
            (fun m => messageEvents size progressText eventID m.message) with
        | none => rfl
        | some rest => cases started <;> simp
    · simp only [pullLoop, hm, List.takeWhile_cons, List.findSome?_cons, Option.isSome_some,
        reduceCtorEq, decide_False, if_false, Option.map_some', List.mapM_nil]
      cases started <;> rfl

theorem mapM_eq_none_iff {α β : Type} {f : α → Option β} {l : List α} :
    l.mapM f = none ↔ ∃ a ∈ l, f a = none := by
  induction l with
  | nil => exact iff_of_false (Option.some_ne_none _) (by simp)
  | cons a l ih =>
    rw [List.mapM_cons]
    rcases ha : f a with _ | b
    · simp [ha]
    · rcases hl : l.mapM f with _ | bs <;> simp_all

end

/-- `pullOptions`: the command's flags. -/
structure PullOptions where
  machines : List String := []
  all : Bool := false
  deriving DecidableEq, Repr

structure PullRun where
  title : Option String
  events : List Event
  err : Option String
  deriving DecidableEq, Repr

/-- `pull`; `expand` is `cli.ExpandCommaSeparatedValues`, and `progress.RunWithTitle` returns the
error of the function it runs. -/
def pull {ι : Type} (size : IntSize) (progressText : JSONProgress → Option String)
    (expand : List String → List String) (c : Cluster ι) (img : String) (opts : PullOptions) :
    Option PullRun :=
  match c.connect with
  | some err => some ⟨none, [], some ("connect to cluster: " ++ err)⟩
  | none =>
    let machines := expand opts.machines
    let pullOpts : ImagePullOptions := { all := opts.all }
    let title := "Pulling image " ++ img ++ " on cluster"
    match c.pullImage img pullOpts machines with
    | .error err => some ⟨some title, [], some ("pull image: " ++ err)⟩
    | .ok msgs =>
      let eventID := "Pulling " ++ img
      (pullLoop size progressText eventID false msgs).map fun run =>
        match run.2 with
        | some err => ⟨some title, run.1, some err⟩
        | none => ⟨some title, run.1 ++ [doneEvent eventID], none⟩

end Image
end Uncloud
