import Uncloud.Go.Numeric
import Mathlib.Data.List.Basic

/-! The lexical path functions of Go's `path/filepath` on Unix, where the separator is `/` and there
are no volume names. `Clean` is the library's single pass over the path: its switch looks at one
`/`-separated element at a time, so the model splits the path first and folds over the elements. -/
namespace Uncloud
namespace Go

/-- `filepath.IsAbs`: `strings.HasPrefix(path, "/")`. -/
def isAbs (path : String) : Bool :=
  match path.data with
  | '/' :: _ => true
  | _ => false

/-- `strings.Split(path, "/")` on characters: empty elements are kept. -/
def segments : List Char → List (List Char)
  | [] => [[]]
  | c :: cs =>
    if c = '/' then [] :: segments cs
    else match segments cs with
      | [] => [[c]]
      | e :: es => (c :: e) :: es

structure CleanBuf where
  out : List Char
  dotdot : Nat
  deriving DecidableEq, Repr

/-- `out.w--` followed by `for out.w > dotdot && !IsPathSeparator(out.index(out.w)) { out.w-- }`. -/
def backtrack (dotdot : Nat) : List Char → List Char
  | [] => []
  | c :: cs => if dotdot < cs.length ∧ c ≠ '/' then backtrack dotdot cs else cs

/-- One case of the switch in `Clean`: an empty or `.` element, a `..` element, or a real element. -/
def cleanElem (rooted : Bool) (b : CleanBuf) (e : List Char) : CleanBuf :=
  if e = [] ∨ e = ['.'] then b
  else if e = ['.', '.'] then
    if b.dotdot < b.out.length then { b with out := backtrack b.dotdot b.out }
    else if rooted then b
    else
      let out := '.' :: '.' :: (if 0 < b.out.length then '/' :: b.out else b.out)
      ⟨out, out.length⟩
  else
    let sep := (rooted && b.out.length != 1) || (!rooted && b.out.length != 0)
    { b with out := e.reverse ++ (if sep then '/' :: b.out else b.out) }

/-- `filepath.Clean`. -/
def clean (path : String) : String :=
  if path = "" then "."
  else
    let rooted := isAbs path
    let b := (segments path.data).foldl (cleanElem rooted)
      (if rooted then ⟨['/'], 1⟩ else ⟨[], 0⟩)
    if b.out = [] then "." else ⟨b.out.reverse⟩

/-- `filepath.Join`: the elements from the first non-empty one, joined by `/`, then cleaned. -/
def join : List String → String
  | [] => ""
  | e :: es => if e = "" then join es else clean ("/".intercalate (e :: es))

@[simp] theorem isAbs_append_of_isAbs {a : String} (b : String) (h : isAbs a) :
    isAbs (a ++ b) := by
  unfold isAbs at *
  rw [String.data_append]
  split at h
  · rename_i t ht; rw [ht]; rfl
  · cases h

theorem ne_empty_of_isAbs {w : String} (hw : isAbs w = true) : w ≠ "" := by
  rintro rfl
  exact absurd hw (by decide)

theorem segments_of_not_mem {l : List Char} (h : '/' ∉ l) : segments l = [l] := by
  induction l with
  | nil => rfl
  | cons c cs ih =>
    have hc : c ≠ '/' := fun hc => h (hc ▸ List.mem_cons_self c cs)
    simp [segments, hc, ih (fun hm => h (List.mem_cons_of_mem c hm))]

theorem segments_ne_nil (l : List Char) : segments l ≠ [] := by
  cases l with
  | nil => simp [segments]
  | cons c cs =>
    unfold segments
    split_ifs
    · simp
    · split <;> simp

theorem segments_append_cons_slash (p rest : List Char) :
    segments (p ++ '/' :: rest) = segments p ++ segments rest := by
  induction p with
  | nil => simp [segments]
  | cons c cs ih =>
    by_cases hc : c = '/'
    · simp [segments, hc, ih]
    · obtain ⟨e, es, he⟩ := List.exists_cons_of_ne_nil (segments_ne_nil cs)
      simp [segments, hc, ih, he]

theorem segments_append_slash {p : List Char} (rest : List Char) (h : '/' ∉ p) :
    segments (p ++ '/' :: rest) = p :: segments rest := by
  rw [segments_append_cons_slash, segments_of_not_mem h]
  rfl

theorem clean_run_secrets_append {name : String} (hne : name ≠ "") (hsep : '/' ∉ name.data)
    (hdot : name ≠ ".") (hdotdot : name ≠ "..") :
    clean ("/run/secrets/" ++ name) = "/run/secrets/" ++ name := by
  have hseg : segments ('/' :: 'r' :: 'u' :: 'n' :: '/' :: 's' :: 'e' :: 'c' :: 'r' :: 'e' :: 't' ::
      's' :: '/' :: name.data) =
      [[], ['r', 'u', 'n'], ['s', 'e', 'c', 'r', 'e', 't', 's'], name.data] := by
    rw [show '/' :: 'r' :: 'u' :: 'n' :: '/' :: 's' :: 'e' :: 'c' :: 'r' :: 'e' :: 't' :: 's' :: '/' ::
      name.data = [] ++ '/' :: (['r', 'u', 'n'] ++ '/' ::
      (['s', 'e', 'c', 'r', 'e', 't', 's'] ++ '/' :: name.data)) from rfl,
      segments_append_slash _ (by decide), segments_append_slash _ (by decide),
      segments_append_slash _ (by decide), segments_of_not_mem hsep]
  have h1 : name.data ≠ [] := fun h => hne (String.ext h)
  have h2 : name.data ≠ ['.'] := fun h => hdot (String.ext h)
  have h3 : name.data ≠ ['.', '.'] := fun h => hdotdot (String.ext h)
  have habs : isAbs ("/run/secrets/" ++ name) := isAbs_append_of_isAbs name rfl
  rw [clean, if_neg (ne_empty_of_isAbs habs)]
  simp [habs, hseg, cleanElem, h1, h2, h3]
  rfl

/-! ### `Join` under a clean working directory -/

def IsReal (e : List Char) : Prop := e ≠ [] ∧ e ≠ ['.']

instance : DecidablePred IsReal := fun _ => inferInstanceAs (Decidable (_ ∧ _))

theorem foldl_cleanElem_of_no_dotdot (elems : List (List Char)) (hdd : ∀ e ∈ elems, e ≠ ['.', '.'])
    (out : List Char) (dotdot : Nat) (hlen : out.length ≠ 1) :
    elems.foldl (cleanElem true) ⟨out, dotdot⟩ =
      ⟨(elems.filter IsReal).foldl (fun acc e => e.reverse ++ '/' :: acc) out, dotdot⟩ := by
  induction elems generalizing out with
  | nil => rfl
  | cons e es ih =>
    obtain ⟨he, hes⟩ := List.forall_mem_cons.1 hdd
    by_cases hr : IsReal e
    · have hstep : cleanElem true ⟨out, dotdot⟩ e = ⟨e.reverse ++ '/' :: out, dotdot⟩ := by
        simp [cleanElem, hr.1, hr.2, he, hlen]
      have hlen' : (e.reverse ++ '/' :: out).length ≠ 1 := by
        simp only [List.length_append, List.length_reverse, List.length_cons]
        have := List.length_pos.2 hr.1
        omega
      rw [List.foldl_cons, hstep, ih hes _ hlen', List.filter_cons_of_pos (by simpa using hr)]
      rfl
    · have hstep : cleanElem true ⟨out, dotdot⟩ e = ⟨out, dotdot⟩ := by
        unfold IsReal at hr
        simp only [cleanElem]
        rw [if_pos (by tauto)]
      rw [List.foldl_cons, hstep, ih hes _ hlen, List.filter_cons_of_neg (by simpa using hr)]

theorem reverse_foldl_sep (l : List (List Char)) (out : List Char) :
    (l.foldl (fun acc e => e.reverse ++ '/' :: acc) out).reverse =
      out.reverse ++ l.flatMap ('/' :: ·) := by
  induction l generalizing out with
  | nil => simp
  | cons e es ih => simp [ih]

theorem cleanElem_true_dotdot (b : CleanBuf) (e : List Char) :
    (cleanElem true b e).dotdot = b.dotdot := by
  unfold cleanElem
  split_ifs <;> simp_all

theorem foldl_cleanElem_true_dotdot (elems : List (List Char)) (b : CleanBuf) :
    (elems.foldl (cleanElem true) b).dotdot = b.dotdot := by
  induction elems generalizing b with
  | nil => rfl
  | cons e es ih => rw [List.foldl_cons, ih, cleanElem_true_dotdot]

theorem clean_buffer_of_clean {w : String} (hw : isAbs w = true) (hwc : clean w = w) :
    (segments w.data).foldl (cleanElem true) ⟨['/'], 1⟩ = ⟨w.data.reverse, 1⟩ := by
  have hd := foldl_cleanElem_true_dotdot (segments w.data) ⟨['/'], 1⟩
  rw [clean, if_neg (ne_empty_of_isAbs hw)] at hwc
  simp only [hw, if_true] at hwc
  revert hd hwc
  generalize (segments w.data).foldl (cleanElem true) ⟨['/'], 1⟩ = B
  rintro hd hwc
  obtain ⟨out, dd⟩ := B
  simp only at hd hwc
  subst hd
  split_ifs at hwc
  · rw [← hwc] at hw
    exact absurd hw (by decide)
  · rw [← hwc]
    simp

theorem length_ne_one_of_isAbs {w : String} (hw : isAbs w = true) (hroot : w ≠ "/") :
    w.data.length ≠ 1 := by
  intro h
  obtain ⟨c, hc⟩ := List.length_eq_one.1 h
  unfold isAbs at hw
  rw [hc] at hw
  split at hw
  · rename_i t ht
    obtain ⟨rfl, -⟩ := List.cons.inj ht
    exact hroot (String.ext hc)
  · cases hw

/-- `filepath.Join(dir, file)` for a clean absolute `dir` other than `/`, and a `file` with no `..`
element: `dir` followed by `/e` for each element `e` of `file` that is neither empty nor `.`. -/
theorem join_of_no_dotdot {dir file : String} (hdir : isAbs dir = true) (hclean : clean dir = dir)
    (hroot : dir ≠ "/") (hdd : ∀ e ∈ segments file.data, e ≠ ['.', '.']) :
    join [dir, file] = dir ++ ⟨((segments file.data).filter IsReal).flatMap ('/' :: ·)⟩ := by
  have hne := ne_empty_of_isAbs hdir
  have habs : isAbs (dir ++ "/" ++ file) = true := by
    rw [String.append_assoc]; exact isAbs_append_of_isAbs _ hdir
  have hlen : dir.data.reverse.length ≠ 1 := by
    rw [List.length_reverse]; exact length_ne_one_of_isAbs hdir hroot
  have hdata : (dir ++ "/" ++ file).data = dir.data ++ '/' :: file.data := by simp
  have hout := reverse_foldl_sep ((segments file.data).filter IsReal) dir.data.reverse
  rw [List.reverse_reverse] at hout
  rw [join, if_neg hne, show "/".intercalate [dir, file] = dir ++ "/" ++ file from rfl, clean,
    if_neg (ne_empty_of_isAbs habs)]
  simp only [habs, if_true, hdata, segments_append_cons_slash, List.foldl_append,
    clean_buffer_of_clean hdir hclean, foldl_cleanElem_of_no_dotdot _ hdd _ _ hlen]
  rw [if_neg fun h => hne (String.ext (by rw [h] at hout; simp at hout; exact hout.1)), hout]
  rfl

theorem join_srv_app_secret : (isAbs "/srv/app" = true ∧ clean "/srv/app" = "/srv/app" ∧
    "/srv/app" ≠ "/" ∧ ∀ e ∈ segments "secrets/./db.txt".data, e ≠ ['.', '.']) ∧
    join ["/srv/app", "secrets/./db.txt"] = "/srv/app" ++
      ⟨((segments "secrets/./db.txt".data).filter IsReal).flatMap ('/' :: ·)⟩ := by
  have h : isAbs "/srv/app" = true ∧ clean "/srv/app" = "/srv/app" ∧ "/srv/app" ≠ "/" ∧
      ∀ e ∈ segments "secrets/./db.txt".data, e ≠ ['.', '.'] := by decide
  exact ⟨h, join_of_no_dotdot h.1 h.2.1 h.2.2.1 h.2.2.2⟩

/- Without that hypothesis the joined path can leave the working directory. -/
example : join ["/srv/app", "../../etc/passwd"] = "/etc/passwd" := by decide

end Go
end Uncloud
