import Uncloud.Go.Filepath

/-! `filepath.Clean` is documented by four rules: repeated separators become one, `.` elements go,
a `..` element removes the name before it, and `..` elements that begin a rooted path go. Here
those rules are a resolution of the path's elements against a stack of names (`LexPath.step`), and
the library's single pass, with its backtracking buffer and its `dotdot` mark, is shown to write
out exactly the resolved path. It follows that `Clean` is idempotent, and that `Join` under a rooted
directory climbs out of it by the leading `..` elements of the joined file and no further. -/
namespace Uncloud
namespace Go

/-! ## Splitting and joining at `/` -/

theorem segments_eq_splitOn (l : List Char) : segments l = l.splitOn '/' := by
  induction l with
  | nil => rfl
  | cons c cs ih =>
    rw [List.splitOn, List.splitOnP_cons, ← List.splitOn, ← ih]
    by_cases hc : c = '/'
    · simp [segments, hc]
    · obtain ⟨e, es, he⟩ := List.exists_cons_of_ne_nil (segments_ne_nil cs)
      simp [segments, hc, he]

theorem slash_not_mem_of_mem_segments {l e : List Char} (h : e ∈ segments l) : '/' ∉ e := by
  induction l generalizing e with
  | nil =>
    obtain rfl : e = [] := by simpa [segments] using h
    simp
  | cons c cs ih =>
    unfold segments at h
    split_ifs at h with hc
    · rcases List.mem_cons.1 h with rfl | h
      · simp
      · exact ih h
    · obtain ⟨x, xs, hx⟩ := List.exists_cons_of_ne_nil (segments_ne_nil cs)
      simp only [hx, List.mem_cons] at h
      rcases h with rfl | h
      · simp only [List.mem_cons, not_or]
        exact ⟨Ne.symm hc, ih (hx ▸ List.mem_cons_self x xs)⟩
      · exact ih (hx ▸ List.mem_cons_of_mem x h)

@[simp] theorem intercalate_slash_nil : ['/'].intercalate ([] : List (List Char)) = [] := rfl

@[simp] theorem intercalate_slash_singleton (a : List Char) : ['/'].intercalate [a] = a := by
  simp [List.intercalate]

theorem intercalate_slash_cons_cons (a b : List Char) (E : List (List Char)) :
    ['/'].intercalate (a :: b :: E) = a ++ '/' :: ['/'].intercalate (b :: E) := by
  simp [List.intercalate]

theorem intercalate_slash_append (E : List (List Char)) (x : List Char) :
    ['/'].intercalate (E ++ [x]) = if E = [] then x else ['/'].intercalate E ++ '/' :: x := by
  induction E with
  | nil => simp
  | cons a E ih =>
    cases E with
    | nil => simp [List.intercalate]
    | cons b E =>
      rw [List.cons_append, List.cons_append, intercalate_slash_cons_cons, ← List.cons_append, ih,
        if_neg (List.cons_ne_nil _ _), if_neg (List.cons_ne_nil _ _), intercalate_slash_cons_cons]
      simp

theorem intercalate_slash_eq_nil {E : List (List Char)} (hE : ∀ x ∈ E, x ≠ []) :
    ['/'].intercalate E = [] ↔ E = [] := by
  rcases E with _ | ⟨a, _ | ⟨b, E⟩⟩
  · simp
  · simpa using hE a (List.mem_singleton_self a)
  · simp [intercalate_slash_cons_cons]

/-! ## Resolved paths -/

/-- A path resolved lexically: `up` leading `..` elements, which only a relative path keeps, then the
names it goes down through, the last one first. -/
structure LexPath where
  up : Nat
  names : List (List Char)
  deriving DecidableEq, Repr

namespace LexPath

def elems (p : LexPath) : List (List Char) := List.replicate p.up ['.', '.'] ++ p.names.reverse

def step (rooted : Bool) (p : LexPath) (e : List Char) : LexPath :=
  if e = [] ∨ e = ['.'] then p
  else if e = ['.', '.'] then
    match p.names with
    | _ :: names => { p with names }
    | [] => if rooted then p else { p with up := p.up + 1 }
  else { p with names := e :: p.names }

theorem step_skip {rooted : Bool} {p : LexPath} {e : List Char} (h : e = [] ∨ e = ['.']) :
    p.step rooted e = p := if_pos h

theorem step_pop (rooted : Bool) (up : Nat) (n : List Char) (ns : List (List Char)) :
    step rooted ⟨up, n :: ns⟩ ['.', '.'] = ⟨up, ns⟩ := rfl

theorem step_dotdot_nil (rooted : Bool) (up : Nat) :
    step rooted ⟨up, []⟩ ['.', '.'] = if rooted then ⟨up, []⟩ else ⟨up + 1, []⟩ := by
  cases rooted <;> rfl

theorem step_name {rooted : Bool} {p : LexPath} {e : List Char} (h0 : e ≠ []) (h1 : e ≠ ['.'])
    (h2 : e ≠ ['.', '.']) : p.step rooted e = ⟨p.up, e :: p.names⟩ := by
  simp [step, h0, h1, h2]

def text (rooted : Bool) (p : LexPath) : List Char :=
  (if rooted then ['/'] else []) ++ ['/'].intercalate p.elems

theorem elems_eq_nil {up : Nat} {names : List (List Char)} :
    (⟨up, names⟩ : LexPath).elems = [] ↔ up = 0 ∧ names = [] := by
  simp [elems]

theorem text_push (rooted : Bool) {p q : LexPath} {x : List Char} (h : q.elems = p.elems ++ [x]) :
    q.text rooted = p.text rooted ++ if p.elems = [] then x else '/' :: x := by
  simp only [text, h, intercalate_slash_append]
  by_cases hE : p.elems = [] <;> simp [hE]

theorem text_cons (rooted : Bool) (up : Nat) (n : List Char) (ns : List (List Char)) :
    text rooted ⟨up, n :: ns⟩ =
      text rooted ⟨up, ns⟩ ++ if (⟨up, ns⟩ : LexPath).elems = [] then n else '/' :: n :=
  text_push rooted (by simp [elems])

theorem text_up_succ (rooted : Bool) (up : Nat) :
    text rooted ⟨up + 1, []⟩ =
      text rooted ⟨up, []⟩ ++ if up = 0 then ['.', '.'] else '/' :: ['.', '.'] := by
  rw [@text_push rooted ⟨up, []⟩ ⟨up + 1, []⟩ ['.', '.'] (by simp [elems, List.replicate_succ'])]
  simp [elems]

theorem text_base_le (rooted : Bool) (up : Nat) (names : List (List Char)) :
    (text rooted ⟨up, []⟩).length ≤ (text rooted ⟨up, names⟩).length := by
  induction names with
  | nil => exact le_rfl
  | cons n ns ih =>
    rw [text_cons, List.length_append]
    omega

theorem ne_nil_of_mem_elems {p : LexPath} (hp : ∀ n ∈ p.names, n ≠ []) :
    ∀ x ∈ p.elems, x ≠ [] := by
  simp only [elems, List.mem_append, List.mem_replicate, List.mem_reverse]
  rintro x (⟨-, rfl⟩ | hx)
  · simp
  · exact hp x hx

theorem text_eq_nil {rooted : Bool} {p : LexPath} (hp : ∀ n ∈ p.names, n ≠ []) :
    p.text rooted = [] ↔ rooted = false ∧ p.elems = [] := by
  cases rooted <;> simp [text, intercalate_slash_eq_nil (ne_nil_of_mem_elems hp)]

end LexPath

/-- The path `Clean` is documented to return: the elements resolved in turn from an empty path, the
result written out, and `.` for an empty one. -/
def lexicalClean (path : String) : String :=
  let rooted := isAbs path
  let t := ((segments path.data).foldl (LexPath.step rooted) ⟨0, []⟩).text rooted
  if t = [] then "." else ⟨t⟩

/-! ## `Clean`'s buffer against the resolved path -/

theorem backtrack_append_slash {dd : Nat} {l rest : List Char} (hl : '/' ∉ l)
    (hr : dd ≤ rest.length) : backtrack dd (l ++ '/' :: rest) = rest := by
  induction l with
  | nil => simp [backtrack]
  | cons c l ih =>
    rw [List.mem_cons, not_or] at hl
    rw [List.cons_append, backtrack, if_pos ⟨by simp; omega, Ne.symm hl.1⟩, ih hl.2]

theorem backtrack_append_of_length {dd : Nat} {l rest : List Char} (hl : '/' ∉ l) (hne : l ≠ [])
    (hr : rest.length = dd) : backtrack dd (l ++ rest) = rest := by
  induction l with
  | nil => exact absurd rfl hne
  | cons c l ih =>
    rw [List.mem_cons, not_or] at hl
    rcases l with _ | ⟨c', l⟩
    · simp [backtrack, hr]
    · rw [List.cons_append, backtrack, if_pos ⟨by simp; omega, Ne.symm hl.1⟩,
        ih hl.2 (List.cons_ne_nil _ _)]

/-- `Clean`'s buffer after some elements, against the path they resolve to: it holds the resolved
text, last byte first; `dotdot` stands after the root or after the leading `..` elements; and the
names are non-empty and hold no `/`. -/
structure Simulates (rooted : Bool) (p : LexPath) (b : CleanBuf) : Prop where
  out : b.out = (p.text rooted).reverse
  dotdot : b.dotdot = (LexPath.text rooted ⟨p.up, []⟩).length
  up : rooted = true → p.up = 0
  names : ∀ n ∈ p.names, n ≠ [] ∧ '/' ∉ n

namespace Simulates

variable {rooted : Bool} {b : CleanBuf}

theorem init (rooted : Bool) :
    Simulates rooted ⟨0, []⟩ (if rooted then ⟨['/'], 1⟩ else ⟨[], 0⟩) := by
  cases rooted <;> exact ⟨rfl, rfl, fun _ => rfl, by simp⟩

theorem not_backtrack {up : Nat} (h : Simulates rooted ⟨up, []⟩ b) : ¬ b.dotdot < b.out.length := by
  rw [h.out, h.dotdot, List.length_reverse]
  exact lt_irrefl _

theorem pop {up : Nat} {n : List Char} {ns : List (List Char)} (h : Simulates rooted ⟨up, n :: ns⟩ b) :
    Simulates rooted ⟨up, ns⟩ (cleanElem rooted b ['.', '.']) := by
  obtain ⟨hn, hns⟩ := List.forall_mem_cons.1 h.names
  have hbase := LexPath.text_base_le rooted up ns
  have hlen : b.dotdot < b.out.length := by
    rw [h.out, h.dotdot, List.length_reverse, LexPath.text_cons, List.length_append]
    have := List.length_pos.2 hn.1
    split_ifs <;> simp <;> omega
  have hout : backtrack b.dotdot b.out = (LexPath.text rooted ⟨up, ns⟩).reverse := by
    rw [h.out, LexPath.text_cons]
    split_ifs with he
    · obtain ⟨rfl, rfl⟩ := LexPath.elems_eq_nil.1 he
      rw [List.reverse_append]
      exact backtrack_append_of_length (by simpa using hn.2) (by simpa using hn.1)
        (by rw [List.length_reverse, h.dotdot])
    · rw [List.reverse_append, List.reverse_cons, List.append_assoc, List.singleton_append]
      exact backtrack_append_slash (by simpa using hn.2)
        (by rw [List.length_reverse, h.dotdot]; exact hbase)
  have hstep : cleanElem rooted b ['.', '.'] = { b with out := backtrack b.dotdot b.out } := by
    simp [cleanElem, hlen]
  rw [hstep]
  exact ⟨hout, h.dotdot, h.up, hns⟩

theorem root {up : Nat} (h : Simulates true ⟨up, []⟩ b) :
    Simulates true ⟨up, []⟩ (cleanElem true b ['.', '.']) := by
  have hstep : cleanElem true b ['.', '.'] = b := by simp [cleanElem, h.not_backtrack]
  rwa [hstep]

theorem upward {up : Nat} (h : Simulates false ⟨up, []⟩ b) :
    Simulates false ⟨up + 1, []⟩ (cleanElem false b ['.', '.']) := by
  have hlen : 0 < b.out.length ↔ up ≠ 0 := by
    rw [h.out, List.length_reverse, List.length_pos, Ne, LexPath.text_eq_nil (by simp)]
    simp [LexPath.elems_eq_nil]
  have hout : '.' :: '.' :: (if 0 < b.out.length then '/' :: b.out else b.out) =
      (LexPath.text false ⟨up + 1, []⟩).reverse := by
    rw [LexPath.text_up_succ, List.reverse_append, ← h.out]
    by_cases hu : up = 0 <;> simp [hu, hlen]
  have hstep : cleanElem false b ['.', '.'] =
      ⟨'.' :: '.' :: (if 0 < b.out.length then '/' :: b.out else b.out),
        ('.' :: '.' :: (if 0 < b.out.length then '/' :: b.out else b.out)).length⟩ := by
    simp [cleanElem, h.not_backtrack]
  rw [hstep]
  exact ⟨hout, by rw [hout, List.length_reverse], by simp, by simp⟩

theorem name {p : LexPath} (h : Simulates rooted p b) {e : List Char} (he : e ≠ [])
    (he1 : e ≠ ['.']) (he2 : e ≠ ['.', '.']) (hs : '/' ∉ e) :
    Simulates rooted ⟨p.up, e :: p.names⟩ (cleanElem rooted b e) := by
  have hnil := intercalate_slash_eq_nil
    (LexPath.ne_nil_of_mem_elems fun n hn => (h.names n hn).1)
  have hsep : ((rooted && b.out.length != 1) || (!rooted && b.out.length != 0)) = true ↔
      p.elems ≠ [] := by
    rw [h.out, List.length_reverse]
    cases rooted <;> simp [LexPath.text, hnil]
  have hstep : cleanElem rooted b e =
      { b with out := e.reverse ++ if p.elems = [] then b.out else '/' :: b.out } := by
    simp only [cleanElem, he, he1, he2, or_self, if_false]
    by_cases hE : p.elems = []
    · rw [if_neg (mt hsep.1 (not_not.2 hE)), if_pos hE]
    · rw [if_pos (hsep.2 hE), if_neg hE]
  rw [hstep]
  refine ⟨?_, h.dotdot, h.up, List.forall_mem_cons.2 ⟨⟨he, hs⟩, h.names⟩⟩
  rw [LexPath.text_cons, h.out, List.reverse_append]
  split_ifs <;> simp

theorem step {p : LexPath} (h : Simulates rooted p b) {e : List Char} (hs : '/' ∉ e) :
    Simulates rooted (p.step rooted e) (cleanElem rooted b e) := by
  by_cases h0 : e = [] ∨ e = ['.']
  · rwa [LexPath.step_skip h0, show cleanElem rooted b e = b from if_pos h0]
  rw [not_or] at h0
  by_cases h2 : e = ['.', '.']
  · subst h2
    obtain ⟨up, _ | ⟨n, ns⟩⟩ := p
    · rw [LexPath.step_dotdot_nil]
      cases rooted
      · exact h.upward
      · exact h.root
    · exact h.pop
  · rw [LexPath.step_name h0.1 h0.2 h2]
    exact h.name h0.1 h0.2 h2 hs

theorem foldl {p : LexPath} (h : Simulates rooted p b) (es : List (List Char))
    (hes : ∀ e ∈ es, '/' ∉ e) :
    Simulates rooted (es.foldl (LexPath.step rooted) p) (es.foldl (cleanElem rooted) b) := by
  induction es generalizing p b with
  | nil => exact h
  | cons e es ih =>
    obtain ⟨he, hes⟩ := List.forall_mem_cons.1 hes
    exact ih (h.step he) hes

end Simulates

theorem clean_eq_lexicalClean (path : String) : clean path = lexicalClean path := by
  by_cases hp : path = ""
  · subst hp
    rfl
  have hrun := (Simulates.init (isAbs path)).foldl (segments path.data)
    fun _ he => slash_not_mem_of_mem_segments he
  rw [clean, if_neg hp]
  simp only [lexicalClean, hrun.out, List.reverse_eq_nil_iff, List.reverse_reverse]

/-! ## Resolution is idempotent -/

def IsName (n : List Char) : Prop := n ≠ [] ∧ n ≠ ['.'] ∧ n ≠ ['.', '.'] ∧ '/' ∉ n

structure LexPath.Resolved (rooted : Bool) (p : LexPath) : Prop where
  up : rooted = true → p.up = 0
  names : ∀ n ∈ p.names, IsName n

namespace LexPath.Resolved

variable {rooted : Bool}

theorem init (rooted : Bool) : Resolved rooted ⟨0, []⟩ := ⟨fun _ => rfl, by simp⟩

theorem step {p : LexPath} (h : Resolved rooted p) {e : List Char} (hs : '/' ∉ e) :
    Resolved rooted (p.step rooted e) := by
  by_cases h0 : e = [] ∨ e = ['.']
  · rwa [LexPath.step_skip h0]
  rw [not_or] at h0
  by_cases h2 : e = ['.', '.']
  · subst h2
    obtain ⟨up, _ | ⟨n, ns⟩⟩ := p
    · rw [LexPath.step_dotdot_nil]
      cases rooted
      · exact ⟨by simp, by simp⟩
      · exact h
    · exact ⟨h.up, fun m hm => h.names m (List.mem_cons_of_mem n hm)⟩
  · rw [LexPath.step_name h0.1 h0.2 h2]
    exact ⟨h.up, List.forall_mem_cons.2 ⟨⟨h0.1, h0.2, h2, hs⟩, h.names⟩⟩

theorem foldl {p : LexPath} (h : Resolved rooted p) (es : List (List Char))
    (hes : ∀ e ∈ es, '/' ∉ e) : Resolved rooted (es.foldl (LexPath.step rooted) p) := by
  induction es generalizing p with
  | nil => exact h
  | cons e es ih =>
    obtain ⟨he, hes⟩ := List.forall_mem_cons.1 hes
    exact ih (h.step he) hes

theorem slash_not_mem {p : LexPath} (h : Resolved rooted p) : ∀ x ∈ p.elems, '/' ∉ x := by
  simp only [elems, List.mem_append, List.mem_replicate, List.mem_reverse]
  rintro x (⟨-, rfl⟩ | hx)
  · simp
  · exact (h.names x hx).2.2.2

theorem ne_nil {p : LexPath} (h : Resolved rooted p) : ∀ x ∈ p.elems, x ≠ [] :=
  ne_nil_of_mem_elems fun n hn => (h.names n hn).1

end LexPath.Resolved

theorem foldl_step_dotdots (k up : Nat) :
    (List.replicate k ['.', '.']).foldl (LexPath.step false) ⟨up, []⟩ = ⟨up + k, []⟩ := by
  induction k generalizing up with
  | zero => rfl
  | succ k ih =>
    rw [List.replicate_succ, List.foldl_cons, LexPath.step_dotdot_nil, if_neg Bool.false_ne_true, ih,
      Nat.add_right_comm, Nat.add_assoc]

theorem foldl_step_names (rooted : Bool) (up : Nat) {names : List (List Char)}
    (h : ∀ n ∈ names, IsName n) (ns : List (List Char)) :
    names.reverse.foldl (LexPath.step rooted) ⟨up, ns⟩ = ⟨up, names ++ ns⟩ := by
  induction names with
  | nil => rfl
  | cons n names ih =>
    obtain ⟨⟨hn, hn1, hn2, -⟩, hns⟩ := List.forall_mem_cons.1 h
    rw [List.reverse_cons, List.foldl_append, ih hns, List.foldl_cons, List.foldl_nil,
      LexPath.step_name hn hn1 hn2]
    rfl

theorem LexPath.Resolved.foldl_elems {p : LexPath} (h : Resolved rooted p) :
    p.elems.foldl (LexPath.step rooted) ⟨0, []⟩ = p := by
  obtain ⟨up, names⟩ := p
  have hnames := foldl_step_names rooted up h.names []
  rw [List.append_nil] at hnames
  rw [elems, List.foldl_append]
  cases rooted
  · rw [foldl_step_dotdots, Nat.zero_add, hnames]
  · obtain rfl : up = 0 := h.up rfl
    exact hnames

theorem isAbs_text {rooted : Bool} {p : LexPath} (h : LexPath.Resolved rooted p) (hE : p.elems ≠ []) :
    isAbs ⟨p.text rooted⟩ = rooted := by
  cases rooted
  · obtain ⟨x, E, hx⟩ := List.exists_cons_of_ne_nil hE
    obtain ⟨c, x', rfl⟩ := List.exists_cons_of_ne_nil (h.ne_nil x (hx ▸ List.mem_cons_self x E))
    have hc : c ≠ '/' := fun hc =>
      h.slash_not_mem (c :: x') (hx ▸ List.mem_cons_self _ E) (hc ▸ List.mem_cons_self c x')
    have ht : ∃ s, p.text false = c :: s := by
      rcases E with _ | ⟨y, E⟩
      · exact ⟨x', by simp [LexPath.text, hx]⟩
      · exact ⟨x' ++ '/' :: ['/'].intercalate (y :: E),
          by simp [LexPath.text, hx, intercalate_slash_cons_cons]⟩
    obtain ⟨s, hs⟩ := ht
    simp only [isAbs, hs]
    split
    · rename_i t heq
      exact absurd (List.cons.inj heq).1 hc
    · rfl
  · rfl

theorem segments_text {rooted : Bool} {p : LexPath} (h : LexPath.Resolved rooted p) (hE : p.elems ≠ []) :
    segments (p.text rooted) = (if rooted then [[]] else []) ++ p.elems := by
  have hsplit : segments (['/'].intercalate p.elems) = p.elems := by
    rw [segments_eq_splitOn, List.splitOn_intercalate p.elems '/' h.slash_not_mem hE]
  cases rooted
  · simpa [LexPath.text] using hsplit
  · simp [LexPath.text, segments, hsplit]

theorem lexicalClean_text {rooted : Bool} {p : LexPath} (h : LexPath.Resolved rooted p) (ht : p.text rooted ≠ []) :
    lexicalClean ⟨p.text rooted⟩ = ⟨p.text rooted⟩ := by
  by_cases hE : p.elems = []
  · have hr : rooted = true := by
      by_contra hr
      exact ht ((LexPath.text_eq_nil (p := p) fun n hn => (h.names n hn).1).2 ⟨by simpa using hr, hE⟩)
    subst hr
    obtain ⟨up, names⟩ := p
    obtain ⟨rfl, rfl⟩ := LexPath.elems_eq_nil.1 hE
    rfl
  · have hfold : (segments (p.text rooted)).foldl (LexPath.step rooted) ⟨0, []⟩ = p := by
      rw [segments_text h hE, List.foldl_append]
      cases rooted
      · exact h.foldl_elems
      · simpa [LexPath.step] using h.foldl_elems
    simp only [lexicalClean, isAbs_text h hE, hfold, if_neg ht]

theorem lexicalClean_lexicalClean (path : String) :
    lexicalClean (lexicalClean path) = lexicalClean path := by
  have h := (LexPath.Resolved.init (isAbs path)).foldl (segments path.data)
    fun _ he => slash_not_mem_of_mem_segments he
  generalize hp : (segments path.data).foldl (LexPath.step (isAbs path)) ⟨0, []⟩ = p at h
  have hc : lexicalClean path =
      if p.text (isAbs path) = [] then "." else ⟨p.text (isAbs path)⟩ := by
    rw [← hp]
    rfl
  rw [hc]
  split_ifs with ht
  · rfl
  · exact lexicalClean_text h ht

/-- `filepath.Clean` returns the lexical resolution of its argument, so cleaning a second time
changes nothing. -/
theorem clean_resolves_lexically (path : String) :
    clean path = lexicalClean path ∧ clean (clean path) = clean path := by
  refine ⟨clean_eq_lexicalClean path, ?_⟩
  rw [clean_eq_lexicalClean, clean_eq_lexicalClean, lexicalClean_lexicalClean]

example : clean "/srv/app/../../../etc//./passwd" = "/etc/passwd" ∧ clean "a/../../b/" = "../b" := by
  decide

/-! ## Joining under a rooted path -/

theorem step_under_root (W : List (List Char)) (p : LexPath) (e : List Char) :
    LexPath.step true ⟨0, p.names ++ W.drop p.up⟩ e =
      ⟨0, (p.step false e).names ++ W.drop (p.step false e).up⟩ := by
  obtain ⟨u, N⟩ := p
  by_cases h0 : e = [] ∨ e = ['.']
  · rw [LexPath.step_skip h0, LexPath.step_skip h0]
  rw [not_or] at h0
  by_cases h2 : e = ['.', '.']
  · subst h2
    rcases N with _ | ⟨n, N⟩
    · rw [LexPath.step_dotdot_nil, List.nil_append]
      rcases hW : W.drop u with _ | ⟨w, rest⟩ <;>
        simp [LexPath.step_pop, LexPath.step_dotdot_nil, ← List.tail_drop, hW]
    · rfl
  · rw [LexPath.step_name h0.1 h0.2 h2, LexPath.step_name h0.1 h0.2 h2]
    rfl

theorem foldl_step_under_root (W : List (List Char)) (p : LexPath) (es : List (List Char)) :
    es.foldl (LexPath.step true) ⟨0, p.names ++ W.drop p.up⟩ =
      ⟨0, (es.foldl (LexPath.step false) p).names ++
        W.drop (es.foldl (LexPath.step false) p).up⟩ := by
  induction es generalizing p with
  | nil => rfl
  | cons e es ih => rw [List.foldl_cons, List.foldl_cons, step_under_root, ih]

/-- `filepath.Join(dir, file)` for an absolute `dir`: resolved on its own as a relative path, `file`
has `up` leading `..` elements and then its names; the result is `dir` resolved, less its last `up`
names and never above the root, followed by those names. -/
theorem join_of_isAbs {dir : String} (file : String) (hdir : isAbs dir = true) :
    join [dir, file] =
      let d := (segments dir.data).foldl (LexPath.step true) ⟨0, []⟩
      let f := (segments file.data).foldl (LexPath.step false) ⟨0, []⟩
      ⟨LexPath.text true ⟨0, f.names ++ d.names.drop f.up⟩⟩ := by
  have habs : isAbs (dir ++ "/" ++ file) = true := by
    rw [String.append_assoc]
    exact isAbs_append_of_isAbs _ hdir
  have hdata : (dir ++ "/" ++ file).data = dir.data ++ '/' :: file.data := by simp
  have hd := ((LexPath.Resolved.init true).foldl (segments dir.data)
    fun _ he => slash_not_mem_of_mem_segments he).up rfl
  rw [join, if_neg (ne_empty_of_isAbs hdir),
    show "/".intercalate [dir, file] = dir ++ "/" ++ file from rfl, clean_eq_lexicalClean]
  simp only [lexicalClean, habs, hdata, segments_append_cons_slash, List.foldl_append]
  generalize (segments dir.data).foldl (LexPath.step true) ⟨0, []⟩ = d at hd ⊢
  obtain ⟨u, W⟩ := d
  obtain rfl : u = 0 := hd
  have hfold := foldl_step_under_root W ⟨0, []⟩ (segments file.data)
  rw [List.nil_append, List.drop_zero] at hfold
  rw [hfold, if_neg (by simp [LexPath.text])]

theorem join_srv_app_escape : isAbs "/srv/app" = true ∧
    join ["/srv/app", "../../etc/passwd"] =
      let d := (segments "/srv/app".data).foldl (LexPath.step true) ⟨0, []⟩
      let f := (segments "../../etc/passwd".data).foldl (LexPath.step false) ⟨0, []⟩
      ⟨LexPath.text true ⟨0, f.names ++ d.names.drop f.up⟩⟩ :=
  ⟨by decide, join_of_isAbs "../../etc/passwd" (by decide)⟩

end Go
end Uncloud
