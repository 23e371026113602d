import Mathlib.Data.List.Basic

/-! `strings.Cut` for a one-character separator, as `image prune` calls it on its filters. -/
namespace Uncloud
namespace Go

/-- `strings.Cut(s, sep)`: the text before and after the first `sep`, and whether there is one;
`(s, "", false)` when there is none. -/
def cut (s : String) (sep : Char) : String × String × Bool :=
  if sep ∈ s.data then (⟨s.data.takeWhile (· ≠ sep)⟩, ⟨(s.data.dropWhile (· ≠ sep)).drop 1⟩, true)
  else (s, "", false)

theorem cut_found (s : String) (sep : Char) : (cut s sep).2.2 = decide (sep ∈ s.data) := by
  unfold cut
  split_ifs with h <;> simp [h]

theorem takeWhile_append_of_not_mem {sep : Char} {k : List Char} (hk : sep ∉ k) (v : List Char) :
    (k ++ sep :: v).takeWhile (· ≠ sep) = k ∧ (k ++ sep :: v).dropWhile (· ≠ sep) = sep :: v := by
  induction k with
  | nil => simp [List.takeWhile_cons, List.dropWhile_cons]
  | cons c k ih =>
    have hc : decide (c ≠ sep) = true := decide_eq_true fun h => hk (h ▸ List.mem_cons_self c k)
    obtain ⟨h1, h2⟩ := ih (fun h => hk (List.mem_cons_of_mem c h))
    simp only [List.cons_append, List.takeWhile_cons, List.dropWhile_cons, hc, h1, h2, if_true,
      and_self]

theorem cut_append {sep : Char} {key : String} (hk : sep ∉ key.data) (value : String) :
    cut (key ++ ⟨[sep]⟩ ++ value) sep = (key, value, true) := by
  obtain ⟨h1, h2⟩ := takeWhile_append_of_not_mem hk value.data
  have hdata : (key ++ ⟨[sep]⟩ ++ value).data = key.data ++ sep :: value.data := by simp
  rw [cut, if_pos (by rw [hdata]; simp), hdata, h1, h2]
  rfl

end Go
end Uncloud
