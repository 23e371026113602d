import Mathlib.Data.Nat.Defs

/-! Go's integer conversions and `strconv.ParseUint` in the one instance the secret code calls,
base 10 with bit size 64. A uint64 is a `Nat` below `2^64` and an int64 a `BitVec 64`; where Go
wraps a `Nat`, the model writes `%`. -/
namespace Uncloud
namespace Go

instance decEqExcept {ε α : Type} [DecidableEq ε] [DecidableEq α] : DecidableEq (Except ε α)
  | .ok a, .ok b => decidable_of_iff (a = b) ⟨congrArg _, Except.ok.inj⟩
  | .error a, .error b => decidable_of_iff (a = b) ⟨congrArg _, Except.error.inj⟩
  | .ok _, .error _ => isFalse Except.noConfusion
  | .error _, .ok _ => isFalse Except.noConfusion

@[simp] theorem except_bind_eq_ok {ε α β : Type} {x : Except ε α} {f : α → Except ε β} {b : β} :
    x >>= f = .ok b ↔ ∃ a, x = .ok a ∧ f a = .ok b := by
  cases x <;> simp [bind, Except.bind]

/-- The width of Go's `int`, fixed by the target platform. -/
inductive IntSize
  | w32 | w64
  deriving DecidableEq, Repr

def IntSize.modulus : IntSize → Nat
  | .w32 => 4294967296
  | .w64 => 18446744073709551616

def IntSize.half : IntSize → Nat
  | .w32 => 2147483648
  | .w64 => 9223372036854775808

/-- The conversion `int(x)` of a uint64: the low `w` bits of `x`, read in two's complement. -/
def toInt (size : IntSize) (x : Nat) : Int :=
  if x % size.modulus < size.half then (x % size.modulus : Nat)
  else (x % size.modulus : Nat) - (size.modulus : Int)

theorem toInt_neg_iff (size : IntSize) (x : Nat) :
    toInt size x < 0 ↔ size.half ≤ x % size.modulus := by
  cases size <;> simp only [toInt, IntSize.modulus, IntSize.half] <;> split_ifs <;> omega

theorem toInt_of_lt_half {size : IntSize} {x : Nat} (h : x < size.half) : toInt size x = x := by
  cases size <;> simp only [toInt, IntSize.modulus, IntSize.half] at * <;> rw [if_pos (by omega)] <;>
    rw [Nat.mod_eq_of_lt (by omega)]

theorem toNat_of_toInt_nonneg {x : BitVec 64} (h : 0 ≤ x.toInt) :
    (x.toNat : Int) = x.toInt ∧ 2 * x.toNat < 18446744073709551616 := by
  rw [BitVec.toInt_eq_toNat_cond] at *
  split_ifs at * with hx
  · exact ⟨rfl, hx⟩
  · have := x.isLt
    simp only [Nat.reducePow] at *
    omega

/-- The conversion `os.FileMode(m)` of compose-go's int64 `FileMode` to the uint32 `os.FileMode`. -/
def fileMode (m : Int) : UInt32 := UInt32.ofNat (m % 4294967296).toNat

theorem fileMode_toNat (m : Int) : ((fileMode m).toNat : Int) = m % 4294967296 := by
  have h0 : 0 ≤ m % 4294967296 := Int.emod_nonneg m (by decide)
  have h1 : m % 4294967296 < 4294967296 := Int.emod_lt_of_pos m (by decide)
  rw [fileMode, UInt32.toNat_ofNat_of_lt (by show _ < 4294967296; omega)]
  omega

/-- The sentinels `strconv.ErrSyntax` and `strconv.ErrRange`. -/
inductive NumErrorKind
  | invalid | outOfRange
  deriving DecidableEq, Repr

def NumErrorKind.message : NumErrorKind → String
  | .invalid => "invalid syntax"
  | .outOfRange => "value out of range"

/-- `strconv.NumError`: the function that failed, its input and the sentinel. -/
structure NumError where
  func : String
  num : String
  err : NumErrorKind
  deriving DecidableEq, Repr

/-- `1<<64 - 1`, the `maxVal` of bit size 64. -/
def maxUint64 : Nat := 18446744073709551615

/-- `maxUint64/10 + 1`, the smallest accumulator whose product with the base overflows. -/
def cutoff : Nat := 1844674407370955162

def parseDigit (s : String) (n : Nat) (c : Char) : Except NumError Nat :=
  if c.isDigit then
    if cutoff ≤ n then .error ⟨"ParseUint", s, .outOfRange⟩
    else
      let n1 := (n * 10 + (c.toNat - 48)) % 18446744073709551616
      if n1 < n * 10 ∨ maxUint64 < n1 then .error ⟨"ParseUint", s, .outOfRange⟩ else .ok n1
  else .error ⟨"ParseUint", s, .invalid⟩

/-- `strconv.ParseUint(s, 10, 64)`. -/
def parseUint (s : String) : Except NumError Nat :=
  if s = "" then .error ⟨"ParseUint", s, .invalid⟩ else s.data.foldlM (parseDigit s) 0

def digitsValue (n : Nat) (cs : List Char) : Nat := cs.foldl (fun n c => n * 10 + (c.toNat - 48)) n

def IsDecimal (s : String) : Prop := s ≠ "" ∧ ∀ c ∈ s.data, c.isDigit

instance (s : String) : Decidable (IsDecimal s) := inferInstanceAs (Decidable (_ ∧ _))

@[simp] theorem digitsValue_nil (n : Nat) : digitsValue n [] = n := rfl

@[simp] theorem digitsValue_cons (n : Nat) (c : Char) (cs : List Char) :
    digitsValue n (c :: cs) = digitsValue (n * 10 + (c.toNat - 48)) cs := rfl

theorem le_digitsValue (n : Nat) (cs : List Char) : n ≤ digitsValue n cs := by
  induction cs generalizing n with
  | nil => rfl
  | cons c cs ih => rw [digitsValue_cons]; exact Nat.le_trans (by omega) (ih _)

theorem toNat_le_of_isDigit {c : Char} (h : c.isDigit) : c.toNat ≤ 57 := by
  simp only [Char.isDigit, Bool.and_eq_true, decide_eq_true_eq] at h
  exact h.2

theorem parseDigit_eq_ok {s : String} {n m : Nat} {c : Char} (hn : n < 18446744073709551616) :
    parseDigit s n c = .ok m ↔
      c.isDigit ∧ m = n * 10 + (c.toNat - 48) ∧ m < 18446744073709551616 := by
  unfold parseDigit cutoff maxUint64
  by_cases hc : c.isDigit
  · have := toNat_le_of_isDigit hc
    simp only [hc, if_true, true_and]
    split_ifs <;> simp <;> omega
  · simp [hc]

theorem foldlM_parseDigit_eq_ok (s : String) (cs : List Char) {n v : Nat}
    (hn : n < 18446744073709551616) :
    cs.foldlM (parseDigit s) n = .ok v ↔
      (∀ c ∈ cs, c.isDigit) ∧ v = digitsValue n cs ∧ v < 18446744073709551616 := by
  induction cs generalizing n with
  | nil =>
    show Except.ok n = .ok v ↔ _
    simp only [Except.ok.injEq, List.not_mem_nil, false_implies, implies_true, digitsValue_nil,
      true_and]
    exact ⟨fun h => ⟨h.symm, h ▸ hn⟩, fun h => h.1.symm⟩
  | cons c cs ih =>
    simp only [List.foldlM_cons, except_bind_eq_ok, List.mem_cons, forall_eq_or_imp,
      digitsValue_cons]
    constructor
    · rintro ⟨m, hm, hrest⟩
      obtain ⟨hc, rfl, hlt⟩ := (parseDigit_eq_ok hn).1 hm
      exact ⟨⟨hc, ((ih hlt).1 hrest).1⟩, ((ih hlt).1 hrest).2⟩
    · rintro ⟨⟨hc, hcs⟩, rfl, hv⟩
      have hlt := Nat.lt_of_le_of_lt (le_digitsValue _ cs) hv
      exact ⟨_, (parseDigit_eq_ok hn).2 ⟨hc, rfl, hlt⟩, (ih hlt).2 ⟨hcs, rfl, hv⟩⟩

theorem parseUint_eq_ok (s : String) (v : Nat) :
    parseUint s = .ok v ↔
      IsDecimal s ∧ v = digitsValue 0 s.data ∧ v < 18446744073709551616 := by
  unfold parseUint IsDecimal
  by_cases hs : s = ""
  · simp [hs]
  · simp only [hs, if_false, foldlM_parseDigit_eq_ok s s.data (by omega : 0 < 18446744073709551616),
      ne_eq, not_false_eq_true, true_and]

theorem parseDigit_of_isDigit {s : String} {n : Nat} {c : Char} (hc : c.isDigit)
    (hn : n < 18446744073709551616) :
    parseDigit s n c = if n * 10 + (c.toNat - 48) < 18446744073709551616
      then .ok (n * 10 + (c.toNat - 48)) else .error ⟨"ParseUint", s, .outOfRange⟩ := by
  have := toNat_le_of_isDigit hc
  unfold parseDigit cutoff maxUint64
  simp only [hc, if_true]
  by_cases hlt : n * 10 + (c.toNat - 48) < 18446744073709551616
  · rw [if_pos hlt, if_neg (by omega), Nat.mod_eq_of_lt hlt, if_neg (by omega)]
  · rw [if_neg hlt]
    split_ifs with h1 h2
    · rfl
    · rfl
    · exfalso; apply h2; omega

theorem parseDigit_of_not_isDigit {s : String} {n : Nat} {c : Char} (hc : ¬ c.isDigit) :
    parseDigit s n c = .error ⟨"ParseUint", s, .invalid⟩ := by
  simp [parseDigit, hc]

theorem foldlM_parseDigit_eq_error (s : String) (cs : List Char) {n : Nat} {e : NumError}
    (hn : n < 18446744073709551616) :
    cs.foldlM (parseDigit s) n = .error e ↔
      ¬ ((∀ c ∈ cs, c.isDigit) ∧ digitsValue n cs < 18446744073709551616) ∧
      e = ⟨"ParseUint", s, if digitsValue n (cs.takeWhile Char.isDigit) < 18446744073709551616
        then .invalid else .outOfRange⟩ := by
  induction cs generalizing n with
  | nil =>
    show Except.ok n = .error e ↔ _
    simp [hn]
  | cons c cs ih =>
    by_cases hc : c.isDigit
    · have hle := le_digitsValue (n * 10 + (c.toNat - 48)) (cs.takeWhile Char.isDigit)
      have hle' := le_digitsValue (n * 10 + (c.toNat - 48)) cs
      by_cases hlt : n * 10 + (c.toNat - 48) < 18446744073709551616
      · simp only [List.foldlM_cons, parseDigit_of_isDigit hc hn, if_pos hlt, List.mem_cons,
          forall_eq_or_imp, hc, true_and, digitsValue_cons, List.takeWhile_cons_of_pos hc]
        exact ih hlt
      · have h1 : ¬ digitsValue (n * 10 + (c.toNat - 48)) cs < 18446744073709551616 := by omega
        have h2 : ¬ digitsValue (n * 10 + (c.toNat - 48)) (cs.takeWhile Char.isDigit) <
            18446744073709551616 := by omega
        simp only [List.foldlM_cons, parseDigit_of_isDigit hc hn, if_neg hlt, List.mem_cons,
          forall_eq_or_imp, hc, true_and, digitsValue_cons, List.takeWhile_cons_of_pos hc,
          if_neg h2, h1, and_false, not_false_eq_true]
        show Except.error _ = Except.error e ↔ _
        exact ⟨fun h => (Except.error.inj h).symm, fun h => h ▸ rfl⟩
    · simp only [List.foldlM_cons, parseDigit_of_not_isDigit hc, List.mem_cons, forall_eq_or_imp,
        hc, Bool.false_eq_true, false_and, not_false_eq_true, true_and, List.takeWhile_cons_of_neg hc,
        digitsValue_nil,
        if_pos hn]
      show Except.error _ = Except.error e ↔ _
      exact ⟨fun h => (Except.error.inj h).symm, fun h => h ▸ rfl⟩

theorem parseUint_eq_error (s : String) (e : NumError) :
    parseUint s = .error e ↔
      ¬ (IsDecimal s ∧ digitsValue 0 s.data < 18446744073709551616) ∧
      e = ⟨"ParseUint", s, if digitsValue 0 (s.data.takeWhile Char.isDigit) < 18446744073709551616
        then .invalid else .outOfRange⟩ := by
  unfold parseUint IsDecimal
  by_cases hs : s = ""
  · subst hs
    have h0 : digitsValue 0 ("".data.takeWhile Char.isDigit) < 18446744073709551616 := by decide
    rw [if_pos rfl, if_pos h0]
    simp only [ne_eq, not_true_eq_false, false_and, not_false_eq_true, true_and]
    exact ⟨fun h => (Except.error.inj h).symm, fun h => h ▸ rfl⟩
  · rw [if_neg hs, foldlM_parseDigit_eq_error s s.data (by omega)]
    simp only [ne_eq, hs, not_false_eq_true, true_and]

/-! ### Round trip with decimal formatting -/

theorem digitsValue_append (n : Nat) (cs ds : List Char) :
    digitsValue n (cs ++ ds) = digitsValue (digitsValue n cs) ds :=
  List.foldl_append _ _ _ _

theorem digitChar_isDigit_toNat :
    ∀ m < 10, (Nat.digitChar m).isDigit ∧ (Nat.digitChar m).toNat - 48 = m := by
  decide

theorem toDigitsCore_ten_succ (fuel n : Nat) (ds : List Char) :
    Nat.toDigitsCore 10 (fuel + 1) n ds =
      if n / 10 = 0 then Nat.digitChar (n % 10) :: ds
      else Nat.toDigitsCore 10 fuel (n / 10) (Nat.digitChar (n % 10) :: ds) := rfl

theorem toDigitsCore_ten (fuel n : Nat) (ds : List Char) (h : n < fuel) :
    ∃ cs, cs ≠ [] ∧ (∀ c ∈ cs, c.isDigit) ∧ digitsValue 0 cs = n ∧
      Nat.toDigitsCore 10 fuel n ds = cs ++ ds := by
  induction fuel generalizing n ds with
  | zero => omega
  | succ fuel ih =>
    obtain ⟨hdig, hval⟩ := digitChar_isDigit_toNat (n % 10) (Nat.mod_lt _ (by omega))
    by_cases hq : n / 10 = 0
    · refine ⟨[Nat.digitChar (n % 10)], by simp, by simpa using hdig, ?_,
        by rw [toDigitsCore_ten_succ, if_pos hq, List.singleton_append]⟩
      simp only [digitsValue_cons, digitsValue_nil, hval]
      omega
    · obtain ⟨cs, hne, hcs, hv, heq⟩ := ih (n / 10) (Nat.digitChar (n % 10) :: ds) (by omega)
      refine ⟨cs ++ [Nat.digitChar (n % 10)], by simp, ?_, ?_, ?_⟩
      · simpa [or_imp, forall_and] using ⟨hcs, hdig⟩
      · simp only [digitsValue_append, hv, digitsValue_cons, digitsValue_nil, hval]
        omega
      · rw [toDigitsCore_ten_succ, if_neg hq, heq, List.append_assoc, List.singleton_append]

/-- `ParseUint` reads back every uint64 written in decimal. -/
theorem parseUint_toString (n : Nat) (h : n < 18446744073709551616) :
    parseUint (toString n) = .ok n := by
  obtain ⟨cs, hne, hcs, hv, heq⟩ := toDigitsCore_ten (n + 1) n [] (by omega)
  have hdata : (toString n).data = cs := by
    simpa using heq
  refine (parseUint_eq_ok _ _).2 ⟨⟨fun h0 => hne ?_, hdata ▸ hcs⟩, by rw [hdata, hv], h⟩
  rw [← hdata, h0]

theorem parseUint_toString_uid : (1000 : Nat) < 18446744073709551616 ∧
    parseUint (toString 1000) = .ok 1000 :=
  ⟨by decide, parseUint_toString 1000 (by decide)⟩

end Go
end Uncloud
