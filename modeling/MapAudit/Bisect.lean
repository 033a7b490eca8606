/-! # Binary search

    `bisect p n` looks for the place below `n` where a test stops holding. When
    `p` holds on an initial part of `0, …, n - 1` and nowhere after it, the
    answer is the length of that part, however the test is computed: no order on
    what is searched is needed.
-/

namespace MapAudit

/-- One search between `lo` and `hi`. Each round at least halves the interval,
    so as many rounds as the interval is long are always enough. -/
def bisectBetween (p : Nat → Bool) : (rounds lo hi : Nat) → Nat
  | 0, lo, _ => lo
  | rounds + 1, lo, hi =>
    if lo < hi then
      let mid := (lo + hi) / 2
      if p mid then bisectBetween p rounds (mid + 1) hi
      else bisectBetween p rounds lo mid
    else
      lo

/-- The number of leading indices below `n` at which `p` holds. -/
def bisect (p : Nat → Bool) (n : Nat) : Nat :=
  bisectBetween p n 0 n

/-- **Split found**: a search between two bounds around the split of a test ends
    at the split, if it may take a round for every index between them. -/
theorem bisectBetween_eq {p : Nat → Bool} {k n : Nat}
    (hbelow : ∀ i, i < k → p i = true)
    (habove : ∀ i, k ≤ i → i < n → p i = false)
    (rounds lo hi : Nat) (hrounds : hi - lo ≤ rounds)
    (hlo : lo ≤ k) (hhi : k ≤ hi) (hn : hi ≤ n) :
    bisectBetween p rounds lo hi = k := by
  induction rounds generalizing lo hi with
  | zero =>
    have hlk : lo = k := by omega
    exact hlk
  | succ rounds ih =>
    simp only [bisectBetween]
    split
    · next hlt =>
      -- the test at the middle tells on which side of it the split is
      rcases Nat.lt_or_ge ((lo + hi) / 2) k with hmid | hmid
      · rw [if_pos (hbelow _ hmid)]
        exact ih _ _ (by omega) (by omega) hhi hn
      · have hfalse : p ((lo + hi) / 2) = false := habove _ hmid (by omega)
        rw [hfalse]
        exact ih _ _ (by omega) hlo hmid (by omega)
    · next hge => omega

/-- **Binary search** finds the number of indices at which a test holds, when
    these come before all others. -/
theorem bisect_eq {p : Nat → Bool} {k n : Nat} (hk : k ≤ n)
    (hbelow : ∀ i, i < k → p i = true)
    (habove : ∀ i, k ≤ i → i < n → p i = false) :
    bisect p n = k :=
  bisectBetween_eq hbelow habove n 0 n (by omega) (Nat.zero_le k) hk (Nat.le_refl n)

/-- Whether a number is in one of some ranges that are in order. The candidate is the
    last range that starts at or before it. -/
def isInRange (ranges : Array (Nat × Nat)) (n : Nat) : Bool :=
  let before := bisect (fun i => (ranges.getD i (0, 0)).1 ≤ n) ranges.size
  before ≠ 0 && n ≤ (ranges.getD (before - 1) (0, 0)).2

end MapAudit
