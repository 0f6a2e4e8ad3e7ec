/-!
# Sets of code points as sorted ranges

A character property of the Unicode standard is stored as its ranges of code points: pairs
`(lo, hi)` of inclusive ends, sorted and disjoint. Membership is found by bisection over the
array, which halves the window of candidate ranges at every step.

* `Ranges.contains` — whether a code point lies in one of the ranges.
* `Ranges.contains_sound` — a code point found lies between the ends of some range of the
  array, sorted or not.
-/

namespace Ruleset

namespace Text

/-- Inclusive ranges of code points, sorted and disjoint. -/
abbrev Ranges := Array (Nat × Nat)

namespace Ranges

/-- Bisection over the ranges at indices `lo` up to `hi` (excluded). -/
def search (rs : Ranges) (n : Nat) (lo hi : Nat) (hhi : hi ≤ rs.size) : Bool :=
  if h : lo < hi then
    let mid := lo + (hi - lo) / 2
    have hmid : mid < rs.size := by omega
    if n < rs[mid].1 then search rs n lo mid (by omega)
    else if rs[mid].2 < n then search rs n (mid + 1) hi hhi
    else true
  else false
termination_by hi - lo

/-- Whether the code point `n` lies in one of the ranges. -/
def contains (rs : Ranges) (n : Nat) : Bool := search rs n 0 rs.size (Nat.le_refl _)

theorem search_sound {rs : Ranges} {n lo hi : Nat} {hhi : hi ≤ rs.size}
    (h : search rs n lo hi hhi = true) : ∃ i, ∃ hi : i < rs.size, rs[i].1 ≤ n ∧ n ≤ rs[i].2 := by
  fun_induction search rs n lo hi hhi with
  | case1 lo hi hhi hlt mid hmid hlow ih => exact ih h
  | case2 lo hi hhi hlt mid hmid hlow hhigh ih => exact ih h
  | case3 lo hi hhi hlt mid hmid hlow hhigh => exact ⟨mid, hmid, by omega, by omega⟩
  | case4 => simp at h

/-- A code point found lies between the ends of some range. -/
theorem contains_sound {rs : Ranges} {n : Nat} (h : rs.contains n = true) :
    ∃ i, ∃ hi : i < rs.size, rs[i].1 ≤ n ∧ n ≤ rs[i].2 :=
  search_sound h

end Ranges

end Text

end Ruleset
