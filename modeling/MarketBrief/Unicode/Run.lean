/-!
# Runs of code points

A property of characters is data: a list of runs in ascending order, each run an arithmetic progression of code
points with step one, or two where capital and small letters alternate.

* `Run.has`: the points of one run;
* `covers`: whether a point lies on one of the runs of a list;
* `covers_eq_any`: on ascending runs the early end of the search loses nothing.
-/

namespace MarketBrief.Unicode

/-- The code points `first`, `first + step`, and so on up to `last`. -/
structure Run where
  first : Nat
  last : Nat
  step : Nat
  deriving DecidableEq, Repr

/-- Whether the point `n` lies on the run. -/
def Run.has (r : Run) (n : Nat) : Bool :=
  r.first ≤ n && n ≤ r.last && (n - r.first) % r.step == 0

/-- Whether `n` lies on one of the runs, which ascend: a run that begins above `n` ends the search. -/
def covers : List Run → Nat → Bool
  | [], _ => false
  | r :: rs, n => if n < r.first then false else r.has n || covers rs n

/-- Each run begins no later than the next. -/
def Ascending : List Run → Prop
  | r :: s :: rs => r.first ≤ s.first ∧ Ascending (s :: rs)
  | _ => True

/-- The order of runs can be checked. -/
instance : (rs : List Run) → Decidable (Ascending rs)
  | [] => .isTrue trivial
  | [_] => .isTrue trivial
  | r :: s :: rs =>
    have := instDecidableAscending (s :: rs)
    inferInstanceAs (Decidable (r.first ≤ s.first ∧ Ascending (s :: rs)))

theorem Run.has_eq_false_of_lt {r : Run} {n : Nat} (h : n < r.first) : r.has n = false := by
  simp [Run.has, Nat.not_le.2 h]

/-- Below the beginning of ascending runs lies no point of theirs. -/
theorem any_has_eq_false {rs : List Run} {n : Nat} (h : Ascending rs) (hn : ∀ r ∈ rs.head?, n < r.first) :
    rs.any (·.has n) = false := by
  induction rs with
  | nil => rfl
  | cons r rs ih =>
    have hr : n < r.first := hn r (by simp)
    have hrs : rs.any (·.has n) = false := by
      cases rs with
      | nil => rfl
      | cons s rs => exact ih h.2 (by simpa using Nat.lt_of_lt_of_le hr h.1)
    simp [Run.has_eq_false_of_lt hr, hrs]

/-- The search finds a point exactly if some run has it. -/
theorem covers_eq_any {rs : List Run} (h : Ascending rs) (n : Nat) : covers rs n = rs.any (·.has n) := by
  induction rs with
  | nil => rfl
  | cons r rs ih =>
    have htail : Ascending rs := by
      cases rs with
      | nil => trivial
      | cons s rs => exact h.2
    by_cases hn : n < r.first
    · simp only [covers, hn, if_true]
      exact (any_has_eq_false h (by simpa using hn)).symm
    · simp [covers, hn, ih htail]

end MarketBrief.Unicode
