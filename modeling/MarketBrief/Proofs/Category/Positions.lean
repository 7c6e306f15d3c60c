import MarketBrief.Proofs.Category.Detection

/-!
# Counting positions

The search passes over the inside of every place that it has found. A keyword of alphanumeric characters loses nothing
by that: inside such a place no word begins.

* `StandsAt`: a keyword stands at a position of a text, where a word begins and, if it is short, ends;
* `StandsAfter`, `countStanding`: the same in a text that follows a character, and the number of such positions;
* `countStanding_cons`, `countStanding_append`: the positions of a text from its first character on, and those behind
  the inside of a word;
* `countOccurrences_eq_countP_standsAt`: the places that count are all positions at which the keyword stands;
* `Repeated.countOccurrences_of_repeated`: a keyword that overlaps itself.
-/

namespace MarketBrief.Category

open Unicode

/-! ### Positions -/

/-- The keyword stands at this position of the text: no alphanumeric character is before it and, if it has at most three
characters, none is behind it. -/
def StandsAt (keyword text : String) (position : Nat) : Prop :=
  keyword.toList <+: text.toList.drop position ∧ (text.toList.take position).getLast?.any isAlphanumeric = false ∧
    (keyword.toList.length ≤ 3 →
      (text.toList.drop (position + keyword.toList.length)).head?.any isAlphanumeric = false)

/-- The keyword stands at this position of a text that follows the character `before?`. -/
def StandsAfter (keyword : List Char) (before? : Option Char) (text : List Char) (position : Nat) : Prop :=
  keyword <+: text.drop position ∧ ((text.take position).getLast?.or before?).any isAlphanumeric = false ∧
    (keyword.length ≤ 3 → (text.drop (position + keyword.length)).head?.any isAlphanumeric = false)

instance (keyword text : String) : DecidablePred (StandsAt keyword text) := fun _ => inferInstanceAs (Decidable (_ ∧ _ ∧ _))

instance (keyword : List Char) (before? : Option Char) (text : List Char) :
    DecidablePred (StandsAfter keyword before? text) := fun _ => inferInstanceAs (Decidable (_ ∧ _ ∧ _))

theorem standsAt_iff_standsAfter {keyword text : String} {position : Nat} :
    StandsAt keyword text position ↔ StandsAfter keyword.toList none text.toList position := by
  rw [StandsAt, StandsAfter, Option.or_none]

section Standing

variable (keyword : List Char) (before? : Option Char)

/-- The number of positions at which the keyword stands. -/
def countStanding (text : List Char) : Nat := (List.range (text.length + 1)).countP (StandsAfter keyword before? text ·)

theorem standsAfter_succ_iff (c : Char) (cs : List Char) (position : Nat) :
    StandsAfter keyword before? (c :: cs) (position + 1) ↔ StandsAfter keyword (some c) cs position := by
  have hbefore := getLast?_append_or (List.cons_ne_nil c []) (cs.take position) before?
  have hbehind : position + 1 + keyword.length = position + keyword.length + 1 := by omega
  rw [StandsAfter, StandsAfter, hbehind, List.drop_succ_cons, List.drop_succ_cons, List.take_succ_cons,
    ← List.singleton_append, hbefore]
  rfl

theorem countStanding_cons (c : Char) (cs : List Char) :
    countStanding keyword before? (c :: cs) =
      (if StandsAfter keyword before? (c :: cs) 0 then 1 else 0) + countStanding keyword (some c) cs := by
  have hshift : (List.range (cs.length + 1)).countP
      ((fun i => decide (StandsAfter keyword before? (c :: cs) i)) ∘ Nat.succ) = countStanding keyword (some c) cs := by
    refine List.countP_congr fun i _ => ?_
    simp only [Function.comp_apply, decide_eq_true_eq]
    exact standsAfter_succ_iff keyword before? c cs i
  rw [countStanding, List.length_cons, List.range_succ_eq_map, List.countP_cons, List.countP_map, hshift, Nat.add_comm]
  simp only [decide_eq_true_eq]

theorem countStanding_nil {keyword : List Char} (hne : keyword ≠ []) : countStanding keyword before? [] = 0 := by
  refine List.countP_eq_zero.2 fun i _ => ?_
  rw [decide_eq_true_eq]
  rintro ⟨hpre, -⟩
  rw [List.drop_nil] at hpre
  exact hne (List.prefix_nil.1 hpre)

end Standing

/-- Behind an alphanumeric character no word begins, so the next alphanumeric characters can be passed over. -/
theorem countStanding_append (keyword : List Char) {before? : Option Char} (hbefore : before?.any isAlphanumeric = true)
    {x : List Char} (hx : ∀ c ∈ x, isAlphanumeric c = true) (y : List Char) :
    countStanding keyword before? (x ++ y) = countStanding keyword (x.getLast?.or before?) y := by
  induction x generalizing before? with
  | nil => rfl
  | cons c x ih =>
    obtain ⟨hc, hx⟩ := List.forall_mem_cons.1 hx
    have hnot : ¬ StandsAfter keyword before? (c :: (x ++ y)) 0 := by
      rintro ⟨-, hfree, -⟩
      rw [List.take_zero, List.getLast?_nil, Option.none_or, hbefore] at hfree
      exact Bool.noConfusion hfree
    have hlast := getLast?_append_or (List.cons_ne_nil c []) x before?
    rw [List.singleton_append, List.getLast?_singleton] at hlast
    rw [List.cons_append, countStanding_cons, if_neg hnot, Nat.zero_add, hlast, ih (by simpa using hc) hx]

/-! ### The search -/

theorem countP_occurrencesAfter_eq_countStanding {keyword : List Char} (hne : keyword ≠ [])
    (hword : ∀ c ∈ keyword, isAlphanumeric c = true) (before? : Option Char) (text : List Char) :
    (occurrencesAfter keyword before? text).countP (counts keyword) = countStanding keyword before? text := by
  fun_induction occurrencesAfter keyword before? text with
  | case1 before? => rw [countStanding_nil before? hne, List.countP_nil]
  | case2 before? c cs hfound rest ih =>
    have htext : keyword ++ rest = c :: cs := List.prefix_iff_eq_append.1 (List.isPrefixOf_iff_prefix.1 hfound.2)
    have hfirst : StandsAfter keyword before? (c :: cs) 0 ↔ counts keyword (before?, rest) = true := by
      rw [counts_iff, StandsAfter, List.take_zero, Nat.zero_add]
      exact and_iff_right (List.isPrefixOf_iff_prefix.1 hfound.2)
    clear_value rest
    obtain ⟨d, ds, rfl⟩ := List.exists_cons_of_ne_nil hne
    obtain ⟨hd, hds⟩ := List.forall_mem_cons.1 hword
    obtain ⟨rfl, rfl⟩ : d = c ∧ ds ++ rest = cs := by simpa using htext
    -- the positions inside the found place follow an alphanumeric character
    have hinside := countStanding_append (d :: ds) (by simpa using hd : (some d).any isAlphanumeric = true) hds rest
    have hlast := getLast?_append_or (List.cons_ne_nil d []) ds none
    rw [Option.or_none, List.singleton_append, List.getLast?_singleton] at hlast
    rw [List.countP_cons, ih, countStanding_cons, hinside, hlast, Nat.add_comm]
    simp only [hfirst]
  | case3 before? c cs hnot ih =>
    have hfirst : ¬ StandsAfter keyword before? (c :: cs) 0 := fun hstands =>
      hnot ⟨hne, List.isPrefixOf_iff_prefix.2 hstands.1⟩
    rw [ih, countStanding_cons, if_neg hfirst, Nat.zero_add]

/-- **No position is lost.** A keyword of alphanumeric characters counts in a text as often as there are positions at
which it stands, overlapping ones included. -/
theorem countOccurrences_eq_countP_standsAt {keyword : String} (hne : keyword ≠ "")
    (hword : ∀ c ∈ keyword.toList, isAlphanumeric c = true) (text : String) :
    countOccurrences text keyword = (List.range (text.toList.length + 1)).countP (StandsAt keyword text ·) := by
  have hne' : keyword.toList ≠ [] := by simpa using hne
  rw [countOccurrences, countP_occurrencesAfter_eq_countStanding hne' hword, countStanding]
  refine List.countP_congr fun i _ => ?_
  rw [decide_eq_true_eq, decide_eq_true_eq, standsAt_iff_standsAfter]

/-! A keyword that overlaps itself inside a word. -/

namespace Repeated

/-- The keyword occurs at seven positions of the text, but a word begins at only three of them. -/
def text : String := "anananan anan-ananan xanan"

theorem countOccurrences_of_repeated :
    "anan" ≠ "" ∧ (∀ c ∈ "anan".toList, isAlphanumeric c = true) ∧
    countOccurrences text "anan" = (List.range (text.toList.length + 1)).countP (StandsAt "anan" text ·) :=
  have hword : ∀ c ∈ "anan".toList, isAlphanumeric c = true := List.all_eq_true.1 rfl
  ⟨by decide, hword, countOccurrences_eq_countP_standsAt (by decide) hword text⟩

example : countOccurrences text "anan" = 3 := by decide +kernel

end Repeated

end MarketBrief.Category
