import Mathlib.Data.List.Infix
import Mathlib.Data.List.TakeWhile
import MarketBrief.Text.Basic

/-!
# Trimmed texts

* `exists_eq_append_trim`: a text is its trimmed form between blanks;
* `not_blank_head_trim`, `not_blank_last_trim`, `trim_trim`: the trimmed form has no blank at its ends;
* `trim_between`: blanks around a text are no part of its trimmed form; `trim_eq_nil_iff`: of blanks alone nothing is
  left;
* `infix_trim_iff`: trimming leaves every stretch of a text that has no blank at its ends;
* `filter_trim`: trimming takes nothing but blanks away.
-/

namespace MarketBrief.Text

open Unicode

/-! ### Dropping from one end -/

section Drop

variable {α : Type} {drop : α → Bool}

theorem head?_dropWhile_eq_false (l : List α) : ∀ c ∈ (l.dropWhile drop).head?, drop c = false := by
  intro c hc
  have := List.head?_dropWhile_not drop l
  rwa [Option.mem_def.1 hc] at this

theorem dropWhile_of_head?_eq_false {l : List α} (h : ∀ c ∈ l.head?, drop c = false) : l.dropWhile drop = l := by
  cases l with
  | nil => rfl
  | cons c l => exact List.dropWhile_cons_of_neg (by rw [h c rfl]; exact Bool.noConfusion)

theorem infix_dropWhile_iff {p : List α} (hp : ∀ c ∈ p.head?, drop c = false) (l : List α) :
    p <:+: l.dropWhile drop ↔ p <:+: l := by
  refine ⟨fun h => h.trans (List.dropWhile_suffix drop).isInfix, fun h => ?_⟩
  induction l with
  | nil => exact h
  | cons c l ih =>
    by_cases hc : drop c = true
    · rw [List.dropWhile_cons_of_pos hc]
      rcases List.infix_cons_iff.1 h with hpre | hin
      · rcases List.prefix_cons_iff.1 hpre with rfl | ⟨t, rfl, -⟩
        · exact List.nil_infix
        · exact absurd (hp c rfl) (by rw [hc]; exact Bool.noConfusion)
      · exact ih hin
    · rwa [List.dropWhile_cons_of_neg hc]

end Drop

/-! ### Dropping from both ends -/

theorem isPrefix_trimEnd (cs : List Char) : trimEnd cs <+: cs := by
  rw [← List.reverse_suffix, trimEnd, List.reverse_reverse]
  exact List.dropWhile_suffix _

theorem exists_eq_trimEnd_append (cs : List Char) :
    ∃ blanks, (∀ c ∈ blanks, isBlank c = true) ∧ cs = trimEnd cs ++ blanks := by
  refine ⟨(cs.reverse.takeWhile isBlank).reverse, fun c hc => ?_, ?_⟩
  · exact List.all_eq_true.1 List.all_takeWhile c (List.mem_reverse.1 hc)
  · rw [trimEnd, ← List.reverse_append, List.takeWhile_append_dropWhile, List.reverse_reverse]

theorem exists_eq_append_trim (cs : List Char) :
    ∃ lead trail, (∀ c ∈ lead, isBlank c = true) ∧ (∀ c ∈ trail, isBlank c = true) ∧ cs = lead ++ trim cs ++ trail := by
  obtain ⟨trail, htrail, heq⟩ := exists_eq_trimEnd_append (trimStart cs)
  refine ⟨cs.takeWhile isBlank, trail, fun c hc => List.all_eq_true.1 List.all_takeWhile c hc, htrail, ?_⟩
  rw [List.append_assoc, trim, ← heq, trimStart, List.takeWhile_append_dropWhile]

theorem not_blank_head_trim (cs : List Char) : ∀ c ∈ (trim cs).head?, isBlank c = false := by
  intro c hc
  refine head?_dropWhile_eq_false cs c ?_
  obtain ⟨rest, hrest⟩ := isPrefix_trimEnd (trimStart cs)
  rw [← trimStart, ← hrest, List.head?_append, ← trim, Option.mem_def.1 hc]
  rfl

theorem not_blank_last_trim (cs : List Char) : ∀ c ∈ (trim cs).getLast?, isBlank c = false := by
  rw [trim, trimEnd, List.getLast?_reverse]
  exact head?_dropWhile_eq_false _

theorem trim_of_not_blank {cs : List Char} (hhead : ∀ c ∈ cs.head?, isBlank c = false)
    (hlast : ∀ c ∈ cs.getLast?, isBlank c = false) : trim cs = cs := by
  rw [← List.head?_reverse] at hlast
  rw [trim, trimEnd, trimStart, dropWhile_of_head?_eq_false hhead, dropWhile_of_head?_eq_false hlast,
    List.reverse_reverse]

theorem trim_trim (cs : List Char) : trim (trim cs) = trim cs :=
  trim_of_not_blank (not_blank_head_trim cs) (not_blank_last_trim cs)

theorem trimEnd_append {trail : List Char} (htrail : ∀ c ∈ trail, isBlank c = true) (cs : List Char) :
    trimEnd (cs ++ trail) = trimEnd cs := by
  have hreverse : ∀ c ∈ trail.reverse, isBlank c = true := fun c hc => htrail c (List.mem_reverse.1 hc)
  rw [trimEnd, List.reverse_append, List.dropWhile_append_of_pos hreverse, trimEnd]

theorem trim_between {lead trail : List Char} (hlead : ∀ c ∈ lead, isBlank c = true)
    (htrail : ∀ c ∈ trail, isBlank c = true) (cs : List Char) : trim (lead ++ cs ++ trail) = trim cs := by
  rw [List.append_assoc, trim, trimStart, List.dropWhile_append_of_pos hlead, List.dropWhile_append, trim, trimStart]
  split
  · next h =>
    -- nothing is left of the text, and so nothing of what follows it
    rw [List.dropWhile_eq_nil_iff.2 htrail, List.isEmpty_iff.1 h]
  · exact trimEnd_append htrail _

theorem trim_eq_nil_iff {cs : List Char} : trim cs = [] ↔ ∀ c ∈ cs, isBlank c = true := by
  constructor
  · intro h
    obtain ⟨lead, trail, hlead, htrail, heq⟩ := exists_eq_append_trim cs
    rw [heq, h, List.append_nil]
    exact List.forall_mem_append.2 ⟨hlead, htrail⟩
  · intro h
    have hnone : ∀ c ∈ ([] : List Char), isBlank c = true := fun c hc => absurd hc List.not_mem_nil
    have hbetween := trim_between h hnone []
    rwa [List.append_nil, List.append_nil] at hbetween

theorem eq_nil_of_not_blank_last {blanks : List Char} (hblanks : ∀ c ∈ blanks, isBlank c = true) (front : List Char)
    (hlast : ∀ c ∈ (front ++ blanks).getLast?, isBlank c = false) : blanks = [] := by
  rcases List.eq_nil_or_concat blanks with rfl | ⟨rest, b, rfl⟩
  · rfl
  · have hno := hlast b (by simp)
    rw [hblanks b (by simp)] at hno
    exact absurd hno Bool.noConfusion

theorem filter_trim (cs : List Char) : (trim cs).filter (!isBlank ·) = cs.filter (!isBlank ·) := by
  obtain ⟨lead, trail, hlead, htrail, heq⟩ := exists_eq_append_trim cs
  have hnone : ∀ blanks : List Char, (∀ c ∈ blanks, isBlank c = true) → blanks.filter (!isBlank ·) = [] :=
    fun blanks hblanks => List.filter_eq_nil_iff.2 fun c hc => by simp [hblanks c hc]
  conv_rhs => rw [heq]
  rw [List.filter_append, List.filter_append, hnone lead hlead, hnone trail htrail, List.nil_append, List.append_nil]

theorem isInfix_trim (cs : List Char) : trim cs <:+: cs :=
  (isPrefix_trimEnd _).isInfix.trans (List.dropWhile_suffix _).isInfix

theorem infix_trim_iff {p : List Char} (hhead : ∀ c ∈ p.head?, isBlank c = false)
    (hlast : ∀ c ∈ p.getLast?, isBlank c = false) (cs : List Char) : p <:+: trim cs ↔ p <:+: cs := by
  have hreverse : ∀ c ∈ p.reverse.head?, isBlank c = false := by rwa [List.head?_reverse]
  unfold trim trimEnd trimStart
  rw [← List.reverse_infix, List.reverse_reverse, infix_dropWhile_iff hreverse, List.reverse_infix,
    infix_dropWhile_iff hhead]

end MarketBrief.Text
