import MarketBrief.Article.Promotion
import MarketBrief.Proofs.Text.Phrase

/-!
# Promotional phrases as stretches of a text

* `IsPromotion`: a promotional phrase and nothing else;
* `holdsPromotion_iff`: a text holds such a phrase if one is a stretch of it;
* `IsPromotion.spaced`: a phrase has no blank at its ends and only spaces inside;
* `blankPromotions_of_holdsPromotion_eq_false`: a text that holds none is left as it is;
* `filter_blankPromotions_sublist`, `length_filter_blankPromotions_lt`: taking phrases out keeps the order of what
  remains, and where there is one takes away more than blanks.
-/

namespace MarketBrief.Article

open Text Unicode

/-- The characters are a promotional phrase: a fixed one, or a discount. -/
inductive IsPromotion : List Char → Prop
  | phrase {phrase cs : List Char} : phrase ∈ promotionalPhrases → Reads phrase cs → IsPromotion cs
  | discount {digits off : List Char} : digits ≠ [] → (∀ d ∈ digits, isSettledDigit d = true) →
      Reads " off".toList off → IsPromotion ('$' :: (digits ++ off))

/-! ### Discounts -/

theorem isSettledDigit_of_isBlank {c : Char} (h : isBlank c = true) : isSettledDigit c = false := by
  rw [isSettledDigit, isDecimalDigit_of_isBlank h]
  rfl

theorem isBlank_of_isSettledDigit {c : Char} (h : isSettledDigit c = true) : isBlank c = false :=
  isBlank_of_covers (by simp [wordTables]) (Bool.and_eq_true_iff.1 h).1

theorem dropWhile_digits_append {digits off : List Char} (hdigits : ∀ d ∈ digits, isSettledDigit d = true)
    (hoff : Reads " off".toList off) (rest : List Char) :
    (digits ++ (off ++ rest)).dropWhile isSettledDigit = off ++ rest := by
  rw [List.dropWhile_append_of_pos hdigits]
  cases hoff with
  | cons hspace _ =>
    rw [eq_space_of_foldsTo hspace, List.cons_append, List.dropWhile_cons_of_neg]
    rw [isSettledDigit_of_isBlank (by decide)]
    exact Bool.noConfusion

theorem isSome_afterDiscount?_iff {cs : List Char} :
    (afterDiscount? cs).isSome ↔ ∃ digits off, '$' :: (digits ++ off) <+: cs ∧ digits ≠ [] ∧
      (∀ d ∈ digits, isSettledDigit d = true) ∧ Reads " off".toList off := by
  constructor
  · intro h
    unfold afterDiscount? at h
    split at h
    · next d cs =>
      split at h
      · next hd =>
        obtain ⟨off, ⟨rest, hrest⟩, hoff⟩ := isSome_afterPhrase?_iff.1 h
        refine ⟨d :: cs.takeWhile isSettledDigit, off, ⟨rest, ?_⟩, List.cons_ne_nil _ _, fun e he => ?_, hoff⟩
        · rw [List.cons_append, List.cons_append, List.cons_append, List.append_assoc, hrest,
            List.takeWhile_append_dropWhile]
        · rcases List.mem_cons.1 he with rfl | he
          · exact hd
          · exact List.all_eq_true.1 List.all_takeWhile e he
      · simp at h
    · simp at h
  · rintro ⟨digits, off, ⟨rest, rfl⟩, hne, hdigits, hoff⟩
    obtain ⟨d, ds, rfl⟩ := List.exists_cons_of_ne_nil hne
    have hds : ∀ e ∈ ds, isSettledDigit e = true := fun e he => hdigits e (List.mem_cons_of_mem _ he)
    rw [List.cons_append, List.cons_append, List.cons_append, List.append_assoc, afterDiscount?,
      if_pos (hdigits d List.mem_cons_self), dropWhile_digits_append hds hoff, isSome_afterPhrase?_iff]
    exact ⟨off, List.prefix_append _ _, hoff⟩

/-! ### Phrases at the beginning of a text and inside it -/

theorem isSome_afterPromotion?_iff {cs : List Char} :
    (afterPromotion? cs).isSome ↔ ∃ p, p <+: cs ∧ IsPromotion p := by
  rw [afterPromotion?, Option.isSome_or, Bool.or_eq_true, List.isSome_findSome?, List.any_eq_true,
    isSome_afterDiscount?_iff]
  constructor
  · rintro (⟨phrase, hphrase, h⟩ | ⟨digits, off, hpre, hne, hdigits, hoff⟩)
    · obtain ⟨p, hpre, hp⟩ := isSome_afterPhrase?_iff.1 h
      exact ⟨p, hpre, .phrase hphrase hp⟩
    · exact ⟨_, hpre, .discount hne hdigits hoff⟩
  · rintro ⟨p, hpre, hphrase | ⟨hne, hdigits, hoff⟩⟩
    · next phrase hp => exact Or.inl ⟨phrase, hphrase, isSome_afterPhrase?_iff.2 ⟨p, hpre, hp⟩⟩
    · exact Or.inr ⟨_, _, hpre, hne, hdigits, hoff⟩

theorem IsPromotion.spaced {p : List Char} (h : IsPromotion p) : Spaced p := by
  cases h with
  | phrase hphrase hp =>
    have hall : ∀ phrase ∈ promotionalPhrases, isSpacedPhrase phrase = true := by decide +kernel
    exact hp.spaced (hall _ hphrase)
  | discount hne hdigits hoff =>
    next digits off =>
    have hoffne : off ≠ [] := by
      rintro rfl
      exact absurd hoff.length_eq (by decide)
    have hspaces : ∀ c ∈ off, c = ' ' ∨ isBlank c = false := by
      intro c hc
      obtain ⟨p, hp, hfolds⟩ := hoff.exists_of_mem hc
      have hall : (" off".toList.all fun p => p == ' ' || isSolid p) = true := by decide +kernel
      rcases Bool.or_eq_true_iff.1 (List.all_eq_true.1 hall p hp) with hspace | hsolid
      · rw [beq_iff_eq.1 hspace] at hfolds
        exact Or.inl (eq_space_of_foldsTo hfolds)
      · exact Or.inr (isBlank_of_foldsTo hsolid hfolds)
    refine ⟨List.cons_ne_nil _ _, by simp; decide, ?_, fun c hc => ?_⟩
    · rw [← List.cons_append, List.getLast?_append_of_ne_nil _ hoffne, ← List.head?_reverse]
      exact hoff.reverse.isBlank_head (by decide +kernel)
    · rcases List.mem_cons.1 hc with rfl | hc
      · exact Or.inr (by decide)
      · rcases List.mem_append.1 hc with hc | hc
        · exact Or.inr (isBlank_of_isSettledDigit (hdigits c hc))
        · exact hspaces c hc

theorem holdsPromotion_iff {cs : List Char} : holdsPromotion cs = true ↔ ∃ p, p <:+: cs ∧ IsPromotion p := by
  induction cs with
  | nil =>
    refine ⟨fun h => absurd h (by decide), ?_⟩
    rintro ⟨p, hin, hp⟩
    exact absurd (List.infix_nil.1 hin) hp.spaced.ne_nil
  | cons c cs ih =>
    rw [holdsPromotion, Bool.or_eq_true, isSome_afterPromotion?_iff, ih]
    constructor
    · rintro (⟨p, hpre, hp⟩ | ⟨p, hin, hp⟩)
      · exact ⟨p, hpre.isInfix, hp⟩
      · exact ⟨p, List.infix_cons_iff.2 (Or.inr hin), hp⟩
    · rintro ⟨p, hin, hp⟩
      rcases List.infix_cons_iff.1 hin with hpre | hin
      · exact Or.inl ⟨p, hpre, hp⟩
      · exact Or.inr ⟨p, hin, hp⟩

/-! ### Taking phrases out -/

theorem blankPromotions_of_holdsPromotion_eq_false {cs : List Char} (h : holdsPromotion cs = false) :
    blankPromotions cs = cs := by
  induction cs with
  | nil => rw [blankPromotions]
  | cons c cs ih =>
    obtain ⟨hnone, hcs⟩ := Bool.or_eq_false_iff.1 h
    rw [blankPromotions]
    split
    · next rest hrest => simp [hrest] at hnone
    · rw [ih hcs]

theorem suffix_of_afterPromotion? {cs rest : List Char} (h : afterPromotion? cs = some rest) : rest <:+ cs := by
  rcases Option.or_eq_some_iff.1 h with h | ⟨-, h⟩
  · obtain ⟨phrase, -, h⟩ := List.exists_of_findSome?_eq_some h
    obtain ⟨p, rfl, -⟩ := afterPhrase?_eq_some_iff.1 h
    exact List.suffix_append _ _
  · unfold afterDiscount? at h
    split at h
    · next d tail _ =>
      split at h
      · obtain ⟨off, hoff, -⟩ := afterPhrase?_eq_some_iff.1 h
        have hdrop : rest <:+ tail.dropWhile isSettledDigit := ⟨off, hoff.symm⟩
        exact (hdrop.trans (List.dropWhile_suffix _)).trans ((List.suffix_cons _ _).trans (List.suffix_cons _ _))
      · simp at h
    · simp at h

theorem mem_of_mem_blankPromotions {cs : List Char} {c : Char} (h : c ∈ blankPromotions cs) : c = ' ' ∨ c ∈ cs := by
  fun_induction blankPromotions cs with
  | case1 => exact Or.inr h
  | case2 d cs rest hrest ih =>
    rcases List.mem_cons.1 h with rfl | h
    · exact Or.inl rfl
    · exact (ih h).imp_right fun hmem => (suffix_of_afterPromotion? hrest).subset hmem
  | case3 d cs hnone ih =>
    rcases List.mem_cons.1 h with rfl | h
    · exact Or.inr List.mem_cons_self
    · exact (ih h).imp_right (List.mem_cons_of_mem _)

theorem filter_blankPromotions_sublist (cs : List Char) :
    ((blankPromotions cs).filter (!isBlank ·)).Sublist (cs.filter (!isBlank ·)) := by
  fun_induction blankPromotions cs with
  | case1 => exact .refl _
  | case2 c cs rest hrest ih =>
    rw [List.filter_cons_of_neg (by decide)]
    exact ih.trans ((suffix_of_afterPromotion? hrest).sublist.filter _)
  | case3 c cs hnone ih =>
    rw [List.filter_cons, List.filter_cons]
    split
    · exact ih.cons_cons c
    · exact ih

theorem isBlank_of_afterPromotion? {c : Char} {cs rest : List Char} (h : afterPromotion? (c :: cs) = some rest) :
    isBlank c = false := by
  obtain ⟨p, hpre, hp⟩ := isSome_afterPromotion?_iff.1 (Option.isSome_of_eq_some h)
  obtain ⟨d, p, rfl⟩ := List.exists_cons_of_ne_nil hp.spaced.ne_nil
  obtain ⟨rfl, -⟩ := List.cons_prefix_cons.1 hpre
  exact hp.spaced.head d rfl

/-- A phrase begins with a character that is no blank, and that character goes. -/
theorem length_filter_blankPromotions_lt {cs : List Char} (h : holdsPromotion cs = true) :
    ((blankPromotions cs).filter (!isBlank ·)).length < (cs.filter (!isBlank ·)).length := by
  fun_induction blankPromotions cs with
  | case1 => exact absurd h (by decide)
  | case2 c cs rest hrest ih =>
    have hbehind : rest <:+ cs := by
      rcases List.suffix_cons_iff.1 (suffix_of_afterPromotion? hrest) with rfl | hsuffix
      · exact absurd (length_of_afterPromotion? hrest) (Nat.lt_irrefl _)
      · exact hsuffix
    have hle := ((filter_blankPromotions_sublist rest).trans (hbehind.sublist.filter _)).length_le
    rw [List.filter_cons_of_neg (by decide), List.filter_cons_of_pos (by simp [isBlank_of_afterPromotion? hrest]),
      List.length_cons]
    exact Nat.lt_succ_of_le hle
  | case3 c cs hnone ih =>
    rw [holdsPromotion, hnone, Option.isSome_none, Bool.false_or] at h
    rw [List.filter_cons, List.filter_cons]
    split
    · exact Nat.succ_lt_succ (ih h)
    · exact ih h

end MarketBrief.Article
