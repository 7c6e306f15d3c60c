import MarketBrief.Article.Clean
import MarketBrief.Proofs.Text.Phrase

/-!
# Texts with single spaces

* `infix_collapseSpaces_iff`: a stretch of a collapsed text is a stretch of the text with its runs collapsed;
* `IsSingleSpaced`, `collapseSpaces_of_isSingleSpaced`: a text without tabs and without two spaces side by side is
  left as it is;
* `isSingleSpaced_collapseSpaces`, `filter_collapseSpaces`: a collapsed text is such a text, and holds all characters
  that are no blanks.
-/

namespace MarketBrief.Article

open Text Unicode

theorem isBlank_of_isSpaceOrTab {c : Char} (h : isSpaceOrTab c = true) : isBlank c = true := by
  simp only [isSpaceOrTab, Bool.or_eq_true, beq_iff_eq] at h
  rcases h with rfl | rfl <;> decide

theorem isSpaceOrTab_of_isBlank_eq_false {c : Char} (h : isBlank c = false) : isSpaceOrTab c = false := by
  cases hc : isSpaceOrTab c with
  | false => rfl
  | true => rw [isBlank_of_isSpaceOrTab hc] at h; exact h

/-! ### One character of a text -/

theorem collapseSpacesAfter_of_solid {c : Char} (hc : isSpaceOrTab c = false) (inRun : Bool) (cs : List Char) :
    collapseSpacesAfter inRun (c :: cs) = c :: collapseSpaces cs := by
  rw [collapseSpacesAfter, hc]
  rfl

theorem collapseSpacesAfter_true_of_space {c : Char} (hc : isSpaceOrTab c = true) (cs : List Char) :
    collapseSpacesAfter true (c :: cs) = collapseSpacesAfter true cs := by
  rw [collapseSpacesAfter, if_pos hc, if_pos rfl]

theorem collapseSpacesAfter_false_of_space {c : Char} (hc : isSpaceOrTab c = true) (cs : List Char) :
    collapseSpacesAfter false (c :: cs) = ' ' :: collapseSpacesAfter true cs := by
  rw [collapseSpacesAfter, if_pos hc]
  rfl

theorem mem_of_mem_collapseSpacesAfter {inRun : Bool} {cs : List Char} {c : Char}
    (h : c ∈ collapseSpacesAfter inRun cs) : c = ' ' ∨ c ∈ cs := by
  induction cs generalizing inRun with
  | nil => exact absurd h List.not_mem_nil
  | cons d cs ih =>
    cases hd : isSpaceOrTab d with
    | false =>
      rw [collapseSpacesAfter_of_solid hd] at h
      rcases List.mem_cons.1 h with rfl | h
      · exact Or.inr List.mem_cons_self
      · exact (ih h).imp_right (List.mem_cons_of_mem _)
    | true =>
      cases inRun with
      | true =>
        rw [collapseSpacesAfter_true_of_space hd] at h
        exact (ih h).imp_right (List.mem_cons_of_mem _)
      | false =>
        rw [collapseSpacesAfter_false_of_space hd] at h
        rcases List.mem_cons.1 h with rfl | h
        · exact Or.inl rfl
        · exact (ih h).imp_right (List.mem_cons_of_mem _)

/-! ### Stretches of a collapsed text -/

theorem exists_collapseSpacesAfter_append (inRun : Bool) (x y : List Char) :
    ∃ inRun', collapseSpacesAfter inRun (x ++ y) = collapseSpacesAfter inRun x ++ collapseSpacesAfter inRun' y := by
  induction x generalizing inRun with
  | nil => exact ⟨inRun, rfl⟩
  | cons c x ih =>
    rw [List.cons_append]
    cases hc : isSpaceOrTab c with
    | false =>
      obtain ⟨inRun', h⟩ := ih false
      exact ⟨inRun', by rw [collapseSpacesAfter_of_solid hc, collapseSpacesAfter_of_solid hc, collapseSpaces, h]; rfl⟩
    | true =>
      obtain ⟨inRun', h⟩ := ih true
      refine ⟨inRun', ?_⟩
      cases inRun with
      | true => rw [collapseSpacesAfter_true_of_space hc, collapseSpacesAfter_true_of_space hc, h]
      | false => rw [collapseSpacesAfter_false_of_space hc, collapseSpacesAfter_false_of_space hc, h]; rfl

/-- What a collapsed text begins with, up to a character that is no space, is the collapsed beginning of the text. -/
theorem exists_prefix_of_prefix_collapseSpacesAfter {inRun : Bool} {p cs : List Char}
    (hlast : ∀ c ∈ p.getLast?, isSpaceOrTab c = false) (h : p <+: collapseSpacesAfter inRun cs) :
    ∃ q, q <+: cs ∧ collapseSpacesAfter inRun q = p := by
  induction cs generalizing inRun p with
  | nil => exact ⟨[], List.prefix_refl _, (List.prefix_nil.1 h).symm⟩
  | cons d cs ih =>
    cases p with
    | nil => exact ⟨[], List.nil_prefix, rfl⟩
    | cons c p =>
      have hrest : ∀ e ∈ p.getLast?, isSpaceOrTab e = false := by
        intro e he
        refine hlast e ?_
        cases p with
        | nil => simp at he
        | cons f p => rwa [List.getLast?_cons_cons]
      cases hd : isSpaceOrTab d with
      | false =>
        rw [collapseSpacesAfter_of_solid hd] at h
        obtain ⟨rfl, hpre⟩ := List.cons_prefix_cons.1 h
        obtain ⟨q, hq, rfl⟩ := ih hrest hpre
        exact ⟨c :: q, List.cons_prefix_cons.2 ⟨rfl, hq⟩, collapseSpacesAfter_of_solid hd ..⟩
      | true =>
        cases inRun with
        | true =>
          rw [collapseSpacesAfter_true_of_space hd] at h
          obtain ⟨q, hq, hp⟩ := ih hlast h
          exact ⟨d :: q, List.cons_prefix_cons.2 ⟨rfl, hq⟩, by rw [collapseSpacesAfter_true_of_space hd, hp]⟩
        | false =>
          rw [collapseSpacesAfter_false_of_space hd] at h
          obtain ⟨rfl, hpre⟩ := List.cons_prefix_cons.1 h
          obtain ⟨q, hq, rfl⟩ := ih hrest hpre
          exact ⟨d :: q, List.cons_prefix_cons.2 ⟨rfl, hq⟩, collapseSpacesAfter_false_of_space hd _⟩

theorem exists_infix_of_isInfix_collapseSpacesAfter {inRun : Bool} {p cs : List Char} (hp : Spaced p)
    (h : p <:+: collapseSpacesAfter inRun cs) : ∃ q, q <:+: cs ∧ collapseSpaces q = p := by
  have hlast : ∀ c ∈ p.getLast?, isSpaceOrTab c = false := fun c hc =>
    isSpaceOrTab_of_isBlank_eq_false (hp.last c hc)
  induction cs generalizing inRun with
  | nil => exact absurd (List.infix_nil.1 h) hp.ne_nil
  | cons d cs ih =>
    have hbehind (hin : ∃ q, q <:+: cs ∧ collapseSpaces q = p) : ∃ q, q <:+: d :: cs ∧ collapseSpaces q = p :=
      hin.imp fun q hq => ⟨hq.1.trans (List.suffix_cons d cs).isInfix, hq.2⟩
    cases hd : isSpaceOrTab d with
    | false =>
      rw [collapseSpacesAfter_of_solid hd, List.infix_cons_iff] at h
      rcases h with hpre | hin
      · rw [← collapseSpacesAfter_of_solid hd false] at hpre
        obtain ⟨q, hq, rfl⟩ := exists_prefix_of_prefix_collapseSpacesAfter hlast hpre
        exact ⟨q, hq.isInfix, rfl⟩
      · exact hbehind (ih hin)
    | true =>
      cases inRun with
      | true => exact hbehind (ih (collapseSpacesAfter_true_of_space hd cs ▸ h))
      | false =>
        rw [collapseSpacesAfter_false_of_space hd, List.infix_cons_iff] at h
        rcases h with hpre | hin
        · rcases List.prefix_cons_iff.1 hpre with rfl | ⟨t, rfl, -⟩
          · exact absurd rfl hp.ne_nil
          · exact absurd (hp.head ' ' rfl) (by decide)
        · exact hbehind (ih hin)

theorem infix_collapseSpaces_iff {p : List Char} (hp : Spaced p) (cs : List Char) :
    p <:+: collapseSpaces cs ↔ ∃ q, q <:+: cs ∧ collapseSpaces q = p := by
  refine ⟨exists_infix_of_isInfix_collapseSpacesAfter hp, ?_⟩
  rintro ⟨q, ⟨x, y, rfl⟩, rfl⟩
  -- the stretch begins with a character that ends every run before it
  obtain ⟨d, q, rfl⟩ : ∃ d q', q = d :: q' := List.exists_cons_of_ne_nil fun hq => hp.ne_nil (by rw [hq]; rfl)
  have hd : isSpaceOrTab d = false := by
    cases hd : isSpaceOrTab d with
    | false => rfl
    | true =>
      rw [collapseSpaces, collapseSpacesAfter_false_of_space hd] at hp
      exact absurd (hp.head ' ' rfl) (by decide)
  obtain ⟨inRun, hleft⟩ := exists_collapseSpacesAfter_append false x (d :: q ++ y)
  obtain ⟨inRun', hright⟩ := exists_collapseSpacesAfter_append false q y
  rw [List.append_assoc, collapseSpaces, collapseSpaces, hleft, List.cons_append, collapseSpacesAfter_of_solid hd,
    collapseSpacesAfter_of_solid hd, collapseSpaces, collapseSpaces, hright, ← List.cons_append]
  exact List.infix_append' _ _ _

/-! ### Texts that are left as they are -/

/-- A text without tabs and without two spaces side by side. -/
structure IsSingleSpaced (cs : List Char) : Prop where
  tab_notMem : '\t' ∉ cs
  not_infix : ¬ [' ', ' '] <:+: cs

theorem IsSingleSpaced.tail {c : Char} {cs : List Char} (h : IsSingleSpaced (c :: cs)) : IsSingleSpaced cs :=
  ⟨fun hmem => h.tab_notMem (List.mem_cons_of_mem _ hmem), fun hin =>
    h.not_infix (hin.trans (List.suffix_cons c cs).isInfix)⟩

theorem collapseSpacesAfter_of_isSingleSpaced {inRun : Bool} {cs : List Char} (h : IsSingleSpaced cs)
    (hrun : inRun = true → cs.head? ≠ some ' ') : collapseSpacesAfter inRun cs = cs := by
  induction cs generalizing inRun with
  | nil => rfl
  | cons c cs ih =>
    cases hc : isSpaceOrTab c with
    | false => rw [collapseSpacesAfter_of_solid hc, collapseSpaces, ih h.tail (by simp)]
    | true =>
      have hspace : c = ' ' := by
        simp only [isSpaceOrTab, Bool.or_eq_true, beq_iff_eq] at hc
        exact hc.resolve_right fun htab => h.tab_notMem (htab ▸ List.mem_cons_self)
      subst hspace
      cases inRun with
      | true => exact absurd rfl (hrun rfl)
      | false =>
        rw [collapseSpacesAfter_false_of_space hc, ih h.tail]
        intro _ hhead
        obtain ⟨ds, rfl⟩ : ∃ ds, cs = ' ' :: ds := List.head?_eq_some_iff.1 hhead
        exact h.not_infix ⟨[], ds, rfl⟩

theorem collapseSpaces_of_isSingleSpaced {cs : List Char} (h : IsSingleSpaced cs) : collapseSpaces cs = cs :=
  collapseSpacesAfter_of_isSingleSpaced h (by simp)

/-! ### What a collapsed text is like -/

theorem IsSingleSpaced.cons {c : Char} {cs : List Char} (h : IsSingleSpaced cs) (htab : c ≠ '\t')
    (hspace : c = ' ' → cs.head? ≠ some ' ') : IsSingleSpaced (c :: cs) where
  tab_notMem := List.not_mem_cons_of_ne_of_not_mem htab.symm h.tab_notMem
  not_infix hin := by
    rcases List.infix_cons_iff.1 hin with hpre | hin
    · obtain ⟨rfl, rest, rfl⟩ := List.cons_prefix_cons.1 hpre
      exact hspace rfl rfl
    · exact h.not_infix hin

theorem IsSingleSpaced.of_isInfix {p cs : List Char} (h : IsSingleSpaced cs) (hin : p <:+: cs) : IsSingleSpaced p :=
  ⟨fun hmem => h.tab_notMem (hin.subset hmem), fun hspaces => h.not_infix (hspaces.trans hin)⟩

/-- Inside a run the next space is still to come, so what follows begins with no other. -/
theorem isSingleSpaced_collapseSpacesAfter (inRun : Bool) (cs : List Char) :
    IsSingleSpaced (collapseSpacesAfter inRun cs) ∧
      (inRun = true → (collapseSpacesAfter inRun cs).head? ≠ some ' ') := by
  induction cs generalizing inRun with
  | nil => exact ⟨⟨List.not_mem_nil, by simp [collapseSpacesAfter]⟩, by simp [collapseSpacesAfter]⟩
  | cons c cs ih =>
    cases hc : isSpaceOrTab c with
    | false =>
      have htab : c ≠ '\t' := by
        rintro rfl
        exact absurd hc (by decide)
      have hspace : c ≠ ' ' := by
        rintro rfl
        exact absurd hc (by decide)
      rw [collapseSpacesAfter_of_solid hc]
      refine ⟨(ih false).1.cons htab fun heq => absurd heq hspace, fun _ hhead => hspace ?_⟩
      exact Option.some.inj hhead
    | true =>
      cases inRun with
      | true =>
        rw [collapseSpacesAfter_true_of_space hc]
        exact ih true
      | false =>
        rw [collapseSpacesAfter_false_of_space hc]
        exact ⟨(ih true).1.cons (by decide) fun _ => (ih true).2 rfl, nofun⟩

theorem isSingleSpaced_collapseSpaces (cs : List Char) : IsSingleSpaced (collapseSpaces cs) :=
  (isSingleSpaced_collapseSpacesAfter false cs).1

theorem filter_collapseSpacesAfter (inRun : Bool) (cs : List Char) :
    (collapseSpacesAfter inRun cs).filter (!isBlank ·) = cs.filter (!isBlank ·) := by
  induction cs generalizing inRun with
  | nil => rfl
  | cons c cs ih =>
    cases hc : isSpaceOrTab c with
    | false => rw [collapseSpacesAfter_of_solid hc, List.filter_cons, List.filter_cons, collapseSpaces, ih]
    | true =>
      have hdrop : (c :: cs).filter (!isBlank ·) = cs.filter (!isBlank ·) :=
        List.filter_cons_of_neg (by simp [isBlank_of_isSpaceOrTab hc])
      cases inRun with
      | true => rw [collapseSpacesAfter_true_of_space hc, ih, hdrop]
      | false => rw [collapseSpacesAfter_false_of_space hc, List.filter_cons_of_neg (by decide), ih, hdrop]

theorem filter_collapseSpaces (cs : List Char) :
    (collapseSpaces cs).filter (!isBlank ·) = cs.filter (!isBlank ·) :=
  filter_collapseSpacesAfter false cs

end MarketBrief.Article
