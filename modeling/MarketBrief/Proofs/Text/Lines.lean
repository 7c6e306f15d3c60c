import Mathlib.Data.List.Infix
import MarketBrief.Text.Basic

/-!
# Lines

* `infix_intercalate_iff`: a stretch without the separator lies in one of the joined pieces;
* `lines_append`: a line feed ends a line;
* `notMem_of_mem_lines`, `lines_intercalate`: lines hold no line feed, and joined by line feeds they are lines again;
* `intercalate_lines`: joined by line feeds they are the text;
* `firstLine_inj`, `lastLine_inj`: equal texts have equal first lines and equal last lines;
* `mem_lines_iff`: a line stands between line feeds or the ends of the text, and holds none.
-/

namespace MarketBrief.Text

theorem infix_append_cons_iff {α : Type} {p : List α} {separator : α} (hp : separator ∉ p) (x y : List α) :
    p <:+: x ++ separator :: y ↔ p <:+: x ∨ p <:+: y := by
  constructor
  · intro h
    induction x with
    | nil =>
      rcases List.infix_cons_iff.1 h with hpre | hin
      · rcases List.prefix_cons_iff.1 hpre with rfl | ⟨t, rfl, -⟩
        · exact Or.inl List.nil_infix
        · exact absurd List.mem_cons_self hp
      · exact Or.inr hin
    | cons c x ih =>
      rcases List.infix_cons_iff.1 h with hpre | hin
      · -- a prefix that reached the separator would hold it
        rcases List.prefix_or_prefix_of_prefix hpre (List.prefix_append (c :: x) _) with hx | ⟨t, rfl⟩
        · exact Or.inl hx.isInfix
        · rcases List.prefix_cons_iff.1 ((List.prefix_append_right_inj (c :: x)).1 hpre) with rfl | ⟨u, rfl, -⟩
          · exact Or.inl (by rw [List.append_nil])
          · exact absurd (List.mem_append_right _ List.mem_cons_self) hp
      · rcases ih hin with hx | hy
        · exact Or.inl (hx.trans (List.suffix_cons c x).isInfix)
        · exact Or.inr hy
  · rintro (h | h)
    · exact h.trans (List.prefix_append _ _).isInfix
    · exact h.trans ((List.suffix_cons _ _).trans (List.suffix_append _ _)).isInfix

theorem infix_intercalate_iff {α : Type} {p : List α} {separator : α} (hne : p ≠ []) (hp : separator ∉ p)
    (pieces : List (List α)) : p <:+: [separator].intercalate pieces ↔ ∃ piece ∈ pieces, p <:+: piece := by
  induction pieces with
  | nil => simp [hne]
  | cons first rest ih =>
    cases rest with
    | nil => simp
    | cons second rest =>
      rw [List.intercalate_cons_cons, List.append_assoc, List.singleton_append, infix_append_cons_iff hp, ih]
      simp only [List.mem_cons, exists_eq_or_imp]

theorem notMem_of_mem_lines {cs line : List Char} (h : line ∈ lines cs) : '\n' ∉ line := by
  unfold lines at h
  induction cs generalizing line with
  | nil =>
    rw [List.splitOn_nil, List.mem_singleton] at h
    simp [h]
  | cons c cs ih =>
    rw [List.splitOn_cons_eq_if_modifyHead] at h
    split at h
    · rcases List.mem_cons.1 h with rfl | h
      · exact List.not_mem_nil
      · exact ih h
    · next hc =>
      obtain ⟨first, rest, hsplit⟩ := List.exists_cons_of_ne_nil (List.splitOn_ne_nil '\n' cs)
      rw [hsplit, List.modifyHead_cons] at h
      rcases List.mem_cons.1 h with rfl | h
      · have hfirst : '\n' ∉ first := ih (hsplit ▸ List.mem_cons_self)
        exact List.not_mem_cons_of_ne_of_not_mem (by rintro rfl; simp at hc) hfirst
      · exact ih (hsplit ▸ List.mem_cons_of_mem _ h)

theorem lines_append (a b : List Char) : lines (a ++ '\n' :: b) = lines a ++ lines b := by
  simp only [lines, List.splitOn_eq_splitOnP]
  exact List.splitOnP_append_cons a b (beq_self_eq_true '\n')

theorem lines_intercalate {pieces : List (List Char)} (hne : pieces ≠ []) (h : ∀ piece ∈ pieces, '\n' ∉ piece) :
    lines (['\n'].intercalate pieces) = pieces :=
  List.splitOn_intercalate '\n' h hne

theorem lines_of_notMem {line : List Char} (h : '\n' ∉ line) : lines line = [line] := by
  have hone := lines_intercalate (List.cons_ne_nil line []) (by simpa using h)
  rwa [List.intercalate_singleton] at hone

theorem intercalate_lines (cs : List Char) : ['\n'].intercalate (lines cs) = cs := List.intercalate_splitOn '\n'

theorem lines_inj {x y : List Char} : lines x = lines y ↔ x = y := by
  constructor
  · intro h
    rw [← intercalate_lines x, h, intercalate_lines]
  · rintro rfl
    rfl

theorem firstLine_inj {a b x y : List Char} (ha : '\n' ∉ a) (hb : '\n' ∉ b) :
    a ++ '\n' :: x = b ++ '\n' :: y ↔ a = b ∧ x = y := by
  rw [← lines_inj, lines_append, lines_append, lines_of_notMem ha, lines_of_notMem hb, List.singleton_append,
    List.singleton_append, List.cons.injEq, lines_inj]

theorem lastLine_inj {a b x y : List Char} (ha : '\n' ∉ a) (hb : '\n' ∉ b) :
    x ++ '\n' :: a = y ++ '\n' :: b ↔ x = y ∧ a = b := by
  rw [← lines_inj, lines_append, lines_append, lines_of_notMem ha, lines_of_notMem hb, List.append_singleton_inj,
    lines_inj]

/-! ### Where a line stands -/

theorem exists_intercalate_of_mem {α : Type} (separator : α) {piece : List α} {pieces : List (List α)}
    (h : piece ∈ pieces) : ∃ before after, [separator].intercalate pieces = before ++ (piece ++ after) ∧
      (∀ c ∈ before.getLast?, c = separator) ∧ ∀ c ∈ after.head?, c = separator := by
  induction pieces with
  | nil => exact absurd h List.not_mem_nil
  | cons first rest ih =>
    cases rest with
    | nil =>
      obtain rfl := List.mem_singleton.1 h
      exact ⟨[], [], by simp, by simp, by simp⟩
    | cons second rest =>
      rw [List.intercalate_cons_cons, List.append_assoc]
      rcases List.mem_cons.1 h with rfl | h
      · exact ⟨[], separator :: [separator].intercalate (second :: rest), rfl, by simp, by simp⟩
      · obtain ⟨before, after, heq, hbefore, hafter⟩ := ih h
        refine ⟨first ++ separator :: before, after, by rw [heq]; simp, fun c hc => ?_, hafter⟩
        cases before with
        | nil => simpa using hc.symm
        | cons d before =>
          rw [List.getLast?_append_of_ne_nil _ (List.cons_ne_nil _ _), List.getLast?_cons_cons] at hc
          exact hbefore c hc

theorem mem_lines_iff {cs line : List Char} :
    line ∈ lines cs ↔ '\n' ∉ line ∧ ∃ before after, cs = before ++ (line ++ after) ∧
      (∀ c ∈ before.getLast?, c = '\n') ∧ ∀ c ∈ after.head?, c = '\n' := by
  constructor
  · intro h
    refine ⟨notMem_of_mem_lines h, ?_⟩
    have hstands := exists_intercalate_of_mem '\n' h
    rwa [intercalate_lines] at hstands
  · rintro ⟨hline, before, after, rfl, hbefore, hafter⟩
    have hmem : line ∈ lines (line ++ after) := by
      cases after with
      | nil => rw [List.append_nil, lines_of_notMem hline]; exact List.mem_singleton_self line
      | cons c after =>
        obtain rfl := hafter c rfl
        rw [lines_append, lines_of_notMem hline]
        exact List.mem_append_left _ (List.mem_singleton_self line)
    rcases List.eq_nil_or_concat before with rfl | ⟨before, c, rfl⟩
    · exact hmem
    · obtain rfl := hbefore c (by simp)
      rw [List.concat_eq_append, List.append_assoc, List.singleton_append, lines_append]
      exact List.mem_append_right _ hmem

end MarketBrief.Text
