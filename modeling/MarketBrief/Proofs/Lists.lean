import Mathlib.Data.List.Flatten
import Mathlib.Data.List.Forall2
import Mathlib.Data.List.Sort

/-!
# Lists

* `pairwise_mergeSort_desc`, `filter_mergeSort_desc`, `pairwise_mergeSort_desc_stable`: a list sorted by descending
  keys, in which the elements with one key stand in their old order;
* `pairwise_mergeSort_asc`: a list sorted by ascending keys;
* `mergeSort_desc_filter`: elements can be left out before sorting or behind it;
* `take_erase_of_notMem`, `take_erase_of_mem`: the first elements of a list without one element;
* `mem_take_iff_countP_lt`: the first elements of an ordered list are those with few elements before them;
* `FirstSeen`, `firstSeen_eraseDups`: the first occurrences in a list, in their order; `eraseDups_append_eq`: those in
  two lists, one behind the other;
* `sum_pos_iff`: when a sum over a list is not zero;
* `takeWhile_append_cons`, `dropWhile_append_cons`: an element that fails a test ends the search for one;
* `intercalate_append`: two joined lists with one separator between them; `filter_intercalate`: separators that a
  filter drops;
* `exists_filter_eq_append`: a test that only the last element of a list can fail;
* `exists_sources_filterMap`: what each element of a list comes from; `flatten_sublist_of_forall₂`: sublists of the
  elements give a sublist of the whole;
* `mapM_eq_some_of_forall₂`, `mapM_eq_some_map`: a list is read if each of its elements is;
* `flatMap_zipIdx_of_getElem?`: what one numbered element of a list contributes;
* `map_toList_map_ofList`: the characters of stored texts;
* `without`, `lookup_without_of_ne`: an association list without the entries of one name.
-/

namespace MarketBrief.Lists

variable {α : Type}

/-! ### Sorting by a key -/

section Key

variable (key : α → Nat) (l : List α)

theorem descending_trans (a b c : α) (hab : decide (key b ≤ key a) = true) (hbc : decide (key c ≤ key b) = true) :
    decide (key c ≤ key a) = true := by
  simp only [decide_eq_true_eq] at *
  omega

theorem ascending_trans (a b c : α) (hab : decide (key a ≤ key b) = true) (hbc : decide (key b ≤ key c) = true) :
    decide (key a ≤ key c) = true := by
  simp only [decide_eq_true_eq] at *
  omega

theorem key_total (a b : α) : (decide (key a ≤ key b) || decide (key b ≤ key a)) = true := by
  simp only [Bool.or_eq_true, decide_eq_true_eq]
  omega

theorem pairwise_mergeSort_desc : (l.mergeSort fun a b => key b ≤ key a).Pairwise fun a b => key b ≤ key a := by
  have h := List.pairwise_mergeSort (descending_trans key) (fun a b => key_total key b a) l
  simpa using h

theorem pairwise_mergeSort_asc : (l.mergeSort fun a b => key a ≤ key b).Pairwise fun a b => key a ≤ key b := by
  have h := List.pairwise_mergeSort (ascending_trans key) (key_total key) l
  simpa using h

/-- Sorting is stable: the elements with one key keep their order. -/
theorem filter_mergeSort_desc (n : Nat) :
    (l.mergeSort fun a b => key b ≤ key a).filter (key · = n) = l.filter (key · = n) := by
  have hequal : (l.filter (key · = n)).Pairwise fun a b => decide (key b ≤ key a) = true := by
    refine List.pairwise_of_forall_mem_list fun a ha b hb => ?_
    have ha := (List.mem_filter.1 ha).2
    have hb := (List.mem_filter.1 hb).2
    simp only [decide_eq_true_eq] at ha hb ⊢
    omega
  have hsub := List.sublist_mergeSort (descending_trans key) (fun a b => key_total key b a) hequal List.filter_sublist
  have hsub := hsub.filter (key · = n)
  rw [List.filter_filter] at hsub
  simp only [Bool.and_self] at hsub
  have hlen := ((List.mergeSort_perm l fun a b => key b ≤ key a).filter (key · = n)).length_eq
  exact (hsub.eq_of_length hlen.symm).symm

/-- In the sorted list an element with a higher key comes first, and of two with one key the first in the old list. -/
theorem pairwise_mergeSort_desc_stable :
    (l.mergeSort fun a b => key b ≤ key a).Pairwise fun a b => key b < key a ∨ key a = key b ∧ [a, b].Sublist l := by
  rw [List.pairwise_iff_forall_sublist]
  intro a b hab
  rcases Nat.lt_or_eq_of_le (List.pairwise_iff_forall_sublist.1 (pairwise_mergeSort_desc key l) hab) with hlt | heq
  · exact Or.inl hlt
  · have hsub : [a, b].Sublist ((l.mergeSort fun a b => key b ≤ key a).filter (key · = key a)) := by
      simpa [heq] using hab.filter (key · = key a)
    rw [filter_mergeSort_desc] at hsub
    exact Or.inr ⟨heq.symm, hsub.trans List.filter_sublist⟩

/-- A list with descending keys is known from the elements that it has of each key. -/
theorem eq_of_filter_key_eq {l m : List α} (hl : l.Pairwise fun a b => key b ≤ key a)
    (hm : m.Pairwise fun a b => key b ≤ key a) (h : ∀ n, l.filter (key · = n) = m.filter (key · = n)) : l = m := by
  have hmem : ∀ a, a ∈ l ↔ a ∈ m := fun a => by simpa using congrArg (a ∈ ·) (h (key a))
  induction l generalizing m with
  | nil => exact (List.eq_nil_iff_forall_not_mem.2 fun a ha => absurd ((hmem a).2 ha) List.not_mem_nil).symm
  | cons a l ih =>
    obtain ⟨b, m, rfl⟩ := List.exists_cons_of_ne_nil (List.ne_nil_of_mem ((hmem a).1 List.mem_cons_self))
    obtain ⟨hla, htail⟩ := List.pairwise_cons.1 hl
    obtain ⟨hmb, htail'⟩ := List.pairwise_cons.1 hm
    have hkey : key a = key b := by
      have hab : a = b ∨ a ∈ m := List.mem_cons.1 ((hmem a).1 List.mem_cons_self)
      have hba : b = a ∨ b ∈ l := List.mem_cons.1 ((hmem b).2 List.mem_cons_self)
      exact Nat.le_antisymm (hab.elim (· ▸ Nat.le_refl _) (hmb a)) (hba.elim (· ▸ Nat.le_refl _) (hla b))
    have hfirst := h (key a)
    rw [List.filter_cons_of_pos (by simp), List.filter_cons_of_pos (by simp [hkey])] at hfirst
    obtain ⟨rfl, -⟩ := List.cons.inj hfirst
    have hrest : ∀ n, l.filter (key · = n) = m.filter (key · = n) := fun n => by
      have hn := h n
      rw [List.filter_cons, List.filter_cons] at hn
      split at hn
      · exact (List.cons.inj hn).2
      · exact hn
    rw [ih htail htail' hrest fun c => by simpa using congrArg (c ∈ ·) (hrest (key c))]

/-- Sorting and leaving out commute. -/
theorem mergeSort_desc_filter (P : α → Bool) :
    (l.filter P).mergeSort (fun a b => key b ≤ key a) = (l.mergeSort fun a b => key b ≤ key a).filter P := by
  refine eq_of_filter_key_eq key (pairwise_mergeSort_desc key _) ((pairwise_mergeSort_desc key l).filter P) fun n => ?_
  rw [filter_mergeSort_desc, List.filter_comm, ← filter_mergeSort_desc, List.filter_comm]

end Key

/-! ### The first elements -/

section Take

variable [BEq α] [LawfulBEq α] {n : Nat} {a : α} {l : List α}

theorem take_erase_of_notMem (h : a ∉ l.take n) : (l.erase a).take n = l.take n := by
  conv_lhs => rw [← List.take_append_drop n l, List.erase_append_right _ h]
  rcases Nat.le_total n l.length with hle | hge
  · rw [List.take_left' (List.length_take_of_le hle)]
  · rw [List.drop_eq_nil_of_le hge, List.erase_nil, List.append_nil, List.take_take, Nat.min_self]

/-- Without one of the first elements the next one is among them. -/
theorem take_erase_of_mem (h : a ∈ l.take n) :
    (l.erase a).take n = (l.take n).erase a ++ (l.drop n).take 1 := by
  have hlength := List.length_erase_of_mem h
  have hpos := List.length_pos_of_mem h
  conv_lhs => rw [← List.take_append_drop n l, List.erase_append_left _ h]
  rw [List.length_take] at hlength hpos
  rcases Nat.le_total n l.length with hle | hge
  · have hnext : n - ((l.take n).erase a).length = 1 := by omega
    rw [List.take_append, hnext, List.take_of_length_le (by omega)]
  · rw [List.drop_eq_nil_of_le hge, List.take_nil, List.append_nil, List.take_of_length_le (by omega)]

end Take

section Rank

variable {R : α → α → Prop} [DecidableRel R] (hR : ∀ a b, R a b → ¬ R b a)

include hR

/-- In a list in strict order the elements related to one of them are those in front of it. -/
theorem countP_of_pairwise {front rest : List α} {a : α} (h : (front ++ a :: rest).Pairwise R) :
    (front ++ a :: rest).countP (R · a) = front.length := by
  obtain ⟨-, hrest, hacross⟩ := List.pairwise_append.1 h
  have hbefore : ∀ b ∈ front, R b a := fun b hb => hacross b hb a List.mem_cons_self
  have hself : ¬ R a a := fun haa => hR a a haa haa
  have hbehind : ∀ b ∈ rest, ¬ R b a := fun b hb => hR a b ((List.pairwise_cons.1 hrest).1 b hb)
  rw [List.countP_append, List.countP_cons_of_neg (by simpa using hself),
    List.countP_eq_length.2 (by simpa using hbefore), List.countP_eq_zero.2 (by simpa using hbehind), Nat.add_zero]

theorem mem_take_iff_countP_lt {l : List α} (h : l.Pairwise R) {n : Nat} {a : α} :
    a ∈ l.take n ↔ a ∈ l ∧ l.countP (R · a) < n := by
  by_cases ha : a ∈ l
  · obtain ⟨front, rest, rfl⟩ := List.append_of_mem ha
    have hfront : a ∉ front := fun hmem => by
      have haa := (List.pairwise_append.1 h).2.2 a hmem a List.mem_cons_self
      exact hR a a haa haa
    rw [countP_of_pairwise hR h, List.take_append, List.mem_append, and_iff_right ha]
    constructor
    · rintro (hmem | hmem)
      · exact absurd (List.mem_of_mem_take hmem) hfront
      · by_contra hge
        rw [Nat.sub_eq_zero_of_le (Nat.le_of_not_lt hge), List.take_zero] at hmem
        exact List.not_mem_nil hmem
    · intro hlt
      obtain ⟨k, hk⟩ : ∃ k, n - front.length = k + 1 := ⟨n - front.length - 1, by omega⟩
      rw [hk, List.take_succ_cons]
      exact Or.inr List.mem_cons_self
  · exact iff_of_false (fun hmem => ha (List.mem_of_mem_take hmem)) fun hmem => ha hmem.1

end Rank

/-! ### First occurrences -/

/-- The elements of `l`, each once, by the places where they are first seen. -/
structure FirstSeen [BEq α] (l out : List α) : Prop where
  mem_iff : ∀ a, a ∈ out ↔ a ∈ l
  pairwise : out.Pairwise fun a b => l.idxOf a < l.idxOf b

theorem FirstSeen.nodup [BEq α] {l out : List α} (h : FirstSeen l out) : out.Nodup :=
  h.pairwise.imp fun hlt heq => absurd hlt (by simp [heq])

section Seen

variable [BEq α] [LawfulBEq α]

/-- First occurrences can be taken before a filter or behind it. -/
theorem eraseDups_filter (P : α → Bool) (l : List α) : (l.filter P).eraseDups = l.eraseDups.filter P := by
  match l with
  | [] => rfl
  | a :: as =>
    have : (as.filter fun b => !b == a).length < as.length + 1 := Nat.lt_succ_of_le (List.length_filter_le _ as)
    have hrest := eraseDups_filter P (as.filter fun b => !b == a)
    rw [List.filter_comm] at hrest
    by_cases ha : P a = true
    · rw [List.filter_cons_of_pos ha, List.eraseDups_cons, List.eraseDups_cons, List.filter_cons_of_pos ha, hrest]
    · -- what passes is not `a`
      have hother : (as.filter P).filter (fun b => !b == a) = as.filter P := List.filter_eq_self.2 fun b hb => by
        have hne : b ≠ a := by
          rintro rfl
          exact ha (List.mem_filter.1 hb).2
        simpa using hne
      rw [List.filter_cons_of_neg ha, List.eraseDups_cons, List.filter_cons_of_neg ha, ← hrest, hother]
termination_by l.length

theorem pairwise_eraseDups (l : List α) : l.eraseDups.Pairwise fun a b => l.idxOf a < l.idxOf b := by
  induction l with
  | nil => simp
  | cons a l ih =>
    have hne : ∀ b ∈ l.eraseDups.filter fun b => !b == a, a ≠ b := by
      rintro b hb rfl
      simpa using (List.mem_filter.1 hb).2
    rw [List.eraseDups_cons, eraseDups_filter, List.pairwise_cons]
    constructor
    · intro b hb
      rw [List.idxOf_cons_self, List.idxOf_cons_ne _ (hne b hb)]
      exact Nat.succ_pos _
    · refine (ih.filter _).imp_of_mem fun {b c} hb hc hlt => ?_
      rw [List.idxOf_cons_ne _ (hne b hb), List.idxOf_cons_ne _ (hne c hc)]
      exact Nat.succ_lt_succ hlt

theorem firstSeen_eraseDups (l : List α) : FirstSeen l l.eraseDups :=
  ⟨fun _ => List.mem_eraseDups, pairwise_eraseDups l⟩

theorem nodup_eraseDups (l : List α) : l.eraseDups.Nodup := (firstSeen_eraseDups l).nodup

theorem eraseDups_of_nodup {l : List α} (h : l.Nodup) : l.eraseDups = l := by
  induction l with
  | nil => rfl
  | cons a l ih =>
    obtain ⟨ha, hl⟩ := List.nodup_cons.1 h
    have hall : l.filter (fun b => !b == a) = l := List.filter_eq_self.2 fun b hb => by
      simpa using fun heq : b = a => ha (heq ▸ hb)
    rw [List.eraseDups_cons, hall, ih hl]

theorem eraseDups_append_eq (l m : List α) :
    (l ++ m).eraseDups = l.eraseDups ++ m.eraseDups.filter fun b => !l.eraseDups.contains b := by
  have hseen : m.removeAll l = m.filter fun b => !l.eraseDups.contains b := by
    refine List.filter_congr fun b _ => congrArg (!·) (Bool.eq_iff_iff.2 ?_)
    rw [List.elem_iff, List.contains_iff_mem, List.mem_eraseDups]
  rw [List.eraseDups_append, hseen, eraseDups_filter]

end Seen

/-- The order in which results are first seen is that of the elements they are first made of. -/
theorem findIdx_lt_of_filterMap [BEq α] {β : Type} {f : β → Option α} {l : List β} {a b : α}
    (h : (l.filterMap f).idxOf a < (l.filterMap f).idxOf b) :
    l.findIdx (f · == some a) < l.findIdx (f · == some b) := by
  induction l with
  | nil => exact absurd h (Nat.lt_irrefl _)
  | cons x l ih =>
    rw [List.findIdx_cons, List.findIdx_cons]
    cases hx : f x with
    | none =>
      rw [List.filterMap_cons_none hx] at h
      exact Nat.succ_lt_succ (ih h)
    | some c =>
      rw [List.filterMap_cons_some hx, List.idxOf_cons, List.idxOf_cons] at h
      cases hca : c == a <;> cases hcb : c == b <;>
        simp only [hca, hcb, cond_true, cond_false, Option.some_beq_some] at h ⊢ <;> omega

/-! ### Sums -/

theorem sum_pos_iff (f : α → Nat) (l : List α) : 0 < (l.map f).foldr (· + ·) 0 ↔ ∃ a ∈ l, 0 < f a := by
  induction l with
  | nil => simp
  | cons b l ih =>
    rw [List.map_cons, List.foldr_cons, Nat.add_pos_iff_pos_or_pos, ih]
    simp

/-! ### Searches that end at an element -/

section Search

variable {P : α → Bool} {a : α}

theorem takeWhile_append_cons (ha : P a = false) (x y : List α) : (x ++ a :: y).takeWhile P = x.takeWhile P := by
  rw [List.takeWhile_append]
  split
  · next h =>
    rw [(List.takeWhile_prefix P).eq_of_length h]
    simp [ha]
  · rfl

theorem dropWhile_append_cons (ha : P a = false) (x y : List α) :
    (x ++ a :: y).dropWhile P = x.dropWhile P ++ a :: y := by
  rw [List.dropWhile_append]
  split
  · next h =>
    rw [List.isEmpty_iff.1 h]
    simp [ha]
  · rfl

end Search

/-! ### Joined lists -/

theorem intercalate_append (separator : List α) {x y : List (List α)} (hx : x ≠ []) (hy : y ≠ []) :
    separator.intercalate (x ++ y) = separator.intercalate x ++ separator ++ separator.intercalate y := by
  induction x with
  | nil => exact absurd rfl hx
  | cons first rest ih =>
    by_cases hrest : rest = []
    · rw [hrest, List.singleton_append, List.intercalate_cons_of_ne_nil hy, List.intercalate_singleton]
    · rw [List.cons_append, List.intercalate_cons_of_ne_nil (List.append_ne_nil_of_left_ne_nil hrest y), ih hrest,
        List.intercalate_cons_of_ne_nil hrest]
      simp only [List.append_assoc]

theorem filter_intercalate {P : α → Bool} {separator : List α} (h : ∀ a ∈ separator, P a = false)
    (pieces : List (List α)) : (separator.intercalate pieces).filter P = (pieces.map (List.filter P)).flatten := by
  have hnone : separator.filter P = [] := List.filter_eq_nil_iff.2 fun a ha => by simp [h a ha]
  induction pieces with
  | nil => rfl
  | cons first rest ih =>
    cases rest with
    | nil => simp
    | cons second rest =>
      rw [List.intercalate_cons_cons, List.filter_append, List.filter_append, hnone, ih, List.append_nil]
      rfl

/-! ### Tests of the last element -/

/-- If only the last element of a list can fail a test, the test takes away that element or nothing. -/
theorem exists_filter_eq_append {P : α → Bool} {l : List α} (h : ∀ a ∈ l.dropLast, P a = true)
    (Q : α → Bool) :
    ∃ removed, removed.Sublist l.getLast?.toList ∧ l.filter Q = (l.filter Q).filter P ++ removed := by
  rcases List.eq_nil_or_concat l with rfl | ⟨front, last, rfl⟩
  · exact ⟨[], List.Sublist.refl _, rfl⟩
  · rw [List.concat_eq_append] at *
    rw [List.dropLast_concat] at h
    refine ⟨([last].filter Q).filter (!P ·), ?_, ?_⟩
    · rw [List.getLast?_concat]
      exact List.filter_sublist.trans List.filter_sublist
    · have hfront : (front.filter Q).filter P = front.filter Q :=
        List.filter_eq_self.2 fun a ha => h a (List.mem_of_mem_filter ha)
      rw [List.filter_append, List.filter_append, hfront, List.append_assoc, List.append_cancel_left_eq]
      cases hQ : Q last <;> cases hP : P last <;> simp [hQ, hP]

/-! ### Lists made element by element -/

theorem exists_sources_filterMap {β : Type} (f : α → Option β) (l : List α) :
    ∃ sources, sources.Sublist l ∧ List.Forall₂ (fun a b => f a = some b) sources (l.filterMap f) := by
  induction l with
  | nil => exact ⟨[], .refl _, .nil⟩
  | cons a l ih =>
    obtain ⟨sources, hsub, hsources⟩ := ih
    cases hfa : f a with
    | none => exact ⟨sources, hsub.cons a, by rwa [List.filterMap_cons_none hfa]⟩
    | some b => exact ⟨a :: sources, hsub.cons_cons a, by rw [List.filterMap_cons_some hfa]; exact .cons hfa hsources⟩

theorem flatten_sublist_of_forall₂ {x y : List (List α)} (h : List.Forall₂ List.Sublist x y) :
    x.flatten.Sublist y.flatten := by
  induction h with
  | nil => exact .refl _
  | cons hab _ ih => exact hab.append ih

theorem mapM_eq_some_of_forall₂ {β : Type} {f : β → Option α} {l : List α} {m : List β}
    (h : List.Forall₂ (fun a b => f b = some a) l m) : m.mapM f = some l := by
  induction h with
  | nil => rfl
  | cons hab _ ih => rw [List.mapM_cons, hab, ih]; rfl

theorem mapM_eq_some_map {β : Type} {f : β → Option α} {g : β → α} {l : List β} (h : ∀ b ∈ l, f b = some (g b)) :
    l.mapM f = some (l.map g) :=
  mapM_eq_some_of_forall₂ (List.forall₂_map_left_iff.2 (List.forall₂_same.2 h))

/-- If only the element with one number contributes, the whole is what it contributes. -/
theorem flatMap_zipIdx_of_getElem? {β : Type} {g : α × Nat → List β} {l : List α} {i start : Nat} {a : α}
    (ha : l[i]? = some a) (hg : ∀ b j, j ≠ start + i → g (b, j) = []) :
    (l.zipIdx start).flatMap g = g (a, start + i) := by
  induction l generalizing i start with
  | nil => simp at ha
  | cons b l ih =>
    rw [List.zipIdx_cons, List.flatMap_cons]
    cases i with
    | zero =>
      obtain rfl : b = a := by simpa using ha
      have hrest : (l.zipIdx (start + 1)).flatMap g = [] := by
        refine List.flatMap_eq_nil_iff.2 fun x hx => hg x.1 x.2 ?_
        have := List.le_snd_of_mem_zipIdx hx
        omega
      rw [hrest, List.append_nil, Nat.add_zero]
    | succ i =>
      have hshift : start + 1 + i = start + (i + 1) := by omega
      rw [hg b start (by omega), List.nil_append, ih (by simpa using ha) (by rwa [hshift]), hshift]

/-! ### Stored texts -/

theorem map_toList_map_ofList (l : List (List Char)) : (l.map String.ofList).map String.toList = l := by
  rw [List.map_map]
  exact (List.map_congr_left fun cs _ => String.toList_ofList).trans (List.map_id l)

/-! ### Association lists -/

section Without

variable {name other : String} {l : List (String × α)}

/-- An association list without the entries of one name. -/
def without (name : String) (l : List (String × α)) : List (String × α) := l.filter (·.1 ≠ name)

@[simp] theorem without_nil : without name ([] : List (String × α)) = [] := rfl

@[simp] theorem without_cons_self (a : α) : without name ((name, a) :: l) = without name l :=
  List.filter_cons_of_neg (by simp)

theorem without_cons_of_ne {p : String × α} (h : p.1 ≠ name) : without name (p :: l) = p :: without name l :=
  List.filter_cons_of_pos (by simpa using h)

theorem without_append (l m : List (String × α)) : without name (l ++ m) = without name l ++ without name m :=
  List.filter_append l m

@[simp] theorem lookup_without_self : (without name l).lookup name = none := by
  refine List.lookup_eq_none_iff.2 fun p hp => ?_
  exact bne_iff_ne.2 (of_decide_eq_true (List.mem_filter.1 hp).2).symm

theorem lookup_without_of_ne (h : other ≠ name) : (without name l).lookup other = l.lookup other := by
  induction l with
  | nil => rfl
  | cons p l ih =>
    obtain ⟨key, a⟩ := p
    by_cases hkey : key = name
    · subst hkey
      rw [without_cons_self, ih, List.lookup_cons, beq_false_of_ne h]
    · rw [without_cons_of_ne hkey, List.lookup_cons, List.lookup_cons, ih]

theorem without_eq_self (h : l.lookup name = none) : without name l = l := by
  refine List.filter_eq_self.2 fun p hp => ?_
  exact decide_eq_true (bne_iff_ne.1 (List.lookup_eq_none_iff.1 h p hp)).symm

end Without

end MarketBrief.Lists
