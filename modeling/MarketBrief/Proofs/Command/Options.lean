import MarketBrief.Command.Options
import MarketBrief.Proofs.Except
import MarketBrief.Proofs.Lists
import Mathlib.Data.List.TakeWhile

/-!
# Options in a row

* `joinedOption`, `IsOption`: an option with its value in one argument, and arguments with an option;
* `read_append`, `read_without`: the options of two lists of arguments, and those but one;
* `Given.AreOf`, `exists_read_eq`: each option that is read comes from an argument, and each argument up to the rest is
  an option or its value;
* `read_insert`: an option that is put among the others adds itself.
-/

namespace MarketBrief

open MarketBrief.Lists

namespace Command

/-! ### One argument -/

def joinedOption (name value : String) : String := "--" ++ name ++ "=" ++ value

theorem splitOption?_joinedOption {name : String} (hname : name ≠ "") (hequals : '=' ∉ name.toList) (value : String) :
    splitOption? (joinedOption name value).toList = some (name, some value) := by
  obtain ⟨c, cs, hcs⟩ := List.exists_cons_of_ne_nil (mt String.toList_eq_nil_iff.1 hname)
  have hall : ∀ d ∈ c :: cs, decide (d ≠ '=') = true := by
    intro d hd
    rw [← hcs] at hd
    exact decide_eq_true fun h => hequals (h ▸ hd)
  have htext : (joinedOption name value).toList = '-' :: '-' :: c :: (cs ++ '=' :: value.toList) := by
    simp [joinedOption, hcs]
  have htake : (c :: (cs ++ '=' :: value.toList)).takeWhile (· ≠ '=') = name.toList := by
    rw [← List.cons_append, takeWhile_append_cons (by simp), List.takeWhile_eq_self_iff.2 hall, hcs]
  have hdrop : (c :: (cs ++ '=' :: value.toList)).dropWhile (· ≠ '=') = '=' :: value.toList := by
    rw [← List.cons_append, dropWhile_append_cons (by simp), List.dropWhile_eq_nil_iff.2 hall]
    rfl
  simp only [htext, splitOption?, htake, hdrop, String.ofList_toList]

/-- An argument is an option, with or without its value. -/
def IsOption (argument name : String) : Prop := ∃ value?, splitOption? argument.toList = some (name, value?)

theorem splitOption?_of_isValue {argument : String} (h : isValue argument = true) :
    splitOption? argument.toList = none := by
  simp only [isValue, Bool.or_eq_true, decide_eq_true_eq] at h
  obtain rfl | h := h
  · rfl
  · unfold splitOption?
    split
    · next hargument =>
      rw [hargument] at h
      exact absurd rfl h
    · rfl

/-! ### Options in a row -/

namespace Given

variable {accepted : Accepted} {given : Given} {a arguments rest : List String} {name value : String}

/-- Reading goes on behind the first of two lists of arguments, unless it has come to its end there. -/
theorem read_append (h : ∀ last ∈ a.getLast?, ∀ name ∈ accepted.options, splitOption? last.toList ≠ some (name, none))
    (b : List String) :
    read accepted given (a ++ b) = read accepted given a >>= fun (given, rest) =>
      if rest = [] then read accepted given b else .ok (given, rest ++ b) := by
  have htail : ∀ {argument : String} {arguments : List String},
      (∀ last ∈ (argument :: arguments).getLast?, ∀ name ∈ accepted.options,
        splitOption? last.toList ≠ some (name, none)) →
      ∀ last ∈ arguments.getLast?, ∀ name ∈ accepted.options, splitOption? last.toList ≠ some (name, none) := by
    intro argument arguments h last hlast
    exact h last (by rw [List.getLast?_cons, hlast]; rfl)
  fun_induction read accepted given a with
  | case1 given => rfl
  | case2 given argument arguments hsplit => simp [read, hsplit, ok_bind]
  | case3 given argument arguments name value? hsplit hrepeated =>
    simp only [List.cons_append, read, hsplit, hrepeated, if_true]
    rfl
  | case4 given argument arguments name hnew hflag hsplit ih =>
    rw [← ih (htail h)]
    simp [read, hsplit, hnew, hflag]
  | case5 given argument arguments name hnew hflag value hsplit =>
    simp only [List.cons_append, read, hsplit, hnew, hflag, if_true]
    rfl
  | case6 given argument name hnew hflag hoption value arguments hsplit ih =>
    rw [← ih (htail h)]
    simp [read, hsplit, hnew, hflag, hoption]
  | case7 given argument name hnew hflag hoption hsplit => exact absurd hsplit (h argument rfl name hoption)
  | case8 given argument name hnew hflag hoption value arguments hvalue hsplit ih =>
    rw [← ih (htail (htail h))]
    simp [read, hsplit, hnew, hflag, hoption, hvalue]
  | case9 given argument name hnew hflag hoption value arguments hvalue hsplit =>
    simp only [List.cons_append, read, hsplit, hnew, hflag, hoption, hvalue, if_true, if_false]
    rfl
  | case10 given argument arguments name value? hsplit hnew hflag hoption =>
    simp only [List.cons_append, read, hsplit, hnew, hflag, hoption, if_false]
    rfl

/-- What has been given of an option does not matter to arguments without it. -/
theorem read_without (h : ∀ argument ∈ arguments, ¬IsOption argument name) :
    read accepted (without name given) arguments =
      (read accepted given arguments).map (Prod.map (without name) id) := by
  have hne : ∀ {argument other : String} {value? : Option String} {arguments : List String},
      (∀ argument ∈ arguments, ¬IsOption argument name) → argument ∈ arguments →
      splitOption? argument.toList = some (other, value?) → other ≠ name :=
    fun h hmem hsplit hother => h _ hmem ⟨_, hother ▸ hsplit⟩
  have hlookup : ∀ {given : Given} {other : String}, other ≠ name →
      (without name given).lookup other = given.lookup other := fun h => lookup_without_of_ne h
  have hadd : ∀ {given : Given} {other value : String}, other ≠ name →
      without name (given ++ [(other, value)]) = without name given ++ [(other, value)] := fun h => by
    rw [without_append, without_cons_of_ne h, without_nil]
  fun_induction read accepted given arguments with
  | case1 given => rfl
  | case2 given argument arguments hsplit =>
    rw [read, hsplit]
    rfl
  | case3 given argument arguments other value? hsplit hrepeated =>
    have hother := hne h (.head _) hsplit
    simp only [read, hsplit, hlookup hother, hrepeated, if_true]
    rfl
  | case4 given argument arguments other hnew hflag hsplit ih =>
    have hother := hne h (.head _) hsplit
    rw [← ih fun argument hargument => h argument (.tail _ hargument), hadd hother]
    simp [read, hsplit, hlookup hother, hnew, hflag]
  | case5 given argument arguments other hnew hflag value hsplit =>
    have hother := hne h (.head _) hsplit
    simp only [read, hsplit, hlookup hother, hnew, hflag, if_true]
    rfl
  | case6 given argument other hnew hflag hoption value arguments hsplit ih =>
    have hother := hne h (.head _) hsplit
    rw [← ih fun argument hargument => h argument (.tail _ hargument), hadd hother]
    simp [read, hsplit, hlookup hother, hnew, hflag, hoption]
  | case7 given argument other hnew hflag hoption hsplit =>
    have hother := hne h (.head _) hsplit
    simp only [read, hsplit, hlookup hother, hnew, hflag, hoption, if_true, if_false]
    rfl
  | case8 given argument other hnew hflag hoption value arguments hvalue hsplit ih =>
    have hother := hne h (.head _) hsplit
    rw [← ih fun argument hargument => h argument (.tail _ (.tail _ hargument)), hadd hother]
    simp [read, hsplit, hlookup hother, hnew, hflag, hoption, hvalue]
  | case9 given argument other hnew hflag hoption value arguments hvalue hsplit =>
    have hother := hne h (.head _) hsplit
    simp only [read, hsplit, hlookup hother, hnew, hflag, hoption, hvalue, if_true, if_false]
    rfl
  | case10 given argument arguments other value? hsplit hnew hflag hoption =>
    have hother := hne h (.head _) hsplit
    simp only [read, hsplit, hlookup hother, hnew, hflag, hoption, if_false]
    rfl

/-- An option that is not given yet is read if it is accepted. -/
theorem read_joinedOption {argument : String} (hsplit : splitOption? argument.toList = some (name, some value))
    (hnew : given.lookup name = none) (hflag : name ∉ accepted.flags) (hoption : name ∈ accepted.options)
    (arguments : List String) :
    read accepted given (argument :: arguments) = read accepted (given ++ [(name, value)]) arguments := by
  simp [read, hsplit, hnew, hflag, hoption]

/-- The options of some arguments: one for each argument that is no value. -/
def AreOf (options : Given) (arguments : List String) : Prop :=
  (∀ argument ∈ arguments, ∀ name, IsOption argument name → (options.lookup name).isSome = true) ∧
    ∀ name value, options.lookup name = some value →
      ∃ argument ∈ arguments, ∃ value?,
        splitOption? argument.toList = some (name, value?) ∧ ∀ text ∈ value?, text = value

theorem AreOf.nil : AreOf [] [] := ⟨fun _ h => (nomatch h), fun _ _ h => (nomatch h)⟩

theorem AreOf.skip {options : Given} (h : options.AreOf arguments) {argument : String}
    (hsplit : splitOption? argument.toList = none) : options.AreOf (argument :: arguments) := by
  refine ⟨fun other hother name hname => ?_, fun name value hlookup => ?_⟩
  · obtain _ | ⟨_, hother⟩ := hother
    · obtain ⟨value?, hname⟩ := hname
      exact nomatch hsplit.symm.trans hname
    · exact h.1 other hother name hname
  · obtain ⟨other, hother, hvalue⟩ := h.2 name value hlookup
    exact ⟨other, .tail _ hother, hvalue⟩

theorem AreOf.cons {options : Given} (h : options.AreOf arguments) {argument : String} {value? : Option String}
    (hsplit : splitOption? argument.toList = some (name, value?)) (hvalue : ∀ text ∈ value?, text = value) :
    AreOf ((name, value) :: options) (argument :: arguments) := by
  refine ⟨fun other hother key hkey => ?_, fun key text hlookup => ?_⟩
  · rw [List.lookup_cons]
    split
    · rfl
    · next hne =>
      obtain _ | ⟨_, hother⟩ := hother
      · obtain ⟨_, hkey⟩ := hkey
        cases hsplit.symm.trans hkey
        simp at hne
      · exact h.1 other hother key hkey
  · rw [List.lookup_cons] at hlookup
    split at hlookup
    · next heq =>
      cases hlookup
      cases beq_iff_eq.1 heq
      exact ⟨argument, .head _, value?, hsplit, hvalue⟩
    · obtain ⟨other, hother, hvalue⟩ := h.2 key text hlookup
      exact ⟨other, .tail _ hother, hvalue⟩

/-- What is read is what has been given before, and the options of the arguments up to the rest. -/
theorem exists_read_eq {given' : Given} (h : read accepted given arguments = .ok (given', rest)) :
    ∃ consumed options, arguments = consumed ++ rest ∧ given' = given ++ options ∧ options.AreOf consumed := by
  fun_induction read accepted given arguments with
  | case1 given =>
    cases h
    exact ⟨[], [], rfl, (List.append_nil _).symm, .nil⟩
  | case2 given argument arguments hsplit =>
    cases h
    exact ⟨[], [], rfl, (List.append_nil _).symm, .nil⟩
  | case4 given argument arguments name hnew hflag hsplit ih =>
    obtain ⟨consumed, options, rfl, rfl, hof⟩ := ih h
    exact ⟨argument :: consumed, (name, "") :: options, rfl, List.append_assoc .., hof.cons hsplit (by simp)⟩
  | case6 given argument name hnew hflag hoption value arguments hsplit ih =>
    obtain ⟨consumed, options, rfl, rfl, hof⟩ := ih h
    exact ⟨argument :: consumed, (name, value) :: options, rfl, List.append_assoc .., hof.cons hsplit (by simp)⟩
  | case8 given argument name hnew hflag hoption value arguments hvalue hsplit ih =>
    obtain ⟨consumed, options, rfl, rfl, hof⟩ := ih h
    have hof := hof.skip (splitOption?_of_isValue hvalue)
    exact ⟨argument :: value :: consumed, (name, value) :: options, rfl, List.append_assoc ..,
      hof.cons hsplit (by simp)⟩
  | case3 | case5 | case7 | case9 | case10 => exact nomatch h

theorem lookup_of_read {given' : Given} (h : read accepted given arguments = .ok (given', rest))
    (hleft : ∀ argument ∈ arguments, ¬IsOption argument name) (hnew : given.lookup name = none) :
    given'.lookup name = none := by
  obtain ⟨consumed, options, rfl, rfl, -, hof⟩ := exists_read_eq h
  rw [List.lookup_append, hnew, Option.none_or]
  refine Option.eq_none_iff_forall_ne_some.2 fun value hvalue => ?_
  obtain ⟨argument, hargument, value?, hsplit, -⟩ := hof name value hvalue
  exact hleft argument (List.mem_append_left _ hargument) ⟨value?, hsplit⟩

/-- An option that is put among arguments without it, where those before it have been read, adds itself. -/
theorem read_insert {argument : String} {b : List String} {given' : Given}
    (h : ∀ last ∈ a.getLast?, ∀ name ∈ accepted.options, splitOption? last.toList ≠ some (name, none))
    (hread : read accepted given a = .ok (given', [])) (hnew : given.lookup name = none)
    (hleft : ∀ argument ∈ a ++ b, ¬IsOption argument name)
    (hsplit : splitOption? argument.toList = some (name, some value)) (hflag : name ∉ accepted.flags)
    (hoption : name ∈ accepted.options) :
    read accepted given (a ++ b) = (read accepted given (a ++ argument :: b)).map (Prod.map (without name) id) := by
  have hnew : given'.lookup name = none :=
    lookup_of_read hread (fun argument hargument => hleft argument (List.mem_append_left _ hargument)) hnew
  have hsame : without name (given' ++ [(name, value)]) = given' := by
    rw [without_append, without_eq_self hnew, without_cons_self, without_nil, List.append_nil]
  simp only [read_append h, hread, ok_bind, if_true]
  rw [read_joinedOption hsplit hnew hflag hoption,
    ← read_without fun argument hargument => hleft argument (List.mem_append_right _ hargument), hsame]

end Given

end Command

end MarketBrief
