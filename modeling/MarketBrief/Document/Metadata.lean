/-!
# Metadata

Metadata give each of some keys one value. They are kept in ascending order of the keys, so that equal metadata are
equal lists.

* `Metadata.get?`, `Metadata.insert`: look-up, and writing, where the last value written for a key counts;
* `Metadata.get?_insert`: what a look-up finds after writing;
* `Metadata.ofList`: the metadata that a list of writings leaves.
-/

namespace MarketBrief

/-- Keys with their values, ascending by key. -/
structure Metadata where
  entries : List (String × String)
  ascending : entries.Pairwise fun a b => a.1 < b.1
  deriving DecidableEq

namespace Metadata

def empty : Metadata := ⟨[], .nil⟩

def get? (m : Metadata) (key : String) : Option String := m.entries.lookup key

/-- Ascending entries with a new value for a key, in the place that the order gives it. -/
def insertEntry (key value : String) : List (String × String) → List (String × String)
  | [] => [(key, value)]
  | (k, v) :: rest =>
    if key < k then (key, value) :: (k, v) :: rest
    else if key = k then (key, value) :: rest
    else (k, v) :: insertEntry key value rest

theorem mem_insertEntry {key value : String} {entries : List (String × String)} {e : String × String}
    (h : e ∈ insertEntry key value entries) : e = (key, value) ∨ e ∈ entries := by
  fun_induction insertEntry key value entries with grind

theorem insertEntry_ascending {key value : String} {entries : List (String × String)}
    (h : entries.Pairwise fun a b => a.1 < b.1) :
    (insertEntry key value entries).Pairwise fun a b => a.1 < b.1 := by
  fun_induction insertEntry key value entries with
  | case1 => simp
  | case2 k v rest hk =>
    have h' := List.pairwise_cons.1 h
    refine List.pairwise_cons.2 ⟨fun e he => ?_, h⟩
    rcases List.mem_cons.1 he with rfl | he
    · exact hk
    · exact String.lt_trans hk (h'.1 e he)
  | case3 v rest _ => exact List.pairwise_cons.2 ⟨(List.pairwise_cons.1 h).1, (List.pairwise_cons.1 h).2⟩
  | case4 k v rest hk hne ih =>
    have h' := List.pairwise_cons.1 h
    refine List.pairwise_cons.2 ⟨fun e he => ?_, ih h'.2⟩
    rcases mem_insertEntry he with rfl | he
    · exact Std.lt_of_le_of_ne hk (Ne.symm hne)
    · exact h'.1 e he

def insert (m : Metadata) (key value : String) : Metadata :=
  ⟨insertEntry key value m.entries, insertEntry_ascending m.ascending⟩

theorem lookup_insertEntry (key value k : String) (entries : List (String × String)) :
    (insertEntry key value entries).lookup k = if k = key then some value else entries.lookup k := by
  fun_induction insertEntry key value entries with grind

/-- Writing a key changes what is found there, and nothing else. -/
theorem get?_insert (m : Metadata) (key value k : String) :
    (m.insert key value).get? k = if k = key then some value else m.get? k :=
  lookup_insertEntry key value k m.entries

/-- The metadata that a list of writings leaves, in this order. -/
def ofList (writings : List (String × String)) : Metadata :=
  writings.foldl (fun m (key, value) => m.insert key value) empty

end Metadata

end MarketBrief
