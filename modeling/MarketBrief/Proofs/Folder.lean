import MarketBrief.Folder

/-!
# Reading from a folder

* `IsPlain`: names that lead on, so neither stay where they are nor go back;
* `walk?_of_isPlain`: a walk along such names ends at the file with all of them, if there is one;
* `components_intercalate`, `read?_intercalate`: a path of such names, taken apart and read;
* `read?_ofList`: files are read under the paths that they are given with.
-/

namespace MarketBrief.Folder

variable {f : Folder} {names : List String}

def IsPlain (name : String) : Prop := isHere name = false ∧ name ≠ ".." ∧ '/' ∉ name.toList

instance : DecidablePred IsPlain := fun name => by unfold IsPlain; infer_instance

/-- A file makes folders of all places on the way to it. -/
theorem hasFolder_of_lookup {place : List String} {name : String} {bytes : ByteArray}
    (h : f.files.lookup (place ++ name :: names) = some bytes) : f.hasFolder place = true := by
  obtain ⟨before, behind, hfiles, -⟩ := List.lookup_eq_some_iff.1 h
  have hway : place.isPrefixOf (place ++ name :: names) = true ∧ place.length < (place ++ name :: names).length := by
    simp
  rw [hasFolder, hfiles]
  simp only [List.any_append, List.any_cons, hway, decide_true, Bool.and_self, Bool.true_or, Bool.or_true]

theorem walk?_of_isPlain (place : List String) (h : ∀ name ∈ names, IsPlain name) :
    f.walk? place names = f.files.lookup (place ++ names) := by
  induction names generalizing place with
  | nil => rw [walk?, List.append_nil]
  | cons name names ih =>
    obtain ⟨⟨hhere, hback, -⟩, hnames⟩ := List.forall_mem_cons.1 h
    rw [walk?]
    cases hfolder : f.hasFolder place with
    | true =>
      simp only [Bool.not_true, Bool.false_eq_true, if_false, hhere, hback]
      rw [ih _ hnames, List.append_assoc, List.singleton_append]
    | false =>
      cases hlookup : f.files.lookup (place ++ name :: names) with
      | none => rfl
      | some bytes => exact absurd (hasFolder_of_lookup hlookup) (by rw [hfolder]; decide)

theorem components_intercalate (hne : names ≠ []) (h : ∀ name ∈ names, IsPlain name) :
    components ("/".intercalate names) = names := by
  have hslash : ∀ cs ∈ names.map String.toList, '/' ∉ cs := by
    rintro _ hcs
    obtain ⟨name, hname, rfl⟩ := List.mem_map.1 hcs
    exact (h name hname).2.2
  have hsplit := List.splitOn_intercalate '/' hslash (by simpa using hne)
  rw [components, String.toList_intercalate]
  exact (congrArg _ hsplit).trans (by simp)

theorem read?_intercalate (hne : names ≠ []) (h : ∀ name ∈ names, IsPlain name) :
    f.read? ("/".intercalate names) = f.files.lookup names := by
  have hfirst : ("/".intercalate names).toList.head? ≠ some '/' := by
    intro hhead
    obtain ⟨cs, hcs⟩ := List.head?_eq_some_iff.1 hhead
    have hcomponents := components_intercalate hne h
    -- the first name would be empty
    rw [components, hcs, List.splitOn_cons_eq_if_modifyHead, if_pos (beq_self_eq_true '/')] at hcomponents
    have hempty : "" ∈ names := by
      rw [← hcomponents]
      simp
    exact nomatch (h "" hempty).1
  rw [read?, if_neg hfirst, components_intercalate hne h, walk?_of_isPlain [] h, List.nil_append]

/-- The contents of a file with its names joined to a path. -/
def atPath (file : List String × ByteArray) : String × ByteArray := ("/".intercalate file.1, file.2)

/-- Files that are given with paths of plain names are read under these paths, and nothing else is. -/
theorem read?_ofList {files : List (List String × ByteArray)}
    (hfiles : ∀ file ∈ files, file.1 ≠ [] ∧ ∀ name ∈ file.1, IsPlain name) (hne : names ≠ [])
    (h : ∀ name ∈ names, IsPlain name) :
    (ofList (files.map atPath)).read? ("/".intercalate names) = files.lookup names := by
  have hkept : (files.map atPath).map (fun file => ((components file.1).filter (!isHere ·), file.2)) = files := by
    rw [List.map_map]
    refine (List.map_congr_left fun file hfile => ?_).trans (List.map_id files)
    obtain ⟨hnames, hplain⟩ := hfiles file hfile
    have hfilter : file.1.filter (!isHere ·) = file.1 :=
      List.filter_eq_self.2 fun name hname => by rw [(hplain name hname).1]; rfl
    rw [Function.comp_apply, atPath, components_intercalate hnames hplain, hfilter]
    rfl
  rw [read?_intercalate hne h]
  exact congrArg (List.lookup names) hkept

end MarketBrief.Folder
