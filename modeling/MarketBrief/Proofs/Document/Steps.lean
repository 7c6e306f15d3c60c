import MarketBrief.Proofs.Document.Sources
import MarketBrief.Proofs.Json.Record

/-!
# Documents that are noted on step by step

A collector writes metadata one key at a time, over what was there before.

* `Metadata.eq_of_get?_eq`: metadata are told apart by what is found at the keys;
* `Document.Step`, `Document.after`: the steps and the document that they leave; `Document.lastWritten?`,
  `Document.valueAfter?`: the last value written for a key, and the value that the key has then;
* `get?_after`, `after_swap`: what a run of steps leaves at a key, and steps on two keys in the other order;
* `FirstUsable`, `firstUsable_write_blank`: the key that names the source, and what a blank value does to it;
* `after_steps`: the text, the metadata and the source after any run of steps.
-/

namespace MarketBrief

open Text

/-! ### Metadata as maps -/

namespace Metadata

theorem mem_entries_iff {m : Metadata} {key value : String} : (key, value) ∈ m.entries ↔ m.get? key = some value := by
  rw [get?, List.lookup_eq_some_iff]
  constructor
  · intro h
    obtain ⟨front, back, heq⟩ := List.append_of_mem h
    refine ⟨front, back, heq, fun e he => ?_⟩
    have hlt := (List.pairwise_append.1 (heq ▸ m.ascending)).2.2 e he (key, value) List.mem_cons_self
    simpa using (String.ne_of_lt hlt).symm
  · rintro ⟨front, back, heq, -⟩
    rw [heq]
    exact List.mem_append_right _ List.mem_cons_self

theorem eq_of_get?_eq {m n : Metadata} (h : ∀ key, m.get? key = n.get? key) : m = n := by
  have hnodup : ∀ m : Metadata, m.entries.Nodup := fun m => by
    refine m.ascending.imp ?_
    rintro a _ hlt rfl
    exact String.lt_irrefl _ hlt
  have hperm : m.entries.Perm n.entries := (List.perm_ext_iff_of_nodup (hnodup m) (hnodup n)).2 fun e => by
    rw [mem_entries_iff, mem_entries_iff, h]
  refine eq_of_entries_eq (hperm.eq_of_pairwise ?_ m.ascending n.ascending)
  intro a b _ _ hab hba
  exact absurd hba (String.lt_asymm hab)

end Metadata

namespace Document

/-! ### Steps -/

/-- A step in which something is noted on a document. -/
inductive Step where
  | metadata (key value : String)
  | source (url : String)
  deriving DecidableEq

namespace Step

def key : Step → String
  | metadata key _ => key
  | source _ => "source_url"

def value : Step → String
  | metadata _ value => value
  | source url => url

def apply (d : Document) : Step → Document
  | metadata key value => d.withMetadata key value
  | source url => d.withSource url

theorem text_apply (d : Document) (s : Step) : (s.apply d).text = d.text := by
  cases s <;> rfl

theorem metadata_apply (d : Document) (s : Step) : (s.apply d).metadata = d.metadata.insert s.key s.value := by
  cases s <;> rfl

theorem get?_apply (d : Document) (s : Step) (key : String) :
    (s.apply d).metadata.get? key = if key = s.key then some s.value else d.metadata.get? key := by
  rw [metadata_apply, Metadata.get?_insert]

end Step

def after (d : Document) (steps : List Step) : Document := steps.foldl Step.apply d

def lastWritten? (steps : List Step) (key : String) : Option String :=
  (steps.reverse.find? (·.key = key)).map Step.value

/-- The value of a key after a run of steps: the last one written or, if there is none, the one of the document. -/
def valueAfter? (d : Document) (steps : List Step) (key : String) : Option String :=
  (lastWritten? steps key).or (d.metadata.get? key)

section Run

variable (d : Document) (steps : List Step)

theorem after_concat (s : Step) : d.after (steps ++ [s]) = s.apply (d.after steps) := by
  rw [after, List.foldl_append]
  rfl

theorem valueAfter?_concat (s : Step) (key : String) :
    d.valueAfter? (steps ++ [s]) key = if key = s.key then some s.value else d.valueAfter? steps key := by
  unfold valueAfter? lastWritten?
  rw [List.reverse_append, List.reverse_singleton, List.singleton_append, List.find?_cons]
  by_cases hkey : key = s.key
  · simp [hkey]
  · simp [hkey, Ne.symm hkey]

theorem text_after : (d.after steps).text = d.text := by
  induction steps using List.reverseRecOn with
  | nil => rfl
  | append_singleton steps s ih => rw [after_concat, Step.text_apply, ih]

theorem get?_after (key : String) : (d.after steps).metadata.get? key = d.valueAfter? steps key := by
  induction steps using List.reverseRecOn with
  | nil => rfl
  | append_singleton steps s ih => rw [after_concat, Step.get?_apply, valueAfter?_concat, ih]

end Run

theorem eq_of_get?_eq {d e : Document} (htext : d.text = e.text)
    (h : ∀ key, d.metadata.get? key = e.metadata.get? key) : d = e := by
  cases d
  cases e
  obtain rfl := Metadata.eq_of_get?_eq h
  obtain rfl := htext
  rfl

/-- Two steps on different keys can be taken in either order. -/
theorem apply_apply_comm (d : Document) {s t : Step} (h : s.key ≠ t.key) :
    t.apply (s.apply d) = s.apply (t.apply d) := by
  refine eq_of_get?_eq ?_ fun key => ?_
  · simp only [Step.text_apply]
  · simp only [Step.get?_apply]
    by_cases hs : key = s.key
    · subst hs
      simp [h]
    · simp [hs]

theorem after_swap (d : Document) (front back : List Step) {s t : Step} (h : s.key ≠ t.key) :
    d.after (front ++ s :: t :: back) = d.after (front ++ t :: s :: back) := by
  unfold after
  rw [List.foldl_append, List.foldl_append]
  simp only [List.foldl_cons]
  rw [apply_apply_comm _ h]

/-! ### The source -/

/-- With these values of the keys, this is the first source key whose value is not blank, and its value. -/
def FirstUsable (value? : String → Option String) (key value : String) : Prop :=
  value? key = some value ∧ isBlankText value = false ∧
    ∃ preferred others, sourceKeys = preferred ++ key :: others ∧
      ∀ k ∈ preferred, ∀ v ∈ value? k, isBlankText v = true

theorem namesSource_iff_firstUsable {d : Document} {source : String} :
    d.NamesSource source ↔ ∃ key value, FirstUsable d.metadata.get? key value ∧ trimmed value = source := by
  constructor
  · rintro ⟨preferred, key, others, value, hkeys, hpreferred, hvalue, hblank, htrimmed⟩
    exact ⟨key, value, ⟨hvalue, hblank, preferred, others, hkeys, hpreferred⟩, htrimmed⟩
  · rintro ⟨key, value, ⟨hvalue, hblank, preferred, others, hkeys, hpreferred⟩, htrimmed⟩
    exact ⟨preferred, key, others, value, hkeys, hpreferred, hvalue, hblank, htrimmed⟩

section Congr

variable {value? other? : String → Option String}
  (h : ∀ k v, isBlankText v = false → (value? k = some v ↔ other? k = some v)) {key value : String}

include h

theorem FirstUsable.congr (hfirst : FirstUsable value? key value) : FirstUsable other? key value := by
  obtain ⟨hvalue, hvis, preferred, others, hkeys, hpreferred⟩ := hfirst
  refine ⟨(h key value hvis).1 hvalue, hvis, preferred, others, hkeys, fun k hk v hv => ?_⟩
  by_contra hnot
  rw [Bool.not_eq_true] at hnot
  have hblank := hpreferred k hk v ((h k v hnot).2 hv)
  rw [hnot] at hblank
  exact Bool.noConfusion hblank

/-- Only values that are not blank matter. -/
theorem firstUsable_congr : FirstUsable value? key value ↔ FirstUsable other? key value :=
  ⟨FirstUsable.congr h, FirstUsable.congr fun k v hv => (h k v hv).symm⟩

end Congr

/-- The values without the one of a key. -/
def leavingOut (key : String) (value? : String → Option String) (k : String) : Option String :=
  if k = key then none else value? k

/-- The first usable key stays the first one if another key is left out. -/
theorem FirstUsable.leavingOut {value? : String → Option String} {key value other : String}
    (h : FirstUsable value? key value) (hne : key ≠ other) : FirstUsable (leavingOut other value?) key value := by
  obtain ⟨hvalue, hvis, preferred, others, hkeys, hpreferred⟩ := h
  refine ⟨?_, hvis, preferred, others, hkeys, fun k hk v hv => ?_⟩
  · unfold Document.leavingOut
    rw [if_neg hne, hvalue]
  · unfold Document.leavingOut at hv
    split at hv
    · exact absurd hv (Option.not_mem_none v)
    · exact hpreferred k hk v hv

section Source

variable (d : Document) (steps : List Step)

theorem sourceId?_after_eq_some_iff {source : String} :
    (d.after steps).sourceId? = some source ↔
      ∃ key value, FirstUsable (d.valueAfter? steps) key value ∧ trimmed value = source := by
  rw [sourceId?_eq_some_iff, namesSource_iff_firstUsable, funext (get?_after d steps)]

theorem sourceId?_after_eq_none_iff :
    (d.after steps).sourceId? = none ↔
      ∀ key ∈ sourceKeys, ∀ value ∈ d.valueAfter? steps key, isBlankText value = true := by
  rw [sourceId?_eq_none_iff]
  unfold Lacks
  simp only [get?_after]

/-- A blank value is as good as no value. -/
theorem firstUsable_write_blank {s : Step} (hblank : isBlankText s.value = true) {key value : String} :
    FirstUsable (d.valueAfter? (steps ++ [s])) key value ↔
      FirstUsable (leavingOut s.key (d.valueAfter? steps)) key value := by
  refine firstUsable_congr fun k v hv => ?_
  rw [valueAfter?_concat, leavingOut]
  split
  · have hne : s.value ≠ v := by
      rintro rfl
      exact absurd hblank (by simp [hv])
    simp [hne]
  · rfl

end Source

/-- **Notes on a document.** Steps leave the text as it is, and at each key the value that was written last; these values
make up the metadata, so neighbouring steps on different keys can change places. The source is the first value of the
source keys that is not blank at this moment, without blanks at its ends. A step that writes a blank value leaves the
source to the other keys, and changes nothing if one of them names it already. -/
theorem after_steps (d : Document) (steps : List Step) :
    (d.after steps).text = d.text ∧
    (∀ m : Metadata, (d.after steps).metadata = m ↔
      ∀ key, m.get? key = (lastWritten? steps key).or (d.metadata.get? key)) ∧
    (∀ front s t back, steps = front ++ s :: t :: back → s.key ≠ t.key →
      d.after (front ++ t :: s :: back) = d.after steps) ∧
    (∀ source, (d.after steps).sourceId? = some source ↔
      ∃ key value, FirstUsable (d.valueAfter? steps) key value ∧ trimmed value = source) ∧
    ((d.after steps).sourceId? = none ↔
      ∀ key ∈ sourceKeys, ∀ value ∈ d.valueAfter? steps key, isBlankText value = true) ∧
    ∀ s : Step, isBlankText s.value = true →
      (∀ source, (d.after (steps ++ [s])).sourceId? = some source ↔
        ∃ key value, FirstUsable (leavingOut s.key (d.valueAfter? steps)) key value ∧ trimmed value = source) ∧
      ∀ key value, FirstUsable (d.valueAfter? steps) key value → key ≠ s.key →
        (d.after (steps ++ [s])).sourceId? = (d.after steps).sourceId? := by
  refine ⟨text_after d steps, fun m => ⟨?_, fun h => ?_⟩, ?_, fun _ => sourceId?_after_eq_some_iff d steps,
    sourceId?_after_eq_none_iff d steps, fun s hblank => ⟨fun source => ?_, fun key value hfirst hne => ?_⟩⟩
  · rintro rfl key
    exact get?_after d steps key
  · exact Metadata.eq_of_get?_eq fun key => (get?_after d steps key).trans (h key).symm
  · rintro front s t back rfl hne
    exact (after_swap d front back hne).symm
  · rw [sourceId?_after_eq_some_iff]
    simp only [firstUsable_write_blank d steps hblank]
  · have hnow := (sourceId?_after_eq_some_iff d steps).2 ⟨key, value, hfirst, rfl⟩
    rw [hnow, sourceId?_after_eq_some_iff]
    exact ⟨key, value, (firstUsable_write_blank d steps hblank).2 (hfirst.leavingOut hne), rfl⟩

/-! An address that is taken back. -/

namespace Retracted

def start : Document := { text := "Klarna files for an IPO.", metadata := .ofList [("source", "desk")] }

def steps : List Step := [.metadata "url" " https://b.com\n", .metadata "title" "Klarna", .source "https://a.com"]

/-- The step on the preferred key is taken back by a blank, and the next key names the source again. -/
def retraction : Step := .source " "

theorem after_steps_of_retraction :
    isBlankText retraction.value = true ∧
    FirstUsable (leavingOut "source_url" (start.valueAfter? steps)) "url" " https://b.com\n" ∧
    (start.after (steps ++ [retraction])).sourceId? = some "https://b.com" ∧
    (Step.metadata "title" "Klarna").key ≠ (Step.source "https://a.com").key ∧
    start.after [.metadata "url" " https://b.com\n", .source "https://a.com", .metadata "title" "Klarna"] =
      start.after steps ∧
    FirstUsable (start.valueAfter? (steps ++ [retraction])) "url" " https://b.com\n" ∧
    (start.after (steps ++ [retraction] ++ [.metadata "source" ""])).sourceId? =
      (start.after (steps ++ [retraction])).sourceId? := by
  have hblank : isBlankText retraction.value = true := by decide
  have hempty : isBlankText (Step.metadata "source" "").value = true := by decide
  have hkeys : (Step.metadata "title" "Klarna").key ≠ (Step.source "https://a.com").key := by decide
  have hurl : FirstUsable (leavingOut "source_url" (start.valueAfter? steps)) "url" " https://b.com\n" :=
    ⟨by decide, by decide, ["source_url"], ["source"], rfl, by decide⟩
  have hurl' : FirstUsable (start.valueAfter? (steps ++ [retraction])) "url" " https://b.com\n" :=
    ⟨by decide, by decide, ["source_url"], ["source"], rfl, by decide⟩
  obtain ⟨-, -, hswap, -, -, hretract⟩ := after_steps start steps
  obtain ⟨-, -, -, -, -, hstay⟩ := after_steps start (steps ++ [retraction])
  refine ⟨hblank, hurl, ((hretract retraction hblank).1 _).2 ⟨_, _, hurl, by decide⟩, hkeys,
    hswap [.metadata "url" " https://b.com\n"] _ _ [] rfl hkeys, hurl',
    (hstay _ hempty).2 _ _ hurl' (by decide)⟩

end Retracted

end Document

end MarketBrief
