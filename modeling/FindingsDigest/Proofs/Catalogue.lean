/-
# What a catalogue holds

A row of records, entered one after the other, determines what the catalogue holds: the files
of the records in the order of first sight, each with the findings of its records in their
order.  This is `Record.grouped`, a description without any state.

The catalogue gets there by looking up places, so the invariant `Catalogue.Holds` says two
things about a catalogue and the records that were entered: the groups are the described ones,
and the places are the positions of the groups.  Each part needs the other when a record is
entered: the right group is found because the places are right, and the place of a new group is
right because its file is in no other group.
-/
import FindingsDigest.Catalogue
import FindingsDigest.Proofs.FirstSeen
import Mathlib.Data.List.Basic
import Std.Data.TreeMap.Lemmas

namespace FindingsDigest

namespace Record

/-- The files of a row of records, in the order of first sight. -/
def files (records : List Record) : List String :=
  (records.map Record.file).eraseDups

/-- The findings in one file, in the order of the records. -/
def findingsIn (records : List Record) (file : String) : List Finding :=
  (records.filter (·.file = file)).map Record.finding

/-- The files of a row of records with their findings. -/
def grouped (records : List Record) : List (String × List Finding) :=
  (files records).map fun file => (file, findingsIn records file)

lemma mem_files {records : List Record} {file : String} :
    file ∈ files records ↔ ∃ r ∈ records, r.file = file := by
  rw [files, List.mem_eraseDups, List.mem_map]

lemma files_concat (records : List Record) (r : Record) :
    files (records ++ [r]) = files records ++ if r.file ∈ files records then [] else [r.file] := by
  rw [files, List.map_append, List.map_singleton, eraseDups_concat]
  congr 1
  exact if_congr List.mem_eraseDups.symm rfl rfl

lemma findingsIn_append (records more : List Record) (file : String) :
    findingsIn (records ++ more) file = findingsIn records file ++ findingsIn more file := by
  rw [findingsIn, List.filter_append, List.map_append]
  rfl

lemma findingsIn_concat (records : List Record) (r : Record) (file : String) :
    findingsIn (records ++ [r]) file =
      findingsIn records file ++ if r.file = file then [r.finding] else [] := by
  rw [findingsIn_append]
  by_cases h : r.file = file <;> simp [findingsIn, h]

lemma findingsIn_eq_nil {records : List Record} {file : String} (h : file ∉ files records) :
    findingsIn records file = [] := by
  rw [findingsIn, List.map_eq_nil_iff, List.filter_eq_nil_iff]
  intro r hr hfile
  exact h (mem_files.mpr ⟨r, hr, of_decide_eq_true hfile⟩)

/-- Every record is in exactly one group. -/
lemma length_flatMap_grouped (records : List Record) :
    ((grouped records).flatMap Prod.snd).length = records.length := by
  have hlen : ((files records).flatMap fun file => records.filter (·.file = file)).length =
      records.length := by
    rw [files, flatMap_filter_eq_mergeSort (pairwise_idxOf_eraseDups _)
      fun r hr => List.mem_eraseDups.mpr (List.mem_map_of_mem hr), List.length_mergeSort]
  rw [List.length_flatMap] at hlen ⊢
  simpa [grouped, findingsIn, Function.comp_def] using hlen

end Record

namespace Catalogue

open Record (files findingsIn grouped)

lemma size_eq_length_flatMap (c : Catalogue) : c.size = (c.toList.flatMap Prod.snd).length := by
  rw [size, List.length_flatMap, List.sum_eq_foldr, List.foldr_map]

/-- What is known of a catalogue into which records were entered. -/
structure Holds (c : Catalogue) (records : List Record) : Prop where
  toList_eq : c.toList = grouped records
  place_iff : ∀ file i, c.place[file]? = some i ↔ c.groups[i]?.map Group.file = some file

lemma holds_empty : empty.Holds [] where
  toList_eq := rfl
  place_iff file i := by simp [empty]

namespace Holds

variable {c : Catalogue} {records : List Record} (h : c.Holds records)

include h

lemma getElem?_files (i : ℕ) : (files records)[i]? = c.groups[i]?.map Group.file := by
  have := congrArg (fun l => l[i]?.map Prod.fst) h.toList_eq
  simpa [toList, grouped, Function.comp_def] using this.symm

lemma mem_files_iff {file : String} : file ∈ files records ↔ ∃ i, c.place[file]? = some i := by
  simp only [List.mem_iff_getElem?, h.getElem?_files, h.place_iff]

lemma not_mem_files {file : String} (hplace : c.place[file]? = none) : file ∉ files records := by
  rw [h.mem_files_iff, hplace]
  simp

/-! ### Entering a record -/

/-- Entering a finding in a file that has a group lengthens this group. -/
lemma toList_push_old {file : String} {i : ℕ} (hplace : c.place[file]? = some i)
    (finding : Finding) :
    (c.push file finding).toList = (files records).map fun f =>
      (f, findingsIn records f ++ if file = f then [finding] else []) := by
  have hi : (files records)[i]? = some file := by
    rw [h.getElem?_files]
    exact (h.place_iff file i).mp hplace
  rw [push, hplace, toList, Array.toList_modify]
  refine List.ext_getElem? fun j => ?_
  have hj := congrArg (·[j]?) h.toList_eq
  simp only [toList, grouped, List.getElem?_map] at hj
  rw [List.getElem?_map, List.getElem?_modify, List.getElem?_map]
  rcases hgroup : c.groups.toList[j]? with _ | g <;> rcases hfile : (files records)[j]? with _ | f
  · rfl
  · simp [hgroup, hfile] at hj
  · simp [hgroup, hfile] at hj
  · simp only [hgroup, hfile, Option.map_some, Option.some.injEq, Prod.mk.injEq] at hj
    obtain ⟨rfl, hfindings⟩ := hj
    by_cases hij : i = j
    · subst hij
      obtain rfl : g.file = file := Option.some.inj (hfile.symm.trans hi)
      simp [hfindings]
    · -- another place belongs to another file
      have hne : file ≠ g.file := by
        rintro rfl
        have hlt := (List.getElem?_eq_some_iff.mp hi).1
        exact hij ((List.getElem?_inj hlt (nodup_eraseDups _)).mp (hi.trans hfile.symm))
      simp [hij, hfindings, hne]

/-- Entering a finding in a file without a group makes one at the end. -/
lemma toList_push_new {file : String} (hplace : c.place[file]? = none) (finding : Finding) :
    (c.push file finding).toList = grouped records ++ [(file, [finding])] := by
  rw [← h.toList_eq]
  simp [push, hplace, toList]

lemma toList_add (r : Record) : (c.add r).toList = grouped (records ++ [r]) := by
  rw [add, grouped, Record.files_concat]
  rcases hplace : c.place[r.file]? with _ | i
  · -- the groups there are keep their findings, since none is of this file
    have hnew := h.not_mem_files hplace
    have hold : ∀ f ∈ files records, findingsIn (records ++ [r]) f = findingsIn records f := by
      intro f hf
      have hne : r.file ≠ f := by
        rintro rfl
        exact hnew hf
      rw [Record.findingsIn_concat, if_neg hne, List.append_nil]
    rw [h.toList_push_new hplace, if_neg hnew, List.map_append, grouped]
    congr 1
    · exact List.map_congr_left fun f hf => by rw [hold f hf]
    · simp [Record.findingsIn_concat, Record.findingsIn_eq_nil hnew]
  · rw [h.toList_push_old hplace, if_pos (h.mem_files_iff.mpr ⟨i, hplace⟩), List.append_nil]
    exact List.map_congr_left fun f _ => by rw [Record.findingsIn_concat]

lemma place_add (r : Record) (file : String) (i : ℕ) :
    (c.add r).place[file]? = some i ↔ (c.add r).groups[i]?.map Group.file = some file := by
  rcases hplace : c.place[r.file]? with _ | k
  · simp only [add, push, hplace, Std.TreeMap.getElem?_insert, Std.LawfulEqOrd.compare_eq_iff_eq,
      Array.getElem?_push]
    -- no group has the new file, so only the new place leads to it
    have hfree : ∀ j : ℕ, c.groups[j]?.map Group.file ≠ some r.file := by
      intro j hj
      rw [← h.place_iff, hplace] at hj
      cases hj
    by_cases hfile : r.file = file
    · subst hfile
      rw [if_pos rfl, Option.some.injEq]
      split
      · next hi => simp [hi]
      · next hi => simp [hfree, Ne.symm hi]
    · rw [if_neg hfile, h.place_iff]
      split
      · next hi => simp [hi, hfile]
      · rfl
  · simp only [add, push, hplace, h.place_iff, Array.getElem?_modify]
    split <;> simp [Option.map_map, Function.comp_def]

/-- The step of the invariant. -/
lemma add (r : Record) : (c.add r).Holds (records ++ [r]) where
  toList_eq := h.toList_add r
  place_iff := h.place_add r

/-! ### What can be asked -/

lemma size_eq : c.size = records.length := by
  rw [size_eq_length_flatMap, h.toList_eq, Record.length_flatMap_grouped]

lemma fileCount_eq : c.fileCount = (files records).length := by
  rw [← length_toList, h.toList_eq, grouped, List.length_map]

/-- The findings of a file are those of its records, and a file without records has none. -/
lemma get?_eq (file : String) :
    c.get? file = if file ∈ files records then some (findingsIn records file) else none := by
  rw [get?]
  rcases hplace : c.place[file]? with _ | i
  · rw [if_neg (h.not_mem_files hplace)]
    rfl
  · rw [if_pos (h.mem_files_iff.mpr ⟨i, hplace⟩)]
    obtain ⟨g, hg, rfl⟩ := Option.map_eq_some_iff.mp ((h.place_iff file i).mp hplace)
    have hi := congrArg (·[i]?) h.toList_eq
    simp only [toList, grouped, List.getElem?_map, h.getElem?_files, Array.getElem?_toList, hg,
      Option.map_some, Option.some.injEq, Prod.mk.injEq, true_and] at hi
    simp [hg, hi]

lemma getD_get? (file : String) : (c.get? file).getD [] = findingsIn records file := by
  rw [h.get?_eq]
  split
  · rfl
  · next hfile => rw [Record.findingsIn_eq_nil hfile, Option.getD_none]

lemma map_fst_toList : c.toList.map Prod.fst = files records := by
  rw [h.toList_eq, grouped, List.map_map]
  exact List.map_id _

lemma get?_of_mem_toList {g : String × List Finding} (hg : g ∈ c.toList) :
    c.get? g.1 = some g.2 := by
  rw [h.toList_eq] at hg
  obtain ⟨file, hfile, rfl⟩ := List.mem_map.mp hg
  rw [h.get?_eq, if_pos hfile]

end Holds

/-- The catalogue into which records were entered one after the other. -/
def ofRecords (records : List Record) : Catalogue :=
  records.foldl add empty

lemma ofRecords_append (records more : List Record) :
    ofRecords (records ++ more) = more.foldl add (ofRecords records) :=
  List.foldl_append

/-- The invariant of a whole row of records. -/
lemma holds_ofRecords (records : List Record) : (ofRecords records).Holds records := by
  induction records using List.reverseRecOn with
  | nil => exact holds_empty
  | append_singleton records r ih =>
    rw [ofRecords_append]
    exact ih.add r

end Catalogue

end FindingsDigest
