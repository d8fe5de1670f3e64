/-
# When two catalogues are equal

Catalogues are compared by their groups and by the places of these.  The places are kept in a
search tree, whose shape depends on the order in which files came up, and they can be seen only
through look-ups.  In a catalogue that records were entered into they follow from the groups, so
two such catalogues are equal just if they list the same findings (`Holds.beq_iff`), that is, if
their records group alike.

Two questions about equal catalogues are then questions about `Record.grouped`.  The records that
a catalogue lists group as those that were entered, so entering them again gives an equal
catalogue.  And if two records of different files come next to each other, their order shows only
in the order of the files; it shows there just if both files come up with them.
-/
import FindingsDigest.Proofs.Catalogue

namespace FindingsDigest

namespace Record

/-! ### Records that group alike -/

lemma map_mk_findingsIn (records : List Record) (file : String) :
    (findingsIn records file).map (mk file) = records.filter (·.file = file) := by
  rw [findingsIn, List.map_map]
  conv_rhs => rw [← List.map_id (records.filter _)]
  refine List.map_congr_left fun r hr => ?_
  obtain rfl : r.file = file := by simpa using List.of_mem_filter hr
  rfl

/-- The records of a row one group after the other. -/
def byGroup (records : List Record) : List Record :=
  (files records).flatMap fun file => records.filter (·.file = file)

lemma mem_byGroup {records : List Record} {r : Record} : r ∈ byGroup records ↔ r ∈ records := by
  rw [byGroup, List.mem_flatMap]
  constructor
  · rintro ⟨file, -, hr⟩
    exact (List.mem_filter.mp hr).1
  · intro hr
    exact ⟨r.file, mem_files.mpr ⟨r, hr, rfl⟩, List.mem_filter.mpr ⟨hr, by simp⟩⟩

lemma files_byGroup (records : List Record) : files (byGroup records) = files records := by
  rw [files, byGroup, List.map_flatMap]
  refine eraseDups_flatMap (nodup_eraseDups _) (fun file hfile => ?_) fun file _ f hf => ?_
  · obtain ⟨r, hr, rfl⟩ := mem_files.mp hfile
    exact List.ne_nil_of_mem (List.mem_map_of_mem (List.mem_filter.mpr ⟨hr, by simp⟩))
  · obtain ⟨r, hr, rfl⟩ := List.mem_map.mp hf
    simpa using List.of_mem_filter hr

lemma grouped_byGroup (records : List Record) : grouped (byGroup records) = grouped records := by
  rw [grouped, grouped, files_byGroup]
  refine List.map_congr_left fun file hfile => ?_
  have hgroup : (byGroup records).filter (·.file = file) = records.filter (·.file = file) :=
    filter_flatMap_filter (nodup_eraseDups _) hfile records
  rw [findingsIn, findingsIn, hgroup]

/-- In each file an exchange of records of different files is not seen. -/
lemma findingsIn_exchange {r s : Record} (hrs : r.file ≠ s.file) (before after : List Record)
    (file : String) :
    findingsIn (before ++ r :: s :: after) file = findingsIn (before ++ s :: r :: after) file := by
  rw [findingsIn_append, findingsIn_append]
  by_cases hr : r.file = file
  · have hs : s.file ≠ file := hr ▸ hrs.symm
    simp [findingsIn, hr, hs]
  · simp [findingsIn, List.filter_cons, hr]

/-- So an exchange is seen in the order of the files or not at all. -/
lemma grouped_exchange_iff {r s : Record} (hrs : r.file ≠ s.file) (before after : List Record) :
    grouped (before ++ r :: s :: after) = grouped (before ++ s :: r :: after) ↔
      r.file ∈ before.map file ∨ s.file ∈ before.map file := by
  rw [← eraseDups_exchange_iff hrs (before.map file) (after.map file)]
  have hfiles : ∀ r s : Record, files (before ++ r :: s :: after) =
      (before.map file ++ r.file :: s.file :: after.map file).eraseDups := by
    intro r s
    rw [files, List.map_append]
    rfl
  rw [← hfiles, ← hfiles]
  constructor
  · intro h
    have := congrArg (List.map Prod.fst) h
    simpa [grouped, Function.comp_def] using this
  · intro h
    rw [grouped, grouped, h]
    exact List.map_congr_left fun file _ => by rw [findingsIn_exchange hrs]

end Record

namespace Catalogue

open Record (grouped)

/-! ### Equality -/

lemma groups_eq_of_toList_eq {c d : Catalogue} (h : c.toList = d.toList) :
    c.groups = d.groups := by
  refine Array.toList_inj.mp (List.map_injective_iff.mpr (fun g g' hg => ?_) h)
  obtain ⟨file, findings⟩ := g
  obtain ⟨file', findings'⟩ := g'
  simpa using hg

/-- Equal catalogues are those with the same listing, since the places follow from it. -/
lemma Holds.beq_iff {c d : Catalogue} {records records' : List Record} (hc : c.Holds records)
    (hd : d.Holds records') : (c == d) = true ↔ c.toList = d.toList := by
  have hbeq : (c == d) = (c.groups == d.groups && c.place == d.place) := rfl
  rw [hbeq, Bool.and_eq_true, beq_iff_eq]
  constructor
  · rintro ⟨hgroups, -⟩
    rw [toList, toList, hgroups]
  · intro h
    have hgroups := groups_eq_of_toList_eq h
    refine ⟨hgroups, Std.TreeMap.beq_iff_equiv.mpr (.of_forall_constGet?_eq fun file => ?_)⟩
    refine Option.ext fun i => ?_
    rw [hc.place_iff, hd.place_iff, hgroups]

lemma beq_ofRecords_iff (records records' : List Record) :
    (ofRecords records == ofRecords records') = true ↔ grouped records = grouped records' := by
  have hc := holds_ofRecords records
  have hd := holds_ofRecords records'
  rw [hc.beq_iff hd, hc.toList_eq, hd.toList_eq]

/-- The records that a catalogue lists, in the order of its listing. -/
def records (c : Catalogue) : List Record :=
  c.toList.flatMap fun g => g.2.map fun finding => ⟨g.1, finding⟩

lemma Holds.records_eq {c : Catalogue} {records : List Record} (h : c.Holds records) :
    c.records = Record.byGroup records := by
  rw [Catalogue.records, h.toList_eq, grouped, List.flatMap_map]
  exact congrArg (List.flatMap · _) (funext fun file => Record.map_mk_findingsIn records file)

/-- **Equal catalogues.**  Two catalogues that records were entered into are equal just if they
list the same files in the same order with the same findings.  Entering the records that a
catalogue lists gives an equal catalogue.  And whatever was entered before and is entered
afterwards, two records of different files can be entered in either order with equal results just
if one of the two files had come up before. -/
theorem beq_iff_toList_eq_and_exchange_iff :
    (∀ records records' : List Record, (ofRecords records == ofRecords records') = true ↔
      (ofRecords records).toList = (ofRecords records').toList) ∧
    (∀ records : List Record,
      (ofRecords (ofRecords records).records == ofRecords records) = true) ∧
    ∀ (before after : List Record) (r s : Record), r.file ≠ s.file →
      ((ofRecords (before ++ r :: s :: after) == ofRecords (before ++ s :: r :: after)) = true ↔
        r.file ∈ before.map Record.file ∨ s.file ∈ before.map Record.file) := by
  refine ⟨fun records records' => (holds_ofRecords _).beq_iff (holds_ofRecords _),
    fun records => ?_, fun before after r s hrs => ?_⟩
  · rw [beq_ofRecords_iff, (holds_ofRecords records).records_eq, Record.grouped_byGroup]
  · rw [beq_ofRecords_iff, Record.grouped_exchange_iff hrs]

/-- Behind a finding in `a` the order of one in `a` and one in `b` does not matter, but at the
beginning it does, whatever follows. -/
theorem exchange_behind_and_at_beginning :
    (ofRecords [⟨"a", ⟨"1", "x"⟩⟩, ⟨"a", ⟨"2", "x"⟩⟩, ⟨"b", ⟨"3", "y"⟩⟩, ⟨"c", ⟨"4", "z"⟩⟩] ==
        ofRecords [⟨"a", ⟨"1", "x"⟩⟩, ⟨"b", ⟨"3", "y"⟩⟩, ⟨"a", ⟨"2", "x"⟩⟩, ⟨"c", ⟨"4", "z"⟩⟩]) =
      true ∧
    (ofRecords [⟨"a", ⟨"2", "x"⟩⟩, ⟨"b", ⟨"3", "y"⟩⟩, ⟨"a", ⟨"4", "z"⟩⟩] ==
        ofRecords [⟨"b", ⟨"3", "y"⟩⟩, ⟨"a", ⟨"2", "x"⟩⟩, ⟨"a", ⟨"4", "z"⟩⟩]) =
      false := by
  obtain ⟨-, -, hexchange⟩ := beq_iff_toList_eq_and_exchange_iff
  have hne : (⟨"a", ⟨"2", "x"⟩⟩ : Record).file ≠ (⟨"b", ⟨"3", "y"⟩⟩ : Record).file := by decide
  have hbehind := hexchange [⟨"a", ⟨"1", "x"⟩⟩] [⟨"c", ⟨"4", "z"⟩⟩] _ _ hne
  have hbeginning := hexchange [] [⟨"a", ⟨"4", "z"⟩⟩] _ _ hne
  refine ⟨hbehind.mpr (by decide), Bool.eq_false_iff.mpr fun h => ?_⟩
  exact absurd (hbeginning.mp h) (by decide)

end Catalogue

end FindingsDigest
