/-
# Catalogues that are copied and exchanged

On a desk there is a catalogue that is worked on, and beside it a saved copy.  Records are entered
into the first; it may be saved, which replaces the copy, be exchanged with the copy, or be
cleared.  So the two catalogues fork and change roles, and each of them descends from the records
that were entered into it, or into what it was copied from, since it was last cleared.

To speak of these records, a desk is not tied to catalogues: it is one of `α`, with something
empty and a way to enter a record.  The same operations on a desk of lists, into which a record is
entered at the end, leave the history of each catalogue (`Desk.histories`).  What relates two
empty things, and is kept when the same record is entered into both, then holds after every row of
operations (`Desk.run_rel`).  Taken for the invariant `Catalogue.Holds`, this says of each
catalogue on the desk that it is in order and tells exactly its history.
-/
import FindingsDigest.Proofs.Catalogue
import Mathlib.Data.Finset.Card

namespace FindingsDigest

/-! ### Rows of operations -/

/-- Something that is worked on, with a saved copy beside it. -/
structure Desk (α : Type) where
  current : α
  saved : α

/-- What can be done at a desk. -/
inductive Operation where
  /-- Enters a record into what is worked on. -/
  | push (r : Record)
  /-- Replaces the saved copy by a copy of what is worked on. -/
  | save
  /-- Exchanges what is worked on and the saved copy. -/
  | swap
  /-- Starts again from nothing. -/
  | clear
  deriving DecidableEq, Repr

namespace Desk

section Generic

variable {α β : Type}

/-- One operation, for what counts as empty and a way to enter a record. -/
def step (empty : α) (enter : α → Record → α) (d : Desk α) : Operation → Desk α
  | .push r => { d with current := enter d.current r }
  | .save => { d with saved := d.current }
  | .swap => ⟨d.saved, d.current⟩
  | .clear => { d with current := empty }

/-- The desk after a row of operations, empty at first. -/
def run (empty : α) (enter : α → Record → α) (ops : List Operation) : Desk α :=
  ops.foldl (step empty enter) ⟨empty, empty⟩

/-- A relation between two desks, on what is worked on and on the saved copies alike. -/
structure Both (R : α → β → Prop) (d : Desk α) (e : Desk β) : Prop where
  current : R d.current e.current
  saved : R d.saved e.saved

variable {R : α → β → Prop} {empty : α} {empty' : β} {enter : α → Record → α}
  {enter' : β → Record → β}

lemma Both.imp {S : α → β → Prop} {d : Desk α} {e : Desk β} (h : Both R d e)
    (himp : ∀ a b, R a b → S a b) : Both S d e :=
  ⟨himp _ _ h.current, himp _ _ h.saved⟩

/-- Each operation keeps a relation that entering a record keeps. -/
lemma Both.step {d : Desk α} {e : Desk β} (h : Both R d e) (hempty : R empty empty')
    (henter : ∀ a b r, R a b → R (enter a r) (enter' b r)) (op : Operation) :
    Both R (d.step empty enter op) (e.step empty' enter' op) := by
  cases op with
  | push r => exact ⟨henter _ _ r h.current, h.saved⟩
  | save => exact ⟨h.current, h.current⟩
  | swap => exact ⟨h.saved, h.current⟩
  | clear => exact ⟨hempty, h.saved⟩

/-- So it holds after every row of operations. -/
lemma run_rel (hempty : R empty empty')
    (henter : ∀ a b r, R a b → R (enter a r) (enter' b r)) (ops : List Operation) :
    Both R (run empty enter ops) (run empty' enter' ops) := by
  induction ops using List.reverseRecOn with
  | nil => exact ⟨hempty, hempty⟩
  | append_singleton ops op ih =>
    rw [run, run, List.foldl_append, List.foldl_append]
    exact ih.step hempty henter op

end Generic

/-- The catalogues on the desk after a row of operations. -/
def catalogues (ops : List Operation) : Desk Catalogue :=
  run .empty Catalogue.add ops

/-- For each catalogue on the desk the records that it descends from, in the order of entry. -/
def histories (ops : List Operation) : Desk (List Record) :=
  run [] (fun records r => records ++ [r]) ops

lemma catalogues_holds_histories (ops : List Operation) :
    Both Catalogue.Holds (catalogues ops) (histories ops) :=
  run_rel Catalogue.holds_empty (fun _ _ r h => h.add r) ops

end Desk

/-! ### A catalogue in order -/

namespace Catalogue

open Record (files findingsIn)

/-- The files of the groups, in their order. -/
def names (c : Catalogue) : List String :=
  c.groups.toList.map Group.file

/-- Whether the groups and the places of a catalogue agree. -/
structure InOrder (c : Catalogue) : Prop where
  /-- No file has two groups. -/
  names_nodup : c.names.Nodup
  /-- The files that have a place are those that have a group. -/
  mem_place_iff : ∀ file, file ∈ c.place ↔ file ∈ c.names
  /-- The place of a file is the position of its group. -/
  place_iff : ∀ (file : String) (i : ℕ),
    c.place[file]? = some i ↔ c.groups[i]?.map Group.file = some file
  /-- A place is one of a group. -/
  place_lt : ∀ (file : String) (i : ℕ), c.place[file]? = some i → i < c.groups.size
  /-- No group is empty. -/
  findings_ne : ∀ g ∈ c.groups, g.findings ≠ #[]

/-- Whether all that can be asked of a catalogue is answered by a row of records: the files in the
order in which they first come up, each with the findings of its records in their order. -/
structure Tells (c : Catalogue) (records : List Record) : Prop where
  get?_eq_none_iff : ∀ file, c.get? file = none ↔ ∀ r ∈ records, r.file ≠ file
  get?_eq_some : ∀ r ∈ records, c.get? r.file = some (findingsIn records r.file)
  toList_eq : c.toList = (files records).map fun file => (file, findingsIn records file)
  size_eq : c.size = records.length
  fileCount_eq : c.fileCount = (records.map Record.file).toFinset.card
  isEmpty_iff : c.isEmpty = true ↔ c.size = 0

namespace Holds

variable {c : Catalogue} {records : List Record} (h : c.Holds records)

include h

lemma names_eq : c.names = files records := by
  rw [← h.map_fst_toList, toList, List.map_map]
  rfl

lemma findings_ne {g : Group} (hg : g ∈ c.groups) : g.findings ≠ #[] := by
  have hmem : (g.file, g.findings.toList) ∈ c.toList :=
    List.mem_map_of_mem (Array.mem_toList_iff.mpr hg)
  rw [h.toList_eq] at hmem
  obtain ⟨file, hfile, heq⟩ := List.mem_map.mp hmem
  obtain ⟨r, hr, rfl⟩ := Record.mem_files.mp hfile
  -- the record that brought the file up is in the group
  have hfinding : r.finding ∈ g.findings.toList := by
    rw [← (Prod.mk.inj heq).2]
    exact List.mem_map_of_mem (List.mem_filter.mpr ⟨hr, by simp⟩)
  intro hnil
  simp [hnil] at hfinding

lemma inOrder : c.InOrder where
  names_nodup := by
    rw [h.names_eq]
    exact nodup_eraseDups _
  mem_place_iff file := by
    rw [h.names_eq, h.mem_files_iff, Std.TreeMap.mem_iff_isSome_getElem?,
      Option.isSome_iff_exists]
  place_iff := h.place_iff
  place_lt file i hi := by
    obtain ⟨g, hg, -⟩ := Option.map_eq_some_iff.mp ((h.place_iff file i).mp hi)
    exact (Array.getElem?_eq_some_iff.mp hg).1
  findings_ne _ := h.findings_ne

lemma fileCount_eq_card : c.fileCount = (records.map Record.file).toFinset.card := by
  have hfinset : (files records).toFinset = (records.map Record.file).toFinset := by
    ext file
    simp [files]
  have hnodup : (files records).Nodup := nodup_eraseDups _
  rw [h.fileCount_eq, ← hfinset, List.toFinset_card_of_nodup hnodup]

lemma isEmpty_iff_size_eq_zero : c.isEmpty = true ↔ c.size = 0 := by
  rw [isEmpty, Array.isEmpty_iff_size_eq_zero, ← fileCount, h.fileCount_eq, h.size_eq,
    List.length_eq_zero_iff, List.length_eq_zero_iff]
  constructor
  · intro hfiles
    refine List.eq_nil_iff_forall_not_mem.mpr fun r hr => ?_
    have : r.file ∈ files records := Record.mem_files.mpr ⟨r, hr, rfl⟩
    simp [hfiles] at this
  · rintro rfl
    rfl

lemma tells : c.Tells records where
  get?_eq_none_iff file := by
    rw [h.get?_eq, ite_eq_right_iff, Record.mem_files]
    simp
  get?_eq_some r hr := by
    rw [h.get?_eq, if_pos (Record.mem_files.mpr ⟨r, hr, rfl⟩)]
  toList_eq := h.toList_eq
  size_eq := h.size_eq
  fileCount_eq := h.fileCount_eq_card
  isEmpty_iff := h.isEmpty_iff_size_eq_zero

end Holds

end Catalogue

/-- **The desk stays in order.**  After every row of operations, the groups and the places of both
catalogues on the desk agree, and each catalogue tells exactly the records that it descends
from. -/
theorem Desk.inOrder_and_tells_histories (ops : List Operation) :
    Both (fun c records => c.InOrder ∧ c.Tells records) (catalogues ops) (histories ops) :=
  (catalogues_holds_histories ops).imp fun _ _ h => ⟨h.inOrder, h.tells⟩

/-- A copy is saved, both go their own ways, and the copy is exchanged and saved over. -/
example :
    let desk := Desk.catalogues [.push ⟨"a", ⟨"1", "x"⟩⟩, .save, .push ⟨"b", ⟨"2", "y"⟩⟩, .swap,
      .push ⟨"c", ⟨"3", "z"⟩⟩, .push ⟨"a", ⟨"4", "x"⟩⟩]
    desk.current.toList = [("a", [⟨"1", "x"⟩, ⟨"4", "x"⟩]), ("c", [⟨"3", "z"⟩])] ∧
      desk.saved.toList = [("a", [⟨"1", "x"⟩]), ("b", [⟨"2", "y"⟩])] := by
  decide +kernel

end FindingsDigest
