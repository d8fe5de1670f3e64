/-
# A page in a sink

What a sink holds after a page was written to it is told by the length of the page alone.  If all
of its bytes find room, writing succeeds and the sink holds the page; otherwise writing fails, and
the sink holds as much of the beginning of the page as there was room for, even if the cut falls
into a color code or into a character of several bytes.

One write is described first (`write_eq`): however often it offers bytes, it comes to taking them
all, or the first of them up to the room.  So it does not matter how the bytes of a page are cut
into pieces (`writeAll_eq`).  In particular nothing is written behind the first piece that does
not fit; since an empty piece always fits, a sink that is full just behind the last byte of the
page is not an error.

A page that is too wide to be made is written up to the line at which it breaks off.  So there are
two things that can end it before its time, and which of them does is again told by lengths: the
sink is full first if it has no room for what is printed in front of the break (`render_eq`).
-/
import FindingsDigest.Proofs.Alignment

namespace FindingsDigest

/-! ### Palettes -/

namespace Palette

lemma chars_ofColor (color : Bool) : (ofColor color).chars = Piece.chars color := by
  funext piece
  cases piece <;> cases color <;> simp [ofColor, chars, Piece.chars]

lemma text_ofColor (color : Bool) (page : Page) : (ofColor color).text page = page.text color := by
  rw [text, chars_ofColor]
  rfl

lemma toList_toUTF8_text (p : Palette) (page : Page) :
    (p.text page).toUTF8.data.toList = (page.map p.bytes).flatten := by
  have hflatten : (page.map p.bytes).flatten =
      (page.flatMap p.chars).flatMap String.utf8EncodeChar := by
    rw [List.flatMap_assoc]
    rfl
  rw [hflatten, text, String.toUTF8_eq_toByteArray, String.toByteArray_ofList, List.utf8Encode,
    List.data_toByteArray]

end Palette

namespace Sink

/-! ### One write -/

/-- Bytes that find room are taken, and of others as many as there is room for. -/
lemma write_eq (s : Sink) (bytes : List UInt8) :
    s.write bytes = if bytes.length ≤ s.room then .ok ⟨s.room - bytes.length, s.taken ++ bytes⟩
      else .error ⟨s.taken ++ bytes.take s.room⟩ := by
  fun_induction write s bytes with
  | case1 s => simp
  | case2 s b rest hfull =>
    -- nothing was taken of a byte at least, so there was no room
    have hroom : s.room = 0 := by
      simp only [offer, List.length_cons] at hfull
      omega
    simp [offer, hroom]
  | case3 s b rest hsome ih =>
    generalize hbytes : b :: rest = bytes at hsome ih ⊢
    have hroom : 0 < s.room := by
      simp only [offer] at hsome
      omega
    rw [ih]
    by_cases hfit : bytes.length ≤ s.room
    · simp [offer, hfit]
    · have hmin : min s.room bytes.length = s.room := by omega
      have hleft : ¬ bytes.length - s.room ≤ 0 := by omega
      simp [offer, hfit, hmin, hleft]

lemma write_eq_ok_iff {s t : Sink} {bytes : List UInt8} :
    s.write bytes = .ok t ↔
      bytes.length ≤ s.room ∧ t = ⟨s.room - bytes.length, s.taken ++ bytes⟩ := by
  rw [write_eq]
  by_cases hfit : bytes.length ≤ s.room
  · simp [hfit, eq_comm]
  · simp [hfit]

lemma write_eq_error_iff {s : Sink} {bytes : List UInt8} {e : Full} :
    s.write bytes = .error e ↔
      ¬ bytes.length ≤ s.room ∧ e = ⟨s.taken ++ bytes.take s.room⟩ := by
  rw [write_eq]
  by_cases hfit : bytes.length ≤ s.room
  · simp [hfit]
  · simp [hfit, eq_comm]

/-- Bytes may be written in two goes. -/
lemma write_append (s : Sink) (first second : List UInt8) :
    s.write (first ++ second) = s.write first >>= (write · second) := by
  have htaken : ∀ more : List UInt8, s.taken ++ first ++ more = s.taken ++ (first ++ more) := by
    intro more
    apply Array.ext'
    simp
  rw [write_eq s, write_eq s, List.length_append]
  by_cases hfirst : first.length ≤ s.room
  · rw [if_pos hfirst]
    change _ = write _ second
    rw [write_eq, htaken, htaken, Nat.sub_sub]
    by_cases hsecond : second.length ≤ s.room - first.length
    · have hboth : first.length + second.length ≤ s.room := by omega
      rw [if_pos hsecond, if_pos hboth]
    · have hboth : ¬ first.length + second.length ≤ s.room := by omega
      rw [if_neg hsecond, if_neg hboth, List.take_append, List.take_of_length_le hfirst]
  · -- the first go fails, and nothing of the second is written
    have hboth : ¬ first.length + second.length ≤ s.room := by omega
    rw [if_neg hfirst, if_neg hboth, List.take_append_of_le_length (by omega)]
    rfl

/-! ### Writing piece by piece -/

/-- Writes one piece after another, up to the first that does not fit. -/
def writeAll (s : Sink) (pieces : List (List UInt8)) : Except Full Sink :=
  pieces.foldlM write s

/-- Pieces are taken like the bytes that they make up. -/
lemma writeAll_eq (s : Sink) (pieces : List (List UInt8)) :
    s.writeAll pieces = s.write pieces.flatten := by
  induction pieces generalizing s with
  | nil =>
    rw [List.flatten_nil, write]
    rfl
  | cons bytes rest ih =>
    have hrest : (writeAll · rest) = (write · rest.flatten) := funext ih
    calc s.writeAll (bytes :: rest) = s.write bytes >>= (writeAll · rest) := List.foldlM_cons
      _ = s.write bytes >>= (write · rest.flatten) := by rw [hrest]
      _ = s.write (bytes :: rest).flatten := by rw [List.flatten_cons, write_append]

lemma writePage_eq (p : Palette) (s : Sink) (page : Page) :
    s.writePage p page = s.write (p.text page).toUTF8.data.toList := by
  rw [p.toList_toUTF8_text, ← writeAll_eq, writeAll, List.foldlM_map]
  rfl

/-! ### Pages that break off -/

lemma length_toUTF8 (text : String) : text.toUTF8.data.toList.length = text.utf8ByteSize := by
  rw [← String.size_toByteArray]
  rfl

/-- The bytes of what is printed of a page. -/
def printedBytes (p : Palette) (page : Page) : List UInt8 :=
  (p.text page.printed).toUTF8.data.toList

/-- What is printed of a page is written like any bytes; if all of it is taken, then it depends on
the page whether that is the end of it. -/
lemma render_eq (p : Palette) (s : Sink) (page : Page) :
    s.render p page = match s.write (printedBytes p page) with
      | .error f => .full f
      | .ok t => match page.make with
        | .ok _ => .done t
        | .error broken => .brokenOff t broken := by
  rw [render, printedBytes, Page.printed]
  cases page.make with
  | ok page =>
    simp only [writePage_eq]
    cases s.write (p.text page).toUTF8.data.toList <;> rfl
  | error broken =>
    simp only [writePage_eq]
    cases s.write (p.text broken.written).toUTF8.data.toList <;> rfl

section

variable {p : Palette} {s t : Sink} {page : Page}

lemma render_eq_full_iff {f : Full} :
    s.render p page = .full f ↔ s.write (printedBytes p page) = .error f := by
  rw [render_eq]
  rcases s.write (printedBytes p page) with f' | t
  · simp
  · rcases page.make with broken | page <;> simp

lemma render_eq_done_iff :
    s.render p page = .done t ↔
      s.write (printedBytes p page) = .ok t ∧ ∃ q, page.make = .ok q := by
  rw [render_eq]
  rcases s.write (printedBytes p page) with f | t'
  · simp
  · rcases page.make with broken | page <;> simp

lemma render_eq_brokenOff_iff {broken : Page.BrokenOff} :
    s.render p page = .brokenOff t broken ↔
      s.write (printedBytes p page) = .ok t ∧ page.make = .error broken := by
  rw [render_eq]
  rcases s.write (printedBytes p page) with f | t'
  · simp
  · rcases page.make with broken | page <;> simp

/-- Either all that is printed of a page is taken, or the sink is full. -/
lemma write_printedBytes_eq_ok_iff :
    s.write (printedBytes p page) = .ok t ↔
      s.render p page = .done t ∨ ∃ broken, s.render p page = .brokenOff t broken := by
  simp only [render_eq_done_iff, render_eq_brokenOff_iff]
  rcases page.make with broken | page <;> simp

end

/-- The cut falls into the code in front of the sentence for a clean report. -/
example : render (.ofColor true) ⟨4, #[]⟩ (Page.ofDigest 75 .clean) =
    .full ⟨#[27, 91, 57, 50]⟩ := by
  decide +kernel

end Sink

end FindingsDigest
