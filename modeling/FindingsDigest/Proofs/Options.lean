/-
# One option more

An option may stand anywhere on the command line, as long as it is not behind two dashes alone.
If a command line is accepted, and an option that it lacks is inserted at such a place, then the
longer command line is accepted too and asks for the same and for that option; only the two
options that exclude each other must not come together (`parse_insert`).

The two readings are compared argument by argument.  Behind the inserted option they are the same
but for one flag (`Progress.Adds`), and they stay so: every way of taking an argument is steady,
which is to say that it takes nothing back, and that one flag more makes no difference to it
unless it takes that flag itself.  Steady ways of taking single things make up steady ways of
taking rows of them (`Steady.foldlM`), letters and arguments alike.
-/
import FindingsDigest.Options
import Mathlib.Data.List.Basic

namespace FindingsDigest

namespace Options

/-- The ways to write an option alone. -/
def spellings : Flag → List String
  | .verbose => ["-v", "--verbose"]
  | .quiet => ["-q", "--quiet"]
  | .noColor => ["--no-color"]
  | .noConfig => ["--no-config"]

/-- Whether an option was given. -/
def has (o : Options) : Flag → Bool
  | .verbose => o.verbose
  | .quiet => o.quiet
  | .noColor => o.noColor
  | .noConfig => o.noConfig

/-- The same with an option more. -/
def withFlag (o : Options) : Flag → Options
  | .verbose => { o with verbose := true }
  | .quiet => { o with quiet := true }
  | .noColor => { o with noColor := true }
  | .noConfig => { o with noConfig := true }

/-- Whether two options exclude each other. -/
def Clashes (o : Options) : Prop :=
  o.verbose = true ∧ o.quiet = true

@[simp]
lemma report_withFlag (o : Options) (f : Flag) : (o.withFlag f).report = o.report := by
  cases f <;> rfl

lemma has_withFlag (o : Options) (f g : Flag) :
    (o.withFlag f).has g = true ↔ g = f ∨ o.has g = true := by
  cases f <;> cases g <;> simp [withFlag, has]

namespace Progress

variable {p q p' : Progress} {f : Flag}

lemma bind_eq_ok_iff {α : Type} {first : Except Stop Progress} {second : Progress → Except Stop α}
    {result : α} :
    first >>= second = .ok result ↔ ∃ m, first = .ok m ∧ second m = .ok result := by
  rcases first with stop | m <;> simp [bind, Except.bind]

/-- Whether one reading has a flag more than another, and is the same otherwise. -/
structure Adds (f : Flag) (p q : Progress) : Prop where
  report : q.report = p.report
  onlyReports : q.onlyReports = p.onlyReports
  mem_flags : ∀ g, g ∈ q.flags ↔ g = f ∨ g ∈ p.flags

lemma adds_cons (f : Flag) (p : Progress) : Adds f p { p with flags := f :: p.flags } :=
  ⟨rfl, rfl, fun _ => List.mem_cons⟩

/-- Whether a way to go on takes nothing back, and goes on in the same way with a flag more, unless
it takes that flag itself. -/
structure Steady (step : Progress → Except Stop Progress) : Prop where
  report_eq : ∀ {p p' r}, step p = .ok p' → p.report = some r → p'.report = some r
  flags_subset : ∀ {p p'}, step p = .ok p' → p.flags ⊆ p'.flags
  adds : ∀ {f p q p'}, step p = .ok p' → Adds f p q → f ∉ p'.flags →
    ∃ q', step q = .ok q' ∧ Adds f p' q'

namespace Steady

lemma error (stop : Stop) : Steady fun _ => .error stop where
  report_eq h := by cases h
  flags_subset h := by cases h
  adds h := by cases h

/-- One steady way behind another is steady. -/
lemma bind {first second : Progress → Except Stop Progress} (hfirst : Steady first)
    (hsecond : Steady second) : Steady fun p => first p >>= second where
  report_eq hp hr := by
    obtain ⟨m, hm, hp'⟩ := bind_eq_ok_iff.mp hp
    exact hsecond.report_eq hp' (hfirst.report_eq hm hr)
  flags_subset hp := by
    obtain ⟨m, hm, hp'⟩ := bind_eq_ok_iff.mp hp
    exact List.Subset.trans (hfirst.flags_subset hm) (hsecond.flags_subset hp')
  adds hp hq hf := by
    obtain ⟨m, hm, hp'⟩ := bind_eq_ok_iff.mp hp
    obtain ⟨n, hn, hmn⟩ := hfirst.adds hm hq fun hmem => hf (hsecond.flags_subset hp' hmem)
    obtain ⟨q', hq', hadds⟩ := hsecond.adds hp' hmn hf
    exact ⟨q', bind_eq_ok_iff.mpr ⟨n, hn, hq'⟩, hadds⟩

lemma foldlM {α : Type} {step : Progress → α → Except Stop Progress}
    (h : ∀ a, Steady (step · a)) (as : List α) : Steady (as.foldlM step) := by
  induction as with
  | nil =>
    constructor
    · rintro p p' r ⟨rfl⟩ hr
      exact hr
    · rintro p p' ⟨rfl⟩
      exact List.Subset.refl _
    · rintro f p q p' ⟨rfl⟩ hq -
      exact ⟨q, rfl, hq⟩
  | cons a as ih =>
    have hcons : (a :: as).foldlM step = fun p => step p a >>= as.foldlM step :=
      funext fun p => List.foldlM_cons
    rw [hcons]
    exact (h a).bind ih

/-- What is done may hang on whether only reports are left. -/
lemma ite {first second : Progress → Except Stop Progress} (hfirst : Steady first)
    (hsecond : Steady second) : Steady fun p => if p.onlyReports then first p else second p := by
  constructor
  · intro p p' r hp hr
    split at hp
    · exact hfirst.report_eq hp hr
    · exact hsecond.report_eq hp hr
  · intro p p' hp
    split at hp
    · exact hfirst.flags_subset hp
    · exact hsecond.flags_subset hp
  · intro f p q p' hp hq hf
    rw [hq.onlyReports]
    split at hp
    · next honly =>
      rw [if_pos honly]
      exact hfirst.adds hp hq hf
    · next honly =>
      rw [if_neg honly]
      exact hsecond.adds hp hq hf

end Steady

lemma steady_takeReport (report : String) : Steady (takeReport · report) := by
  constructor
  · intro p p' r hp hr
    simp [takeReport, hr] at hp
  · intro p p' hp
    rcases hr : p.report with _ | r
    · simp only [takeReport, hr, Except.ok.injEq] at hp
      simp [← hp]
    · simp [takeReport, hr] at hp
  · intro f p q p' hp hq _
    rcases hr : p.report with _ | r
    · simp only [takeReport, hr, Except.ok.injEq] at hp
      refine ⟨{ q with report := some report }, by simp [takeReport, hq.report, hr], ?_⟩
      subst hp
      exact ⟨rfl, hq.onlyReports, hq.mem_flags⟩
    · simp [takeReport, hr] at hp

/-- What taking an option comes to: the flag was not there, and then it is. -/
lemma takeSwitch_eq_ok {full : Bool} {s : Switch} (h : p.takeSwitch full s = .ok p') :
    p.report ≠ some "" ∧
      ∃ g, s = .flag g ∧ g ∉ p.flags ∧ p' = { p with flags := g :: p.flags } := by
  unfold takeSwitch at h
  split at h
  · cases h
  · next hr =>
    cases s with
    | help => cases h
    | version => cases h
    | flag g =>
      by_cases hg : g ∈ p.flags
      · simp [hg] at h
      · simp only [hg, if_false, Except.ok.injEq] at h
        exact ⟨hr, g, rfl, hg, h.symm⟩

lemma takeSwitch_flag (hr : p.report ≠ some "") (hf : f ∉ p.flags) (full : Bool) :
    p.takeSwitch full (.flag f) = .ok { p with flags := f :: p.flags } := by
  simp [takeSwitch, hr, hf]

lemma steady_takeSwitch (full : Bool) (s : Switch) : Steady (takeSwitch · full s) := by
  constructor
  · intro p p' r hp hr
    obtain ⟨-, g, -, -, rfl⟩ := takeSwitch_eq_ok hp
    exact hr
  · intro p p' hp
    obtain ⟨-, g, -, -, rfl⟩ := takeSwitch_eq_ok hp
    exact List.subset_cons_self g p.flags
  · intro f p q p' hp hq hf
    obtain ⟨hr, g, rfl, hg, rfl⟩ := takeSwitch_eq_ok hp
    have hne : g ≠ f := by
      rintro rfl
      exact hf List.mem_cons_self
    have hgq : g ∉ q.flags := by simp [hq.mem_flags, hne, hg]
    refine ⟨_, takeSwitch_flag (hq.report ▸ hr) hgq full, hq.report, hq.onlyReports, fun k => ?_⟩
    simp only [List.mem_cons, hq.mem_flags]
    tauto

lemma steady_takeLetter (letter : Char) : Steady (takeLetter · letter) := by
  unfold takeLetter
  split
  · exact steady_takeSwitch false _
  · exact .error _

lemma steady_takeLong (text : List Char) : Steady (takeLong · text) := by
  unfold takeLong
  simp only
  split
  · split
    · exact steady_takeSwitch true _
    · exact .error _
  · exact .error _

lemma steady_onlyReports : Steady fun p => .ok { p with onlyReports := true } := by
  constructor
  · rintro p p' r ⟨rfl⟩ hr
    exact hr
  · rintro p p' ⟨rfl⟩
    exact List.Subset.refl _
  · rintro f p q p' ⟨rfl⟩ hq -
    exact ⟨_, rfl, hq.report, rfl, hq.mem_flags⟩

lemma steady_take (argument : String) : Steady (take · argument) := by
  unfold take
  refine (steady_takeReport argument).ite ?_
  split
  · exact steady_onlyReports
  · exact steady_takeLong _
  · exact .foldlM steady_takeLetter _
  · exact steady_takeReport argument

/-! ### Two dashes alone -/

lemma onlyReports_of_takeReport {report : String} (h : p.takeReport report = .ok p') :
    p'.onlyReports = p.onlyReports := by
  unfold takeReport at h
  split at h
  · rw [← Except.ok.inj h]
  · cases h

lemma onlyReports_of_takeSwitch {full : Bool} {s : Switch} (h : p.takeSwitch full s = .ok p') :
    p'.onlyReports = p.onlyReports := by
  obtain ⟨-, g, -, -, rfl⟩ := takeSwitch_eq_ok h
  rfl

lemma onlyReports_of_takeLong {text : List Char} (h : p.takeLong text = .ok p') :
    p'.onlyReports = p.onlyReports := by
  simp only [takeLong] at h
  split at h
  · split at h
    · exact onlyReports_of_takeSwitch h
    · cases h
  · cases h

lemma onlyReports_of_takeLetter {letter : Char} (h : p.takeLetter letter = .ok p') :
    p'.onlyReports = p.onlyReports := by
  unfold takeLetter at h
  split at h
  · exact onlyReports_of_takeSwitch h
  · cases h

/-- What no single step changes, a row of steps does not change. -/
lemma onlyReports_of_foldlM {α : Type} {step : Progress → α → Except Stop Progress} {as : List α}
    (hstep : ∀ a ∈ as, ∀ {p p'}, step p a = .ok p' → p'.onlyReports = p.onlyReports)
    (h : as.foldlM step p = .ok p') : p'.onlyReports = p.onlyReports := by
  induction as generalizing p with
  | nil =>
    obtain rfl := Except.ok.inj h
    rfl
  | cons a as ih =>
    rw [List.foldlM_cons, bind_eq_ok_iff] at h
    obtain ⟨m, hm, hp'⟩ := h
    rw [ih (fun b hb => hstep b (List.mem_cons_of_mem a hb)) hp', hstep a List.mem_cons_self hm]

/-- Only two dashes alone make all that follows a report. -/
lemma onlyReports_of_take {argument : String} (h : p.take argument = .ok p')
    (hne : argument ≠ "--") : p'.onlyReports = p.onlyReports := by
  unfold take at h
  split at h
  · exact onlyReports_of_takeReport h
  · split at h
    · next hchars => exact absurd (String.toList_inj.mp hchars) hne
    · exact onlyReports_of_takeLong h
    · exact onlyReports_of_foldlM (fun _ _ _ _ => onlyReports_of_takeLetter) h
    · exact onlyReports_of_takeReport h

/-! ### The inserted option -/

lemma take_letter (honly : p.onlyReports = false) {argument : String} {letter : Char}
    (h : argument.toList = ['-', letter]) (hne : letter ≠ '-') :
    p.take argument = p.takeLetter letter := by
  rw [take, h, honly]
  simp [hne]

lemma take_long (honly : p.onlyReports = false) {argument : String} {text : List Char}
    (h : argument.toList = '-' :: '-' :: text) (hne : text ≠ []) :
    p.take argument = p.takeLong text := by
  rw [take, h, honly]
  simp

/-- An option that is written alone is taken as its flag. -/
lemma take_of_mem_spellings {argument : String} (h : argument ∈ spellings f)
    (honly : p.onlyReports = false) : ∃ full, p.take argument = p.takeSwitch full (.flag f) := by
  cases f <;> simp only [spellings, List.mem_cons, List.not_mem_nil, or_false] at h
  case verbose =>
    rcases h with rfl | rfl
    · exact ⟨false, (take_letter honly rfl (by decide)).trans rfl⟩
    · exact ⟨true, (take_long honly rfl (by simp)).trans rfl⟩
  case quiet =>
    rcases h with rfl | rfl
    · exact ⟨false, (take_letter honly rfl (by decide)).trans rfl⟩
    · exact ⟨true, (take_long honly rfl (by simp)).trans rfl⟩
  case noColor =>
    subst h
    exact ⟨true, (take_long honly rfl (by simp)).trans rfl⟩
  case noConfig =>
    subst h
    exact ⟨true, (take_long honly rfl (by simp)).trans rfl⟩

/-- What all arguments come to. -/
lemma finish_eq_ok_iff {o : Options} :
    p.finish = .ok o ↔ p.report = some o.report ∧ o.report ≠ "" ∧ ¬ o.Clashes ∧
      ∀ g, o.has g = true ↔ g ∈ p.flags := by
  unfold finish
  constructor
  · intro h
    split at h
    · cases h
    · next hempty =>
      split at h
      · cases h
      · next hclash =>
        rcases hr : p.report with _ | report
        · simp [hr] at h
        · simp only [hr, Except.ok.injEq] at h
          subst h
          refine ⟨rfl, fun hreport => hempty ?_, ?_, fun g => ?_⟩
          · rw [hr]
            exact congrArg some hreport
          · simpa [Clashes] using hclash
          · cases g <;> simp [has]
  · rintro ⟨hr, hempty, hclash, hflags⟩
    have hverbose : o.verbose = true ↔ .verbose ∈ p.flags := hflags .verbose
    have hquiet : o.quiet = true ↔ .quiet ∈ p.flags := hflags .quiet
    have hnoColor : o.noColor = true ↔ .noColor ∈ p.flags := hflags .noColor
    have hnoConfig : o.noConfig = true ↔ .noConfig ∈ p.flags := hflags .noConfig
    rw [Clashes, hverbose, hquiet] at hclash
    rw [hr, if_neg (by simpa using hempty), if_neg hclash]
    simp only [← hverbose, ← hquiet, ← hnoColor, ← hnoConfig, Bool.decide_eq_true]

/-- With a flag more, all arguments come to the same with that option more. -/
lemma finish_of_adds {o : Options} (h : p.finish = .ok o) (hq : Adds f p q)
    (hclash : ¬ (o.withFlag f).Clashes) : q.finish = .ok (o.withFlag f) := by
  obtain ⟨hr, hempty, -, hflags⟩ := finish_eq_ok_iff.mp h
  refine finish_eq_ok_iff.mpr ⟨?_, ?_, hclash, fun g => ?_⟩
  · rw [hq.report, hr, report_withFlag]
  · rwa [report_withFlag]
  · rw [has_withFlag, hq.mem_flags, hflags]

end Progress

/-- An accepted command line names a report, and its options do not exclude each other. -/
lemma parse_eq_ok {arguments : List String} {o : Options} (h : parse arguments = .ok o) :
    o.report ≠ "" ∧ ¬ o.Clashes := by
  rw [parse, Progress.bind_eq_ok_iff] at h
  obtain ⟨p, -, hfinish⟩ := h
  obtain ⟨-, hempty, hclash, -⟩ := Progress.finish_eq_ok_iff.mp hfinish
  exact ⟨hempty, hclash⟩

/-- An option that an accepted command line lacks may be inserted anywhere in front of two dashes
alone. -/
lemma parse_insert {o : Options} {f : Flag} {before after : List String} {argument : String}
    (h : parse (before ++ after) = .ok o) (hdashes : "--" ∉ before)
    (hargument : argument ∈ spellings f) (hnew : o.has f = false)
    (hclash : ¬ (o.withFlag f).Clashes) :
    parse (before ++ argument :: after) = .ok (o.withFlag f) := by
  rw [parse, Progress.bind_eq_ok_iff] at h ⊢
  obtain ⟨final, hfinal, hfinish⟩ := h
  rw [List.foldlM_append, Progress.bind_eq_ok_iff] at hfinal
  obtain ⟨p, hp, hfinal⟩ := hfinal
  have hafter : Progress.Steady (after.foldlM Progress.take) := .foldlM Progress.steady_take after
  obtain ⟨hreport, hempty, -, hflags⟩ := Progress.finish_eq_ok_iff.mp hfinish
  -- neither an empty report nor the flag has been read in front of the inserted option
  have honly : p.onlyReports = false :=
    Progress.onlyReports_of_foldlM (fun a ha _ _ htake =>
      Progress.onlyReports_of_take htake (ne_of_mem_of_not_mem ha hdashes)) hp
  have hf : f ∉ final.flags := by simp [← hflags, hnew]
  have hr : p.report ≠ some "" := by
    intro hr
    have := hafter.report_eq hfinal hr
    rw [hreport, Option.some.injEq] at this
    exact hempty this
  obtain ⟨full, htake⟩ := Progress.take_of_mem_spellings hargument honly
  rw [Progress.takeSwitch_flag hr fun hmem => hf (hafter.flags_subset hfinal hmem)] at htake
  obtain ⟨q, hq, hadds⟩ := hafter.adds hfinal (Progress.adds_cons f p) hf
  refine ⟨q, ?_, Progress.finish_of_adds hfinish hadds hclash⟩
  rw [List.foldlM_append, Progress.bind_eq_ok_iff]
  refine ⟨p, hp, ?_⟩
  rw [List.foldlM_cons, htake]
  exact hq

end Options

end FindingsDigest
