/-
# Options in any order

A command line that writes some options, each alone, and one report is read in the same way
whatever the order and the spelling of the options, and wherever the report stands.  It is accepted
just if the options can be given together: none of them twice, and not the two that exclude each
other.

The report may stand among the options if it cannot be taken for one; behind two dashes alone every
text is a report.  An empty report is refused at either place.

The reading is followed argument by argument.  A row of options only adds to the flags, and breaks
off at the first flag that is there already (`Progress.foldlM_take_of_spell`); in between the
report is taken, which changes no flag.
-/
import FindingsDigest.Proofs.Options
import Mathlib.Data.List.Forall2
import Mathlib.Data.List.Nodup

namespace FindingsDigest

namespace Options

/-- Whether arguments write a row of options, each alone. -/
def Spell (flags : List Flag) (arguments : List String) : Prop :=
  List.Forall₂ (fun f argument => argument ∈ spellings f) flags arguments

/-- Whether options can be given together. -/
structure Compatible (flags : List Flag) : Prop where
  nodup : flags.Nodup
  not_both : ¬ (.verbose ∈ flags ∧ .quiet ∈ flags)

instance (flags : List Flag) : Decidable (Compatible flags) :=
  decidable_of_iff (flags.Nodup ∧ ¬ (.verbose ∈ flags ∧ .quiet ∈ flags))
    ⟨fun ⟨h₁, h₂⟩ => ⟨h₁, h₂⟩, fun ⟨h₁, h₂⟩ => ⟨h₁, h₂⟩⟩

/-- What exactly these options and a report ask for. -/
def asking (flags : List Flag) (report : String) : Options where
  report
  verbose := .verbose ∈ flags
  quiet := .quiet ∈ flags
  noColor := .noColor ∈ flags
  noConfig := .noConfig ∈ flags

/-- Whether a text is taken as a report in front of two dashes alone. -/
def IsPlainReport (report : String) : Prop :=
  report.toList.head? ≠ some '-' ∨ report = "-"

/-- Whether a command line consists of some arguments and a report. -/
inductive WithReport (report : String) (arguments : List String) : List String → Prop where
  | behindDashes : WithReport report arguments (arguments ++ ["--", report])
  | among {before after : List String} (h : arguments = before ++ after)
    (hplain : IsPlainReport report) : WithReport report arguments (before ++ report :: after)

namespace Spell

variable {flags : List Flag} {arguments before after : List String}

/-- The options are written one after the other. -/
lemma exists_eq_append (h : Spell flags (before ++ after)) :
    ∃ first second, flags = first ++ second ∧ Spell first before ∧ Spell second after :=
  ⟨flags.take before.length, flags.drop before.length, (List.take_append_drop _ _).symm,
    List.forall₂_take_append flags before after h, List.forall₂_drop_append flags before after h⟩

end Spell

namespace Progress

variable {p : Progress} {flags : List Flag} {arguments : List String} {report : String}

/-- A row of options goes to the flags, unless one of them is there already. -/
lemma foldlM_take_of_spell (h : Spell flags arguments) (honly : p.onlyReports = false)
    (hreport : p.report ≠ some "") (hnodup : p.flags.Nodup) :
    arguments.foldlM take p = if (flags.reverse ++ p.flags).Nodup then
      .ok { p with flags := flags.reverse ++ p.flags } else .error (.refused .conflict) := by
  induction h generalizing p with
  | nil => simp [hnodup, pure, Except.pure]
  | @cons f argument flags arguments hargument _ ih =>
    obtain ⟨full, htake⟩ := take_of_mem_spellings hargument honly
    rw [List.foldlM_cons, htake]
    by_cases hf : f ∈ p.flags
    · -- the reading breaks off here, whatever follows
      have hdup : ¬ ((f :: flags).reverse ++ p.flags).Nodup := by
        intro hall
        exact (List.nodup_append.mp hall).2.2 f (by simp) f hf rfl
      rw [if_neg hdup, takeSwitch, if_neg hreport]
      simp [hf, bind, Except.bind]
    · rw [takeSwitch_flag hreport hf]
      have hnext : (f :: p.flags).Nodup := List.nodup_cons.mpr ⟨hf, hnodup⟩
      refine (ih (p := { p with flags := f :: p.flags }) honly hreport hnext).trans ?_
      simp

lemma take_of_isPlainReport (h : IsPlainReport report) (honly : p.onlyReports = false) :
    p.take report = p.takeReport report := by
  rw [take, honly]
  rcases h with hhead | rfl
  · split
    · contradiction
    · split
      · next hchars => simp [hchars] at hhead
      · next hchars => simp [hchars] at hhead
      · next hchars => simp [hchars] at hhead
      · rfl
  · rfl

/-- Behind an empty report no option is taken. -/
lemma foldlM_take_of_empty_report (h : Spell flags arguments) (honly : p.onlyReports = false)
    (hreport : p.report = some "") :
    arguments.foldlM take p = if arguments = [] then .ok p
      else .error (.refused .emptyReport) := by
  cases h with
  | nil => rfl
  | cons hargument _ =>
    obtain ⟨full, htake⟩ := take_of_mem_spellings hargument honly
    rw [List.foldlM_cons, htake, takeSwitch, if_pos hreport, if_neg (by simp)]
    rfl

/-- What all arguments come to when a report is among them. -/
lemma finish_of_report (hreport : p.report = some report) (hne : report ≠ "") :
    p.finish = if .verbose ∈ p.flags ∧ .quiet ∈ p.flags then .error (.refused .conflict)
      else .ok (asking p.flags report) := by
  rw [finish, hreport, if_neg (by simpa using hne)]
  rfl

/-- With a report that has a name, the flags are those of the options, none of them twice. -/
lemma foldlM_take_of_withReport {line : List String} (h : Spell flags arguments)
    (hline : WithReport report arguments line) (hne : report ≠ "") :
    if flags.Nodup then
      ∃ p, line.foldlM take {} = .ok p ∧ p.report = some report ∧ p.flags = flags.reverse
    else line.foldlM take {} = .error (.refused .conflict) := by
  cases hline with
  | behindDashes =>
    rw [List.foldlM_append, foldlM_take_of_spell h rfl (by simp) List.nodup_nil]
    simp only [List.append_nil, List.nodup_reverse]
    split
    · refine ⟨⟨some report, flags.reverse, true⟩, ?_, rfl, rfl⟩
      simp [bind, Except.bind, take, takeReport, pure, Except.pure]
    · rfl
  | @among before after hsplit hplain =>
    obtain ⟨first, second, rfl, hfirst, hsecond⟩ := (hsplit ▸ h).exists_eq_append
    rw [List.foldlM_append, foldlM_take_of_spell hfirst rfl (by simp) List.nodup_nil]
    simp only [List.append_nil, List.nodup_reverse]
    by_cases hnodup : first.Nodup
    · -- the report is taken here, and the rest of the options behind it
      have htake : take ⟨none, first.reverse, false⟩ report =
          .ok ⟨some report, first.reverse, false⟩ := take_of_isPlainReport hplain rfl
      have hrest : after.foldlM take ⟨some report, first.reverse, false⟩ = _ :=
        foldlM_take_of_spell hsecond rfl (by simpa using hne) (List.nodup_reverse.mpr hnodup)
      simp only [← List.reverse_append, List.nodup_reverse] at hrest
      rw [if_pos hnodup]
      simp only [bind, Except.bind, List.foldlM_cons, htake, hrest]
      split
      · exact ⟨_, rfl, rfl, rfl⟩
      · rfl
    · have hall : ¬ (first ++ second).Nodup := fun hall => hnodup (List.nodup_append.mp hall).1
      rw [if_neg hnodup, if_neg hall]
      rfl

/-- A report without a name is refused. -/
lemma exists_refused_of_empty_report {line : List String} (h : Spell flags arguments)
    (hline : WithReport "" arguments line) : ∃ why, parse line = .error (.refused why) := by
  cases hline with
  | behindDashes =>
    rw [parse, List.foldlM_append, foldlM_take_of_spell h rfl (by simp) List.nodup_nil]
    split
    · exact ⟨.emptyReport, rfl⟩
    · exact ⟨.conflict, rfl⟩
  | @among before after hsplit hplain =>
    obtain ⟨first, second, rfl, hfirst, hsecond⟩ := (hsplit ▸ h).exists_eq_append
    rw [parse, List.foldlM_append, foldlM_take_of_spell hfirst rfl (by simp) List.nodup_nil]
    split
    · have hrest : after.foldlM take ⟨some "", first.reverse, false⟩ = _ :=
        foldlM_take_of_empty_report hsecond rfl rfl
      have htake : take ⟨none, first.reverse, false⟩ "" = .ok ⟨some "", first.reverse, false⟩ := rfl
      refine ⟨.emptyReport, ?_⟩
      simp only [List.append_nil, bind, Except.bind, List.foldlM_cons, htake, hrest]
      by_cases hafter : after = []
      · rw [if_pos hafter]
        rfl
      · rw [if_neg hafter]
    · exact ⟨.conflict, rfl⟩

end Progress

lemma asking_reverse (flags : List Flag) (report : String) :
    asking flags.reverse report = asking flags report := by
  simp [asking]

/-- **Options in any order.**  Let a command line consist of a row of options, each written alone in
one of its spellings, and a report that stands anywhere among them if it is plain, or behind them
and two dashes alone.  If the report has a name, the command line asks for exactly these options and
this report, provided that the options can be given together, and else it is refused; without a name
it is refused in any case.  And no command line whatever is accepted that lacks the name of a report
or gives the two options that exclude each other. -/
theorem parse_flags_and_report :
    (∀ {flags : List Flag} {arguments : List String}, Spell flags arguments →
      ∀ {report : String} {line : List String}, WithReport report arguments line →
        (report ≠ "" → parse line = if Compatible flags then .ok (asking flags report)
          else .error (.refused .conflict)) ∧
        (report = "" → ∃ why, parse line = .error (.refused why))) ∧
      ∀ {line : List String} {o : Options}, parse line = .ok o →
        o.report ≠ "" ∧ ¬ (o.verbose = true ∧ o.quiet = true) := by
  refine ⟨fun {flags arguments} h {report line} hline => ⟨fun hne => ?_, ?_⟩, parse_eq_ok⟩
  · have hfold := Progress.foldlM_take_of_withReport h hline hne
    split at hfold
    · next hnodup =>
      obtain ⟨p, hp, hreport, hflags⟩ := hfold
      rw [parse, hp]
      change p.finish = _
      rw [Progress.finish_of_report hreport hne, hflags, asking_reverse]
      simp only [List.mem_reverse]
      by_cases hboth : .verbose ∈ flags ∧ .quiet ∈ flags
      · rw [if_pos hboth, if_neg fun hc => hc.not_both hboth]
      · rw [if_neg hboth, if_pos ⟨hnodup, hboth⟩]
    · next hdup =>
      rw [parse, hfold, if_neg fun hc => hdup hc.nodup]
      rfl
  · rintro rfl
    exact Progress.exists_refused_of_empty_report h hline

/-- A dash alone stands between two options, and what looks like an option is a report behind two
dashes. -/
theorem parse_flags_around_dash :
    Spell [.noColor, .quiet] ["--no-color", "-q"] ∧
      WithReport "-" ["--no-color", "-q"] ["--no-color", "-", "-q"] ∧
      parse ["--no-color", "-", "-q"] = .ok ⟨"-", false, true, true, false⟩ ∧
      parse ["-q", "--verbose", "--", "-v=1"] = .error (.refused .conflict) := by
  have hspell : Spell [.noColor, .quiet] ["--no-color", "-q"] :=
    .cons (by decide) (.cons (by decide) .nil)
  have hbetween : WithReport "-" ["--no-color", "-q"] ["--no-color", "-", "-q"] :=
    @WithReport.among "-" _ ["--no-color"] ["-q"] rfl (Or.inr rfl)
  have hboth : Spell [.quiet, .verbose] ["-q", "--verbose"] :=
    .cons (by decide) (.cons (by decide) .nil)
  have hbehind : WithReport "-v=1" ["-q", "--verbose"] ["-q", "--verbose", "--", "-v=1"] :=
    .behindDashes
  exact ⟨hspell, hbetween, (parse_flags_and_report.1 hspell hbetween).1 (by decide),
    (parse_flags_and_report.1 hboth hbehind).1 (by decide)⟩

end Options

end FindingsDigest
