import Mathlib.Data.List.Basic
import Testbench.Proofs.Text.Lines
import Testbench.Report

/-!
# The layout of the text summary

Scripts read the text summary line by line: the lines between the heading over the results and the
blank line in front of the counts, and the verdict at the end. Whether they read what was written
only depends on names and reasons without line ends, and on the name of the project.

- `Report.LaidOut`: what can be read off the lines of a text summary.
- `Report.Forges`: the name of a project puts the heading or a verdict into the title.
- `StageResult.isOneLine_line_iff`: results that are written on one line.
- `Report.endedLines_text`: the lines of a text summary whose results are written on one line each.
- `List.eq_of_append_pair`: two parts that meet at a pair of lines which stands nowhere else.
- `Report.laidOut_text_iff`: text summaries that keep the layout.
-/

namespace Testbench

open Testbench.Text

/-! ## Results on one line -/

theorem Duration.isOneLine_label (d : Duration) : IsOneLine d.label := by
  unfold label Dyadic.fixed
  rw [isOneLine_append, isOneLine_ofList]
  refine ⟨?_, by decide⟩
  simp only [List.mem_append, List.mem_cons, not_or, Decimal.places]
  exact ⟨lineEnd_notMem_toDigits _, by decide, by simp, lineEnd_notMem_toDigits _⟩

/-- A result is written on one line if its name and the reason to skip its stage are. -/
theorem StageResult.isOneLine_line_iff (e : StageResult) :
    IsOneLine e.line ↔ IsOneLine e.name ∧ ∀ reason, e.verdict = .skipped reason →
      IsOneLine reason := by
  have hsep : IsOneLine ": " := by decide
  have hopen : IsOneLine "PASSED (" ∧ IsOneLine "FAILED (" ∧ IsOneLine "SKIPPED (" := by decide
  have hclose : IsOneLine ")" := by decide
  obtain ⟨name, (_ | _) | _⟩ := e <;>
    simp [line, Verdict.label, hsep, hopen, hclose, Duration.isOneLine_label]

namespace Report

/-! ## Layouts -/

/-- The two lines over the results. -/
def resultsHeading : List String := ["Results:", "--------"]

/-- The line with the verdict on a whole run. -/
def verdictLine (success : Bool) : String := "Overall: " ++ verdict success

/-- The results can be read off the lines of a text summary, and so can the verdict. -/
structure LaidOut (ls : List String) (entries : List StageResult) (success : Bool) : Prop where
  /-- What stands between the heading over the results and the blank line in front of the counts is
  one line for each result, wherever the heading is found. -/
  results : ∀ rs, (∃ head tail, ls = head ++ resultsHeading ++ rs ++ ["", "Summary:"] ++ tail) ↔
    rs = entries.map ("- " ++ ·.line)
  /-- The last line has the verdict, and no other line has one. -/
  verdict : ∃ init, ls = init ++ [verdictLine success] ∧ ∀ v, verdictLine v ∉ init

/-- Where the layout is kept, every verdict among the lines is that on the run. -/
theorem LaidOut.eq_of_mem {ls : List String} {entries : List StageResult} {success v : Bool}
    (h : LaidOut ls entries success) (hv : verdictLine v ∈ ls) : v = success := by
  obtain ⟨init, rfl, hinit⟩ := h.verdict
  rcases List.mem_append.mp hv with hv | hv
  · exact absurd hv (hinit v)
  · have hinj : ∀ v success, verdictLine v = verdictLine success → v = success := by decide
    exact hinj v success (List.mem_singleton.mp hv)

/-- The name of a project puts lines into the title that are read as the heading over the results or
as a verdict. -/
def Forges (project : String) : Prop :=
  resultsHeading <:+: texts (project ++ " Test Summary") ∨
    ∃ v, verdictLine v ∈ texts (project ++ " Test Summary")

instance (project : String) : Decidable (Forges project) :=
  inferInstanceAs (Decidable (_ ∨ _))

/-! ## The lines of a text summary -/

variable {results : ResultSet} {c : Context}

/-- What stands between the title and the results. -/
def preface (c : Context) : List String :=
  [String.ofList (List.replicate (title c).length '='), "", "Date: " ++ c.timestamp,
    "Platform: " ++ c.platform, "Toolchain Version: " ++ c.toolchainVersion, ""]

/-- What stands between the results and the verdict, without the blank line and the heading. -/
def tallies (s : Summary) : List String :=
  ["--------", "Total Tests: " ++ toString s.total, "Passed: " ++ toString s.successful,
    "Failed: " ++ toString s.failed, "Skipped: " ++ toString s.skipped]

theorem lines_eq (results : ResultSet) (c : Context) :
    lines results c = [title c] ++ preface c ++ resultsHeading ++
      results.entries.map ("- " ++ ·.line) ++ ["", "Summary:"] ++ tallies results.summary ++
      [verdictLine results.summary.overallSuccess] := by
  simp only [lines, preface, resultsHeading, tallies, verdictLine, List.append_assoc,
    List.cons_append, List.nil_append]

/-- The lines on which a result is written are lines of the text summary. -/
theorem mem_endedLines_text {e : StageResult} (he : e ∈ results.entries) (c : Context) {l : String}
    (hl : l ∈ texts ("- " ++ e.line)) : l ∈ endedLines (text results c) := by
  have hresult := List.mem_map_of_mem (f := fun e : StageResult => "- " ++ e.line) he
  rw [text, endedLines_join, lines_eq]
  refine List.mem_flatMap.mpr ⟨_, ?_, hl⟩
  simp only [List.mem_append, hresult, or_true, true_or]

/-- Texts of one line each are their own lines. -/
theorem flatMap_texts {ls : List String} (h : ∀ l ∈ ls, IsOneLine l) : ls.flatMap texts = ls := by
  induction ls with
  | nil => rfl
  | cons l ls ih =>
    rw [List.flatMap_cons, texts_of_isOneLine (h l (by simp)), ih fun l hl => h l (by simp [hl])]
    rfl

theorem isOneLine_preface (hdate : IsOneLine c.timestamp) (hplatform : IsOneLine c.platform)
    (hversion : IsOneLine c.toolchainVersion) : ∀ l ∈ preface c, IsOneLine l := by
  have hlabels : IsOneLine "Date: " ∧ IsOneLine "Platform: " ∧ IsOneLine "Toolchain Version: " ∧
      IsOneLine "" := by decide
  have hrule : IsOneLine (String.ofList (List.replicate (title c).length '=')) := by
    simp [isOneLine_ofList]
  simp [preface, hrule, hlabels, hdate, hplatform, hversion]

theorem isOneLine_tallies (s : Summary) : ∀ l ∈ tallies s, IsOneLine l := by
  have hlabels : IsOneLine "--------" ∧ IsOneLine "Total Tests: " ∧ IsOneLine "Passed: " ∧
      IsOneLine "Failed: " ∧ IsOneLine "Skipped: " := by decide
  simp [tallies, hlabels, isOneLine_repr]

/-- Where every result is written on one line, only the title may take more than one. -/
theorem endedLines_text (hdate : IsOneLine c.timestamp) (hplatform : IsOneLine c.platform)
    (hversion : IsOneLine c.toolchainVersion) (h : ∀ e ∈ results.entries, IsOneLine e.line) :
    endedLines (text results c) = texts (title c) ++ preface c ++ resultsHeading ++
      results.entries.map ("- " ++ ·.line) ++ ["", "Summary:"] ++ tallies results.summary ++
      [verdictLine results.summary.overallSuccess] := by
  have hresults : ∀ l ∈ results.entries.map ("- " ++ ·.line), IsOneLine l := by
    intro l hl
    obtain ⟨e, he, rfl⟩ := List.mem_map.mp hl
    exact (isOneLine_append _ _).mpr ⟨by decide, h e he⟩
  have hheading : ∀ l ∈ resultsHeading, IsOneLine l := by decide
  have hcounts : ∀ l ∈ ["", "Summary:"], IsOneLine l := by decide
  have hverdict : ∀ v, ∀ l ∈ [verdictLine v], IsOneLine l := by decide
  rw [text, endedLines_join, lines_eq]
  simp only [List.flatMap_append, flatMap_texts hresults, flatMap_texts hheading,
    flatMap_texts hcounts, flatMap_texts (hverdict _), flatMap_texts (isOneLine_tallies _),
    flatMap_texts (isOneLine_preface hdate hplatform hversion), List.flatMap_singleton]

/-! ## First characters -/

/-- The first character of a line. -/
def first (l : String) : Option Char := l.toList.head?

/-- A line does not stand among lines with other first characters. -/
theorem notMem_of_first {l : String} {ls : List String} (h : first l ∉ ls.map first) : l ∉ ls :=
  fun hl => h (List.mem_map_of_mem hl)

theorem map_first_preface (c : Context) :
    (preface c).map first = [some '=', none, some 'D', some 'P', some 'T', none] := by
  have htitle : (title c).length ≠ 0 := by simp [title]
  simp [preface, first, List.head?_replicate, htitle]

theorem map_first_results (entries : List StageResult) :
    (entries.map ("- " ++ ·.line)).map first = List.replicate entries.length (some '-') := by
  rw [List.map_map, List.eq_replicate_iff]
  simp [first]

theorem map_first_tallies (s : Summary) :
    (tallies s).map first = [some '-', some 'T', some 'P', some 'F', some 'S'] := by
  simp [tallies, first]

theorem first_verdictLine (v : Bool) : first (verdictLine v) = some 'O' := by
  revert v
  decide

theorem heading_notMem_preface (c : Context) : "Results:" ∉ preface c :=
  notMem_of_first (by rw [map_first_preface]; decide)

theorem blank_notMem_results (entries : List StageResult) :
    "" ∉ entries.map ("- " ++ ·.line) :=
  notMem_of_first (by rw [map_first_results]; simp [first])

theorem blank_notMem_counts (results : ResultSet) :
    "" ∉ "Summary:" :: (tallies results.summary ++ [verdictLine results.summary.overallSuccess]) :=
  notMem_of_first (by
    rw [List.map_cons, List.map_append, map_first_tallies, List.map_singleton, first_verdictLine]
    decide)

/-- Behind the heading over the results there is no other one. -/
theorem heading_notMem_results (results : ResultSet) :
    "Results:" ∉ results.entries.map ("- " ++ ·.line) ++ "" :: "Summary:" ::
      (tallies results.summary ++ [verdictLine results.summary.overallSuccess]) :=
  notMem_of_first (by
    rw [List.map_append, map_first_results, List.map_cons, List.map_cons, List.map_append,
      map_first_tallies, List.map_singleton, first_verdictLine, List.mem_append, not_or]
    exact ⟨by simp [first], by decide⟩)

theorem verdictLine_notMem_preface (v : Bool) (c : Context) : verdictLine v ∉ preface c :=
  notMem_of_first (by rw [map_first_preface, first_verdictLine]; decide)

theorem verdictLine_notMem_results (v : Bool) (entries : List StageResult) :
    verdictLine v ∉ entries.map ("- " ++ ·.line) :=
  notMem_of_first (by rw [map_first_results, first_verdictLine]; simp)

theorem verdictLine_notMem_tallies (v : Bool) (s : Summary) : verdictLine v ∉ tallies s :=
  notMem_of_first (by rw [map_first_tallies, first_verdictLine]; decide)

/-! ## Pairs of lines -/

section Pairs

variable {α : Type} {a b : α} {x z x' z' : List α}

/-- A pair that stands in two lists put together stands in the first one, unless it begins in the
second one or where they meet. -/
theorem pair_infix_of_append (hx : ∀ y, x ≠ y ++ [a]) (hz : a ∉ z) (h : [a, b] <:+: x ++ z) :
    [a, b] <:+: x := by
  obtain ⟨u, v, h⟩ := h
  rw [List.append_assoc, List.cons_append, List.cons_append, List.nil_append] at h
  rcases List.append_eq_append_iff.mp h with ⟨t, hxt, ht⟩ | ⟨t, -, rfl⟩
  · match t with
    | [] =>
      cases ht
      exact absurd List.mem_cons_self hz
    | [c] =>
      cases ht
      exact absurd hxt (hx u)
    | c :: d :: t =>
      cases ht
      exact ⟨u, t, by rw [hxt]; simp⟩
  · exact absurd (by simp) hz

/-- Two parts of a list meet at a pair only there, if the pair does not stand before and does not
begin behind. -/
theorem eq_of_append_pair (hab : a ≠ b) (hx : ¬ [a, b] <:+: x) (hz : a ∉ z)
    (h : x ++ a :: b :: z = x' ++ a :: b :: z') : x = x' ∧ z = z' := by
  rcases List.append_eq_append_iff.mp h with ⟨t, rfl, ht⟩ | ⟨t, rfl, ht⟩
  · match t with
    | [] =>
      cases ht
      simp
    | [c] =>
      cases ht
      exact absurd rfl hab
    | c :: d :: t =>
      cases ht
      exact absurd (by simp) hz
  · match t with
    | [] =>
      cases ht
      simp
    | [c] =>
      cases ht
      exact absurd rfl hab
    | c :: d :: t =>
      cases ht
      exact absurd ⟨x', t, by simp⟩ hx

end Pairs

/-! ## Reading the layout -/

/-- The last line of the title is no heading. -/
theorem texts_title_ne_append (c : Context) (ls : List String) :
    texts (title c) ≠ ls ++ ["Results:"] := fun h => by
  have htitle : " Test Summary".toList <:+ (title c).toList := by
    rw [title, String.toList_append]
    exact List.suffix_append _ _
  -- one of two ends of a text is an end of the other, and neither of these is
  rcases List.suffix_or_suffix_of_suffix (suffix_of_texts_eq_append h) htitle with hends | hends
  all_goals
    revert hends
    decide

section Reading

variable (hdate : IsOneLine c.timestamp) (hplatform : IsOneLine c.platform)
  (hversion : IsOneLine c.toolchainVersion)

include hdate hplatform hversion

/-- A layout that is kept has every result on one line, and nothing in the title is taken for a
heading or a verdict. -/
theorem plain_of_laidOut {success : Bool}
    (h : LaidOut (endedLines (text results c)) results.entries success) :
    (∀ e ∈ results.entries, IsOneLine e.line) ∧ ¬ Forges c.project := by
  obtain ⟨hresults, init, hinit, hverdict⟩ := h
  have hplain : ∀ e ∈ results.entries, IsOneLine e.line := by
    -- the line of a result is among the lines of the file, and these have no line ends
    intro e he
    obtain ⟨head, tail, hls⟩ := (hresults _).mpr rfl
    have hmem : "- " ++ e.line ∈ endedLines (text results c) := by
      have hresult := List.mem_map_of_mem (f := fun e : StageResult => "- " ++ e.line) he
      rw [hls]
      simp only [List.mem_append, hresult, or_true, true_or]
    exact ((isOneLine_append _ _).mp (isOneLine_of_mem_endedLines hmem)).2
  have hlines := endedLines_text hdate hplatform hversion hplain
  refine ⟨hplain, ?_⟩
  rintro (⟨u, v, htitle⟩ | ⟨v, htitle⟩)
  · -- from the heading in the title on, more lines than there are results are read
    have hrs := (hresults (v ++ preface c ++ resultsHeading ++
      results.entries.map ("- " ++ ·.line))).mp
        ⟨u, tallies results.summary ++ [verdictLine results.summary.overallSuccess], by
          rw [hlines, title, ← htitle]
          simp only [List.append_assoc]⟩
    have := congrArg List.length hrs
    simp [resultsHeading] at this
    omega
  · -- a verdict in the title is not the last one
    rw [hlines] at hinit
    obtain ⟨rfl, -⟩ := List.append_inj' hinit rfl
    exact hverdict v (by simp [title, htitle])

/-- Where every result is on one line and nothing in the title is taken for a heading or a verdict,
the layout is kept. -/
theorem laidOut_of_plain (hplain : ∀ e ∈ results.entries, IsOneLine e.line)
    (hforges : ¬ Forges c.project) :
    LaidOut (endedLines (text results c)) results.entries results.summary.overallSuccess := by
  obtain ⟨hheading, hverdict⟩ := not_or.mp hforges
  have hlines := endedLines_text hdate hplatform hversion hplain
  constructor
  · intro rs
    constructor
    · rintro ⟨head, tail, hls⟩
      rw [hlines] at hls
      simp only [resultsHeading, List.append_assoc, List.cons_append, List.nil_append] at hls
      rw [← List.append_assoc (texts _)] at hls
      -- the heading only stands over the results, and behind them there is one blank line
      obtain ⟨-, hbehind⟩ := eq_of_append_pair (by decide) (fun h => hheading
        (pair_infix_of_append (texts_title_ne_append c) (heading_notMem_preface c) h))
        (heading_notMem_results results) hls
      exact ((List.append_cons_inj_of_notMem (blank_notMem_results _)
        (blank_notMem_counts _)).mp hbehind).1.symm
    · rintro rfl
      exact ⟨_, tallies results.summary ++ [verdictLine results.summary.overallSuccess], by
        rw [hlines, List.append_assoc _ (tallies _)]⟩
  · refine ⟨_, hlines, fun v => ?_⟩
    have htitle : verdictLine v ∉ texts (title c) := fun h => hverdict ⟨v, h⟩
    have hheadings : ∀ v, verdictLine v ∉ resultsHeading ∧ verdictLine v ∉ ["", "Summary:"] := by
      decide
    simp only [List.mem_append, not_or]
    exact ⟨⟨⟨⟨⟨htitle, verdictLine_notMem_preface v c⟩, (hheadings v).1⟩,
      verdictLine_notMem_results v _⟩, (hheadings v).2⟩, verdictLine_notMem_tallies v _⟩

/-- **The layout of a text summary is kept** exactly if every result is written on one line and
the name of the project puts no heading over results and no verdict into the title. -/
theorem laidOut_text_iff (results : ResultSet) :
    LaidOut (endedLines (text results c)) results.entries results.summary.overallSuccess ↔
      (∀ e ∈ results.entries, IsOneLine e.line) ∧ ¬ Forges c.project :=
  ⟨plain_of_laidOut hdate hplatform hversion,
    fun ⟨hplain, hforges⟩ => laidOut_of_plain hdate hplatform hversion hplain hforges⟩

end Reading

end Report

end Testbench
