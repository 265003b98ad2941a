import Mathlib.Data.List.Forall2
import Testbench.Proofs.Json.Writing
import Testbench.Report.Document

/-!
# What the report for programs says

The structured summary is one value in the grammar of JSON with a line end behind it, and reading it
gives back the run it was written for, up to the durations of the stages. The name of the project
is no part of it.

- `Json.KeysDistinct`: no object in a value has two members of one key.
- `StageResult.Shows`, `Report.Describes`: what a member of the tests has to say of a result, and a
  document of a run.
- `Report.describes_document`: the document of a run describes the run.
- `Report.Describes.alike`: a document describes one run at most, up to the durations.
- `Report.json_decodes`: both, for the text of the document.
-/

namespace Testbench

/-- No object in the value has two members of one key. -/
inductive Json.KeysDistinct : Json → Prop where
  | null : KeysDistinct .null
  | bool (value : Bool) : KeysDistinct (.bool value)
  | number (value : Json.Numeral) : KeysDistinct (.number value)
  | string (value : String) : KeysDistinct (.string value)
  | array {items : List Json} (values : ∀ j ∈ items, KeysDistinct j) :
      KeysDistinct (.array items)
  | object {members : List (String × Json)} (nodup : (members.map (·.1)).Nodup)
      (values : ∀ m ∈ members, KeysDistinct m.2) : KeysDistinct (.object members)

/-! ## Results -/

namespace StageResult

/-- What a member of the tests has to say of a result: a stage that ran has a duration and no
reason, one that was skipped has a reason and no duration. -/
def Shows (r : StageResult) (m : String × Json) : Prop :=
  m.1 = r.name ∧ match r.verdict with
    | .ran success _ => ∃ n, m.2 = .object
        [("success", .bool success), ("duration", .number n), ("skipped", .bool false)]
    | .skipped reason => m.2 = .object
        [("success", .bool false), ("skipped", .bool true), ("reason", .string reason)]

/-- Two results that differ in their durations at most. -/
inductive Alike : StageResult → StageResult → Prop where
  | ran (name : String) (success : Bool) (elapsed elapsed' : Duration) :
      Alike ⟨name, .ran success elapsed⟩ ⟨name, .ran success elapsed'⟩
  | skipped (name reason : String) : Alike ⟨name, .skipped reason⟩ ⟨name, .skipped reason⟩

theorem shows_toJson : ∀ r : StageResult, r.Shows (r.name, r.toJson)
  | ⟨_, .ran _ _⟩ => ⟨rfl, _, rfl⟩
  | ⟨_, .skipped _⟩ => ⟨rfl, rfl⟩

/-- A member says all of a result but how long the stage took. -/
theorem Shows.alike {r r' : StageResult} {m : String × Json} (h : r.Shows m) (h' : r'.Shows m) :
    r.Alike r' := by
  obtain ⟨name, verdict⟩ := r
  obtain ⟨name', verdict'⟩ := r'
  obtain ⟨key, value⟩ := m
  obtain ⟨rfl, hvalue⟩ := h
  obtain ⟨hname, hvalue'⟩ := h'
  dsimp only at hname hvalue hvalue'
  subst hname
  cases verdict with
  | ran success elapsed =>
    obtain ⟨n, rfl⟩ := hvalue
    cases verdict' with
    | ran success' elapsed' =>
      obtain ⟨n', hn⟩ := hvalue'
      simp only [Json.object.injEq, List.cons.injEq, Prod.mk.injEq, Json.bool.injEq, true_and,
        and_true] at hn
      obtain ⟨rfl, -⟩ := hn
      exact .ran ..
    | skipped reason => simp at hvalue'
  | skipped reason =>
    subst hvalue
    cases verdict' with
    | ran success' elapsed' => simp at hvalue'
    | skipped reason' =>
      simp only [Json.object.injEq, List.cons.injEq, Prod.mk.injEq, Json.string.injEq, true_and,
        and_true] at hvalue'
      subst hvalue'
      exact .skipped ..

theorem Shows.keysDistinct {r : StageResult} {m : String × Json} (h : r.Shows m) :
    m.2.KeysDistinct := by
  obtain ⟨name, verdict⟩ := r
  obtain ⟨key, value⟩ := m
  obtain ⟨-, hvalue⟩ := h
  dsimp only at hvalue ⊢
  cases verdict with
  | ran success elapsed =>
    obtain ⟨n, rfl⟩ := hvalue
    refine .object (by simp) ?_
    simpa using ⟨.bool success, .number n, .bool false⟩
  | skipped reason =>
    subst hvalue
    refine .object (by simp) ?_
    simpa using ⟨.bool false, .bool true, .string reason⟩

/-- The members of the tests are named like the results, in their order. -/
theorem map_fst_of_shows {results : List StageResult} {tests : List (String × Json)}
    (h : List.Forall₂ Shows results tests) : tests.map (·.1) = results.map (·.name) := by
  induction h with
  | nil => rfl
  | cons h _ ih => rw [List.map_cons, List.map_cons, h.1, ih]

theorem alike_of_shows {results results' : List StageResult} {tests : List (String × Json)}
    (h : List.Forall₂ Shows results tests) (h' : List.Forall₂ Shows results' tests) :
    List.Forall₂ Alike results results' := by
  induction h generalizing results' with
  | nil =>
    cases h'
    exact .nil
  | cons h _ ih =>
    cases h' with
    | cons h' hs' => exact .cons (h.alike h') (ih hs')

end StageResult

/-! ## Documents -/

/-- The members of a table of known issues, one for each declaration. -/
def KnownIssues.members (t : KnownIssues) : List (String × Json) :=
  t.entries.map fun i => (i.stage, .string i.reason)

theorem KnownIssues.keysDistinct_members (t : KnownIssues) :
    (Json.object t.members).KeysDistinct := by
  unfold members
  refine .object (by simpa [Function.comp_def] using t.nodup) fun m hm => ?_
  obtain ⟨i, -, rfl⟩ := List.mem_map.mp hm
  exact .string i.reason

/-- The members say all of a table. -/
theorem KnownIssues.members_injective {t t' : KnownIssues} (h : t.members = t'.members) :
    t = t' := by
  obtain ⟨entries, inked, nodup⟩ := t
  obtain ⟨entries', inked', nodup'⟩ := t'
  have hentry : Function.Injective fun i : KnownIssue => (i.stage, Json.string i.reason) := by
    rintro ⟨stage, reason⟩ ⟨stage', reason'⟩ hi
    simpa using hi
  have hentries : entries = entries' := List.map_injective_iff.mpr hentry h
  subst hentries
  rfl

namespace Report

/-- What a document has to say of a run. -/
structure Describes (doc : Json) (results : ResultSet) (issues : KnownIssues) (c : Context) :
    Prop where
  /-- There are nine members in a fixed order, with one test for each result and one known issue
  for each declaration, in their orders. -/
  members : ∃ tests, List.Forall₂ StageResult.Shows results.entries tests ∧ doc = .object
    [("timestamp", .string c.timestamp), ("platform", .string c.platform),
     ("toolchain_version", .string c.toolchainVersion), ("tests", .object tests),
     ("total_tests", .nat results.summary.total),
     ("successful_tests", .nat results.summary.successful),
     ("skipped_tests", .nat results.summary.skipped), ("known_issues", .object issues.members),
     ("overall_success", .bool results.summary.overallSuccess)]
  keysDistinct : doc.KeysDistinct

/-- Two contexts that differ in the name of the project at most. -/
structure Context.Alike (c c' : Context) : Prop where
  timestamp : c.timestamp = c'.timestamp
  platform : c.platform = c'.platform
  toolchainVersion : c.toolchainVersion = c'.toolchainVersion

variable {doc : Json} {results results' : ResultSet} {issues issues' : KnownIssues}
  {c c' : Context}

/-- The members of the tests have different keys because no stage is recorded twice. -/
theorem keysDistinct_tests {tests : List (String × Json)}
    (h : List.Forall₂ StageResult.Shows results.entries tests) :
    (Json.object tests).KeysDistinct := by
  refine .object (StageResult.map_fst_of_shows h ▸ results.nodup) fun m hm => ?_
  obtain ⟨r, hr⟩ : ∃ r : StageResult, r.Shows m := by
    obtain ⟨hlen, hget⟩ := List.forall₂_iff_get.mp h
    obtain ⟨i, hi, rfl⟩ := List.mem_iff_getElem.mp hm
    exact ⟨_, hget i (hlen ▸ hi) hi⟩
  exact hr.keysDistinct

/-- The document of a run describes the run. -/
theorem describes_document (results : ResultSet) (issues : KnownIssues) (c : Context) :
    Describes (document results issues c) results issues c := by
  have htests : List.Forall₂ StageResult.Shows results.entries
      (results.entries.map fun r => (r.name, r.toJson)) :=
    List.forall₂_map_right_iff.mpr (List.forall₂_same.mpr fun r _ => r.shows_toJson)
  refine ⟨⟨_, htests, rfl⟩, .object (by simp) ?_⟩
  simp only [List.forall_mem_cons]
  exact ⟨.string _, .string _, .string _, keysDistinct_tests htests, .number _, .number _,
    .number _, issues.keysDistinct_members, .bool _, by simp⟩

/-- A document describes one run at most, up to the durations and the name of the project. -/
theorem Describes.alike (h : Describes doc results issues c)
    (h' : Describes doc results' issues' c') :
    List.Forall₂ StageResult.Alike results.entries results'.entries ∧ issues = issues' ∧
      c.Alike c' := by
  obtain ⟨tests, htests, hdoc⟩ := h.members
  obtain ⟨tests', htests', hdoc'⟩ := h'.members
  rw [hdoc] at hdoc'
  simp only [Json.object.injEq, List.cons.injEq, Prod.mk.injEq, Json.string.injEq, true_and,
    and_true] at hdoc'
  obtain ⟨htime, hplatform, hversion, rfl, -, -, -, hissues, -⟩ := hdoc'
  exact ⟨StageResult.alike_of_shows htests htests', KnownIssues.members_injective hissues, htime,
    hplatform, hversion⟩

/-! ## Texts -/

/-- The reader finds the document in the text. -/
theorem read_json (results : ResultSet) (issues : KnownIssues) (c : Context) :
    Json.read (json results issues c) = some (document results issues c) :=
  Json.read_pretty _ (by simp [Json.IsGap, Json.isGap])

/-- The text of a run is one value with a single line end behind it. The value describes the run,
and runs with the same text differ in durations and in the name of the project at most. -/
theorem json_decodes (results : ResultSet) (issues : KnownIssues) (c : Context) :
    ∃ body doc, (json results issues c).toList = body ++ ['\n'] ∧
      (∀ j : Json, j.Spells body ↔ j = doc) ∧ Json.read (json results issues c) = some doc ∧
      Describes doc results issues c ∧
      ∀ results' issues' c', json results' issues' c' = json results issues c →
        List.Forall₂ StageResult.Alike results'.entries results.entries ∧ issues' = issues ∧
          c'.Alike c := by
  have hspells := Json.spells_pretty (document results issues c)
  refine ⟨(document results issues c).pretty.toList, document results issues c, ?_, fun j => ?_,
    read_json results issues c, describes_document results issues c, ?_⟩
  · simp [json]
  · exact ⟨fun hj => Json.eq_of_spells hj hspells, fun hj => hj ▸ hspells⟩
  · intro results' issues' c' heq
    have hread := read_json results' issues' c'
    rw [heq, read_json results issues c] at hread
    exact (Option.some.inj hread ▸ describes_document results' issues' c').alike
      (describes_document results issues c)

/-- A run of two stages, of which one was skipped for a reason with quotes and a line end in it. Its
text is read back to a document that describes it, and there the reason is as it was. -/
theorem json_decodes_escaped :
    let results : ResultSet :=
      ⟨[.completed "SwiftPM" true ⟨2, 500000000⟩, .skipped "XCFramework" "no \"XCFramework\"\n"],
        by decide⟩
    let c : Context := ⟨"GRDB.swift", "2024-05-01T00:00:00Z", "Linux", "6.1"⟩
    ∃ doc seconds, Json.read (json results .standard c) = some doc ∧
      Describes doc results .standard c ∧
      doc.field? "tests" = some (.object
        [("SwiftPM", .object
          [("success", .bool true), ("duration", .number seconds), ("skipped", .bool false)]),
         ("XCFramework", .object
          [("success", .bool false), ("skipped", .bool true),
           ("reason", .string "no \"XCFramework\"\n")])]) ∧
      doc.field? "overall_success" = some (.bool true) := by
  intro results c
  obtain ⟨_, doc, -, -, hread, hdescribes, -⟩ := json_decodes results .standard c
  obtain ⟨tests, htests, rfl⟩ := hdescribes.members
  obtain ⟨⟨ran, _⟩, _, ⟨rfl, seconds, rfl⟩, hskipped, rfl⟩ := List.forall₂_cons_left_iff.mp htests
  obtain ⟨⟨skipped, _⟩, _, ⟨rfl, rfl⟩, hend, rfl⟩ := List.forall₂_cons_left_iff.mp hskipped
  cases hend
  exact ⟨_, seconds, hread, hdescribes, rfl, rfl⟩

/-- The name of the project is no part of the text. -/
theorem json_eq_of_renamed :
    json .empty .standard ⟨"GRDB.swift", "2024-05-01T00:00:00Z", "Linux", "6.1"⟩ =
        json .empty .standard ⟨"Other", "2024-05-01T00:00:00Z", "Linux", "6.1"⟩ ∧
      (⟨"GRDB.swift", "2024-05-01T00:00:00Z", "Linux", "6.1"⟩ : Context) ≠
        ⟨"Other", "2024-05-01T00:00:00Z", "Linux", "6.1"⟩ :=
  ⟨rfl, by decide⟩

end Report

end Testbench
