import Mathlib.Data.List.Forall2
import Testbench.Proofs.Config.Rules
import Testbench.Proofs.Toml.Has

/-!
# Fields of a document

A configuration is read field by field, out of the document and its sections. A section that is left
out is read as an empty one.

- `Config.Field.path`, `Config.levels`, `Config.declared`: where the fields stand, and the keys that
  may be used.
- `text?_eq_some_iff`, `number?_eq_some_iff`, `section?_eq_some_iff`: what is found under a key.
- `Config.Spells`, `knownIssuesOf?_eq_some_iff`: how known issues are written.
- `ofToml?_iff_fields`: the whole document.
-/

namespace Testbench

namespace Config

open Toml (Members)

/-! ## Fields -/

/-- The keys that lead to the section of a field. -/
def Field.level : Field → List String
  | projectName => []
  | program | banner | testStage => ["toolchain"]
  | targetOs | patchesDir | testsDir | supportDir | graphicsTest | labelSupport
  | snapshotTest => ["patches"]
  | sqliteStage | header => ["sqlite"]

/-- The key of a field in its section. -/
def Field.key : Field → String
  | projectName => "project_name"
  | program => "program"
  | banner => "version_prefix"
  | testStage => "test_stage"
  | targetOs => "target_os"
  | patchesDir => "patches_dir"
  | testsDir => "tests_dir"
  | supportDir => "support_dir"
  | graphicsTest => "cgfloat_test"
  | labelSupport => "dispatch_support"
  | snapshotTest => "snapshot_test"
  | sqliteStage => "stage"
  | header => "header"

/-- The keys that lead to a field. -/
def Field.path (f : Field) : List String := f.level ++ [f.key]

/-- The document and its sections. -/
def levels : List (List String) := [[], ["toolchain"], ["patches"], ["sqlite"]]

/-- The keys that may be used in the document or a section. -/
def declared : List String → List String
  | [] => ["project_name", "toolchain", "patches", "sqlite", "known_issues"]
  | ["toolchain"] => ["program", "version_prefix", "min_major_version", "test_stage"]
  | ["patches"] => ["target_os", "patches_dir", "tests_dir", "support_dir", "cgfloat_test",
    "dispatch_support", "snapshot_test"]
  | ["sqlite"] => ["stage", "header"]
  | _ => []

/-! ## Members -/

section Members

variable {ms ms' : Members} {k d s : String} {n m : Nat} {names : List String}

theorem fieldsOf?_table_iff :
    fieldsOf? names (.table ms) = some ms' ↔ (∀ m ∈ ms, m.1 ∈ names) ∧ ms' = ms := by
  have hall : (ms.all fun m => names.contains m.1) = true ↔ ∀ m ∈ ms, m.1 ∈ names := by simp
  rw [fieldsOf?, ← hall]
  split
  · next h => simp only [h, Option.some.injEq, true_and, eq_comm]
  · next h => simp only [h, reduceCtorEq, false_and]

/-- A text is what stands under its key, or the standard text where nothing does. -/
theorem text?_eq_some_iff (hkeys : (ms.map Prod.fst).Nodup) :
    text? ms k d = some s ↔ (k, .string s) ∈ ms ∨ (∀ v, (k, v) ∉ ms) ∧ s = d := by
  rw [← Toml.lookup_eq_none_iff_notMem, ← Toml.lookup_eq_some_iff_mem hkeys]
  unfold text?
  split
  · next h => simp [h, eq_comm]
  · next t h => simp [h]
  · next v hstring h =>
    simp only [h, reduceCtorEq, Option.some.injEq, false_and, or_false, false_iff]
    exact hstring s

/-- A number is what stands under its key, or the standard number where nothing does. -/
theorem number?_eq_some_iff (hkeys : (ms.map Prod.fst).Nodup) :
    number? ms k m = some n ↔
      ((k, .integer n) ∈ ms ∧ n < UInt32.size) ∨ (∀ v, (k, v) ∉ ms) ∧ n = m := by
  rw [← Toml.lookup_eq_none_iff_notMem, ← Toml.lookup_eq_some_iff_mem hkeys]
  unfold number?
  split
  · next h => simp [h, eq_comm]
  · next i h =>
    simp only [h, Option.some.injEq, Toml.integer.injEq, reduceCtorEq, false_and, or_false]
    split
    · simp only [Option.some.injEq]
      omega
    · simp only [reduceCtorEq, false_iff]
      omega
  · next v hinteger h =>
    simp only [h, reduceCtorEq, Option.some.injEq, false_and, or_false, false_iff, not_and]
    exact fun heq => absurd heq (hinteger n)

theorem section?_eq_some_iff {α : Type} {decode : Toml → Option α} {standard a : α}
    (hkeys : (ms.map Prod.fst).Nodup) : section? ms k standard decode = some a ↔
      (∃ v, (k, v) ∈ ms ∧ decode v = some a) ∨ (∀ v, (k, v) ∉ ms) ∧ a = standard := by
  rw [← Toml.lookup_eq_none_iff_notMem]
  simp only [← Toml.lookup_eq_some_iff_mem hkeys]
  unfold section?
  split
  · next h => simp [h, eq_comm]
  · next v h => simp [h]

end Members

/-! ## Known issues -/

/-- A known issue is written as a table of exactly its stage and its reason, or as an array that
begins with these. -/
inductive Spells (i : KnownIssue) : Toml → Prop
  | table {ms : Members}
      (entries : ms.Perm [("stage", .string i.stage), ("reason", .string i.reason)]) :
      Spells i (.table ms)
  | array (rest : List Toml) : Spells i (.array (.string i.stage :: .string i.reason :: rest))

theorem mapM_eq_some_iff {α β : Type} {f : α → Option β} {R : α → β → Prop} :
    ∀ {as : List α} {bs : List β}, (∀ a ∈ as, ∀ b, f a = some b ↔ R a b) →
      (as.mapM f = some bs ↔ List.Forall₂ R as bs)
  | [], bs, _ => by simp [eq_comm]
  | a :: as, bs, h => by
    obtain ⟨ha, has⟩ := List.forall_mem_cons.mp h
    rw [List.mapM_cons, List.forall₂_cons_left_iff]
    simp only [bind, Option.bind_eq_some_iff, mapM_eq_some_iff has, ha]
    constructor
    · rintro ⟨b, hb, bs', hbs', hbs⟩
      exact ⟨b, bs', hb, hbs', (Option.some.inj hbs).symm⟩
    · rintro ⟨b, bs', hb, hbs', rfl⟩
      exact ⟨b, hb, bs', hbs', rfl⟩

section Issues

variable {ms : Members} {i : KnownIssue}

/-- A known issue is found in the members if there are a stage and a reason. -/
theorem issueIn_eq_some_iff :
    (match ms.lookup "stage", ms.lookup "reason" with
      | some (.string stage), some (.string reason) => some ⟨stage, reason⟩
      | _, _ => none) = some i ↔
    ms.lookup "stage" = some (.string i.stage) ∧ ms.lookup "reason" = some (.string i.reason) := by
  split
  · next stage reason hstage hreason =>
    rw [hstage, hreason]
    cases i
    simp
  · next hnot =>
    simp only [reduceCtorEq, false_iff, not_and]
    exact fun hstage hreason => hnot _ _ hstage hreason

theorem knownIssueOf?_table_iff (hkeys : (ms.map Prod.fst).Nodup) :
    knownIssueOf? (.table ms) = some i ↔ Spells i (.table ms) := by
  have hdecode : knownIssueOf? (.table ms) = some i ↔ (∀ m ∈ ms, m.1 ∈ ["stage", "reason"]) ∧
      (("stage", .string i.stage) ∈ ms ∧ ("reason", .string i.reason) ∈ ms) := by
    unfold knownIssueOf?
    simp only [bind, Option.bind_eq_some_iff, fieldsOf?_table_iff, pure]
    simp only [← Toml.lookup_eq_some_iff_mem hkeys, ← issueIn_eq_some_iff]
    constructor
    · rintro ⟨_, ⟨hall, rfl⟩, h⟩
      exact ⟨hall, h⟩
    · rintro ⟨hall, h⟩
      exact ⟨_, ⟨hall, rfl⟩, h⟩
  rw [hdecode]
  constructor
  · rintro ⟨hall, hstage, hreason⟩
    refine .table ((List.perm_ext_iff_of_nodup hkeys.of_map (by simp)).mpr fun m => ?_)
    simp only [List.mem_cons, List.not_mem_nil, or_false]
    constructor
    · intro hm
      -- the key of a member is one of the two, and tells which member it is
      have hkey := hall m hm
      simp only [List.mem_cons, List.not_mem_nil, or_false] at hkey
      exact hkey.imp (List.inj_on_of_nodup_map hkeys hm hstage)
        (List.inj_on_of_nodup_map hkeys hm hreason)
    · rintro (rfl | rfl)
      · exact hstage
      · exact hreason
  · rintro (⟨hperm⟩ | -)
    simp [hperm.mem_iff]

theorem knownIssueOf?_array_iff {items : List Toml} :
    knownIssueOf? (.array items) = some i ↔ Spells i (.array items) := by
  have hspells : Spells i (.array items) ↔
      ∃ rest, items = .string i.stage :: .string i.reason :: rest := by
    constructor
    · rintro (_ | ⟨rest⟩)
      exact ⟨rest, rfl⟩
    · rintro ⟨rest, rfl⟩
      exact .array rest
  have hdecode : knownIssueOf? (.array items) = some i ↔
      (["stage", "reason"].zip items).lookup "stage" = some (.string i.stage) ∧
        (["stage", "reason"].zip items).lookup "reason" = some (.string i.reason) := by
    rw [← issueIn_eq_some_iff]
    rfl
  rw [hspells, hdecode]
  match items with
  | [] => simp
  | [a] => simp [List.lookup_cons]
  | a :: c :: rest => simp [List.lookup_cons]

/-- One known issue is read from what spells it. -/
theorem knownIssueOf?_eq_some_iff {v : Toml} (h : v.Distinct) {i : KnownIssue} :
    knownIssueOf? v = some i ↔ Spells i v := by
  cases h with
  | table hkeys _ => exact knownIssueOf?_table_iff hkeys
  | array _ => exact knownIssueOf?_array_iff
  | _ =>
    constructor
    · intro h
      cases h
    · rintro ⟨⟩

theorem ofList_toOption_iff {issues : List KnownIssue} {t : KnownIssues} :
    (KnownIssues.ofList issues).toOption = some t ↔ t.entries = issues := by
  rw [← KnownIssues.ofList_eq_ok_iff]
  cases KnownIssues.ofList issues <;> simp [Except.toOption]

/-- The known issues are read from an array in which each of them is spelled. -/
theorem knownIssuesOf?_eq_some_iff {v : Toml} (h : v.Distinct) {t : KnownIssues} :
    knownIssuesOf? v = some t ↔ ∃ items, v = .array items ∧
      List.Forall₂ (fun item i => Spells i item) items t.entries := by
  cases h with
  | @array items inner =>
    have hread {issues : List KnownIssue} : items.mapM knownIssueOf? = some issues ↔
        List.Forall₂ (fun item i => Spells i item) items issues :=
      mapM_eq_some_iff fun item hitem i => knownIssueOf?_eq_some_iff (inner item hitem)
    unfold knownIssuesOf?
    simp only [bind, Option.bind_eq_some_iff, hread, Toml.array.injEq, exists_eq_left']
    constructor
    · rintro ⟨issues, hissues, htable⟩
      rw [ofList_toOption_iff] at htable
      rwa [htable]
    · intro hissues
      exact ⟨t.entries, hissues, ofList_toOption_iff.mpr rfl⟩
  | _ =>
    constructor
    · intro h
      cases h
    · rintro ⟨items, heq, -⟩
      cases heq

end Issues

/-! ## Sections -/

section Sections

variable {ms : Members}

theorem toolchainOf?_table_iff {a : Toolchain} : toolchainOf? (.table ms) = some a ↔
    (∀ m ∈ ms, m.1 ∈ declared ["toolchain"]) ∧
      text? ms "program" Toolchain.standard.program = some a.program ∧
      text? ms "version_prefix" Toolchain.standard.banner = some a.banner ∧
      number? ms "min_major_version" Toolchain.standard.minMajor = some a.minMajor ∧
      text? ms "test_stage" Toolchain.standard.testStage = some a.testStage := by
  unfold toolchainOf?
  simp only [bind, Option.bind_eq_some_iff, fieldsOf?_table_iff, pure, Option.some.injEq]
  constructor
  · rintro ⟨_, ⟨hkeys, rfl⟩, _, hprogram, _, hbanner, _, hminMajor, _, htestStage, rfl⟩
    exact ⟨hkeys, hprogram, hbanner, hminMajor, htestStage⟩
  · rintro ⟨hkeys, hprogram, hbanner, hminMajor, htestStage⟩
    exact ⟨_, ⟨hkeys, rfl⟩, _, hprogram, _, hbanner, _, hminMajor, _, htestStage, rfl⟩

theorem layoutOf?_table_iff {a : Patch.Layout} : layoutOf? (.table ms) = some a ↔
    (∀ m ∈ ms, m.1 ∈ declared ["patches"]) ∧
      text? ms "target_os" Patch.Layout.standard.targetOs = some a.targetOs ∧
      text? ms "patches_dir" Patch.Layout.standard.patchesDir = some a.patchesDir ∧
      text? ms "tests_dir" Patch.Layout.standard.testsDir = some a.testsDir ∧
      text? ms "support_dir" Patch.Layout.standard.supportDir = some a.supportDir ∧
      text? ms "cgfloat_test" Patch.Layout.standard.graphicsTest = some a.graphicsTest ∧
      text? ms "dispatch_support" Patch.Layout.standard.labelSupport = some a.labelSupport ∧
      text? ms "snapshot_test" Patch.Layout.standard.snapshotTest = some a.snapshotTest := by
  unfold layoutOf?
  simp only [bind, Option.bind_eq_some_iff, fieldsOf?_table_iff, pure, Option.some.injEq]
  constructor
  · rintro ⟨_, ⟨hkeys, rfl⟩, _, h₁, _, h₂, _, h₃, _, h₄, _, h₅, _, h₆, _, h₇, rfl⟩
    exact ⟨hkeys, h₁, h₂, h₃, h₄, h₅, h₆, h₇⟩
  · rintro ⟨hkeys, h₁, h₂, h₃, h₄, h₅, h₆, h₇⟩
    exact ⟨_, ⟨hkeys, rfl⟩, _, h₁, _, h₂, _, h₃, _, h₄, _, h₅, _, h₆, _, h₇, rfl⟩

theorem headerCheckOf?_table_iff {a : HeaderCheck} : headerCheckOf? (.table ms) = some a ↔
    (∀ m ∈ ms, m.1 ∈ declared ["sqlite"]) ∧
      text? ms "stage" HeaderCheck.standard.stage = some a.stage ∧
      text? ms "header" HeaderCheck.standard.header = some a.header := by
  unfold headerCheckOf?
  simp only [bind, Option.bind_eq_some_iff, fieldsOf?_table_iff, pure, Option.some.injEq]
  constructor
  · rintro ⟨_, ⟨hkeys, rfl⟩, _, hstage, _, hheader, rfl⟩
    exact ⟨hkeys, hstage, hheader⟩
  · rintro ⟨hkeys, hstage, hheader⟩
    exact ⟨_, ⟨hkeys, rfl⟩, _, hstage, _, hheader, rfl⟩

/-- The members of the document or of one of its sections. -/
def level (doc : Toml) : List String → Members
  | [] => doc.members
  | k :: _ => ((doc.members.lookup k).map Toml.members).getD []

variable {doc v : Toml} {key : String} {path : List String}

theorem level_singleton (doc : Toml) (k : String) :
    level doc [k] = ((doc.members.lookup k).map Toml.members).getD [] := rfl

/-- What stands under a key of the document or of a section is among its members. -/
theorem has_iff_mem_level (hdoc : doc.Distinct) (hpath : path ∈ levels) :
    doc.Has (path ++ [key]) v ↔ (key, v) ∈ level doc path := by
  have hsection (k : String) : doc.Has [k, key] v ↔ (key, v) ∈ level doc [k] := by
    rw [Toml.has_pair_iff, level_singleton]
    simp only [← Toml.lookup_eq_some_iff_mem hdoc.members_nodup]
    cases doc.members.lookup k <;> simp
  simp only [levels, List.mem_cons, List.not_mem_nil, or_false] at hpath
  rcases hpath with rfl | rfl | rfl | rfl
  · exact Toml.has_singleton_iff
  · exact hsection _
  · exact hsection _
  · exact hsection _

theorem level_nodup (hdoc : doc.Distinct) (hpath : path ∈ levels) :
    ((level doc path).map Prod.fst).Nodup := by
  have hsection (k : String) : ((level doc [k]).map Prod.fst).Nodup := by
    rw [level_singleton]
    cases h : doc.members.lookup k with
    | none => simp
    | some w =>
      have hmem := (Toml.lookup_eq_some_iff_mem hdoc.members_nodup).mp h
      exact (hdoc.of_mem_members hmem).members_nodup
  simp only [levels, List.mem_cons, List.not_mem_nil, or_false] at hpath
  rcases hpath with rfl | rfl | rfl | rfl
  · exact hdoc.members_nodup
  · exact hsection _
  · exact hsection _
  · exact hsection _

/-- A section that is left out is read as an empty table is. -/
theorem section?_eq {α : Type} (doc : Toml) (k : String) {decode : Toml → Option α} {standard : α}
    (hstandard : decode (.table []) = some standard)
    (htable : ∀ w, doc.members.lookup k = some w → ∃ ms, w = .table ms) :
    (section? doc.members k standard decode) = decode (.table (level doc [k])) := by
  rw [level_singleton, section?]
  cases h : doc.members.lookup k with
  | none => exact hstandard.symm
  | some w =>
    obtain ⟨ms, rfl⟩ := htable w h
    rfl

/-- The document and its sections are tables. -/
def Tabular (doc : Toml) : Prop := ∀ path ∈ levels, ∀ v, doc.Has path v → ∃ ms, v = .table ms

/-- A document is read field by field, each field out of its section. -/
theorem ofToml?_iff_fields {c : Config} (hdoc : doc.Distinct) (htables : Tabular doc) :
    ofToml? doc = some c ↔ (∀ path ∈ levels, ∀ m ∈ level doc path, m.1 ∈ declared path) ∧
      (∀ f : Field, text? (level doc f.level) f.key (Config.standard.value f) = some (c.value f)) ∧
      number? (level doc ["toolchain"]) "min_major_version" Config.standard.toolchain.minMajor =
        some c.toolchain.minMajor ∧
      (section? doc.members "known_issues" Config.standard.knownIssues knownIssuesOf?) =
        some c.knownIssues := by
  obtain ⟨ms, rfl⟩ := htables [] (by simp [levels]) doc .here
  have htable {k : String} (hk : [k] ∈ levels) (w : Toml) (hw : ms.lookup k = some w) :
      ∃ ms, w = .table ms :=
    htables [k] hk w (Toml.has_singleton_iff.mpr
      ((Toml.lookup_eq_some_iff_mem hdoc.members_nodup).mp hw))
  have htoolchain := section?_eq (.table ms) "toolchain"
    (show toolchainOf? (.table []) = some Config.standard.toolchain from rfl)
    (htable (by simp [levels]))
  have hpatches := section?_eq (.table ms) "patches"
    (show layoutOf? (.table []) = some Config.standard.patches from rfl)
    (htable (by simp [levels]))
  have hsqlite := section?_eq (.table ms) "sqlite"
    (show headerCheckOf? (.table []) = some Config.standard.sqlite from rfl)
    (htable (by simp [levels]))
  -- whether it is there or not, each section is decoded from the members of its level
  simp only [Toml.members] at htoolchain hpatches hsqlite ⊢
  unfold ofToml?
  simp only [bind, Option.bind_eq_some_iff, fieldsOf?_table_iff, pure, Option.some.injEq]
  constructor
  · rintro ⟨_, ⟨hkeys, rfl⟩, _, hname, _, h₁, _, h₂, _, h₃, _, hissues, rfl⟩
    rw [htoolchain, toolchainOf?_table_iff] at h₁
    rw [hpatches, layoutOf?_table_iff] at h₂
    rw [hsqlite, headerCheckOf?_table_iff] at h₃
    obtain ⟨hkeys₁, hprogram, hbanner, hminMajor, htestStage⟩ := h₁
    obtain ⟨hkeys₂, htargetOs, hpatches, htests, hsupport, hgraphics, hlabel, hsnapshot⟩ := h₂
    obtain ⟨hkeys₃, hstage, hheader⟩ := h₃
    refine ⟨?_, fun f => ?_, hminMajor, hissues⟩
    · simp only [levels, List.forall_mem_cons]
      exact ⟨hkeys, hkeys₁, hkeys₂, hkeys₃, by simp⟩
    · cases f <;> assumption
  · rintro ⟨hkeys, htexts, hminMajor, hissues⟩
    simp only [levels, List.forall_mem_cons] at hkeys
    obtain ⟨hkeys, hkeys₁, hkeys₂, hkeys₃, -⟩ := hkeys
    refine ⟨_, ⟨hkeys, rfl⟩, c.projectName, htexts .projectName, c.toolchain, ?_, c.patches, ?_,
      c.sqlite, ?_, c.knownIssues, hissues, rfl⟩
    · rw [htoolchain, toolchainOf?_table_iff]
      exact ⟨hkeys₁, htexts .program, htexts .banner, hminMajor, htexts .testStage⟩
    · rw [hpatches, layoutOf?_table_iff]
      exact ⟨hkeys₂, htexts .targetOs, htexts .patchesDir, htexts .testsDir, htexts .supportDir,
        htexts .graphicsTest, htexts .labelSupport, htexts .snapshotTest⟩
    · rw [hsqlite, headerCheckOf?_table_iff]
      exact ⟨hkeys₃, htexts .sqliteStage, htexts .header⟩

end Sections

end Config

end Testbench
