import Mathlib.Data.List.Forall2
import Mathlib.Data.List.Nodup
import Mathlib.Logic.Basic
import Mathlib.Tactic.Choose
import Testbench.Proofs.Config.Fields

/-!
# Configurations from documents

A document that is a configuration mentions declared fields only, each with a value of its type.
What it mentions replaces the standard value, and nothing else does.

- `Config.Conforms`: a document that is a configuration.
- `Config.Overrides`: the standard configuration with what a document mentions replaced.
- `ofToml?_eq_some_iff`: decoding is overriding.
- `Conforms.exists_overrides`: every document that is a configuration describes one.
- `parse_overrides`: what comes of the text of a document.
-/

namespace Testbench

namespace Config

open Toml (Members)

variable {doc : Toml} {c : Config}

/-! ## Documents that are configurations -/

/-- The keys that lead to the least major version. -/
def minMajorPath : List String := ["toolchain", "min_major_version"]

/-- The document is a configuration: it uses declared keys only, all texts are texts, the version is
a number of 32 bits, and the known issues form a table of known issues. -/
structure Conforms (doc : Toml) : Prop where
  tables : ∀ path ∈ levels, ∀ v, doc.Has path v →
    ∃ ms, v = .table ms ∧ ∀ m ∈ ms, m.1 ∈ declared path
  texts : ∀ (f : Field) v, doc.Has f.path v → ∃ s, v = .string s
  number : ∀ v, doc.Has minMajorPath v → ∃ n : Nat, v = .integer n ∧ n < UInt32.size
  issues : ∀ v, doc.Has ["known_issues"] v → ∃ items issues, v = .array items ∧
    List.Forall₂ (fun item i => Spells i item) items issues ∧
      ∃ t, KnownIssues.ofList issues = .ok t

/-- Each field of the configuration holds what the document mentions, or its standard value where
the document mentions nothing. -/
structure Overrides (doc : Toml) (c : Config) : Prop where
  texts : ∀ f : Field, doc.Has f.path (.string (c.value f)) ∨
    (∀ v, ¬ doc.Has f.path v) ∧ c.value f = Config.standard.value f
  number : doc.Has minMajorPath (.integer c.toolchain.minMajor) ∨
    (∀ v, ¬ doc.Has minMajorPath v) ∧ c.toolchain.minMajor = Config.standard.toolchain.minMajor
  issues : (∃ items, doc.Has ["known_issues"] (.array items) ∧
      List.Forall₂ (fun item i => Spells i item) items c.knownIssues.entries) ∨
    (∀ v, ¬ doc.Has ["known_issues"] v) ∧ c.knownIssues = Config.standard.knownIssues

/-! ## Decoding -/

theorem Field.level_mem (f : Field) : f.level ∈ levels := by
  cases f <;> simp [Field.level, levels]

/-- A field of the document, or its standard value. -/
theorem text?_level_iff (hdoc : doc.Distinct) (f : Field) {standard s : String} :
    text? (level doc f.level) f.key standard = some s ↔
      doc.Has f.path (.string s) ∨ (∀ v, ¬ doc.Has f.path v) ∧ s = standard := by
  rw [text?_eq_some_iff (level_nodup hdoc f.level_mem)]
  simp only [Field.path, has_iff_mem_level hdoc f.level_mem]

theorem number?_level_iff (hdoc : doc.Distinct) {standard n : Nat} :
    number? (level doc ["toolchain"]) "min_major_version" standard = some n ↔
      (doc.Has minMajorPath (.integer n) ∧ n < UInt32.size) ∨
        (∀ v, ¬ doc.Has minMajorPath v) ∧ n = standard := by
  have hlevel : ["toolchain"] ∈ levels := by simp [levels]
  have hpath : minMajorPath = ["toolchain"] ++ ["min_major_version"] := rfl
  rw [number?_eq_some_iff (level_nodup hdoc hlevel), hpath]
  simp only [has_iff_mem_level hdoc hlevel]

theorem knownIssues_iff (hdoc : doc.Distinct) {standard t : KnownIssues} :
    (section? doc.members "known_issues" standard knownIssuesOf?) = some t ↔
      (∃ items, doc.Has ["known_issues"] (.array items) ∧
        List.Forall₂ (fun item i => Spells i item) items t.entries) ∨
      (∀ v, ¬ doc.Has ["known_issues"] v) ∧ t = standard := by
  rw [section?_eq_some_iff hdoc.members_nodup]
  simp only [Toml.has_singleton_iff]
  refine or_congr_left ⟨?_, ?_⟩
  · rintro ⟨v, hv, hdecode⟩
    obtain ⟨items, rfl, hitems⟩ :=
      (knownIssuesOf?_eq_some_iff (hdoc.of_mem_members hv)).mp hdecode
    exact ⟨items, hv, hitems⟩
  · rintro ⟨items, hv, hitems⟩
    exact ⟨_, hv, (knownIssuesOf?_eq_some_iff (hdoc.of_mem_members hv)).mpr ⟨items, rfl, hitems⟩⟩

/-- The keys of the document and of its sections are declared ones. -/
theorem keys_iff (hdoc : doc.Distinct) (htables : Tabular doc) :
    (∀ path ∈ levels, ∀ m ∈ level doc path, m.1 ∈ declared path) ↔
      ∀ path ∈ levels, ∀ v, doc.Has path v →
        ∃ ms, v = .table ms ∧ ∀ m ∈ ms, m.1 ∈ declared path := by
  refine forall₂_congr fun path hpath => ⟨fun hkeys v hv => ?_, fun hkeys m hm => ?_⟩
  · obtain ⟨ms, rfl⟩ := htables path hpath v hv
    refine ⟨ms, rfl, fun m hm => hkeys m ?_⟩
    exact (has_iff_mem_level hdoc hpath).mp (Toml.has_concat_iff.mpr ⟨ms, hv, hm⟩)
  · obtain ⟨ms, hv, hm⟩ := Toml.has_concat_iff.mp ((has_iff_mem_level hdoc hpath).mpr hm)
    obtain ⟨_, heq, hall⟩ := hkeys _ hv
    cases heq
    exact hall m hm

/-- What is read field by field is what the document mentions. -/
theorem ofToml?_eq_some_iff_of_tabular (hdoc : doc.Distinct) (htables : Tabular doc) :
    ofToml? doc = some c ↔ Conforms doc ∧ Overrides doc c := by
  rw [ofToml?_iff_fields hdoc htables, keys_iff hdoc htables, number?_level_iff hdoc,
    knownIssues_iff hdoc]
  simp only [text?_level_iff hdoc]
  constructor
  -- under the keys of a field stands one value only, which is the one that was read
  · rintro ⟨hkeys, htexts, hnumber, hissues⟩
    refine ⟨⟨hkeys, fun f v hv => ?_, fun v hv => ?_, fun v hv => ?_⟩, htexts, ?_, hissues⟩
    · rcases htexts f with h | ⟨hnone, -⟩
      · exact ⟨_, hdoc.has_unique hv h⟩
      · exact absurd hv (hnone v)
    · rcases hnumber with ⟨h, hsmall⟩ | ⟨hnone, -⟩
      · exact ⟨_, hdoc.has_unique hv h, hsmall⟩
      · exact absurd hv (hnone v)
    · rcases hissues with ⟨items, h, hitems⟩ | ⟨hnone, -⟩
      · exact ⟨items, _, hdoc.has_unique hv h, hitems, _, KnownIssues.ofList_eq_ok_iff.mpr rfl⟩
      · exact absurd hv (hnone v)
    · exact hnumber.imp_left And.left
  · rintro ⟨hconforms, htexts, hnumber, hissues⟩
    refine ⟨hconforms.tables, htexts, hnumber.imp_left fun h => ⟨h, ?_⟩, hissues⟩
    obtain ⟨n, heq, hsmall⟩ := hconforms.number _ h
    cases heq
    exact hsmall

/-- Only tables and arrays have fields. -/
theorem exists_of_fieldsOf? {names : List String} {v : Toml} {ms : Members}
    (h : fieldsOf? names v = some ms) : (∃ ms, v = .table ms) ∨ ∃ items, v = .array items := by
  cases v with
  | table ms => exact .inl ⟨ms, rfl⟩
  | array items => exact .inr ⟨items, rfl⟩
  | _ => cases h

/-- A section that is read is a table, where it is no array. -/
theorem table_of_section? {α : Type} {decode : Toml → Option α} {standard a : α} {k : String}
    {v : Toml} (hdoc : doc.Distinct) (hv : doc.Has [k] v) (harray : ∀ items, v ≠ .array items)
    (hfields : ∀ a, decode v = some a → ∃ names ms, fieldsOf? names v = some ms)
    (h : section? doc.members k standard decode = some a) : ∃ ms, v = .table ms := by
  have hv := Toml.has_singleton_iff.mp hv
  rcases (section?_eq_some_iff hdoc.members_nodup).mp h with ⟨w, hw, hdecode⟩ | ⟨hnone, -⟩
  · cases List.inj_on_of_nodup_map hdoc.members_nodup hv hw rfl
    obtain ⟨names, ms, hms⟩ := hfields a hdecode
    exact (exists_of_fieldsOf? hms).resolve_right fun ⟨items, heq⟩ => harray items heq
  · exact absurd hv (hnone v)

/-- What is read is made of tables, where no arrays stand in their place. -/
theorem tabular_of_ofToml? (hdoc : doc.Distinct)
    (harrays : ∀ path ∈ levels, ∀ items, ¬ doc.Has path (.array items))
    (h : ofToml? doc = some c) : Tabular doc := by
  unfold ofToml? at h
  simp only [bind, Option.bind_eq_some_iff] at h
  obtain ⟨ms, hms, _, -, _, htoolchain, _, hpatches, _, hsqlite, -⟩ := h
  have hroot : ∃ ms, doc = .table ms := (exists_of_fieldsOf? hms).resolve_right
    fun ⟨items, heq⟩ => harrays [] (by simp [levels]) items (heq ▸ .here)
  -- each section is read from its fields, and only tables and arrays have some
  have hmembers : doc.members = ms := by
    obtain ⟨ms', rfl⟩ := hroot
    exact (fieldsOf?_table_iff.mp hms).2.symm
  subst hmembers
  intro path hpath v hv
  have harray : ∀ items, v ≠ .array items := fun items heq => harrays path hpath items (heq ▸ hv)
  simp only [levels, List.mem_cons, List.not_mem_nil, or_false] at hpath
  rcases hpath with rfl | rfl | rfl | rfl
  · rwa [← Toml.has_nil_iff.mp hv]
  · refine table_of_section? hdoc hv harray (fun a ha => ?_) htoolchain
    obtain ⟨ms, hms, -⟩ := Option.bind_eq_some_iff.mp ha
    exact ⟨_, ms, hms⟩
  · refine table_of_section? hdoc hv harray (fun a ha => ?_) hpatches
    obtain ⟨ms, hms, -⟩ := Option.bind_eq_some_iff.mp ha
    exact ⟨_, ms, hms⟩
  · refine table_of_section? hdoc hv harray (fun a ha => ?_) hsqlite
    obtain ⟨ms, hms, -⟩ := Option.bind_eq_some_iff.mp ha
    exact ⟨_, ms, hms⟩

/-- **Decoding is overriding.** Where the document and its sections are no arrays, it is read just
if it is a configuration, as the one that replaces what it mentions. -/
theorem ofToml?_eq_some_iff (hdoc : doc.Distinct)
    (harrays : ∀ path ∈ levels, ∀ items, ¬ doc.Has path (.array items)) :
    ofToml? doc = some c ↔ Conforms doc ∧ Overrides doc c := by
  constructor
  · intro h
    exact (ofToml?_eq_some_iff_of_tabular hdoc (tabular_of_ofToml? hdoc harrays h)).mp h
  · rintro ⟨hconforms, hoverrides⟩
    refine (ofToml?_eq_some_iff_of_tabular hdoc fun path hpath v hv => ?_).mpr
      ⟨hconforms, hoverrides⟩
    obtain ⟨ms, rfl, -⟩ := hconforms.tables path hpath v hv
    exact ⟨ms, rfl⟩

/-- The configuration with these texts in its fields. -/
def ofFields (texts : Field → String) (minMajor : Nat) (knownIssues : KnownIssues) : Config where
  projectName := texts .projectName
  toolchain := ⟨texts .program, texts .banner, minMajor, texts .testStage⟩
  patches := ⟨texts .targetOs, texts .patchesDir, texts .testsDir, texts .supportDir,
    texts .graphicsTest, texts .labelSupport, texts .snapshotTest⟩
  sqlite := ⟨texts .sqliteStage, texts .header⟩
  knownIssues := knownIssues

theorem value_ofFields (texts : Field → String) (n : Nat) (t : KnownIssues) (f : Field) :
    (ofFields texts n t).value f = texts f := by
  cases f <;> rfl

/-- Every document that is a configuration describes one. -/
theorem Conforms.exists_overrides (h : Conforms doc) : ∃ c, Overrides doc c := by
  -- a field takes what stands under its keys, or its standard value where nothing does
  have htexts (f : Field) : ∃ s, doc.Has f.path (.string s) ∨
      (∀ v, ¬ doc.Has f.path v) ∧ s = Config.standard.value f := by
    by_cases hnone : ∀ v, ¬ doc.Has f.path v
    · exact ⟨_, .inr ⟨hnone, rfl⟩⟩
    · obtain ⟨v, hv⟩ := not_forall_not.mp hnone
      obtain ⟨s, rfl⟩ := h.texts f v hv
      exact ⟨s, .inl hv⟩
  have hnumber : ∃ n : Nat, doc.Has minMajorPath (.integer n) ∨
      (∀ v, ¬ doc.Has minMajorPath v) ∧ n = Config.standard.toolchain.minMajor := by
    by_cases hnone : ∀ v, ¬ doc.Has minMajorPath v
    · exact ⟨_, .inr ⟨hnone, rfl⟩⟩
    · obtain ⟨v, hv⟩ := not_forall_not.mp hnone
      obtain ⟨n, rfl, -⟩ := h.number v hv
      exact ⟨n, .inl hv⟩
  have hissues : ∃ t : KnownIssues, (∃ items, doc.Has ["known_issues"] (.array items) ∧
      List.Forall₂ (fun item i => Spells i item) items t.entries) ∨
      (∀ v, ¬ doc.Has ["known_issues"] v) ∧ t = Config.standard.knownIssues := by
    by_cases hnone : ∀ v, ¬ doc.Has ["known_issues"] v
    · exact ⟨_, .inr ⟨hnone, rfl⟩⟩
    · obtain ⟨v, hv⟩ := not_forall_not.mp hnone
      obtain ⟨items, issues, rfl, hitems, t, ht⟩ := h.issues v hv
      rw [← KnownIssues.ofList_eq_ok_iff.mp ht] at hitems
      exact ⟨t, .inl ⟨items, hv, hitems⟩⟩
  choose texts htexts using htexts
  obtain ⟨n, hn⟩ := hnumber
  obtain ⟨t, ht⟩ := hissues
  refine ⟨ofFields texts n t, fun f => ?_, hn, ht⟩
  rw [value_ofFields]
  exact htexts f

/-- A configuration whose rules are checked was read. -/
theorem validate_ne_malformed (c : Config) : c.validate ≠ .error .malformed := by
  unfold validate
  split <;> simp

/-- **A configuration is the standard one with what its document mentions replaced.** Whichever
reader the document comes from, as long as it keeps keys apart: where the document and its sections
are no arrays, parsing fails just if the document is no configuration; otherwise there is just one
configuration that replaces what is mentioned, and the result is what validating it gives. -/
theorem parse_overrides {reader : Toml.Reader} (hreader : reader.KeepsKeysApart) {text : String}
    (h : reader.read text = some doc)
    (harrays : ∀ path ∈ levels, ∀ items, ¬ doc.Has path (.array items)) :
    (parseBy reader text = .error .malformed ↔ ¬ Conforms doc) ∧
      (Conforms doc →
        ∃ c, (∀ c', Overrides doc c' ↔ c' = c) ∧ parseBy reader text = c.validate) := by
  have hdoc := hreader text doc h
  have hread {c : Config} := ofToml?_eq_some_iff (c := c) hdoc harrays
  have hparse {c : Config} (hc : ofToml? doc = some c) : parseBy reader text = c.validate := by
    rw [parseBy, h, Option.bind_some, hc]
  have hconforms (hconforms : Conforms doc) :
      ∃ c, (∀ c', Overrides doc c' ↔ c' = c) ∧ parseBy reader text = c.validate := by
    obtain ⟨c, hc⟩ := hconforms.exists_overrides
    have hofToml := hread.mpr ⟨hconforms, hc⟩
    refine ⟨c, fun c' => ⟨fun hc' => ?_, ?_⟩, hparse hofToml⟩
    · have hofToml' := hread.mpr ⟨hconforms, hc'⟩
      rw [hofToml] at hofToml'
      exact (Option.some.inj hofToml').symm
    · rintro rfl
      exact hc
  refine ⟨⟨fun hmalformed hdoc => ?_, fun hnot => ?_⟩, hconforms⟩
  · obtain ⟨c, -, hc⟩ := hconforms hdoc
    exact validate_ne_malformed c (hc.symm.trans hmalformed)
  · cases hofToml : ofToml? doc with
    | some c => exact absurd (hread.mp hofToml).1 hnot
    | none => rw [parseBy, h, Option.bind_some, hofToml]

/-- A document that only mentions the least major version is a configuration, and the one that it
describes asks for this version and is standard in all else. -/
theorem parse_overrides_version :
    let text := "[toolchain]\nmin_major_version = 5\n"
    let doc : Toml := .table [("toolchain", .table [("min_major_version", .integer 5)])]
    let c : Config := { standard with toolchain := { Toolchain.standard with minMajor := 5 } }
    Toml.read text = some doc ∧ (∀ path ∈ levels, ∀ items, ¬ doc.Has path (.array items)) ∧
      Conforms doc ∧ (∀ c', Overrides doc c' ↔ c' = c) ∧ parse text = .ok c := by
  intro text doc c
  have hread : Toml.read text = some doc := by decide +kernel
  have harrays : ∀ path ∈ levels, ∀ items, ¬ doc.Has path (.array items) := by
    simp [levels, doc, Toml.has_cons_iff, Toml.has_nil_iff]
  have hparsed : parse text = .ok c := by decide +kernel
  obtain ⟨hmalformed, hoverrides⟩ :=
    parse_overrides Toml.Reader.keepsKeysApart_direct hread harrays
  have hconforms : Conforms doc := by
    refine not_not.mp fun hnot => ?_
    have herror : parse text = .error .malformed := hmalformed.mpr hnot
    rw [hparsed] at herror
    cases herror
  obtain ⟨c', honly, hvalidate⟩ := hoverrides hconforms
  obtain rfl : c = c' := by
    have hok : c'.validate = .ok c := hvalidate.symm.trans hparsed
    exact (validate_eq_ok_iff.mp hok).2
  exact ⟨hread, harrays, hconforms, honly, hparsed⟩

/-- A known issue may also be written as an array. -/
theorem parse_issue_array : ¬ ∀ (text : String) (doc : Toml), Toml.read text = some doc →
    (∀ path ∈ levels, ∀ items, ¬ doc.Has path (.array items)) →
    parse text ≠ .error .malformed →
    ∀ items, doc.Has ["known_issues"] (.array items) → ∀ item ∈ items, ∃ ms, item = .table ms := by
  intro h
  let text := "known_issues = [[\"A\", \"b\"]]"
  let doc : Toml := .table [("known_issues", .array [.array [.string "A", .string "b"]])]
  have hread : Toml.read text = some doc := by decide +kernel
  have hparse : (parse text).toOption.isSome = true := by decide +kernel
  obtain ⟨ms, heq⟩ := h text doc hread (by simp [levels, doc, Toml.has_cons_iff, Toml.has_nil_iff])
    (fun hmalformed => by rw [hmalformed] at hparse; cases hparse)
    _ (.member (List.mem_singleton.mpr rfl) .here) _ (List.mem_singleton.mpr rfl)
  cases heq

end Config

end Testbench
