import Mathlib.Logic.Basic
import Testbench.Config.Source

/-!
# The rules of a configuration

A configuration is checked field by field, and each check stands for one rule or for some that are
tried one after the other. This module says what the rules are without the checks, in the order in
which they count, and shows that the checks find the first one that is broken.

- `Config.Valid`: a configuration that keeps all rules.
- `Config.Breaks`, `Config.rules`: what it means to break a rule, and the rules in their order.
- `fault?_eq_find?`: the checks find the first rule that is broken.
- `validate_eq_ok_iff_valid`, `validate_eq_error_iff`: what is accepted, and what is refused and
  why.
-/

namespace Testbench

namespace Config

/-! ## Rules -/

/-- Some character of the text is not white space. -/
def HasInk (s : String) : Prop := ∃ c ∈ s.toList, Text.isBlank c = false

/-- Something between two slashes of the path, or before or behind them, is too long for a name. -/
def HasLongPiece (path : String) : Prop :=
  ∃ piece ∈ Path.pieces path.toList, 255 < (String.ofList piece).utf8ByteSize

/-- Neither the path nor anything between its slashes is too long. -/
structure InLimits (path : String) : Prop where
  short : path.utf8ByteSize ≤ 4096
  pieces : ∀ piece ∈ Path.pieces path.toList, (String.ofList piece).utf8ByteSize ≤ 255

/-- The path holds ink and is not too long. -/
structure UsablePath (path : String) : Prop where
  ink : HasInk path
  limits : InLimits path

/-- The configuration keeps all rules. -/
structure Valid (c : Config) : Prop where
  projectName : HasInk c.projectName
  program : HasInk c.toolchain.program
  banner : HasInk c.toolchain.banner
  testStage : HasInk c.toolchain.testStage
  minMajor : 1 ≤ c.toolchain.minMajor
  targetOs : HasInk c.patches.targetOs
  patchesDir : UsablePath c.patches.patchesDir
  testsDir : UsablePath c.patches.testsDir
  supportDir : UsablePath c.patches.supportDir
  graphicsTest : UsablePath c.patches.graphicsTest
  labelSupport : UsablePath c.patches.labelSupport
  snapshotTest : UsablePath c.patches.snapshotTest
  sqliteStage : HasInk c.sqlite.stage
  header : UsablePath c.sqlite.header
  stagesDiffer : c.toolchain.testStage ≠ c.sqlite.stage
  testsUndeclared : ∀ i ∈ c.knownIssues.entries, i.stage ≠ c.toolchain.testStage
  checkUndeclared : ∀ i ∈ c.knownIssues.entries, i.stage ≠ c.sqlite.stage

/-- What the configuration holds in a field. -/
def value (c : Config) : Field → String
  | .projectName => c.projectName
  | .program => c.toolchain.program
  | .banner => c.toolchain.banner
  | .testStage => c.toolchain.testStage
  | .targetOs => c.patches.targetOs
  | .patchesDir => c.patches.patchesDir
  | .testsDir => c.patches.testsDir
  | .supportDir => c.patches.supportDir
  | .graphicsTest => c.patches.graphicsTest
  | .labelSupport => c.patches.labelSupport
  | .snapshotTest => c.patches.snapshotTest
  | .sqliteStage => c.sqlite.stage
  | .header => c.sqlite.header

/-- The configuration breaks the rule that the fault stands for. -/
def Breaks (c : Config) : Fault → Prop
  | .blank field => ¬ HasInk (c.value field)
  | .pathTooLong field => 4096 < (c.value field).utf8ByteSize
  | .segmentTooLong field => HasLongPiece (c.value field)
  | .anyVersion => c.toolchain.minMajor < 1
  | .sameStages => c.toolchain.testStage = c.sqlite.stage
  | .collision stage => ∃ i ∈ c.knownIssues.entries, i.stage = stage
  | _ => False

instance (s : String) : Decidable (HasInk s) :=
  List.decidableBEx (fun c => Text.isBlank c = false) s.toList

instance (path : String) : Decidable (HasLongPiece path) :=
  List.decidableBEx (fun piece => 255 < (String.ofList piece).utf8ByteSize)
    (Path.pieces path.toList)

instance (c : Config) : DecidablePred c.Breaks
  | .blank field => inferInstanceAs (Decidable (¬ HasInk (c.value field)))
  | .pathTooLong field => inferInstanceAs (Decidable (4096 < (c.value field).utf8ByteSize))
  | .segmentTooLong field => inferInstanceAs (Decidable (HasLongPiece (c.value field)))
  | .anyVersion => inferInstanceAs (Decidable (c.toolchain.minMajor < 1))
  | .sameStages => inferInstanceAs (Decidable (c.toolchain.testStage = c.sqlite.stage))
  | .collision stage =>
    inferInstanceAs (Decidable (∃ i ∈ c.knownIssues.entries, i.stage = stage))
  | .ownPathTooLong | .ownSegmentTooLong | .oversized | .notText =>
    inferInstanceAs (Decidable False)

/-- The rules for a path in a field, in their order. -/
def pathRules (field : Field) : List Fault :=
  [.blank field, .pathTooLong field, .segmentTooLong field]

/-- The rules that each check stands for: those for the project, the toolchain, the patches and the
header check, then that the two stages differ, then that neither is a known issue. -/
def ruleGroups (c : Config) : List (List Fault) :=
  [[.blank .projectName],
   [.blank .program], [.blank .banner], [.blank .testStage], [.anyVersion],
   [.blank .targetOs], pathRules .patchesDir, pathRules .testsDir, pathRules .supportDir,
   pathRules .graphicsTest, pathRules .labelSupport, pathRules .snapshotTest,
   [.blank .sqliteStage], pathRules .header,
   [.sameStages],
   [.collision c.toolchain.testStage], [.collision c.sqlite.stage]]

/-- All rules in their order. -/
def rules (c : Config) : List Fault := c.ruleGroups.flatten

/-! ## Checks -/

theorem isVoid_iff {s : String} : Text.isVoid s = true ↔ ¬ HasInk s := by
  simp [Text.isVoid, HasInk, List.all_eq_true]

/-- The names of a path whose length is limited are what stands between its slashes: what is left
out is never too long. -/
theorem hasLongSegment_iff {path : String} : hasLongSegment path = true ↔ HasLongPiece path := by
  unfold hasLongSegment HasLongPiece Path.segments Path.names
  rw [List.any_eq_true]
  constructor
  · rintro ⟨name, hname, hlong⟩
    obtain ⟨piece, hpiece, rfl⟩ := List.mem_map.mp (List.mem_filter.mp hname).1
    exact ⟨piece, (List.mem_filter.mp hpiece).1, of_decide_eq_true hlong⟩
  · rintro ⟨piece, hpiece, hlong⟩
    have hnonempty : piece ≠ [] := by
      rintro rfl
      exact absurd hlong (by decide)
    have hnotDot : String.ofList piece ≠ "." := by
      intro hdot
      rw [hdot] at hlong
      exact absurd hlong (by decide)
    refine ⟨String.ofList piece, List.mem_filter.mpr ⟨List.mem_map.mpr ⟨piece, ?_, rfl⟩, ?_⟩, ?_⟩
    · exact List.mem_filter.mpr ⟨hpiece, decide_eq_true hnonempty⟩
    · exact decide_eq_true hnotDot
    · exact decide_eq_true hlong

theorem inLimits_iff {path : String} :
    InLimits path ↔ path.utf8ByteSize ≤ 4096 ∧ ¬ HasLongPiece path := by
  constructor
  · rintro ⟨hshort, hpieces⟩
    refine ⟨hshort, ?_⟩
    rintro ⟨piece, hpiece, hlong⟩
    exact absurd (hpieces piece hpiece) (Nat.not_le.mpr hlong)
  · rintro ⟨hshort, hpieces⟩
    refine ⟨hshort, fun piece hpiece => ?_⟩
    exact Nat.not_lt.mp fun hlong => hpieces ⟨piece, hpiece, hlong⟩

variable {c c' : Config}

/-- A check of a single rule. -/
theorem find?_singleton {f : Fault} :
    [f].find? (fun f => decide (c.Breaks f)) = if c.Breaks f then some f else none := by
  by_cases h : c.Breaks f <;> simp [h]

theorem textFault?_eq (field : Field) :
    textFault? field (c.value field) = [.blank field].find? (fun f => decide (c.Breaks f)) := by
  rw [find?_singleton]
  exact if_congr isVoid_iff rfl rfl

theorem pathFault?_eq (field : Field) :
    pathFault? field (c.value field) =
      (pathRules field).find? (fun f => decide (c.Breaks f)) := by
  unfold pathFault? pathRules
  by_cases hink : HasInk (c.value field)
  · have hvoid := mt (isVoid_iff (s := c.value field)).mp (not_not.mpr hink)
    have hblank : ¬ c.Breaks (.blank field) := not_not.mpr hink
    rw [if_neg hvoid, List.find?_cons_of_neg (by simpa using hblank)]
    by_cases hlong : 4096 < (c.value field).utf8ByteSize
    · have hbroken : c.Breaks (.pathTooLong field) := hlong
      rw [if_pos (show pathLimit < _ from hlong), List.find?_cons_of_pos (by simpa using hbroken)]
    · have hkept : ¬ c.Breaks (.pathTooLong field) := hlong
      rw [if_neg (show ¬ pathLimit < _ from hlong), List.find?_cons_of_neg (by simpa using hkept),
        find?_singleton]
      exact if_congr hasLongSegment_iff rfl rfl
  · have hbroken : c.Breaks (.blank field) := hink
    rw [if_pos (isVoid_iff.mpr hink), List.find?_cons_of_pos (by simpa using hbroken)]

theorem collision?_eq (stage : String) :
    collision? c.knownIssues stage = [.collision stage].find? (fun f => decide (c.Breaks f)) := by
  rw [find?_singleton]
  by_cases h : c.Breaks (.collision stage)
  · rw [if_pos h]
    obtain ⟨i, hi, hstage⟩ := h
    have hdeclared : stage ∈ c.knownIssues.entries.map (·.stage) :=
      List.mem_map.mpr ⟨i, hi, hstage⟩
    have hreason : (c.knownIssues.reasonFor? stage).isSome = true :=
      Option.isSome_iff_ne_none.mpr (mt KnownIssues.reasonFor?_eq_none_iff.mp (not_not.mpr hdeclared))
    exact if_pos hreason
  · rw [if_neg h, collision?_eq_none_iff]
    intro hdeclared
    obtain ⟨i, hi, hstage⟩ := List.mem_map.mp hdeclared
    exact h ⟨i, hi, hstage⟩

/-- Every check finds the first of its rules that is broken. -/
theorem faults_eq (c : Config) :
    c.faults = c.ruleGroups.map (·.find? fun f => decide (c.Breaks f)) := by
  have hversion : (if c.toolchain.minMajor = 0 then some Fault.anyVersion else none) =
      [Fault.anyVersion].find? fun f => decide (c.Breaks f) := by
    rw [find?_singleton]
    exact if_congr Nat.lt_one_iff.symm rfl rfl
  have hsame : (if c.toolchain.testStage = c.sqlite.stage then some Fault.sameStages else none) =
      [Fault.sameStages].find? fun f => decide (c.Breaks f) := by
    rw [find?_singleton]
    exact if_congr Iff.rfl rfl rfl
  unfold faults ruleGroups
  simp only [List.map_cons, List.map_nil, ← textFault?_eq, ← pathFault?_eq, ← collision?_eq,
    ← hversion, ← hsame]
  rfl

/-- The checks find the first rule that is broken. -/
theorem fault?_eq_find? (c : Config) : c.fault? = c.rules.find? fun f => decide (c.Breaks f) := by
  rw [fault?, faults_eq, List.findSome?_map, rules, List.find?_flatten]
  rfl

/-! ## Accepted and refused -/

/-- A path breaks none of its rules when it is usable. -/
theorem usablePath_iff {field : Field} :
    UsablePath (c.value field) ↔ ∀ f ∈ pathRules field, ¬ c.Breaks f := by
  simp only [pathRules, List.forall_mem_cons, List.not_mem_nil, false_implies, implies_true,
    and_true]
  constructor
  · rintro ⟨hink, hlimits⟩
    obtain ⟨hshort, hpieces⟩ := inLimits_iff.mp hlimits
    exact ⟨not_not.mpr hink, Nat.not_lt.mpr hshort, hpieces⟩
  · rintro ⟨hink, hshort, hpieces⟩
    exact ⟨not_not.mp hink, inLimits_iff.mpr ⟨Nat.not_lt.mp hshort, hpieces⟩⟩

/-- A configuration keeps all rules when it breaks none of them. -/
theorem valid_iff (c : Config) : c.Valid ↔ ∀ f ∈ c.rules, ¬ c.Breaks f := by
  have hink (field : Field) : HasInk (c.value field) ↔ ¬ c.Breaks (.blank field) := not_not.symm
  have hversion : 1 ≤ c.toolchain.minMajor ↔ ¬ c.Breaks .anyVersion := Nat.not_lt.symm
  have hdeclared (stage : String) :
      (∀ i ∈ c.knownIssues.entries, i.stage ≠ stage) ↔ ¬ c.Breaks (.collision stage) := by
    simp only [Breaks, not_exists, not_and, ne_eq]
  simp only [rules, ruleGroups, List.flatten_cons, List.flatten_nil, List.forall_mem_append,
    List.forall_mem_singleton, List.not_mem_nil, false_implies, implies_true, and_true,
    ← usablePath_iff, ← hink, ← hversion, ← hdeclared]
  constructor
  · intro h
    exact ⟨h.projectName, h.program, h.banner, h.testStage, h.minMajor, h.targetOs, h.patchesDir,
      h.testsDir, h.supportDir, h.graphicsTest, h.labelSupport, h.snapshotTest, h.sqliteStage,
      h.header, h.stagesDiffer, h.testsUndeclared, h.checkUndeclared⟩
  · rintro ⟨h₁, h₂, h₃, h₄, h₅, h₆, h₇, h₈, h₉, h₁₀, h₁₁, h₁₂, h₁₃, h₁₄, h₁₅, h₁₆, h₁₇⟩
    exact ⟨h₁, h₂, h₃, h₄, h₅, h₆, h₇, h₈, h₉, h₁₀, h₁₁, h₁₂, h₁₃, h₁₄, h₁₅, h₁₆, h₁₇⟩

/-- What is accepted keeps all rules, and is kept as it is. -/
theorem validate_eq_ok_iff_valid : c.validate = .ok c' ↔ c.Valid ∧ c' = c := by
  rw [validate_eq_ok_iff, ← fault?_eq_none_iff, fault?_eq_find?, List.find?_eq_none, valid_iff]
  simp only [decide_eq_true_eq]

/-- What is refused is refused for the first rule that it breaks. -/
theorem validate_eq_error_iff {e : ConfigError} :
    c.validate = .error e ↔ ∃ f before after, e = .invalid f ∧
      c.rules = before ++ f :: after ∧ c.Breaks f ∧ ∀ g ∈ before, ¬ c.Breaks g := by
  have hvalidate : c.validate = .error e ↔ ∃ f, e = .invalid f ∧ c.fault? = some f := by
    unfold validate
    cases c.fault? with
    | none => simp
    | some f => simp [eq_comm]
  rw [hvalidate]
  simp only [fault?_eq_find?, List.find?_eq_some_iff_append, decide_eq_true_eq,
    Bool.not_eq_true', decide_eq_false_iff_not]
  constructor
  · rintro ⟨f, he, hbroken, before, after, hrules, hkept⟩
    exact ⟨f, before, after, he, hrules, hbroken, hkept⟩
  · rintro ⟨f, before, after, he, hrules, hbroken, hkept⟩
    exact ⟨f, he, hbroken, before, after, hrules, hkept⟩

theorem valid_standard : standard.Valid := by
  have haccepted : standard.validate = .ok standard :=
    validate_eq_ok_iff.mpr ⟨by decide +kernel, rfl⟩
  exact (validate_eq_ok_iff_valid.mp haccepted).1

end Config

end Testbench
