import Testbench.Text.Blank

/-!
# Known issues

Stages that a full run always records as skipped, each with the reason that is given for it: the
known-issue registry of the specification (§3 and §4.4).

- `KnownIssue`: a stage and a reason.
- `KnownIssue.firstFault?`: the first declaration of a list that breaks a rule.
- `KnownIssues`: a table of declarations that keep the rules: no stage and no reason is blank,
  and no stage is declared twice.
- `KnownIssues.ofList`: the table of a list of declarations, in their order.
- `KnownIssues.reasonFor?`: the reason declared for a stage.
-/

namespace Testbench

/-- A stage that cannot run, and why. -/
structure KnownIssue where
  stage : String
  reason : String
  deriving DecidableEq, Repr

/-- The rules that a declaration can break. -/
inductive KnownIssue.Fault where
  /-- The name of the stage is blank. -/
  | emptyStage
  /-- The reason given for the stage is blank. -/
  | emptyReason (stage : String)
  /-- The stage was declared before. -/
  | repeated (stage : String)
  deriving DecidableEq, Repr

/-- What is reported of a broken rule. -/
def KnownIssue.Fault.message : KnownIssue.Fault → String
  | emptyStage => "known issue stage name must be non-empty"
  | emptyReason stage => "known issue " ++ stage ++ " must have a non-empty reason"
  | repeated stage => "known issue " ++ stage ++ " is declared more than once"

namespace KnownIssue

/-- The fault of a declaration behind the stages that were declared before it. -/
def fault? (earlier : List String) (i : KnownIssue) : Option Fault :=
  if Text.isVoid i.stage then some .emptyStage
  else if Text.isVoid i.reason then some (.emptyReason i.stage)
  else if i.stage ∈ earlier then some (.repeated i.stage)
  else none

/-- The fault of the first declaration that has one. -/
def firstFault? (earlier : List String) : List KnownIssue → Option Fault
  | [] => none
  | i :: is =>
    match i.fault? earlier with
    | some f => some f
    | none => firstFault? (i.stage :: earlier) is

/-- Neither the stage nor the reason is blank. -/
def Inked (i : KnownIssue) : Prop := Text.isVoid i.stage = false ∧ Text.isVoid i.reason = false

instance (i : KnownIssue) : Decidable i.Inked :=
  inferInstanceAs (Decidable (_ ∧ _))

theorem fault?_eq_none_iff {earlier : List String} {i : KnownIssue} :
    i.fault? earlier = none ↔ i.Inked ∧ i.stage ∉ earlier := by
  unfold fault? Inked
  grind

theorem firstFault?_eq_none_iff {earlier : List String} {is : List KnownIssue} :
    firstFault? earlier is = none ↔
      (∀ i ∈ is, i.Inked) ∧ (is.map (·.stage)).Nodup ∧ ∀ i ∈ is, i.stage ∉ earlier := by
  induction is generalizing earlier with
  | nil => simp [firstFault?]
  | cons i is ih =>
    cases h : i.fault? earlier with
    | some f =>
      have : ¬ (i.Inked ∧ i.stage ∉ earlier) := fun hi => by simp [fault?_eq_none_iff.2 hi] at h
      simp [firstFault?, h]
      grind
    | none =>
      have := fault?_eq_none_iff.1 h
      simp [firstFault?, h, ih]
      grind

end KnownIssue

/-- A table of declarations in their order, each with ink in both fields, no stage twice. -/
structure KnownIssues where
  entries : List KnownIssue
  inked : ∀ i ∈ entries, i.Inked
  nodup : (entries.map (·.stage)).Nodup
  deriving DecidableEq

namespace KnownIssues

/-- The table of a list of declarations, refused with the fault of the first bad one. -/
def ofList (entries : List KnownIssue) : Except KnownIssue.Fault KnownIssues :=
  match h : KnownIssue.firstFault? [] entries with
  | some f => .error f
  | none => .ok ⟨entries, (KnownIssue.firstFault?_eq_none_iff.1 h).1,
      (KnownIssue.firstFault?_eq_none_iff.1 h).2.1⟩

/-- The reason declared for a stage. -/
def reasonFor? (t : KnownIssues) (stage : String) : Option String :=
  (t.entries.find? (·.stage = stage)).map (·.reason)

/-- The table without declarations. -/
def empty : KnownIssues := ⟨[], by simp, by simp⟩

/-- The table in use when no other is configured. -/
def standard : KnownIssues where
  entries :=
    [⟨"SQLCipher", "SQLCipher tests require CocoaPods which is not available on Linux"⟩,
     ⟨"XCFramework", "XCFramework builds are not supported on Linux"⟩,
     ⟨"CoreGraphics",
      "CoreGraphics framework is not available on Linux - some tests will be skipped"⟩,
     ⟨"DispatchQueue",
      "The __dispatch_queue_get_label function works differently on Linux - using " ++
        "compatibility wrapper"⟩,
     ⟨"CustomSQLiteTests",
      "Tests in the CustomSQLite directory rely on Xcode and are not supported in SPM builds"⟩]
  inked := by decide +kernel
  nodup := by decide +kernel

instance : Inhabited KnownIssues := ⟨standard⟩

/-- A list of declarations is accepted exactly when it keeps the rules, and is then kept as it
is. -/
theorem ofList_eq_ok_iff {entries : List KnownIssue} {t : KnownIssues} :
    ofList entries = .ok t ↔ t.entries = entries := by
  rcases t with ⟨es, inked, nodup⟩
  unfold ofList
  split
  · rename_i f h
    simp only [reduceCtorEq, false_iff]
    rintro rfl
    rw [KnownIssue.firstFault?_eq_none_iff.2 ⟨inked, nodup, by simp⟩] at h
    cases h
  · simp [eq_comm]

/-- There is no reason for a stage that is not declared. -/
theorem reasonFor?_eq_none_iff {t : KnownIssues} {stage : String} :
    t.reasonFor? stage = none ↔ stage ∉ t.entries.map (·.stage) := by
  simp [reasonFor?]

end KnownIssues

end Testbench
