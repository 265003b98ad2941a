import Testbench.Proofs.Config.Rules

/-!
# Loaded configurations

A configuration is loaded from a file that has to pass every check, or it is the standard one. Each
step on the way is described by what it means that it succeeds.

- `parse_eq_ok_iff`, `loadFile_eq_ok_iff`: the texts and the files that hold a configuration.
- `required_eq_ok_iff`, `isFile_of_source`: a file is only chosen if it is there.
- `acceptance_exact`: what is accepted, what is refused and why, and what is ever loaded.
-/

namespace Testbench

namespace Config

variable {c : Config} {t : Tree} {path : String}

/-! ## Texts and files -/

/-- The text describes the configuration, whether or not this keeps its rules. -/
def Describes (text : String) (c : Config) : Prop := (Toml.read text).bind ofToml? = some c

theorem parse_eq_ok_iff {text : String} : parse text = .ok c ↔ Describes text c ∧ c.Valid := by
  unfold parse parseBy Toml.Reader.direct Describes
  cases h : (Toml.read text).bind ofToml? with
  | none => simp
  | some c' =>
    dsimp only
    rw [validate_eq_ok_iff_valid]
    constructor
    · rintro ⟨hvalid, rfl⟩
      exact ⟨rfl, hvalid⟩
    · rintro ⟨heq, hvalid⟩
      cases heq
      exact ⟨hvalid, rfl⟩

/-- The path of a configuration has no fault when it is not too long. -/
theorem ownPathFault?_eq_none_iff : ownPathFault? path = none ↔ InLimits path := by
  rw [inLimits_iff, ← hasLongSegment_iff]
  unfold ownPathFault?
  by_cases hlong : pathLimit < path.utf8ByteSize
  · rw [if_pos hlong]
    have hnot : ¬ path.utf8ByteSize ≤ 4096 := Nat.not_le.mpr hlong
    simp [hnot]
  · rw [if_neg hlong]
    have hshort : path.utf8ByteSize ≤ 4096 := Nat.not_lt.mp hlong
    by_cases hsegment : hasLongSegment path = true
    · simp [hsegment]
    · simp [hsegment, hshort]

/-- The path leads to a file of a text that describes the configuration. -/
structure Holds (t : Tree) (path : String) (octets : ByteArray) (c : Config) : Prop where
  read : t.read path = .ok octets
  small : octets.size ≤ 1024 * 1024
  describes : ∃ text, String.fromUTF8? octets = some text ∧ Describes text c

/-- A configuration is loaded from a file that holds it, if it keeps its rules. -/
theorem loadFile_eq_ok_iff :
    loadFile t path = .ok c ↔ InLimits path ∧ (∃ octets, Holds t path octets c) ∧ c.Valid := by
  unfold loadFile
  rw [← ownPathFault?_eq_none_iff]
  cases hfault : ownPathFault? path with
  | some f => simp
  | none =>
    cases hread : t.read path with
    | error e =>
      constructor
      · intro h
        cases h
      · rintro ⟨-, ⟨octets, hholds⟩, -⟩
        rw [hholds.read] at hread
        cases hread
    | ok octets =>
      dsimp only
      constructor
      · intro h
        split at h
        · cases h
        · next hsmall =>
          split at h
          · cases h
          · next text htext =>
            obtain ⟨hdescribes, hvalid⟩ := parse_eq_ok_iff.mp h
            exact ⟨rfl, ⟨octets, hread, Nat.not_lt.mp hsmall, text, htext, hdescribes⟩, hvalid⟩
      · rintro ⟨-, ⟨octets', hholds⟩, hvalid⟩
        cases hread.symm.trans hholds.read
        obtain ⟨text, htext, hdescribes⟩ := hholds.describes
        have hsmall : ¬ sizeLimit < octets.size := Nat.not_lt.mpr hholds.small
        rw [if_neg hsmall, htext]
        exact parse_eq_ok_iff.mpr ⟨hdescribes, hvalid⟩

/-! ## The choice of a file -/

/-- A file that was asked for is taken when its path is not too long and leads to it. -/
theorem required_eq_ok_iff {path' : String} :
    required t path = .ok path' ↔ path' = path ∧ InLimits path ∧ t.isFile path = true := by
  unfold required
  rw [← ownPathFault?_eq_none_iff]
  cases ownPathFault? path with
  | some f => simp
  | none => cases t.isFile path <;> simp [eq_comm]

/-- Whichever file is chosen, it is there. -/
theorem isFile_of_source {asked : Option String} {named : Variable}
    (h : source t asked named = .ok (some path)) : t.isFile path = true := by
  have hrequired (chosen : String) (h : (required t chosen).map some = .ok (some path)) :
      t.isFile path = true := by
    cases hr : required t chosen with
    | error e =>
      rw [hr] at h
      cases h
    | ok path' =>
      rw [hr] at h
      cases h
      obtain ⟨rfl, -, hfile⟩ := required_eq_ok_iff.mp hr
      exact hfile
  unfold source at h
  split at h
  · exact hrequired _ h
  · split at h
    · split at h
      · cases h
      · exact hrequired _ h
    · split at h
      · next hfile =>
        cases h
        exact hfile
      · cases h

/-- Every configuration that is loaded is the standard one or held by a file. -/
theorem load_cases {asked : Option String} {named : Variable} (h : load t asked named = .ok c) :
    c = standard ∨ ∃ path, t.isFile path = true ∧ loadFile t path = .ok c := by
  unfold load at h
  split at h
  · cases h
  · cases h
    exact .inl rfl
  · next path hsource => exact .inr ⟨path, isFile_of_source hsource, h⟩

/-- **Configurations are accepted exactly when they keep all rules.** An accepted configuration is
kept as it is, and one that is refused is refused for the first rule in order that it breaks. So
nothing is ever loaded that does not keep the rules, and it is the standard configuration or comes
from a regular file of at most a mebibyte of text. -/
theorem acceptance_exact :
    (∀ c : Config,
      (∀ c', c.validate = .ok c' ↔ c.Valid ∧ c' = c) ∧
      ∀ e, c.validate = .error e ↔ ∃ f before after, e = .invalid f ∧
        c.rules = before ++ f :: after ∧ c.Breaks f ∧ ∀ g ∈ before, ¬ c.Breaks g) ∧
    standard.Valid ∧
    ∀ (t : Tree) (asked : Option String) (named : Variable) (c : Config),
      load t asked named = .ok c →
      c.Valid ∧ (c = standard ∨
        ∃ path octets, t.isFile path = true ∧ Holds t path octets c) := by
  refine ⟨fun c => ⟨fun c' => validate_eq_ok_iff_valid, fun e => validate_eq_error_iff⟩,
    valid_standard, fun t asked named c hload => ?_⟩
  rcases load_cases hload with rfl | ⟨path, hfile, hheld⟩
  · exact ⟨valid_standard, .inl rfl⟩
  · obtain ⟨-, ⟨octets, hholds⟩, hvalid⟩ := loadFile_eq_ok_iff.mp hheld
    exact ⟨hvalid, .inr ⟨path, octets, hfile, hholds⟩⟩

/-- A file of the usual name that asks for another major version is loaded. -/
theorem acceptance_exact_usual :
    let t : Tree := ⟨[(["pkg"], .dir), (["pkg", "grdb-test-runner.toml"],
      .file "[toolchain]\nmin_major_version = 7\n".toUTF8 false)], ["pkg"]⟩
    let named : Variable := .ofText? (some "  ")
    ∃ c, load t none named = .ok c ∧ c.toolchain.minMajor = 7 ∧ c.Valid := by
  intro t named
  have hloaded : (load t none named).toOption =
      some { standard with toolchain := { Toolchain.standard with minMajor := 7 } } := by
    decide +kernel
  cases hload : load t none named with
  | error e =>
    rw [hload] at hloaded
    cases hloaded
  | ok c =>
    rw [hload] at hloaded
    cases hloaded
    exact ⟨_, rfl, rfl, (acceptance_exact.2.2 t none named _ hload).1⟩

end Config

end Testbench
