import Testbench.Proofs.Config.Loading
import Testbench.Proofs.Tree.Sight

/-!
# One source of a configuration

The file that was asked for counts before the one that the environment names, and this one before
the file of the usual name. Whichever source counts, the others make no difference: a source that
fails is not replaced by a lesser one. The order is that of the specification (§8). All this is
about variables whose values are text; one whose value is not is passed over.

- `trim_eq_empty_iff`: the environment names a file when its value holds ink.
- `load_asked_eq_ok_iff`, `Unusable`: when a file that was asked for is loaded, and all ways in
  which it can fail.
- `load_named`, `load_otherwise`, `load_of_not_text`: the environment and the usual name.
- `load_precedence`: a configuration depends on one source.
- `load_precedence_limits`: where it also depends on the file of the usual name.
-/

namespace Testbench

namespace Text

theorem all_trimFront {s : List Char} : (trimFront s).all isBlank = s.all isBlank := by
  induction s with
  | nil => rfl
  | cons c s ih =>
    by_cases hblank : isBlank c = true
    · have hskip : trimFront (c :: s) = trimFront s := List.dropWhile_cons_of_pos hblank
      rw [hskip, ih, List.all_cons, hblank, Bool.true_and]
    · have hstop : trimFront (c :: s) = c :: s := List.dropWhile_cons_of_neg hblank
      rw [hstop]

/-- Nothing is left of a text that holds nothing but blanks. -/
theorem trim_eq_empty_iff {s : String} : trim s = "" ↔ isVoid s = true := by
  have hempty : trim s = "" ↔ trimBack (trimFront s.toList) = [] := by
    unfold trim
    constructor
    · intro h
      simpa using congrArg String.toList h
    · intro h
      rw [h]
  rw [hempty, trimBack_eq_nil_iff, all_trimFront]
  rfl

end Text

namespace Config

variable {t t' : Tree} {path : String}

/-! ## A file that was asked for -/

/-- The configuration at a path cannot be had. -/
inductive Unusable (t : Tree) (path : String) : Prop where
  /-- The path is too long, or a name in it is. -/
  | tooLong (h : ¬ InLimits path)
  /-- Nothing is there, or something that is no regular file. -/
  | noFile (h : t.isFile path = false)
  | unreadable (e : FileError) (h : t.read path = .error e)
  | oversized (octets : ByteArray) (h : t.read path = .ok octets) (size : 1024 * 1024 < octets.size)
  | notText (octets : ByteArray) (h : t.read path = .ok octets)
      (invalid : String.fromUTF8? octets = none)
  /-- The text describes no configuration. -/
  | malformed (octets : ByteArray) (text : String) (h : t.read path = .ok octets)
      (valid : String.fromUTF8? octets = some text) (undescribed : ∀ c, ¬ Describes text c)
  /-- The configuration breaks a rule. -/
  | invalid (octets : ByteArray) (c : Config) (h : Holds t path octets c) (broken : ¬ c.Valid)

/-- A file that was asked for is loaded or nothing is. -/
theorem load_asked (t : Tree) (path : String) (named : Variable) :
    load t (some path) named =
      match required t path with
      | .error e => .error e
      | .ok _ => loadFile t path := by
  unfold load source
  dsimp only
  cases hrequired : required t path with
  | error e => rfl
  | ok path' =>
    obtain ⟨rfl, -⟩ := required_eq_ok_iff.mp hrequired
    rfl

/-- What was asked for is loaded when its path leads to a regular file that holds a configuration
which keeps its rules. -/
theorem load_asked_eq_ok_iff {named : Variable} {c : Config} :
    load t (some path) named = .ok c ↔
      InLimits path ∧ t.isFile path = true ∧ (∃ octets, Holds t path octets c) ∧ c.Valid := by
  rw [load_asked]
  cases hrequired : required t path with
  | error e =>
    constructor
    · intro h
      cases h
    · rintro ⟨hlimits, hfile, -⟩
      rw [required_eq_ok_iff.mpr ⟨rfl, hlimits, hfile⟩] at hrequired
      cases hrequired
  | ok path' =>
    obtain ⟨rfl, hlimits, hfile⟩ := required_eq_ok_iff.mp hrequired
    dsimp only
    rw [loadFile_eq_ok_iff]
    constructor
    · rintro ⟨-, hholds, hvalid⟩
      exact ⟨hlimits, hfile, hholds, hvalid⟩
    · rintro ⟨-, -, hholds, hvalid⟩
      exact ⟨hlimits, hholds, hvalid⟩

/-- Nothing else stands between a file that was asked for and its configuration. -/
theorem unusable_iff : Unusable t path ↔ ¬ ∃ octets c, InLimits path ∧ t.isFile path = true ∧
    Holds t path octets c ∧ c.Valid := by
  constructor
  · rintro h ⟨octets, c, hlimits, hfile, ⟨hread, hsmall, text, htext, hdescribes⟩, hvalid⟩
    cases h with
    | tooLong h => exact h hlimits
    | noFile h =>
      rw [hfile] at h
      cases h
    | unreadable e h =>
      rw [hread] at h
      cases h
    | oversized octets' h size =>
      cases hread.symm.trans h
      exact absurd hsmall (Nat.not_le.mpr size)
    | notText octets' h invalid =>
      cases hread.symm.trans h
      rw [htext] at invalid
      cases invalid
    | malformed octets' text' h valid undescribed =>
      cases hread.symm.trans h
      cases htext.symm.trans valid
      exact undescribed c hdescribes
    | invalid octets' c' h broken =>
      obtain ⟨hread', -, text', htext', hdescribes'⟩ := h
      cases hread.symm.trans hread'
      cases htext.symm.trans htext'
      cases hdescribes.symm.trans hdescribes'
      exact broken hvalid
  · intro hnot
    -- the first check that fails tells which way it is
    by_cases hlimits : ¬ InLimits path
    · exact .tooLong hlimits
    by_cases hfile : t.isFile path = false
    · exact .noFile hfile
    rw [not_not] at hlimits
    rw [Bool.not_eq_false] at hfile
    cases hread : t.read path with
    | error e => exact .unreadable e hread
    | ok octets =>
      by_cases hsize : 1024 * 1024 < octets.size
      · exact .oversized octets hread hsize
      have hsmall := Nat.not_lt.mp hsize
      cases htext : String.fromUTF8? octets with
      | none => exact .notText octets hread htext
      | some text =>
        by_cases hdescribed : ∃ c, Describes text c
        · obtain ⟨c, hdescribes⟩ := hdescribed
          have hholds : Holds t path octets c := ⟨hread, hsmall, text, htext, hdescribes⟩
          exact .invalid octets c hholds fun hvalid =>
            hnot ⟨octets, c, hlimits, hfile, hholds, hvalid⟩
        · exact .malformed octets text hread htext fun c hc => hdescribed ⟨c, hc⟩

/-- What was asked for and cannot be had is an error, whatever else there is. -/
theorem load_asked_eq_error_iff {named : Variable} :
    (∃ e, load t (some path) named = .error e) ↔ Unusable t path := by
  rw [unusable_iff]
  cases hload : load t (some path) named with
  | ok c =>
    obtain ⟨hlimits, hfile, ⟨octets, hholds⟩, hvalid⟩ := load_asked_eq_ok_iff.mp hload
    constructor
    · rintro ⟨e, he⟩
      cases he
    · intro hnot
      exact absurd ⟨octets, c, hlimits, hfile, hholds, hvalid⟩ hnot
  | error e =>
    refine ⟨fun _ => ?_, fun _ => ⟨e, rfl⟩⟩
    rintro ⟨octets, c, hlimits, hfile, hholds, hvalid⟩
    rw [load_asked_eq_ok_iff.mpr ⟨hlimits, hfile, ⟨octets, hholds⟩, hvalid⟩] at hload
    cases hload

/-- What was asked for only depends on what its path is led by. -/
theorem load_asked_congr {u : Location} (h : Tree.Agrees u t t') (hp : ¬ t.Passes path u)
    (named : Variable) : load t' (some path) named = load t (some path) named := by
  rw [load_asked, load_asked]
  unfold required loadFile
  rw [h.isFile hp, h.read hp]

/-! ## The environment and the usual name -/

/-- A path that is too long is turned away before the file is looked for. -/
theorem required_of_tooLong (h : 4096 < path.utf8ByteSize) :
    required t path = .error (.invalid .ownPathTooLong) := by
  have hlong : pathLimit < path.utf8ByteSize := h
  unfold required ownPathFault?
  rw [if_pos hlong]

/-- A file that the environment names counts as one that was asked for. -/
theorem load_named {named : Variable} {value : String} (hvalue : named.text? = some value)
    (h : HasInk value) : load t none named = load t (some (Text.trim value)) .unset := by
  have hink : Text.trim value ≠ "" := fun hempty =>
    isVoid_iff.mp (Text.trim_eq_empty_iff.mp hempty) h
  have hnamed : (named.text?.map Text.trim).filter (· ≠ "") = some (Text.trim value) := by
    rw [hvalue]
    exact Option.filter_eq_some_iff.mpr ⟨rfl, by simpa using hink⟩
  unfold load source
  rw [hnamed]
  dsimp only
  by_cases hlong : pathLimit < (Text.trim value).utf8ByteSize
  · rw [if_pos hlong, required_of_tooLong hlong]
    rfl
  · rw [if_neg hlong]

/-- Where neither a file was asked for nor the environment names one, the file of the usual name is
taken if it is there. -/
theorem load_otherwise {named : Variable} (h : ∀ value, named.text? = some value → ¬ HasInk value) :
    load t none named = if t.isFile usualName then loadFile t usualName else .ok standard := by
  have hnamed : (named.text?.map Text.trim).filter (· ≠ "") = none := by
    cases hvalue : named.text? with
    | none => rfl
    | some value =>
      have hempty := Text.trim_eq_empty_iff.mpr (isVoid_iff.mpr (h value hvalue))
      rw [Option.map_some, hempty]
      rfl
  unfold load source
  rw [hnamed]
  cases t.isFile usualName <;> rfl

/-- A variable whose value is no text counts as one that is not set. -/
theorem load_of_not_text {octets : ByteArray} (h : String.fromUTF8? octets = none) :
    load t none (.set octets) = load t none .unset := by
  have hnone : (Variable.set octets).text? = none := h
  rw [load_otherwise fun value hvalue => by simp [hnone] at hvalue]
  rw [load_otherwise fun value hvalue => by simp [Variable.text?] at hvalue]

/-! ## One source -/

/-- **A configuration depends on one source.** What was asked for counts, whatever the environment
says and whatever stands under the usual name, as long as the path that was asked for does not lead
by way of that entry; what the environment names counts as if it had been asked for. Only where
there is neither, because the variable is not set or blank, the file of the usual name counts if it
is there. A file that counts and cannot be had is always an error. -/
theorem load_precedence (t : Tree) :
    let usual := t.here ++ [usualName]
    (∀ path (named : Variable),
      load t (some path) named = load t (some path) .unset ∧
      (∀ t', Tree.Agrees usual t t' → ¬ t.Passes path usual →
        load t' (some path) named = load t (some path) named) ∧
      (∀ c, load t (some path) named = .ok c ↔
        InLimits path ∧ t.isFile path = true ∧ (∃ octets, Holds t path octets c) ∧ c.Valid) ∧
      ((∃ e, load t (some path) named = .error e) ↔ Unusable t path)) ∧
    (∀ (named : Variable) value, named.text? = some value → HasInk value →
      load t none named = load t (some (Text.trim value)) .unset ∧
      (4096 < (Text.trim value).utf8ByteSize →
        load t none named = .error (.invalid .ownPathTooLong)) ∧
      ∀ t', Tree.Agrees usual t t' → ¬ t.Passes (Text.trim value) usual →
        load t' none named = load t none named) ∧
    ∀ named : Variable, named = .unset ∨ (∃ value, named.text? = some value ∧ ¬ HasInk value) →
      load t none named = if t.isFile usualName then loadFile t usualName else .ok standard := by
  intro usual
  refine ⟨fun path named => ?_, fun named value hvalue hink => ?_, fun named hnamed => ?_⟩
  · exact ⟨rfl, fun t' hagrees hpasses => load_asked_congr hagrees hpasses named,
      fun c => load_asked_eq_ok_iff, load_asked_eq_error_iff⟩
  · refine ⟨load_named hvalue hink, fun hlong => ?_, fun t' hagrees hpasses => ?_⟩
    · rw [load_named hvalue hink, load_asked, required_of_tooLong hlong]
    · rw [load_named hvalue hink, load_named hvalue hink, load_asked_congr hagrees hpasses]
  · refine load_otherwise fun value hvalue => ?_
    rcases hnamed with rfl | ⟨value', hvalue', hblank⟩
    · cases hvalue
    · cases hvalue.symm.trans hvalue'
      exact hblank

/-- A broken file of the usual name does not get in the way of another one. -/
theorem load_precedence_broken :
    let t : Tree := ⟨[(["pkg"], .dir), (["pkg", "ci.toml"], .file "".toUTF8 false),
      (["pkg", "grdb-test-runner.toml"], .file "?".toUTF8 false)], ["pkg"]⟩
    let usual := t.here ++ [usualName]
    let other : Variable := .ofText? (some "x")
    let named : Variable := .ofText? (some " ci.toml ")
    let blank : Variable := .ofText? (some " ")
    load (t.prune usual) (some "ci.toml") other = load t (some "ci.toml") other ∧
      load (t.prune usual) none named = load t none named ∧
      (load t none named).toOption = some standard ∧
      load t none blank = loadFile t usualName ∧ (load t none blank).toOption = none := by
  intro t usual other named blank
  have hagrees : Tree.Agrees usual t (t.prune usual) := .prune (by decide)
  obtain ⟨hasked, hnamed, hotherwise⟩ := load_precedence t
  refine ⟨?_, ?_, by decide +kernel, ?_, by decide +kernel⟩
  · exact (hasked "ci.toml" other).2.1 _ hagrees (by decide +kernel)
  · exact (hnamed named " ci.toml " (Variable.text?_ofText? _) ⟨'c', by decide, by decide⟩).2.2 _
      hagrees (by decide +kernel)
  · refine (hotherwise blank (.inr ⟨" ", Variable.text?_ofText? _, ?_⟩)).trans
      (if_pos (by decide +kernel))
    exact isVoid_iff.mp (by decide)

/-- A path that leads to the file of the usual name depends on it even when it was asked for. And
where the variable is set to something that is no text, that file counts as if it were not set. -/
theorem load_precedence_limits :
    (¬ ∀ (t t' : Tree) (path : String) (named : Variable),
      Tree.Agrees (t.here ++ [usualName]) t t' →
        load t' (some path) named = load t (some path) named) ∧
    ¬ ∀ (t t' : Tree) (octets : ByteArray), String.fromUTF8? octets = none →
      Tree.Agrees (t.here ++ [usualName]) t t' →
        load t' none (.set octets) = load t none (.set octets) := by
  let t : Tree := ⟨[(["pkg"], .dir), (["pkg", "grdb-test-runner.toml"],
    .file "[toolchain]\nmin_major_version = 7\n".toUTF8 false)], ["pkg"]⟩
  let t' := t.prune (t.here ++ [usualName])
  have hagrees : Tree.Agrees (t.here ++ [usualName]) t t' := .prune (by decide)
  constructor
  · intro h
    have hloaded : (load t (some usualName) .unset).toOption.map (·.toolchain.minMajor) = some 7 := by
      decide +kernel
    have hmissing : (load t' (some usualName) .unset).toOption.map (·.toolchain.minMajor) = none := by
      decide +kernel
    rw [h t t' usualName .unset hagrees, hloaded] at hmissing
    cases hmissing
  · intro h
    let octets : ByteArray := ⟨#[0xFF, 0x63, 0x69]⟩
    have htext : String.fromUTF8? octets = none := by decide +kernel
    have hloaded : (load t none .unset).toOption.map (·.toolchain.minMajor) = some 7 := by
      decide +kernel
    have hmissing : (load t' none .unset).toOption.map (·.toolchain.minMajor) = some 6 := by
      decide +kernel
    have hsame := h t t' octets htext hagrees
    rw [load_of_not_text htext, load_of_not_text htext] at hsame
    rw [hsame, hloaded] at hmissing
    cases hmissing

end Config

end Testbench
