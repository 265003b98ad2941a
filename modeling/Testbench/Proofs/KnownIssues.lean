import Mathlib.Data.List.Nodup
import Testbench.Proofs.Config.Rules

/-!
# The rules of a table of known issues

Declarations are looked at one after the other, each against those in front of it only. This module
says what the rules are without the checks, and at which position which of them counts. That no
declaration repeats one in front of it amounts to no two having the same stage, so that what is
looked up in a table is never ambiguous.

- `KnownIssue.Breaks`, `KnownIssue.BreaksAt`: what it means to break a rule, behind some stages and
  at a position of a list.
- `KnownIssue.FirstAt`: the first rule that a list breaks.
- `fault?_eq_some_iff`, `firstFault?_eq_some_iff`: the checks of one declaration and of a list find
  the first rule that is broken.
- `KnownIssues.Gives`: what a list of declarations gives for a stage.
- `KnownIssues.ofList_exact`: what is accepted, what is found in it, and what is refused and why.
-/

namespace Testbench

namespace KnownIssue

/-! ## Rules -/

/-- The declaration, behind some stages, breaks the rule that the fault stands for. -/
def Breaks (earlier : List String) (i : KnownIssue) : Fault → Prop
  | .emptyStage => ¬ Config.HasInk i.stage
  | .emptyReason stage => stage = i.stage ∧ ¬ Config.HasInk i.reason
  | .repeated stage => stage = i.stage ∧ stage ∈ earlier

/-- Of the rules that a declaration breaks, the one of the lowest rank counts. -/
def Fault.rank : Fault → Nat
  | .emptyStage => 0
  | .emptyReason _ => 1
  | .repeated _ => 2

/-- The declaration at a position of a list breaks a rule. -/
def BreaksAt (entries : List KnownIssue) (n : Nat) (f : Fault) : Prop :=
  ∃ i, entries[n]? = some i ∧ i.Breaks ((entries.take n).map (·.stage)) f

/-- The declarations in front of a position break no rule. -/
def KeptBefore (entries : List KnownIssue) (n : Nat) : Prop :=
  ∀ m < n, ∀ f, ¬ BreaksAt entries m f

/-- The first rule that a list breaks, and where it does. -/
structure FirstAt (entries : List KnownIssue) (n : Nat) (f : Fault) : Prop where
  broken : BreaksAt entries n f
  foremost : ∀ g, BreaksAt entries n g → f.rank ≤ g.rank
  smallest : KeptBefore entries n

variable {entries before after : List KnownIssue} {earlier : List String} {i : KnownIssue}
  {f g : Fault} {n : Nat}

/-- A declaration has ink where both of its fields hold a character that is not blank. -/
theorem inked_iff : i.Inked ↔ Config.HasInk i.stage ∧ Config.HasInk i.reason := by
  have hink (s : String) : Text.isVoid s = false ↔ Config.HasInk s := by
    rw [← Bool.not_eq_true, Config.isVoid_iff, not_not]
  exact and_congr (hink i.stage) (hink i.reason)

/-- A declaration breaks one rule of each rank at most. -/
theorem Breaks.eq_of_rank_eq (hf : i.Breaks earlier f) (hg : i.Breaks earlier g)
    (hrank : f.rank = g.rank) : f = g := by
  cases f <;> cases g <;> try cases hrank
  case emptyStage.emptyStage => rfl
  case emptyReason.emptyReason => rw [hf.1, hg.1]
  case repeated.repeated => rw [hf.1, hg.1]

/-! ## One declaration -/

/-- Only membership of the stages in front counts. -/
theorem fault?_reverse (earlier : List String) (i : KnownIssue) :
    i.fault? earlier.reverse = i.fault? earlier := by
  simp only [fault?, List.mem_reverse]

theorem fault?_eq_none_iff_breaks :
    i.fault? earlier = none ↔ ∀ f, ¬ i.Breaks earlier f := by
  rw [fault?_eq_none_iff, inked_iff]
  constructor
  · rintro ⟨⟨hstage, hreason⟩, hnew⟩ f hf
    cases f with
    | emptyStage => exact hf hstage
    | emptyReason stage => exact hf.2 hreason
    | repeated stage => exact hnew (hf.1 ▸ hf.2)
  · intro h
    have hstage : Config.HasInk i.stage := not_not.mp (h .emptyStage)
    have hreason : Config.HasInk i.reason :=
      not_not.mp fun hblank => h (.emptyReason i.stage) ⟨rfl, hblank⟩
    exact ⟨⟨hstage, hreason⟩, fun hmem => h (.repeated i.stage) ⟨rfl, hmem⟩⟩

/-- The check of a declaration finds a broken rule, and none that counts more is broken. -/
theorem foremost_of_fault? (h : i.fault? earlier = some f) :
    i.Breaks earlier f ∧ ∀ g, i.Breaks earlier g → f.rank ≤ g.rank := by
  unfold fault? at h
  split at h
  · next hstage =>
    cases h
    exact ⟨Config.isVoid_iff.mp hstage, fun _ _ => Nat.zero_le _⟩
  · next hstage =>
    have hnotStage : ¬ i.Breaks earlier .emptyStage := mt Config.isVoid_iff.mpr hstage
    split at h
    · next hreason =>
      cases h
      refine ⟨⟨rfl, Config.isVoid_iff.mp hreason⟩, fun g hg => ?_⟩
      cases g with
      | emptyStage => exact absurd hg hnotStage
      | emptyReason stage => exact Nat.le_refl 1
      | repeated stage => exact Nat.le_succ 1
    · next hreason =>
      split at h
      · next hrepeated =>
        cases h
        refine ⟨⟨rfl, hrepeated⟩, fun g hg => ?_⟩
        cases g with
        | emptyStage => exact absurd hg hnotStage
        | emptyReason stage => exact absurd (Config.isVoid_iff.mpr hg.2) hreason
        | repeated stage => exact Nat.le_refl 2
      · cases h

/-- The check of a declaration finds the broken rule that counts. -/
theorem fault?_eq_some_iff :
    i.fault? earlier = some f ↔
      i.Breaks earlier f ∧ ∀ g, i.Breaks earlier g → f.rank ≤ g.rank := by
  refine ⟨foremost_of_fault?, fun ⟨hbroken, hforemost⟩ => ?_⟩
  cases hfault : i.fault? earlier with
  | none => exact absurd hbroken (fault?_eq_none_iff_breaks.mp hfault f)
  | some g =>
    obtain ⟨hbroken', hforemost'⟩ := foremost_of_fault? hfault
    have hrank : g.rank = f.rank := Nat.le_antisymm (hforemost' f hbroken) (hforemost g hbroken')
    rw [hbroken'.eq_of_rank_eq hbroken hrank]

/-! ## Lists of declarations -/

theorem BreaksAt.lt_length (h : BreaksAt entries n f) : n < entries.length := by
  obtain ⟨i, hi, -⟩ := h
  exact (List.getElem?_eq_some_iff.mp hi).1

/-- The declaration behind some others is checked against their stages. -/
theorem breaksAt_length_iff (before : List KnownIssue) (i : KnownIssue)
    (after : List KnownIssue) (f : Fault) :
    BreaksAt (before ++ i :: after) before.length f ↔ i.Breaks (before.map (·.stage)) f := by
  simp [BreaksAt]

/-- A declaration that passes its check is left behind. -/
theorem KeptBefore.concat (hkept : KeptBefore (before ++ i :: after) before.length)
    (hfault : i.fault? (before.map (·.stage)) = none) :
    KeptBefore (before ++ [i] ++ after) (before ++ [i]).length := by
  intro m hm f
  rw [← List.append_cons]
  rw [List.length_append] at hm
  rcases Nat.lt_succ_iff_lt_or_eq.mp hm with hlt | rfl
  · exact hkept m hlt f
  · rw [breaksAt_length_iff]
    exact fault?_eq_none_iff_breaks.mp hfault f

/-- A declaration that fails its check, behind others that break no rule, breaks the first rule of
the list. -/
theorem exists_firstAt_iff_of_fault? (hkept : KeptBefore (before ++ i :: after) before.length)
    (hfault : i.fault? (before.map (·.stage)) = some g) :
    (∃ n, FirstAt (before ++ i :: after) n f) ↔ g = f := by
  have hhere := foremost_of_fault? hfault
  simp only [← breaksAt_length_iff before i after] at hhere
  constructor
  · rintro ⟨n, hfirst⟩
    have hn : n = before.length := by
      rcases Nat.lt_trichotomy n before.length with hlt | heq | hgt
      · exact absurd hfirst.broken (hkept n hlt f)
      · exact heq
      · exact absurd hhere.1 (hfirst.smallest _ hgt g)
    subst hn
    have hfound : i.fault? (before.map (·.stage)) = some f := by
      rw [fault?_eq_some_iff]
      simp only [← breaksAt_length_iff before i after]
      exact ⟨hfirst.broken, hfirst.foremost⟩
    exact Option.some.inj (hfault.symm.trans hfound)
  · rintro rfl
    exact ⟨before.length, hhere.1, hhere.2, hkept⟩

/-- The loop over a list: behind declarations that break no rule, and checked against their stages,
the rest has as its first fault that of the whole list. -/
theorem firstFault?_behind : ∀ (after before : List KnownIssue),
    KeptBefore (before ++ after) before.length →
    (firstFault? (before.map (·.stage)).reverse after = some f ↔
      ∃ n, FirstAt (before ++ after) n f)
  | [], before, hkept => by
    simp only [firstFault?, reduceCtorEq, false_iff]
    rintro ⟨n, hfirst⟩
    have hlt := hfirst.broken.lt_length
    rw [List.append_nil] at hlt
    exact hkept n hlt f hfirst.broken
  | i :: after, before, hkept => by
    rw [firstFault?, fault?_reverse]
    cases hfault : i.fault? (before.map (·.stage)) with
    | some g =>
      rw [exists_firstAt_iff_of_fault? hkept hfault]
      exact Option.some_inj
    | none =>
      have hstages : i.stage :: (before.map (·.stage)).reverse =
          ((before ++ [i]).map (·.stage)).reverse := by
        rw [List.map_append, List.reverse_append]
        rfl
      rw [hstages, List.append_cons before i after]
      exact firstFault?_behind after (before ++ [i]) (hkept.concat hfault)

/-- The checks of a list find the first rule that it breaks. -/
theorem firstFault?_eq_some_iff :
    firstFault? [] entries = some f ↔ ∃ n, FirstAt entries n f :=
  firstFault?_behind entries [] fun _ hm => absurd hm (Nat.not_lt_zero _)

end KnownIssue

namespace KnownIssues

/-- What a list of declarations gives for a stage: the reason of the only declaration that has it,
or nothing where none has it. -/
inductive Gives (entries : List KnownIssue) (stage : String) : Option String → Prop where
  | once {n : Nat} {i : KnownIssue} (declared : entries[n]? = some i) (same : i.stage = stage)
      (only : ∀ m j, entries[m]? = some j → j.stage = stage → m = n) :
      Gives entries stage (some i.reason)
  | never (undeclared : ∀ i ∈ entries, i.stage ≠ stage) : Gives entries stage none

variable {entries : List KnownIssue} {t : KnownIssues} {stage reason : String}

/-! ## Accepted and refused -/

theorem ofList_eq_error_iff {f : KnownIssue.Fault} :
    ofList entries = .error f ↔ KnownIssue.firstFault? [] entries = some f := by
  unfold ofList
  split
  · next f' h => simp [h]
  · next h => simp [h]

/-- A list is accepted where every field holds ink and no two stages are the same. -/
theorem exists_ofList_eq_ok_iff :
    (∃ t, ofList entries = .ok t) ↔
      (∀ i ∈ entries, Config.HasInk i.stage ∧ Config.HasInk i.reason) ∧
        entries.Pairwise fun i j => i.stage ≠ j.stage := by
  constructor
  · rintro ⟨t, ht⟩
    obtain rfl := ofList_eq_ok_iff.mp ht
    exact ⟨fun i hi => KnownIssue.inked_iff.mp (t.inked i hi), List.pairwise_map.mp t.nodup⟩
  · rintro ⟨hink, hdiffer⟩
    have hinked : ∀ i ∈ entries, i.Inked := fun i hi => KnownIssue.inked_iff.mpr (hink i hi)
    exact ⟨⟨entries, hinked, List.pairwise_map.mpr hdiffer⟩, ofList_eq_ok_iff.mpr rfl⟩

/-! ## Found -/

/-- What is found in a table is what was declared. -/
theorem reasonFor?_eq_some_iff :
    t.reasonFor? stage = some reason ↔ ⟨stage, reason⟩ ∈ t.entries := by
  unfold reasonFor?
  rw [Option.map_eq_some_iff]
  constructor
  · rintro ⟨i, hfind, rfl⟩
    have hstage : i.stage = stage := by simpa using List.find?_some hfind
    exact hstage ▸ List.mem_of_find?_eq_some hfind
  · intro hmem
    cases hfind : t.entries.find? (·.stage = stage) with
    | none => exact absurd (decide_eq_true rfl) (List.find?_eq_none.mp hfind _ hmem)
    | some i =>
      have hstage : i.stage = stage := by simpa using List.find?_some hfind
      have hsame : i = ⟨stage, reason⟩ :=
        List.inj_on_of_nodup_map t.nodup (List.mem_of_find?_eq_some hfind) hmem hstage
      exact ⟨i, rfl, congrArg KnownIssue.reason hsame⟩

/-- No two positions of a table have the same stage. -/
theorem position_unique {m n : Nat} {i j : KnownIssue} (hi : t.entries[m]? = some i)
    (hj : t.entries[n]? = some j) (hstage : i.stage = j.stage) : m = n := by
  have hlt : m < (t.entries.map (·.stage)).length := by
    rw [List.length_map]
    exact (List.getElem?_eq_some_iff.mp hi).1
  refine (List.getElem?_inj hlt t.nodup).mp ?_
  rw [List.getElem?_map, List.getElem?_map, hi, hj, Option.map_some, Option.map_some, hstage]

/-- What is found for a stage is what the declarations give for it. -/
theorem reasonFor?_eq_iff {answer : Option String} :
    t.reasonFor? stage = answer ↔ Gives t.entries stage answer := by
  constructor
  · rintro rfl
    cases hanswer : t.reasonFor? stage with
    | none =>
      refine .never fun i hi hstage => ?_
      exact reasonFor?_eq_none_iff.mp hanswer (List.mem_map.mpr ⟨i, hi, hstage⟩)
    | some reason =>
      obtain ⟨n, hn⟩ := List.mem_iff_getElem?.mp (reasonFor?_eq_some_iff.mp hanswer)
      exact .once hn rfl fun m j hj hstage => position_unique hj hn hstage
  · intro h
    cases h with
    | once declared same only =>
      subst same
      exact reasonFor?_eq_some_iff.mpr (List.mem_of_getElem? declared)
    | never undeclared =>
      rw [reasonFor?_eq_none_iff, List.mem_map]
      rintro ⟨i, hi, hstage⟩
      exact undeclared i hi hstage

/-- **Declarations are accepted exactly and looked up exactly.** A list is accepted if and only if
every stage and every reason holds a character that is not blank and no two declarations have the
same stage. It is then kept as it is, and what is found for a stage is the reason of the only
declaration that has it, or nothing where none has it. Any other list is refused for the first rule
that it breaks: at the smallest position where one is broken, a blank stage counts more than a blank
reason, and that more than a stage that was declared at an earlier position. -/
theorem ofList_exact (entries : List KnownIssue) :
    ((∃ t, ofList entries = .ok t) ↔
      (∀ i ∈ entries, Config.HasInk i.stage ∧ Config.HasInk i.reason) ∧
        entries.Pairwise fun i j => i.stage ≠ j.stage) ∧
    (∀ t, ofList entries = .ok t → t.entries = entries ∧
      ∀ stage answer, t.reasonFor? stage = answer ↔ Gives entries stage answer) ∧
    ∀ f, ofList entries = .error f ↔ ∃ n, KnownIssue.FirstAt entries n f := by
  refine ⟨exists_ofList_eq_ok_iff, fun t ht => ?_, fun f => ?_⟩
  · obtain rfl := ofList_eq_ok_iff.mp ht
    exact ⟨rfl, fun stage answer => reasonFor?_eq_iff⟩
  · rw [ofList_eq_error_iff, KnownIssue.firstFault?_eq_some_iff]

/-- Two stages are accepted and found. Behind them a stage that is declared again, and without a
reason, is refused for the reason, and a blank stage behind that one is not reached. -/
theorem ofList_exact_repeated :
    let two : List KnownIssue := [⟨"Fonts", "no display"⟩, ⟨"Audio", "no device"⟩]
    let four : List KnownIssue := two ++ [⟨"Fonts", " "⟩, ⟨"", ""⟩]
    (∃ t, ofList two = .ok t ∧ t.entries = two ∧
      Gives two "Audio" (t.reasonFor? "Audio") ∧ t.reasonFor? "Audio" = some "no device" ∧
      Gives two "Video" (t.reasonFor? "Video") ∧ t.reasonFor? "Video" = none) ∧
    ofList four = .error (.emptyReason "Fonts") ∧
    (∃ n, KnownIssue.FirstAt four n (.emptyReason "Fonts")) ∧
    ∀ n, ¬ KnownIssue.FirstAt four n (.repeated "Fonts") := by
  intro two four
  obtain ⟨-, hfound, -⟩ := ofList_exact two
  obtain ⟨-, -, hrefused⟩ := ofList_exact four
  have haccepted : ofList two = .ok ⟨two, by decide, by decide⟩ := by decide
  have hreason : ofList four = .error (.emptyReason "Fonts") := by decide
  obtain ⟨hentries, hgives⟩ := hfound _ haccepted
  refine ⟨⟨_, haccepted, hentries, (hgives _ _).mp rfl, by decide, (hgives _ _).mp rfl, by decide⟩,
    hreason, (hrefused _).mp hreason, fun n hfirst => ?_⟩
  have hrepeated := (hrefused _).mpr ⟨n, hfirst⟩
  rw [hreason] at hrepeated
  cases hrepeated

end KnownIssues

end Testbench
