import Mathlib.Data.List.DropRight
import Testbench.Proofs.Text.Leftmost
import Testbench.Version

/-!
# The version that an output states

A scan from the left finds the version that the expression finds: no blank is a digit and no digit
is a point, so that a search which goes back to shorter runs finds nothing that the scan does not
find at once.

- `readAt?_eq_some_iff`: what is read at one position.
- `captures_expression`: the groups of the expression are what is read.
- `find?_eq_some`, `find?_eq_none_iff`: what is found.
- `findBy_exact`: what a scanner makes of an output.
-/

namespace Testbench

namespace Version

open Testbench.Text

variable {banner text digits tail rest : List Char}

/-! ## Characters of different kinds -/

/-- No blank is a digit. -/
theorem isDecimalDigit_of_isBlank {c : Char} (h : isBlank c = true) : isDecimalDigit c = false := by
  have hnumber : ∀ n ∈ [0x09, 0x0A, 0x0B, 0x0C, 0x0D, 0x20, 0x85, 0xA0, 0x1680, 0x2000, 0x2001,
      0x2002, 0x2003, 0x2004, 0x2005, 0x2006, 0x2007, 0x2008, 0x2009, 0x200A, 0x2028, 0x2029, 0x202F,
      0x205F, 0x3000], (decimalZeros.any fun z => z ≤ n && n < z + 10) = false := by decide
  refine hnumber c.toNat ?_
  simp only [isBlank, Bool.or_eq_true, Bool.and_eq_true, decide_eq_true_eq, beq_iff_eq] at h
  simp only [List.mem_cons, List.not_mem_nil, or_false]
  omega

/-- A point is no digit. -/
theorem isDecimalDigit_point : isDecimalDigit '.' = false := by decide

/-! ## One position -/

/-- What is read is stated: the digits are told, and the digits and points behind their point. -/
theorem readAt?_eq_some_iff : readAt? banner text = some (digits, tail) ↔
    ∃ rest, Stated banner text digits rest ∧ tail = rest.takeWhile isTail := by
  constructor
  · intro h
    unfold readAt? at h
    split at h
    · cases h
    · next behind hbehind =>
      dsimp only at h
      split at h
      · cases h
      · next hruns =>
        obtain ⟨hblanks, hdigits⟩ := not_or.mp hruns
        split at h
        · next rest hpoint =>
          cases h
          refine ⟨rest, ⟨behind.takeWhile isBlank, ?_, hblanks, ?_, hdigits, ?_⟩, rfl⟩
          · rw [← hpoint, List.takeWhile_append_dropWhile, List.takeWhile_append_dropWhile]
            exact after?_eq_some_iff.mp hbehind
          · exact List.all_eq_true.mp List.all_takeWhile
          · exact List.all_eq_true.mp List.all_takeWhile
        · cases h
  · rintro ⟨rest, ⟨blanks, rfl, hblanks, hblank, hdigits, hdigit⟩, rfl⟩
    obtain ⟨d, ds, rfl⟩ := List.exists_cons_of_ne_nil hdigits
    have hd : isBlank d = false := by
      refine Bool.eq_false_iff.mpr fun hd => ?_
      have hdecimal := hdigit d List.mem_cons_self
      rw [isDecimalDigit_of_isBlank hd] at hdecimal
      cases hdecimal
    -- the blanks end where the digits begin, and the digits end at the point
    have hfront : (blanks ++ (d :: ds ++ '.' :: rest)).takeWhile isBlank = blanks := by
      rw [List.takeWhile_append_of_pos hblank]
      simp [hd]
    have hbehind : (blanks ++ (d :: ds ++ '.' :: rest)).dropWhile isBlank = d :: ds ++ '.' :: rest := by
      rw [List.dropWhile_append_of_pos hblank]
      simp [hd]
    have hrun : (d :: ds ++ '.' :: rest).takeWhile isDecimalDigit = d :: ds := by
      rw [List.takeWhile_append_of_pos hdigit]
      simp [isDecimalDigit_point]
    have hpoint : (d :: ds ++ '.' :: rest).dropWhile isDecimalDigit = '.' :: rest := by
      rw [List.dropWhile_append_of_pos hdigit]
      simp [isDecimalDigit_point]
    unfold readAt?
    rw [after?_append]
    dsimp only
    rw [hfront, hbehind, hrun, hpoint, if_neg (not_or.mpr ⟨hblanks, hdigits⟩)]
    rfl

/-- Nothing is read where nothing is stated. -/
theorem readAt?_eq_none_iff : readAt? banner text = none ↔
    ∀ digits rest, ¬ Stated banner text digits rest := by
  constructor
  · intro h digits rest hstated
    rw [readAt?_eq_some_iff.mpr ⟨rest, hstated, rfl⟩] at h
    cases h
  · intro h
    cases hread : readAt? banner text with
    | none => rfl
    | some r =>
      obtain ⟨rest, hstated, -⟩ := readAt?_eq_some_iff.mp hread
      exact absurd hstated (h _ _)

/-! ## The expression -/

/-- What stands behind the major number in the expression. -/
def behindMajor : Expression := .char '.' (.run .numeral true .done)

/-- The expression for the numbers of a version. -/
def numbers : Expression := .group majorGroup (.run .decimal false .done) behindMajor

/-- Digits and points behind a point are read as far as they go. -/
theorem head?_ways_behindMajor (rest : List Char) :
    (behindMajor.ways ('.' :: rest)).head? =
      some ⟨'.' :: rest.takeWhile isTail, rest.dropWhile isTail, []⟩ := by
  have hrun : (((runs isTail rest).filter fun _ => true).flatMap fun r =>
      [Hit.behind r.1 [] ⟨[], r.2, []⟩]).head? =
        some ⟨rest.takeWhile isTail, rest.dropWhile isTail, []⟩ := by
    rw [List.filter_true, ← List.map_eq_flatMap, List.head?_map, head?_runs]
    simp [Hit.behind]
  show (((Expression.run .numeral true .done).ways rest).map (·.behind ['.'] [])).head? = _
  rw [List.head?_map]
  exact congrArg (Option.map (·.behind ['.'] [])) hrun

/-- Only the whole run of digits leads to a point. -/
theorem ways_numbers (text : List Char) : numbers.ways text =
    if text.takeWhile isDecimalDigit = [] then []
    else (behindMajor.ways (text.dropWhile isDecimalDigit)).map
      (·.behind (text.takeWhile isDecimalDigit) [(majorGroup.1, text.takeWhile isDecimalDigit)]) := by
  refine Expression.ways_group_run majorGroup text fun c rest hc => ?_
  have hne : c ≠ '.' := by
    rintro rfl
    cases isDecimalDigit_point.symm.trans hc
  exact if_neg hne

/-- The numbers of a version are read as the scan reads them. -/
theorem first?_numbers (text : List Char) : numbers.first? text =
    if text.takeWhile isDecimalDigit = [] then none
    else match text.dropWhile isDecimalDigit with
      | '.' :: rest =>
        some ⟨text.takeWhile isDecimalDigit ++ '.' :: rest.takeWhile isTail, rest.dropWhile isTail,
          [(majorGroup.1, text.takeWhile isDecimalDigit)]⟩
      | _ => none := by
  rw [Expression.first?, ways_numbers]
  split
  · rfl
  · rw [List.head?_map]
    split
    · next rest hrest =>
      rw [hrest, head?_ways_behindMajor]
      rfl
    · next hpoint =>
      cases hrest : text.dropWhile isDecimalDigit with
      | nil => rfl
      | cons c rest =>
        have hc : c ≠ '.' := by
          rintro rfl
          exact hpoint rest hrest
        have hnone : behindMajor.ways (c :: rest) = [] := if_neg hc
        rw [hnone]
        rfl

/-- The blanks are not gone back on, since no number begins with one. -/
theorem first?_blanks (text : List Char) :
    (Expression.run .blank false (.group numberGroup numbers .done)).first? text =
      if text.takeWhile isBlank = [] then none
      else (numbers.first? (text.dropWhile isBlank)).map fun h =>
        ⟨text.takeWhile isBlank ++ h.front, h.rest, (numberGroup.1, h.front) :: h.captures⟩ := by
  have hstop (c : Char) (rest : List Char) (hc : CharClass.blank.accepts c = true) :
      (Expression.group numberGroup numbers .done).ways (c :: rest) = [] := by
    have hnone : (c :: rest).takeWhile isDecimalDigit = [] :=
      List.takeWhile_cons_of_neg (ne_true_of_eq_false (isDecimalDigit_of_isBlank hc))
    rw [Expression.ways, ways_numbers, if_pos hnone, List.flatMap_nil]
  refine (Expression.first?_run text hstop).trans ?_
  rw [Expression.first?_group_done, Option.map_map]
  rfl

/-- The groups of the expression are what is read. -/
theorem captures_expression (banner text : List Char) :
    ((expression banner).first? text).map Hit.captures = (readAt? banner text).map fun r =>
      [(numberGroup.1, r.1 ++ '.' :: r.2), (majorGroup.1, r.1)] := by
  rw [expression, Expression.first?_phrase, readAt?]
  cases after? banner text with
  | none => rfl
  | some behind =>
    have hblanks := first?_blanks behind
    rw [first?_numbers] at hblanks
    simp only [numbers, behindMajor] at hblanks
    dsimp only
    rw [hblanks]
    by_cases hblank : behind.takeWhile isBlank = []
    · rw [if_pos hblank, if_pos (.inl hblank)]
      rfl
    · by_cases hdigit : (behind.dropWhile isBlank).takeWhile isDecimalDigit = []
      · rw [if_neg hblank, if_pos hdigit, if_pos (.inr hdigit)]
        rfl
      · rw [if_neg hblank, if_neg hdigit, if_neg (not_or.mpr ⟨hblank, hdigit⟩)]
        cases (behind.dropWhile isBlank).dropWhile isDecimalDigit with
        | nil => rfl
        | cons c rest =>
          by_cases hc : c = '.'
          · subst hc
            rfl
          · simp [hc]

/-- A search for the expression answers where the scan does. -/
theorem search_expression (banner text : List Char) :
    (expression banner).search text = (firstMatch? (readAt? banner) text).map fun r =>
      [(numberGroup.1, r.1 ++ '.' :: r.2), (majorGroup.1, r.1)] := by
  rw [Expression.search, ← firstMatch?_map, ← firstMatch?_map]
  congr 1
  exact funext (captures_expression banner)

/-! ## Whole outputs -/

/-- What a scanner finds is what the scan finds. -/
theorem findBy_eq {scanner : Scanner} (h : scanner.IsLeftmostFirst) {banner : String}
    {search : List Char → Option Captures} (hread : scanner.read (pattern banner.toList) = .ok search)
    (output : String) : findBy scanner banner output = .ok (find? banner output) := by
  have hsearch : search = (expression banner.toList).search :=
    h _ _ ((congrArg scanner.read (text_expression banner.toList)).trans hread)
  rw [findBy, hread, find?]
  dsimp only
  rw [hsearch, search_expression]
  cases firstMatch? (readAt? banner.toList) output.toList with
  | none => rfl
  | some r => rfl

/-- Digits, and what follows their point, where a version is stated and none is in front of it. -/
def StatedFirst (banner output digits rest : List Char) : Prop :=
  ∃ i, Stated banner (output.drop i) digits rest ∧
    ∀ j < i, ∀ digits rest, ¬ Stated banner (output.drop j) digits rest

/-- What a version tells of the digits and of what follows their point. -/
structure Tells (output digits rest : List Char) (v : Version) : Prop where
  major : v.major = numberOfDigits digits
  /-- The number goes on with the longest run of digits and points, without the points behind. -/
  number : ∃ tail behind points, rest = tail ++ behind ∧ (∀ c ∈ tail, isTail c = true) ∧
    (∀ c, behind.head? = some c → isTail c = false) ∧
    digits ++ '.' :: tail = v.number.toList ++ points ∧ ∀ c ∈ points, c = '.'
  starts : digits <+: v.number.toList
  plain : ∀ c ∈ v.number.toList, isAsciiDigit c = true ∨ c = '.'
  ends : v.number.toList.getLast? ≠ some '.'
  /-- The output is told without the blanks around it. -/
  raw : ∃ front back, output = front ++ (v.raw.toList ++ back) ∧
    (∀ c ∈ front, isBlank c = true) ∧ (∀ c ∈ back, isBlank c = true) ∧
    (∀ c, v.raw.toList.head? = some c → isBlank c = false) ∧
    ∀ c, v.raw.toList.getLast? = some c → isBlank c = false

theorem firstMatch?_readAt?_eq_some_iff :
    firstMatch? (readAt? banner) text = some (digits, tail) ↔
      ∃ rest, StatedFirst banner text digits rest ∧ tail = rest.takeWhile isTail := by
  simp only [firstMatch?_eq_some_iff, readAt?_eq_some_iff, readAt?_eq_none_iff]
  constructor
  · rintro ⟨i, ⟨rest, hstated, htail⟩, hbefore⟩
    exact ⟨rest, ⟨i, hstated, hbefore⟩, htail⟩
  · rintro ⟨rest, ⟨i, hstated, hbefore⟩, htail⟩
    exact ⟨i, ⟨rest, hstated, htail⟩, hbefore⟩

theorem major?_eq_some_iff {n : Nat} : major? digits = some n ↔
    (∀ c ∈ digits, isAsciiDigit c = true) ∧ numberOfDigits digits < UInt32.size ∧
      n = numberOfDigits digits := by
  unfold major?
  constructor
  · intro h
    split at h
    · next hfits =>
      cases h
      exact ⟨List.all_eq_true.mp hfits.1, hfits.2, rfl⟩
    · cases h
  · rintro ⟨hascii, hbound, rfl⟩
    exact if_pos ⟨List.all_eq_true.mpr hascii, hbound⟩

/-! ## Texts without their ends -/

/-- A text is what is left without its end, and this end. -/
theorem exists_rdropWhile (p : Char → Bool) (s : List Char) : ∃ back, s = s.rdropWhile p ++ back ∧
    (∀ c ∈ back, p c = true) ∧ ∀ c, (s.rdropWhile p).getLast? = some c → p c = false := by
  refine ⟨s.rtakeWhile p, List.rdropWhile_append_rtakeWhile.symm,
    fun c hc => List.mem_rtakeWhile_imp hc, fun c hc => ?_⟩
  have hne : s.rdropWhile p ≠ [] := by
    intro hnil
    rw [hnil] at hc
    cases hc
  rw [List.getLast?_eq_some_getLast hne] at hc
  cases hc
  exact Bool.eq_false_iff.mpr (List.rdropWhile_last_not p s hne)

/-- A trimmed text is the text without the blanks at its ends. -/
theorem exists_trim (s : String) : ∃ front back, s.toList = front ++ ((trim s).toList ++ back) ∧
    (∀ c ∈ front, isBlank c = true) ∧ (∀ c ∈ back, isBlank c = true) ∧
    (∀ c, (trim s).toList.head? = some c → isBlank c = false) ∧
    ∀ c, (trim s).toList.getLast? = some c → isBlank c = false := by
  obtain ⟨back, hback, hblank, hlast⟩ := exists_rdropWhile isBlank (s.toList.dropWhile isBlank)
  have htrim : (trim s).toList = (s.toList.dropWhile isBlank).rdropWhile isBlank :=
    String.toList_ofList
  rw [htrim]
  refine ⟨s.toList.takeWhile isBlank, back, ?_, List.all_eq_true.mp List.all_takeWhile, hblank, ?_,
    hlast⟩
  · rw [← hback, List.takeWhile_append_dropWhile]
  · intro c hc
    have hhead : (s.toList.dropWhile isBlank).head? = some c := by
      rw [hback, List.head?_append, hc]
      rfl
    have hnot := List.head?_dropWhile_not isBlank s.toList
    rw [hhead] at hnot
    simpa using hnot

/-! ## What is found -/

/-- The digits are not among the points that are cut off. -/
theorem prefix_of_digits {number points : List Char} (hascii : ∀ c ∈ digits, isAsciiDigit c = true)
    (h : digits ++ '.' :: tail = number ++ points) (hpoints : ∀ c ∈ points, c = '.') :
    digits <+: number := by
  rcases List.append_eq_append_iff.mp h with ⟨more, rfl, -⟩ | ⟨cut, rfl, hcut⟩
  · exact List.prefix_append digits more
  · cases cut with
    | nil => exact (List.append_nil number).symm ▸ List.prefix_refl number
    | cons c cut =>
      have hpoint := hpoints c (hcut ▸ List.mem_cons_self)
      have hdigit := hascii c (List.mem_append_right _ List.mem_cons_self)
      rw [hpoint] at hdigit
      exact absurd hdigit (by decide)

/-- What is found tells of the leftmost place where a version is stated. -/
theorem find?_eq_some {banner output : String} {v : Version} (h : find? banner output = some v) :
    ∃ digits rest, StatedFirst banner.toList output.toList digits rest ∧
      (∀ c ∈ digits, isAsciiDigit c = true) ∧ numberOfDigits digits < UInt32.size ∧
      v.Tells output.toList digits rest := by
  unfold find? at h
  split at h
  · cases h
  · next digits tail hmatch =>
    obtain ⟨major, hmajor, rfl⟩ := Option.map_eq_some_iff.mp h
    obtain ⟨rest, hfirst, rfl⟩ := firstMatch?_readAt?_eq_some_iff.mp hmatch
    obtain ⟨hascii, hbound, rfl⟩ := major?_eq_some_iff.mp hmajor
    obtain ⟨points, hpoints, hpoint, hlast⟩ :=
      exists_rdropWhile (· == '.') (digits ++ '.' :: rest.takeWhile isTail)
    have hnumber : (String.ofList (trimPoints (digits ++ '.' :: rest.takeWhile isTail))).toList =
        (digits ++ '.' :: rest.takeWhile isTail).rdropWhile (· == '.') := String.toList_ofList
    have htail : ∀ c ∈ rest.takeWhile isTail, isTail c = true :=
      List.all_eq_true.mp List.all_takeWhile
    refine ⟨digits, rest, hfirst, hascii, hbound, rfl, ?_, ?_, ?_, ?_, exists_trim output⟩
    · refine ⟨rest.takeWhile isTail, rest.dropWhile isTail, points,
        List.takeWhile_append_dropWhile.symm, htail, fun c hc => ?_, ?_, fun c hc => ?_⟩
      · have hnot := List.head?_dropWhile_not isTail rest
        rw [hc] at hnot
        simpa using hnot
      · rw [hnumber]
        exact hpoints
      · simpa using hpoint c hc
    · rw [hnumber]
      exact prefix_of_digits hascii hpoints fun c hc => by simpa using hpoint c hc
    · intro c hc
      rw [hnumber] at hc
      have hmem : c ∈ digits ++ '.' :: rest.takeWhile isTail :=
        hpoints ▸ List.mem_append_left points hc
      rcases List.mem_append.mp hmem with hdigit | htail'
      · exact .inl (hascii c hdigit)
      · rcases List.mem_cons.mp htail' with rfl | hmem
        · exact .inr rfl
        · simpa [isTail] using htail c hmem
    · intro hpoint'
      rw [hnumber] at hpoint'
      exact absurd (hlast '.' hpoint') (by decide)

theorem firstMatch?_readAt?_eq_none_iff : firstMatch? (readAt? banner) text = none ↔
    ∀ i digits rest, ¬ Stated banner (text.drop i) digits rest := by
  simp only [firstMatch?_eq_none_iff, readAt?_eq_none_iff]

theorem major?_eq_none_iff : major? digits = none ↔
    (∃ c ∈ digits, isAsciiDigit c = false) ∨ UInt32.size ≤ numberOfDigits digits := by
  rw [Option.eq_none_iff_forall_ne_some]
  simp only [ne_eq, major?_eq_some_iff]
  constructor
  · intro h
    by_cases hascii : ∀ c ∈ digits, isAsciiDigit c = true
    · refine .inr (Nat.le_of_not_lt fun hbound => ?_)
      exact h (numberOfDigits digits) ⟨hascii, hbound, rfl⟩
    · left
      simpa using hascii
  · rintro (⟨c, hc, hdigit⟩ | hbound) n ⟨hascii, hfits, -⟩
    · exact Bool.false_ne_true (hdigit.symm.trans (hascii c hc))
    · exact Nat.not_lt_of_le hbound hfits

/-- Nothing is found where nothing is stated, or where the major number that is stated first does
not fit. -/
theorem find?_eq_none_iff {banner output : String} : find? banner output = none ↔
    (∀ i digits rest, ¬ Stated banner.toList (output.toList.drop i) digits rest) ∨
      ∃ digits rest, StatedFirst banner.toList output.toList digits rest ∧
        ((∃ c ∈ digits, isAsciiDigit c = false) ∨ UInt32.size ≤ numberOfDigits digits) := by
  rw [← firstMatch?_readAt?_eq_none_iff]
  simp only [← major?_eq_none_iff]
  unfold find?
  constructor
  · intro h
    split at h
    · next hnone => exact .inl hnone
    · next digits tail hmatch =>
      obtain ⟨rest, hfirst, -⟩ := firstMatch?_readAt?_eq_some_iff.mp hmatch
      exact .inr ⟨digits, rest, hfirst, Option.map_eq_none_iff.mp h⟩
  · rintro (hnone | ⟨digits, rest, hfirst, hmajor⟩)
    · rw [hnone]
    · rw [firstMatch?_readAt?_eq_some_iff.mpr ⟨rest, hfirst, rfl⟩]
      exact Option.map_eq_none_iff.mpr hmajor

/-- **Which version is found.** Whoever searches for the pattern from the left finds what the scan
finds. Nothing is found if and only if no version is stated, or the major number of the one that is
stated first does not fit; those behind it do not count. What is found tells of the one that is
stated first: its major number, its digits and points as they stand without the points behind, and
the output without the blanks around it. -/
theorem findBy_exact {scanner : Scanner} (h : scanner.IsLeftmostFirst) {banner : String}
    {search : List Char → Option Captures} (hread : scanner.read (pattern banner.toList) = .ok search)
    (output : String) :
    ∃ answer, findBy scanner banner output = .ok answer ∧ find? banner output = answer ∧
      (answer = none ↔
        (∀ i digits rest, ¬ Stated banner.toList (output.toList.drop i) digits rest) ∨
          ∃ digits rest, StatedFirst banner.toList output.toList digits rest ∧
            ((∃ c ∈ digits, isAsciiDigit c = false) ∨ UInt32.size ≤ numberOfDigits digits)) ∧
      ∀ v, answer = some v → ∃ digits rest,
        StatedFirst banner.toList output.toList digits rest ∧
          (∀ c ∈ digits, isAsciiDigit c = true) ∧ numberOfDigits digits < UInt32.size ∧
          v.Tells output.toList digits rest :=
  ⟨find? banner output, findBy_eq h hread output, rfl, find?_eq_none_iff, fun _ => find?_eq_some⟩

/-- A banner with operators of patterns and a blank behind, an output that states it in part before
it states a version, and points behind the version. -/
theorem findBy_exact_partial :
    let banner := "v(1)+ "
    let output := " v(1)+ 2 v(1)+ \u2003 06.10..rc \n"
    Scanner.direct.IsLeftmostFirst ∧
      Scanner.direct.read (pattern banner.toList) = .ok (expression banner.toList).search ∧
      findBy .direct banner output = .ok (some ⟨"v(1)+ 2 v(1)+ \u2003 06.10..rc", "06.10", 6⟩) ∧
      ∃ digits rest, StatedFirst banner.toList output.toList digits rest ∧
        (∀ c ∈ digits, isAsciiDigit c = true) ∧ numberOfDigits digits = 6 := by
  intro banner output
  have hread : Scanner.direct.read (pattern banner.toList) = .ok (expression banner.toList).search := by
    rw [← text_expression]
    exact Scanner.read_direct _
  have hfind : find? banner output = some ⟨"v(1)+ 2 v(1)+ \u2003 06.10..rc", "06.10", 6⟩ := by
    decide +kernel
  obtain ⟨answer, hanswer, hsame, -, hsome⟩ :=
    findBy_exact Scanner.isLeftmostFirst_direct hread output
  rw [hfind] at hsame
  subst hsame
  obtain ⟨digits, rest, hfirst, hascii, -, htells⟩ := hsome _ rfl
  exact ⟨Scanner.isLeftmostFirst_direct, hread, hanswer, digits, rest, hfirst, hascii,
    htells.major.symm⟩

end Version

end Testbench
