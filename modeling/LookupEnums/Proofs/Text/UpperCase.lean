import LookupEnums.Proofs.Text.Unbroken
import Mathlib.Data.List.Chain

/-! # What upper-casing makes of letters

The upper case of a letter starts with a letter and goes on with letters and combining marks, and
those letters are their own upper case. The tables are in order, so a look through them may stop early,
and they are compared run by run instead of letter by letter.

The searches through the whole tables are left to the kernel, for which recursions that are compiled to
the recursor of lists take many times the steps of the recursor itself.
-/
namespace LookupEnums.Text

def isMarkCode (n : Nat) : Bool :=
  0x300 ≤ n && n ≤ 0x36f

def isMark (c : Char) : Bool :=
  isMarkCode c.toNat

theorem inRanges_of_mem {ranges : List (Nat × Nat)} (hsorted : (ranges.map (·.1)).Pairwise (· ≤ ·))
    {range : Nat × Nat} (hrange : range ∈ ranges) {n : Nat} (hfirst : range.1 ≤ n)
    (hlast : n ≤ range.2) : inRanges ranges n = true := by
  induction ranges with
  | nil => cases hrange
  | cons head rest ih =>
    rw [List.map_cons, List.pairwise_cons] at hsorted
    obtain ⟨first, last⟩ := head
    rcases List.mem_cons.mp hrange with rfl | hmem
    · simp [inRanges, hlast, Nat.not_lt.mpr hfirst]
    · have hle : first ≤ range.1 := hsorted.1 range.1 (List.mem_map_of_mem hmem)
      have hnot : ¬ n < first := by omega
      simp [inRanges, hnot, ih hsorted.2 hmem]

theorem exists_of_inRanges {ranges : List (Nat × Nat)} {n : Nat} (h : inRanges ranges n = true) :
    ∃ range ∈ ranges, range.1 ≤ n ∧ n ≤ range.2 := by
  induction ranges with
  | nil => cases h
  | cons head rest ih =>
    obtain ⟨first, last⟩ := head
    rw [inRanges] at h
    split at h
    next => cases h
    next hnot =>
      rcases Bool.or_eq_true_iff.mp h with hle | hrest
      · exact ⟨(first, last), List.mem_cons_self, Nat.le_of_not_lt hnot, of_decide_eq_true hle⟩
      · obtain ⟨range, hrange, hin⟩ := ih hrest
        exact ⟨range, List.mem_cons_of_mem _ hrange, hin⟩

/-- The ranges of letters are in order and hold characters, and no mark. -/
theorem letterRanges_sound : (letterRanges.map (·.1)).IsChain (· ≤ ·) ∧
    (∀ range ∈ letterRanges, range.2 < 0xd800 ∨ 0xdfff < range.1 ∧ range.2 < 0x110000) ∧
    ∀ range ∈ letterRanges, range.2 < 0x300 ∨ 0x36f < range.1 := by
  decide +kernel

theorem pairwise_letterRanges : (letterRanges.map (·.1)).Pairwise (· ≤ ·) :=
  List.isChain_iff_pairwise.mp letterRanges_sound.1

theorem toNat_ofNat {n : Nat} (h : n.isValidChar) : (Char.ofNat n).toNat = n := by
  rw [Char.ofNat, dif_pos h]
  rfl

/-- A code point in the ranges is that of a letter. -/
theorem isLetter_ofNat {n : Nat} (h : inRanges letterRanges n = true) :
    (Char.ofNat n).toNat = n ∧ isLetter (Char.ofNat n) = true := by
  obtain ⟨range, hrange, hfirst, hlast⟩ := exists_of_inRanges h
  have hchar : n.isValidChar := by
    unfold Nat.isValidChar
    rcases letterRanges_sound.2.1 range hrange with hlow | hhigh
    · omega
    · omega
  have hvalue := toNat_ofNat hchar
  rw [isLetter, hvalue]
  exact ⟨rfl, h⟩

theorem isLetter_of_isMark {c : Char} (h : isMark c = true) : isLetter c = false := by
  by_contra hletter
  rw [Bool.not_eq_false] at hletter
  obtain ⟨range, hrange, hfirst, hlast⟩ := exists_of_inRanges hletter
  simp only [isMark, isMarkCode, Bool.and_eq_true, decide_eq_true_eq] at h
  rcases letterRanges_sound.2.2 range hrange with hbelow | habove
  · omega
  · omega

structure Progression where
  first : Nat
  last : Nat
  step : Nat

namespace Progression
variable {p q : Progression} {n : Nat}

def Holds (p : Progression) (n : Nat) : Prop :=
  p.first ≤ n ∧ n ≤ p.last ∧ (n - p.first) % p.step = 0

def single (n : Nat) : Progression := ⟨n, n, 2⟩

theorem holds_single {m n : Nat} : (single m).Holds n ↔ n = m := by
  simp only [Holds, single]
  omega

/-- One ends before the other begins, or each lies between the code points of the other. -/
def isApart (p q : Progression) : Bool :=
  Nat.blt q.last p.first || (Nat.blt p.last q.first ||
    ((Nat.beq p.step 2 || Nat.beq p.first p.last) &&
      (Nat.beq q.step 2 && Nat.beq ((p.first + q.first) % 2) 1)))

theorem not_holds_of_isApart (h : p.isApart q = true) (hp : p.Holds n) : ¬ q.Holds n := by
  intro hq
  obtain ⟨hpfirst, hplast, hpstep⟩ := hp
  obtain ⟨hqfirst, hqlast, hqstep⟩ := hq
  simp only [isApart, Bool.or_eq_true, Bool.and_eq_true, Nat.blt_eq, Nat.beq_eq] at h
  rcases h with h | h | ⟨hsparse, hqtwo, hparity⟩
  · omega
  · omega
  · rw [hqtwo] at hqstep
    rcases hsparse with hptwo | hone
    · rw [hptwo] at hpstep
      omega
    · omega

def isClearOf (p : Progression) : List Progression → Bool
  | [] => true
  | q :: rest => Nat.blt p.last q.first || (p.isApart q && p.isClearOf rest)

theorem not_holds_of_isClearOf {list : List Progression}
    (hsorted : (list.map first).Pairwise (· ≤ ·)) (h : p.isClearOf list = true) (hp : p.Holds n) :
    ∀ q ∈ list, ¬ q.Holds n := by
  induction list with
  | nil => simp
  | cons head rest ih =>
    rw [List.map_cons, List.pairwise_cons] at hsorted
    simp only [isClearOf, Bool.or_eq_true, Bool.and_eq_true, Nat.blt_eq] at h
    intro q hq
    rcases h with hbeyond | ⟨happart, hrest⟩
    · -- what comes later in the list begins even further on
      have hle : head.first ≤ q.first := by
        rcases List.mem_cons.mp hq with rfl | hmem
        · exact Nat.le_refl _
        · exact hsorted.1 q.first (List.mem_map_of_mem hmem)
      have hlast := hp.2.1
      intro hholds
      have hfirst := hholds.1
      omega
    · rcases List.mem_cons.mp hq with rfl | hmem
      · exact not_holds_of_isApart happart hp
      · exact ih hsorted.2 hrest q hmem

def isLetters (p : Progression) : Bool :=
  (letterRanges.any fun range => Nat.ble range.1 p.first && Nat.ble p.last range.2) ||
    (Nat.beq p.step 2 && ((List.range (p.last - p.first + 1)).all fun i =>
      Nat.beq (i % 2) 1 || inRanges letterRanges (p.first + i)))

theorem inRanges_of_isLetters (h : p.isLetters = true) (hp : p.Holds n) :
    inRanges letterRanges n = true := by
  obtain ⟨hfirst, hlast, hstep⟩ := hp
  simp only [isLetters, Bool.or_eq_true, Bool.and_eq_true, List.any_eq_true, List.all_eq_true,
    List.mem_range, Nat.ble_eq, Nat.beq_eq] at h
  rcases h with ⟨range, hrange, hbelow, habove⟩ | ⟨htwo, hall⟩
  · exact inRanges_of_mem pairwise_letterRanges hrange (by omega) (by omega)
  · rw [htwo] at hstep
    rcases hall (n - p.first) (by omega) with hodd | hletter
    · omega
    · rwa [Nat.add_sub_cancel' hfirst] at hletter

/-- `List.foldr` by the recursor of lists. -/
noncomputable def foldrRec {α : Type} (f : α → Bool → Bool) (b : Bool) (list : List α) : Bool :=
  list.rec b fun head _ later => f head later

theorem foldrRec_cons {α : Type} (f : α → Bool → Bool) (b : Bool) (head : α) (rest : List α) :
    foldrRec f b (head :: rest) = f head (foldrRec f b rest) := rfl

/-- The first range that does not end before the progression does begins no later. -/
noncomputable def isWithin (p : Progression) : List (Nat × Nat) → Bool :=
  foldrRec (fun range later => bif Nat.ble p.last range.2 then Nat.ble range.1 p.first else later) false

theorem exists_of_isWithin {ranges : List (Nat × Nat)} (h : p.isWithin ranges = true) :
    ∃ range ∈ ranges, range.1 ≤ p.first ∧ p.last ≤ range.2 := by
  induction ranges with
  | nil => cases h
  | cons range rest ih =>
    rw [isWithin, foldrRec_cons] at h
    cases hends : Nat.ble p.last range.2 with
    | true =>
      rw [hends, cond_true, Nat.ble_eq] at h
      exact ⟨range, List.mem_cons_self, h, Nat.le_of_ble_eq_true hends⟩
    | false =>
      rw [hends, cond_false] at h
      obtain ⟨found, hfound, hin⟩ := ih h
      exact ⟨found, List.mem_cons_of_mem _ hfound, hin⟩

theorem isLetters_of_isWithin (h : p.isWithin letterRanges = true) : p.isLetters = true := by
  obtain ⟨range, hrange, hbelow, habove⟩ := exists_of_isWithin h
  rw [isLetters, Bool.or_eq_true_iff]
  refine .inl (List.any_eq_true.mpr ⟨range, hrange, ?_⟩)
  rw [Bool.and_eq_true_iff, Nat.ble_eq, Nat.ble_eq]
  exact ⟨hbelow, habove⟩

/-- `isClearOf`, with one comparison for what ends before the progression begins. -/
noncomputable def passes (p : Progression) : List Progression → Bool :=
  foldrRec (fun q later => bif Nat.blt q.last p.first then later
    else Nat.blt p.last q.first || (p.isApart q && later)) true

theorem isClearOf_of_passes {list : List Progression} (h : p.passes list = true) :
    p.isClearOf list = true := by
  induction list with
  | nil => rfl
  | cons q rest ih =>
    rw [passes, foldrRec_cons] at h
    rw [isClearOf, Bool.or_eq_true_iff, Bool.and_eq_true_iff]
    cases hends : Nat.blt q.last p.first with
    | true =>
      rw [hends, cond_true] at h
      exact .inr ⟨by rw [isApart, hends, Bool.true_or], ih h⟩
    | false =>
      rw [hends, cond_false, Bool.or_eq_true_iff, Bool.and_eq_true_iff] at h
      exact h.imp_right fun ⟨hapart, hlater⟩ => ⟨hapart, ih hlater⟩

end Progression

namespace CaseRun

def source (r : CaseRun) : Progression := ⟨r.first, r.last, r.step⟩

def target (r : CaseRun) : Progression :=
  ⟨(r.first + r.shift).toNat, (r.last + r.shift).toNat, r.step⟩

theorem holds_iff {r : CaseRun} {n : Nat} : r.holds n = true ↔ r.source.Holds n := by
  simp [holds, source, Progression.Holds, and_assoc]

theorem holds_target {r : CaseRun} {n : Nat} (hpositive : 0 ≤ r.first + r.shift)
    (h : r.holds n = true) : r.target.Holds (n + r.shift).toNat := by
  obtain ⟨hfirst, hlast, hstep⟩ := holds_iff.mp h
  simp only [source] at hfirst hlast hstep
  have hdistance : (n + r.shift).toNat - (r.first + r.shift).toNat = n - r.first := by omega
  simp only [target, Progression.Holds, hdistance]
  exact ⟨by omega, by omega, hstep⟩

end CaseRun

def spelledSources : List Progression := upperSpelled.map fun entry => .single entry.1

def runSources : List Progression := upperRuns.map CaseRun.source

/-- The letters, each once, that occur where an upper case is more than one character. -/
def spelledLetters : List Nat :=
  ((upperSpelled.flatMap (·.2)).filter fun n => !isMarkCode n).eraseDups

def targets : List Progression :=
  upperRuns.map CaseRun.target ++ spelledLetters.map .single

/-- The tables are in order and begin with the small letters, an upper case of several characters starts
with a letter, and no target is a source again. -/
theorem upper_sound : (spelledSources.map (·.first)).IsChain (· ≤ ·) ∧
    (runSources.map (·.first)).IsChain (· ≤ ·) ∧
    (∀ run ∈ upperRuns, 'a'.toNat ≤ run.first ∧ 0 ≤ run.first + run.shift) ∧
    (∀ entry ∈ upperSpelled, 'a'.toNat ≤ entry.1 ∧ ∃ n ∈ entry.2.head?, isMarkCode n = false) ∧
    (targets.all fun p => (p.isWithin letterRanges || p.isLetters) &&
      (p.passes spelledSources && p.passes runSources)) = true := by
  decide +kernel

theorem isLetters_of_mem_targets {p : Progression} (hp : p ∈ targets) : p.isLetters = true := by
  obtain ⟨-, -, -, -, hsearch⟩ := upper_sound
  have hletters := (Bool.and_eq_true_iff.mp (List.all_eq_true.mp hsearch p hp)).1
  exact (Bool.or_eq_true_iff.mp hletters).elim Progression.isLetters_of_isWithin id

theorem isClearOf_of_mem_targets {p : Progression} (hp : p ∈ targets) :
    p.isClearOf spelledSources = true ∧ p.isClearOf runSources = true := by
  obtain ⟨-, -, -, -, hsearch⟩ := upper_sound
  have hclear := (Bool.and_eq_true_iff.mp (List.all_eq_true.mp hsearch p hp)).2
  exact (Bool.and_eq_true_iff.mp hclear).imp Progression.isClearOf_of_passes
    Progression.isClearOf_of_passes

theorem pairwise_spelledSources : (spelledSources.map (·.first)).Pairwise (· ≤ ·) :=
  List.isChain_iff_pairwise.mp upper_sound.1

theorem pairwise_runSources : (runSources.map (·.first)).Pairwise (· ≤ ·) :=
  List.isChain_iff_pairwise.mp upper_sound.2.1

/-- A character that no table has is its own upper case. -/
theorem upper_eq_self {c : Char} (hspelled : ∀ entry ∈ upperSpelled, entry.1 ≠ c.toNat)
    (hruns : ∀ run ∈ upperRuns, ¬ run.source.Holds c.toNat) : upper c = [c] := by
  have hlookup : upperSpelled.lookup c.toNat = none := by
    rw [List.lookup_eq_none_iff]
    intro entry hentry
    simpa using (hspelled entry hentry).symm
  have hfind : upperRuns.find? (·.holds c.toNat) = none := by
    rw [List.find?_eq_none]
    intro run hrun hholds
    exact hruns run hrun (CaseRun.holds_iff.mp hholds)
  unfold upper
  rw [hlookup]
  simp only [hfind]

/-- What comes before the small letters is its own upper case: the tables begin with these. -/
theorem upper_of_lt {c : Char} (hc : c.toNat < 'a'.toNat) : upper c = [c] := by
  refine upper_eq_self (fun entry hentry => ?_) fun run hrun hholds => ?_
  · have hfirst := (upper_sound.2.2.2.1 entry hentry).1
    omega
  · have hfirst := (upper_sound.2.2.1 run hrun).1
    have hbelow : run.first ≤ c.toNat := hholds.1
    omega

/-- A code point of the targets is a letter that stays as it is when it is upper-cased. -/
theorem upper_of_targets {p : Progression} (hp : p ∈ targets) {n : Nat} (hn : p.Holds n) :
    isLetter (Char.ofNat n) = true ∧ upper (Char.ofNat n) = [Char.ofNat n] := by
  obtain ⟨hspelled, hruns⟩ := isClearOf_of_mem_targets hp
  have hinside := Progression.inRanges_of_isLetters (isLetters_of_mem_targets hp) hn
  obtain ⟨hvalue, hletter⟩ := isLetter_ofNat hinside
  refine ⟨hletter, upper_eq_self (fun entry hentry => ?_) fun run hrun => ?_⟩
  · have hnot := Progression.not_holds_of_isClearOf pairwise_spelledSources hspelled hn
      (.single entry.1) (List.mem_map_of_mem hentry)
    rw [Progression.holds_single] at hnot
    rw [hvalue]
    exact fun heq => hnot heq.symm
  · rw [hvalue]
    exact Progression.not_holds_of_isClearOf pairwise_runSources hruns hn run.source
      (List.mem_map_of_mem hrun)

theorem mem_targets_of_spelled {entry : Nat × List Nat} (hentry : entry ∈ upperSpelled) {n : Nat}
    (hn : n ∈ entry.2) (hmark : isMarkCode n = false) : Progression.single n ∈ targets := by
  refine List.mem_append_right _ (List.mem_map_of_mem ?_)
  rw [spelledLetters, List.mem_eraseDups, List.mem_filter]
  exact ⟨List.mem_flatMap.mpr ⟨entry, hentry, hn⟩, by simp [hmark]⟩

theorem upper_cases (c : Char) :
    (∃ entry ∈ upperSpelled, upper c = entry.2.map Char.ofNat) ∨
      (∃ p ∈ targets, ∃ n, p.Holds n ∧ upper c = [Char.ofNat n]) ∨ upper c = [c] := by
  unfold upper
  split
  next spelling hlookup =>
    obtain ⟨before, after, hsplit, -⟩ := List.lookup_eq_some_iff.mp hlookup
    exact .inl ⟨(c.toNat, spelling), by simp [hsplit], rfl⟩
  next =>
    split
    next run hfind =>
      have hrun := List.mem_of_find?_eq_some hfind
      have hholds : run.holds c.toNat = true := by simpa using List.find?_some hfind
      refine .inr (.inl ⟨run.target, List.mem_append_left _ (List.mem_map_of_mem hrun), _, ?_, rfl⟩)
      exact CaseRun.holds_target (upper_sound.2.2.1 run hrun).2 hholds
    next => exact .inr (.inr rfl)

/-- Each character of an upper case is a letter that is its own upper case, or a mark. -/
theorem letter_or_mark_of_mem_upper {c : Char} (hc : isLetter c = true) :
    ∀ d ∈ upper c, (isLetter d = true ∧ upper d = [d]) ∨ isMark d = true := by
  intro d hd
  rcases upper_cases c with ⟨entry, hentry, hupper⟩ | ⟨p, hp, n, hn, hupper⟩ | hupper
  · rw [hupper] at hd
    obtain ⟨n, hn, rfl⟩ := List.mem_map.mp hd
    cases hmark : isMarkCode n with
    | true =>
      right
      have hcode := hmark
      simp only [isMarkCode, Bool.and_eq_true, decide_eq_true_eq] at hcode
      have hvalid : n.isValidChar := by
        unfold Nat.isValidChar
        omega
      rwa [isMark, toNat_ofNat hvalid]
    | false =>
      left
      exact upper_of_targets (mem_targets_of_spelled hentry hn hmark) (Progression.holds_single.mpr rfl)
  · rw [hupper, List.mem_singleton] at hd
    rw [hd]
    exact .inl (upper_of_targets hp hn)
  · have hself := hd
    rw [hupper, List.mem_singleton] at hself
    rw [hself]
    exact .inl ⟨hc, hupper⟩

/-- The upper case of a letter starts with a letter. -/
theorem upper_eq_cons {c : Char} (hc : isLetter c = true) :
    ∃ first rest, upper c = first :: rest ∧ isLetter first = true := by
  rcases upper_cases c with ⟨entry, hentry, hupper⟩ | ⟨p, hp, n, hn, hupper⟩ | hupper
  · obtain ⟨-, n, hn, hmark⟩ := upper_sound.2.2.2.1 entry hentry
    obtain ⟨rest, hspelling⟩ := List.head?_eq_some_iff.mp hn
    refine ⟨Char.ofNat n, rest.map Char.ofNat, by rw [hupper, hspelling, List.map_cons], ?_⟩
    have hmem : n ∈ entry.2 := by simp [hspelling]
    exact (upper_of_targets (mem_targets_of_spelled hentry hmem hmark)
      (Progression.holds_single.mpr rfl)).1
  · exact ⟨_, [], hupper, (upper_of_targets hp hn).1⟩
  · exact ⟨c, [], hupper, hc⟩

end LookupEnums.Text
