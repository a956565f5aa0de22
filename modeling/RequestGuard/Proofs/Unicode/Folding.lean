import Mathlib.Data.List.Chain
import RequestGuard.Text.Digits
import RequestGuard.Unicode.Folding

/-!
# Equality up to case

The runs of the folding table do not overlap, and no code point that they fold to is folded on. So a
code point has one folding, which folds to itself (`foldPoint_foldPoint`), and the code points that
the table leads back to from a folding are exactly those that have it. The variants of a character
are therefore the characters that are equal to it up to case (`mem_caseVariants_iff`).
-/

namespace RequestGuard.Unicode

namespace FoldRun

def image (run : FoldRun) (point : Nat) : Nat := (Int.ofNat point + run.shift).toNat

/-- Whether no code point to which a run folds is folded by the other one: their intervals are
apart, or they alternate. -/
def misses (run other : FoldRun) : Bool :=
  Nat.blt (run.image run.last) other.first || Nat.blt other.last (run.image run.first)
    || (Nat.beq other.step 2 && (Nat.beq (run.step % 2) 0 || Nat.beq run.first run.last)
        && !Nat.beq (run.image run.first % 2) (other.first % 2))

/-- The members of a run and their foldings are code points of characters. -/
structure Sound (run : FoldRun) : Prop where
  positive : 0 < run.first
  shift : 0 ≤ Int.ofNat run.first + run.shift
  members : run.last < 0xD800 ∨ 0xDFFF < run.first ∧ run.last < 0x110000
  images : Int.ofNat run.last + run.shift < 0xD800
    ∨ 0xDFFF < Int.ofNat run.first + run.shift ∧ Int.ofNat run.last + run.shift < 0x110000

end FoldRun

theorem pairwise_foldRuns : foldRuns.Pairwise fun run later => run.last < later.first := by
  let Before (run later : FoldRun) : Prop := run.last < later.first ∧ later.first ≤ later.last
  have hnext : foldRuns.IsChain Before := by decide +kernel
  have htrans : IsTrans FoldRun Before := by
    constructor
    intro run later last hlater hlast
    exact ⟨by have h := hlater.1; have h' := hlater.2; have h'' := hlast.1; omega, hlast.2⟩
  exact hnext.pairwise.imp fun h => h.1

theorem misses_foldRuns : (foldRuns.all fun run => foldRuns.all run.misses) = true := by
  decide +kernel

theorem sound_of_mem_foldRuns {run : FoldRun} (h : run ∈ foldRuns) : run.Sound := by
  have hall : ∀ run ∈ foldRuns, 0 < run.first ∧ 0 ≤ Int.ofNat run.first + run.shift
      ∧ (run.last < 0xD800 ∨ 0xDFFF < run.first ∧ run.last < 0x110000)
      ∧ (Int.ofNat run.last + run.shift < 0xD800
          ∨ 0xDFFF < Int.ofNat run.first + run.shift
            ∧ Int.ofNat run.last + run.shift < 0x110000) := by
    decide +kernel
  obtain ⟨hpositive, hshift, hmembers, himages⟩ := hall run h
  exact ⟨hpositive, hshift, hmembers, himages⟩

namespace FoldRun

variable {run other : FoldRun} {point : Nat}

theorem contains_iff : run.contains point = true ↔
    run.first ≤ point ∧ point ≤ run.last ∧ (point - run.first) % run.step = 0 := by
  simp [contains, and_assoc]

theorem Sound.isValidChar_point (h : run.Sound) (hpoint : run.contains point = true) :
    point.isValidChar := by
  obtain ⟨hfirst, hlast, -⟩ := contains_iff.1 hpoint
  have hmembers := h.members
  show point < 0xD800 ∨ 0xDFFF < point ∧ point < 0x110000
  omega

theorem Sound.image_eq (h : run.Sound) (hpoint : run.first ≤ point) :
    Int.ofNat (run.image point) = Int.ofNat point + run.shift := by
  have hshift := h.shift
  unfold image
  simp only [Int.ofNat_eq_natCast] at hshift ⊢
  omega

theorem Sound.isValidChar_image (h : run.Sound) (hpoint : run.contains point = true) :
    (run.image point).isValidChar := by
  obtain ⟨hfirst, hlast, -⟩ := contains_iff.1 hpoint
  have himage := h.image_eq hfirst
  have himages := h.images
  show run.image point < 0xD800 ∨ 0xDFFF < run.image point ∧ run.image point < 0x110000
  simp only [Int.ofNat_eq_natCast] at himage himages
  omega

/-- A run that another one misses does not fold what the other one folds to. -/
theorem Sound.contains_image_of_misses (h : run.Sound) (hmisses : run.misses other = true)
    (hpoint : run.contains point = true) : other.contains (run.image point) = false := by
  obtain ⟨hfirst, hlast, hstep⟩ := contains_iff.1 hpoint
  have himage := h.image_eq hfirst
  have himageFirst := h.image_eq (Nat.le_refl run.first)
  have himageLast := h.image_eq (Nat.le_trans hfirst hlast)
  rw [Bool.eq_false_iff, Ne, contains_iff]
  intro hother
  obtain ⟨hotherFirst, hotherLast, hotherStep⟩ := hother
  unfold misses at hmisses
  simp only [Bool.or_eq_true, Bool.and_eq_true, Nat.blt_eq, Nat.beq_eq, Bool.not_eq_true']
    at hmisses
  simp only [Int.ofNat_eq_natCast] at himage himageFirst himageLast
  obtain (hbelow | habove) | ⟨⟨htwo, halternates⟩, hparity⟩ := hmisses
  · omega
  · omega
  · -- All images are an even distance from the first one, and all members of the other run from
    -- its first one.
    have heven : (point - run.first) % 2 = 0 := by
      obtain hdouble | hsingle := halternates
      · exact Nat.mod_eq_zero_of_dvd
          (Nat.dvd_trans (Nat.dvd_of_mod_eq_zero hdouble) (Nat.dvd_of_mod_eq_zero hstep))
      · omega
    rw [htwo] at hotherStep
    have hdiffers : run.image run.first % 2 ≠ other.first % 2 := by
      intro hsame
      rw [hsame] at hparity
      simp at hparity
    omega

end FoldRun

theorem eq_of_contains {run other : FoldRun} (hrun : run ∈ foldRuns) (hother : other ∈ foldRuns)
    {point : Nat} (h : run.contains point = true) (h' : other.contains point = true) :
    run = other := by
  obtain ⟨hfirst, hlast, -⟩ := FoldRun.contains_iff.1 h
  obtain ⟨hotherFirst, hotherLast, -⟩ := FoldRun.contains_iff.1 h'
  obtain ⟨i, hi, rfl⟩ := List.mem_iff_getElem.1 hrun
  obtain ⟨j, hj, rfl⟩ := List.mem_iff_getElem.1 hother
  have hlater := List.pairwise_iff_getElem.1 pairwise_foldRuns
  obtain hlt | rfl | hgt := Nat.lt_trichotomy i j
  · have := hlater i j hi hj hlt
    omega
  · rfl
  · have := hlater j i hj hi hgt
    omega

theorem foldPoint_of_contains {run : FoldRun} (hrun : run ∈ foldRuns) {point : Nat}
    (h : run.contains point = true) :
    foldPoint point = run.image point := by
  unfold foldPoint
  split
  · rename_i found hfound
    have hcontains := List.find?_some hfound
    rw [eq_of_contains (List.mem_of_find?_eq_some hfound) hrun hcontains h]
    rfl
  · rename_i hnone
    exact absurd h (List.find?_eq_none.1 hnone run hrun)

theorem foldPoint_of_not_contains {point : Nat} (h : ∀ run ∈ foldRuns, run.contains point = false) :
    foldPoint point = point := by
  have hnone : foldRuns.find? (fun run => run.contains point) = none := by
    rw [List.find?_eq_none]
    intro run hrun
    simp [h run hrun]
  rw [foldPoint, hnone]

/-- A code point is a member of some run, or its own folding. -/
theorem foldPoint_cases (point : Nat) :
    (∃ run ∈ foldRuns, run.contains point = true ∧ foldPoint point = run.image point)
      ∨ foldPoint point = point := by
  by_cases hrun : ∃ run ∈ foldRuns, run.contains point = true
  · obtain ⟨run, hmem, hcontains⟩ := hrun
    exact .inl ⟨run, hmem, hcontains, foldPoint_of_contains hmem hcontains⟩
  · refine .inr (foldPoint_of_not_contains fun run hmem => ?_)
    exact Bool.eq_false_iff.2 fun hcontains => hrun ⟨run, hmem, hcontains⟩

theorem foldPoint_foldPoint (point : Nat) : foldPoint (foldPoint point) = foldPoint point := by
  obtain ⟨run, hrun, hcontains, himage⟩ | hself := foldPoint_cases point
  · rw [himage]
    apply foldPoint_of_not_contains
    intro other hother
    have hmisses : run.misses other = true :=
      List.all_eq_true.1 (List.all_eq_true.1 misses_foldRuns run hrun) other hother
    exact (sound_of_mem_foldRuns hrun).contains_image_of_misses hmisses hcontains
  · rw [hself, hself]

theorem isValidChar_foldPoint {point : Nat} (h : point.isValidChar) :
    (foldPoint point).isValidChar := by
  obtain ⟨run, hrun, hcontains, himage⟩ | hself := foldPoint_cases point
  · rw [himage]
    exact (sound_of_mem_foldRuns hrun).isValidChar_image hcontains
  · rw [hself]
    exact h

theorem FoldRun.source?_eq_some_iff {run : FoldRun} (h : run.Sound) {target point : Nat} :
    run.source? target = some point ↔ run.contains point = true ∧ run.image point = target := by
  unfold source?
  rw [Option.ite_none_right_eq_some, Option.some.injEq]
  constructor
  · intro hsource
    obtain ⟨hcontains, rfl⟩ := hsource
    obtain ⟨hfirst, hlast, -⟩ := contains_iff.1 hcontains
    have himage := h.image_eq hfirst
    have hpositive := h.positive
    simp only [Int.ofNat_eq_natCast] at hfirst himage ⊢
    refine ⟨hcontains, ?_⟩
    omega
  · intro hsource
    obtain ⟨hcontains, rfl⟩ := hsource
    have himage := h.image_eq (contains_iff.1 hcontains).1
    have hback : (Int.ofNat (run.image point) - run.shift).toNat = point := by
      simp only [Int.ofNat_eq_natCast] at himage ⊢
      omega
    rw [hback]
    exact ⟨hcontains, rfl⟩

theorem mem_sources_iff {point other : Nat} :
    point ∈ foldPoint other :: foldRuns.filterMap (fun run => run.source? (foldPoint other))
      ↔ foldPoint point = foldPoint other := by
  rw [List.mem_cons, List.mem_filterMap]
  constructor
  · intro h
    obtain rfl | ⟨run, hrun, hsource⟩ := h
    · exact foldPoint_foldPoint other
    · obtain ⟨hcontains, himage⟩ :=
        (FoldRun.source?_eq_some_iff (sound_of_mem_foldRuns hrun)).1 hsource
      rw [foldPoint_of_contains hrun hcontains, himage]
  · intro h
    obtain ⟨run, hrun, hcontains, himage⟩ | hself := foldPoint_cases point
    · refine .inr ⟨run, hrun, ?_⟩
      exact (FoldRun.source?_eq_some_iff (sound_of_mem_foldRuns hrun)).2
        ⟨hcontains, himage.symm.trans h⟩
    · exact .inl (hself.symm.trans h)

theorem isValidChar_of_mem_sources {point other : Nat} (hother : other.isValidChar)
    (h : point ∈ foldPoint other :: foldRuns.filterMap (fun run => run.source? (foldPoint other))) :
    point.isValidChar := by
  rw [List.mem_cons, List.mem_filterMap] at h
  obtain rfl | ⟨run, hrun, hsource⟩ := h
  · exact isValidChar_foldPoint hother
  · have hsound := sound_of_mem_foldRuns hrun
    exact hsound.isValidChar_point ((FoldRun.source?_eq_some_iff hsound).1 hsource).1

theorem isValidChar_toNat (c : Char) : c.toNat.isValidChar := c.valid

theorem fold_eq_fold_iff {a b : Char} :
    fold a = fold b ↔ foldPoint a.toNat = foldPoint b.toNat := by
  constructor
  · intro h
    have hpoints := congrArg Char.toNat h
    unfold fold at hpoints
    rwa [Text.toNat_ofNat (isValidChar_foldPoint (isValidChar_toNat a)),
      Text.toNat_ofNat (isValidChar_foldPoint (isValidChar_toNat b))] at hpoints
  · intro h
    rw [fold, h, fold]

/-- The variants of a character are the characters that are equal to it up to case. -/
theorem mem_caseVariants_iff {a b : Char} : a ∈ caseVariants b ↔ fold a = fold b := by
  rw [fold_eq_fold_iff, ← mem_sources_iff, caseVariants, List.mem_map]
  constructor
  · intro h
    obtain ⟨point, hpoint, rfl⟩ := h
    rw [Text.toNat_ofNat (isValidChar_of_mem_sources (isValidChar_toNat b) hpoint)]
    exact hpoint
  · intro h
    exact ⟨a.toNat, h, Char.ofNat_toNat a⟩

/-- No run folds the character or leads back from it. -/
def isCaseless (c : Char) : Bool :=
  foldRuns.all fun run => !run.contains c.toNat && (run.source? c.toNat).isNone

theorem eq_of_fold_eq_of_isCaseless {c d : Char} (hc : isCaseless c = true)
    (h : fold c = fold d) : d = c := by
  have hnone : ∀ run ∈ foldRuns, run.contains c.toNat = false ∧ run.source? c.toNat = none := by
    intro run hrun
    have hrun := List.all_eq_true.1 hc run hrun
    rwa [Bool.and_eq_true, Bool.not_eq_true', Option.isNone_iff_eq_none] at hrun
  have hself : foldPoint c.toNat = c.toNat :=
    foldPoint_of_not_contains fun run hrun => (hnone run hrun).1
  have hsource := mem_sources_iff.2 (fold_eq_fold_iff.1 h.symm)
  rw [hself, List.mem_cons, List.mem_filterMap] at hsource
  obtain heq | ⟨run, hrun, hsome⟩ := hsource
  · exact Char.toNat_inj.1 heq
  · rw [(hnone run hrun).2] at hsome
    cases hsome

end RequestGuard.Unicode
