import RequestGuard.Proofs.Pattern.Whole
import RequestGuard.Route.Segment

/-!
# Patterns of segments

The classes of numbers, identifiers, dates, mail addresses and hashes are written as patterns. Each
pattern is read as an expression of whole segments that takes what the class holds, so the search
for the pattern and the class agree (`matchesPattern_eq_holds`).

Most of the patterns are made of blocks, each of which is a number of characters of one class.
Blocks one after another take the texts that pass the tests of the places in order (`takes_blocks`).
-/

namespace RequestGuard.Route

namespace SegmentClass

open Pattern (CharClass Compiled Expr Recognizes)

-- The patterns are read by evaluation, character by character.
set_option maxRecDepth 4000

def numberPattern : String := "^\\d+$"

def uuidPattern : String :=
  "(?i)^[0-9a-f]\x7b8\x7d-[0-9a-f]\x7b4\x7d-[1-8][0-9a-f]\x7b3\x7d-[89ab][0-9a-f]\x7b3\x7d-[0-9a-f]\x7b12\x7d$" ++
    "|^00000000-0000-0000-0000-000000000000$"

def datePattern : String :=
  "^\\d\x7b4\x7d-\\d\x7b2\x7d-\\d\x7b2\x7d$|^\\d\x7b2\x7d-\\d\x7b2\x7d-\\d\x7b4\x7d$"

def emailPattern : String := "^[^\\s@/]+@[^\\s@/]+\\.[^\\s@/]+$"

def hashPattern : String :=
  "(?i)^(?:[a-f0-9]\x7b32\x7d|[a-f0-9]\x7b40\x7d|[a-f0-9]\x7b64\x7d|[a-f0-9]\x7b128\x7d)$"

/-- The pattern of a class, for the classes that have one. -/
def pattern? : SegmentClass → Option String
  | .number => some numberPattern
  | .uuid => some uuidPattern
  | .date => some datePattern
  | .email => some emailPattern
  | .hash => some hashPattern
  | .ip | .secret => none

/-- Whether a segment is in a class by the pattern of the class alone, which ignores case only where
it says so. A class without a pattern is told in another way. -/
def matchesPattern (k : SegmentClass) (s : List Char) : Bool :=
  match k.pattern? with
  | some pattern =>
    (Compiled.ofText? ("(?-i)" ++ pattern)).any fun compiled => compiled.isMatch (String.ofList s)
  | none => k.holds s

/-! ### Tests for each place -/

theorem fits_times_iff {n : Nat} {test : Char → Bool} {s : List Char} :
    fits (times n test) s = true ↔ s.length = n ∧ ∀ c ∈ s, test c = true := by
  induction n generalizing s with
  | zero => cases s <;> simp [times, fits]
  | succ n ih =>
    rw [times] at ih
    cases s with
    | nil => simp [times, fits]
    | cons c s =>
      rw [times, List.replicate_succ, fits, Bool.and_eq_true, ih, List.length_cons,
        List.forall_mem_cons, Nat.succ.injEq]
      exact and_left_comm

theorem fits_append_iff {tests more : List (Char → Bool)} {s : List Char} :
    fits (tests ++ more) s = true
      ↔ ∃ front back, s = front ++ back ∧ fits tests front = true ∧ fits more back = true := by
  induction tests generalizing s with
  | nil =>
    constructor
    · intro h
      exact ⟨[], s, rfl, rfl, h⟩
    · intro h
      obtain ⟨front, back, rfl, hfront, hback⟩ := h
      cases front with
      | nil => exact hback
      | cons c front => cases hfront
  | cons test tests ih =>
    cases s with
    | nil =>
      constructor
      · intro h
        cases h
      · intro h
        obtain ⟨front, back, hnil, hfront, -⟩ := h
        obtain rfl := (List.append_eq_nil_iff.1 hnil.symm).1
        cases hfront
    | cons c s =>
      rw [List.cons_append, fits, Bool.and_eq_true, ih]
      constructor
      · intro h
        obtain ⟨htest, front, back, rfl, hfront, hback⟩ := h
        exact ⟨c :: front, back, rfl, by rw [fits, htest, hfront]; rfl, hback⟩
      · intro h
        obtain ⟨front, back, hsplit, hfront, hback⟩ := h
        cases front with
        | nil => cases hfront
        | cons d front =>
          obtain ⟨rfl, rfl⟩ := List.cons.inj hsplit
          rw [fits, Bool.and_eq_true] at hfront
          exact ⟨hfront.1, front, back, rfl, hfront.2, hback⟩

theorem length_of_fits {tests : List (Char → Bool)} {s : List Char} (h : fits tests s = true) :
    s.length = tests.length := by
  induction tests generalizing s with
  | nil =>
    cases s with
    | nil => rfl
    | cons c s => cases h
  | cons test tests ih =>
    cases s with
    | nil => cases h
    | cons c s =>
      rw [fits, Bool.and_eq_true] at h
      rw [List.length_cons, List.length_cons, ih h.2]

theorem forall_of_fits {tests : List (Char → Bool)} {s : List Char} {P : Char → Prop}
    (hP : ∀ test ∈ tests, ∀ c, test c = true → P c) (h : fits tests s = true) : ∀ c ∈ s, P c := by
  induction tests generalizing s with
  | nil =>
    cases s with
    | nil => simp
    | cons c s => cases h
  | cons test tests ih =>
    cases s with
    | nil => simp
    | cons c s =>
      obtain ⟨htest, htests⟩ := List.forall_mem_cons.1 hP
      rw [fits, Bool.and_eq_true] at h
      exact List.forall_mem_cons.2 ⟨htest c h.1, ih htests h.2⟩

theorem head_of_fits {test : Char → Bool} {tests : List (Char → Bool)} {c : Char} {s : List Char}
    (h : fits (test :: tests) (c :: s) = true) : test c = true := by
  rw [fits, Bool.and_eq_true] at h
  exact h.1

theorem forall_mem_times {n : Nat} {test : Char → Bool} {P : (Char → Bool) → Prop} (h : P test) :
    ∀ t ∈ times n test, P t := by
  intro t ht
  rwa [List.eq_of_mem_replicate ht]

/-! ### Blocks -/

/-- A number of characters of one class. -/
structure Block where
  cls : CharClass
  count : Nat

namespace Block

def expr (block : Block) : Expr :=
  if block.count = 1 then .chars block.cls
    else .repeated (.chars block.cls) block.count (some block.count)

def tests (block : Block) : List (Char → Bool) := times block.count block.cls.contains

theorem wellFormed_expr (block : Block) : block.expr.WellFormed := by
  unfold expr
  split
  · trivial
  · exact ⟨trivial, fun m hm => Nat.le_of_eq (Option.some.inj hm)⟩

theorem takes_expr (block : Block) : block.expr.Takes fun s => fits block.tests s = true := by
  unfold expr tests
  split
  · rename_i hone
    apply (Expr.takes_chars block.cls).of_iff
    intro s
    rw [hone, fits_times_iff, List.length_eq_one_iff]
    constructor
    · intro h
      obtain ⟨c, rfl, hc⟩ := h
      exact ⟨⟨c, rfl⟩, fun d hd => List.mem_singleton.1 hd ▸ hc⟩
    · intro h
      obtain ⟨⟨c, rfl⟩, hc⟩ := h
      exact ⟨c, rfl, hc c List.mem_cons_self⟩
  · apply (Expr.takes_repeated_chars block.cls block.count (some block.count)).of_iff
    intro s
    rw [fits_times_iff]
    constructor
    · intro h
      exact ⟨Nat.le_antisymm (h.2.1 _ rfl) h.1, h.2.2⟩
    · intro h
      exact ⟨Nat.le_of_eq h.1.symm, fun m hm => Nat.le_of_eq (h.1.trans (Option.some.inj hm)), h.2⟩

end Block

/-- Blocks one after another take the texts that pass their tests, place by place. -/
theorem takes_blocks (blocks : List Block) :
    (Expr.sequence (blocks.map Block.expr)).Takes
      fun s => fits (blocks.flatMap Block.tests) s = true := by
  induction blocks with
  | nil =>
    apply Expr.takes_sequence_nil.of_iff
    intro s
    cases s <;> simp [fits]
  | cons block blocks ih =>
    apply (block.takes_expr.sequence_cons ih).of_iff
    intro s
    rw [List.flatMap_cons, fits_append_iff]

def wholeBlocks (blocks : List Block) : List Expr := Expr.wholeParts (blocks.map Block.expr)

theorem wellFormed_wholeBlocks (blocks : List Block) :
    ∀ part ∈ wholeBlocks blocks, part.WellFormed := by
  apply Expr.wellFormed_whole
  intro part hpart
  obtain ⟨block, -, rfl⟩ := List.mem_map.1 hpart
  exact block.wellFormed_expr

theorem found_wholeBlocks_iff {blocks : List Block} {text : List Char} :
    (Expr.sequence (wholeBlocks blocks)).Found text
      ↔ fits (blocks.flatMap Block.tests) text = true :=
  Expr.found_whole_iff (takes_blocks blocks)

/-- The letters of lower case among the hexadecimal digits. -/
def lowerHex : CharClass := .interval 97 102

def decimal : CharClass := .interval 48 57

/-- Up to case, a class of characters of ASCII is a test which their variants pass and nothing else
of ASCII does. -/
theorem contains_folded_eq_test {cls : CharClass} {test : Char → Bool} (variants : List Char)
    (hcls : Text.IsAscii cls.contains) (htest : Text.IsAscii test)
    (hvariants : (Text.asciiChars.filter cls.contains).flatMap Unicode.caseVariants = variants)
    (hall : variants.all test = true)
    (hmem : (Text.asciiChars.filter test).all variants.contains = true) :
    (CharClass.folded cls).contains = test := by
  rw [CharClass.contains_folded_eq hcls.eq_contains, hvariants]
  funext c
  rw [Bool.eq_iff_iff]
  constructor
  · intro hc
    exact List.all_eq_true.1 hall c (List.contains_iff_mem.1 hc)
  · intro hc
    exact List.all_eq_true.1 hmem c (List.mem_filter.2 ⟨Text.mem_asciiChars (htest c hc), hc⟩)

theorem contains_hex :
    (CharClass.folded (.unions [lowerHex, decimal])).contains = Text.isHexDigit := by
  have hcls : Text.IsAscii (CharClass.unions [lowerHex, decimal]).contains := by
    intro c hc
    simp [CharClass.unions, lowerHex, decimal, CharClass.contains] at hc
    omega
  apply contains_folded_eq_test "0123456789aAbBcCdDeEfF".toList hcls Text.isAscii_isHexDigit
  · rfl
  · rfl
  · rfl

theorem contains_hex_decimal_first :
    (CharClass.folded (.unions [decimal, lowerHex])).contains = Text.isHexDigit := by
  have hswap : (CharClass.unions [decimal, lowerHex]).contains
      = (CharClass.unions [lowerHex, decimal]).contains := by
    funext c
    simp [CharClass.unions, CharClass.contains, Bool.or_comm]
  rw [← contains_hex]
  funext c
  rw [CharClass.contains, CharClass.contains, hswap]

/-- The first digit of the third group of an identifier. -/
def version : CharClass := .folded (.unions [.interval 49 56])

theorem contains_version : version.contains = fun c => '1' ≤ c && c ≤ '8' := by
  have hcls : Text.IsAscii (CharClass.unions [.interval 49 56]).contains := by
    intro c hc
    simp [CharClass.unions, CharClass.contains] at hc
    omega
  apply contains_folded_eq_test "12345678".toList hcls (Text.isAscii_interval '1' (by decide))
  · rfl
  · rfl
  · rfl

/-- The first digit of the fourth group of an identifier. -/
def variant : CharClass := .folded (.unions [.single 'b', .single 'a', .single '9', .single '8'])

theorem contains_variant : variant.contains = ['8', '9', 'a', 'b', 'A', 'B'].contains := by
  have hcls :
      Text.IsAscii (CharClass.unions [.single 'b', .single 'a', .single '9',
        .single '8']).contains := by
    intro c hc
    simp [CharClass.unions, CharClass.single, CharClass.contains] at hc
    omega
  apply contains_folded_eq_test "89aAbB".toList hcls (Text.isAscii_contains (by decide))
  · rfl
  · rfl
  · rfl

/-- A character of a mail address: none that is blank, an at sign or a slash. -/
def mail : CharClass := .compl (.unions [.single '/', .single '@', Pattern.blank])

theorem contains_blank : Pattern.blank.contains = Text.isBlank := by
  funext c
  rw [Bool.eq_iff_iff]
  simp [Pattern.blank, CharClass.ofIntervals, CharClass.contains, Text.isBlank]
  omega

theorem contains_mail : mail.contains = isMailChar := by
  funext c
  rw [mail, CharClass.contains, isMailChar]
  simp only [CharClass.unions, List.foldr_cons, List.foldr_nil, CharClass.contains,
    CharClass.contains_single, contains_blank, Bool.or_false]
  rw [Bool.or_comm (c == '/'), Bool.or_comm (c == '@')]

/-! ### Patterns of blocks -/

def digits (count : Nat) : Block := ⟨.set Unicode.decimalDigit, count⟩

def hex (count : Nat) : Block := ⟨.folded (.unions [lowerHex, decimal]), count⟩

def folded (c : Char) : Block := ⟨.folded (.single c), 1⟩

def dash : Block := ⟨.single '-', 1⟩

def yearFirst : List Block := [digits 4, dash, digits 2, dash, digits 2]

def yearLast : List Block := [digits 2, dash, digits 2, dash, digits 4]

theorem recognizes_date : Recognizes datePattern isDate
    (.either (.sequence (.empty :: wholeBlocks yearFirst)) (.sequence (wholeBlocks yearLast))) where
  parse := by rfl
  formed := by
    refine ⟨Expr.wellFormed_sequence ?_, Expr.wellFormed_sequence (wellFormed_wholeBlocks _)⟩
    exact List.forall_mem_cons.2 ⟨trivial, wellFormed_wholeBlocks _⟩
  found := by
    intro text
    rw [Expr.found_either_iff, Expr.found_sequence_empty_iff, found_wholeBlocks_iff,
      found_wholeBlocks_iff, isDate, Bool.or_eq_true]
    simp only [yearFirst, yearLast, List.flatMap_cons, List.flatMap_nil, Block.tests, dash,
      CharClass.contains_single]
    rfl

/-- The digits of an identifier, of which two stand for its version and its variant. -/
def groups : List Block :=
  [hex 8, folded '-', hex 4, folded '-', ⟨version, 1⟩, hex 3, folded '-', ⟨variant, 1⟩, hex 3,
    folded '-', hex 12]

/-- The digits of the identifier of zeros. -/
def zeros : List Block :=
  let zeros (count : Nat) := List.replicate count (folded '0')
  zeros 8 ++ folded '-' :: (zeros 4 ++ folded '-'
    :: (zeros 4 ++ folded '-' :: (zeros 4 ++ folded '-' :: zeros 12)))

theorem fits_groups (s : List Char) :
    (fits (groups.flatMap Block.tests) s || fits (zeros.flatMap Block.tests) s) = isUuid s := by
  have hhyphen : (folded '-').tests = hyphen := by
    rw [folded, Block.tests, CharClass.contains_folded_single (by rfl)]
    rfl
  have hzero : (folded '0').tests = times 1 (· == '0') := by
    rw [folded, Block.tests, CharClass.contains_folded_single (by rfl)]
  have hhex (count : Nat) : (hex count).tests = times count Text.isHexDigit := by
    rw [hex, Block.tests, contains_hex]
  have hversion : Block.tests ⟨version, 1⟩ = times 1 fun c => '1' ≤ c && c ≤ '8' := by
    rw [Block.tests, contains_version]
  have hvariant :
      Block.tests ⟨variant, 1⟩ = times 1 (['8', '9', 'a', 'b', 'A', 'B'].contains ·) := by
    rw [Block.tests, contains_variant]
  simp only [groups, zeros, List.flatMap_cons, List.flatMap_nil, List.flatMap_append,
    List.flatMap_replicate, hhyphen, hzero, hhex, hversion, hvariant]
  rfl

theorem recognizes_uuid : Recognizes uuidPattern isUuid
    (.either (.sequence (.empty :: .empty :: wholeBlocks groups))
      (.sequence (wholeBlocks zeros))) where
  parse := by rfl
  formed := by
    refine ⟨Expr.wellFormed_sequence ?_, Expr.wellFormed_sequence (wellFormed_wholeBlocks _)⟩
    exact List.forall_mem_cons.2 ⟨trivial,
      List.forall_mem_cons.2 ⟨trivial, wellFormed_wholeBlocks _⟩⟩
  found := by
    intro text
    rw [Expr.found_either_iff, Expr.found_sequence_empty_iff, Expr.found_sequence_empty_iff,
      found_wholeBlocks_iff, found_wholeBlocks_iff, ← Bool.or_eq_true, fits_groups]

/-- A digest of some length, in the order in which the pattern of hashes names the digits. -/
def digest (count : Nat) : Block := ⟨.folded (.unions [decimal, lowerHex]), count⟩

def digests : Expr :=
  .either (digest 32).expr (.either (digest 40).expr (.either (digest 64).expr (digest 128).expr))

theorem takes_digests : digests.Takes fun s => isHash s = true := by
  have htakes (count : Nat) := (digest count).takes_expr
  apply ((htakes 32).either ((htakes 40).either ((htakes 64).either (htakes 128)))).of_iff
  intro s
  simp only [digest, Block.tests, contains_hex_decimal_first, fits_times_iff]
  rw [isHash, Bool.and_eq_true, List.contains_iff_mem, List.all_eq_true]
  simp only [List.mem_cons, List.not_mem_nil, or_false, or_and_right]

theorem recognizes_hash :
    Recognizes hashPattern isHash (.sequence (.empty :: .empty :: Expr.wholeParts [digests])) where
  parse := by rfl
  formed := by
    apply Expr.wellFormed_sequence
    refine List.forall_mem_cons.2 ⟨trivial,
      List.forall_mem_cons.2 ⟨trivial, Expr.wellFormed_whole ?_⟩⟩
    intro part hpart
    rw [List.mem_singleton.1 hpart]
    exact ⟨Block.wellFormed_expr _, Block.wellFormed_expr _, Block.wellFormed_expr _,
      Block.wellFormed_expr _⟩
  found := by
    intro text
    rw [Expr.found_sequence_empty_iff, Expr.found_sequence_empty_iff]
    exact Expr.found_whole_iff (show (Expr.sequence [digests]).Takes _ from takes_digests)

/-! ### Patterns with repetitions -/

def oneOrMore (cls : CharClass) : Expr := .repeated (.chars cls) 1 none

theorem wellFormed_oneOrMore (cls : CharClass) : (oneOrMore cls).WellFormed := by
  refine ⟨trivial, ?_⟩
  intro m hm
  cases hm

theorem takes_oneOrMore (cls : CharClass) :
    (oneOrMore cls).Takes fun s => s ≠ [] ∧ ∀ c ∈ s, cls.contains c = true := by
  apply (Expr.takes_repeated_chars cls 1 none).of_iff
  intro s
  rw [Nat.one_le_iff_ne_zero, Ne, List.length_eq_zero_iff]
  simp only [reduceCtorEq, false_implies, implies_true, true_and]

theorem takes_single (c : Char) : (Expr.chars (.single c)).Takes fun s => s = [c] := by
  apply (Expr.takes_chars (.single c)).of_iff
  intro s
  simp only [CharClass.contains_single, beq_iff_eq, exists_eq_right]

theorem recognizes_number : Recognizes numberPattern isNumber
    (.sequence (.empty :: Expr.wholeParts [oneOrMore (.set Unicode.decimalDigit)])) where
  parse := by rfl
  formed := by
    apply Expr.wellFormed_sequence
    refine List.forall_mem_cons.2 ⟨trivial, Expr.wellFormed_whole ?_⟩
    exact List.forall_mem_singleton.2 (wellFormed_oneOrMore _)
  found := by
    intro text
    rw [Expr.found_sequence_empty_iff, isNumber, Bool.and_eq_true, Bool.not_eq_true',
      List.isEmpty_eq_false_iff, List.all_eq_true]
    exact Expr.found_whole_iff (show (Expr.sequence [oneOrMore _]).Takes _ from takes_oneOrMore _)

/-- A side of a mail address, or a part of one. -/
def IsMailText (s : List Char) : Prop := s ≠ [] ∧ ∀ c ∈ s, isMailChar c = true

theorem isEmail_iff {s : List Char} :
    isEmail s = true ↔ ∃ name first last, s = name ++ '@' :: (first ++ '.' :: last)
      ∧ IsMailText name ∧ IsMailText first ∧ IsMailText last := by
  constructor
  · intro h
    unfold isEmail at h
    split at h
    · rename_i name domain hsplit
      obtain ⟨rfl, -⟩ := Text.splitOnce?_eq_some hsplit
      rw [Bool.and_eq_true, Bool.and_eq_true, Bool.and_eq_true, Bool.not_eq_true',
        List.isEmpty_eq_false_iff, List.all_eq_true, List.all_eq_true, List.contains_iff_mem] at h
      obtain ⟨⟨⟨hne, hname⟩, hdomain⟩, hdot⟩ := h
      -- The dot is neither the first nor the last character of the domain.
      cases domain with
      | nil => cases hdot
      | cons c rest =>
        rw [List.drop_one, List.tail_cons] at hdot
        obtain ⟨before, after, hinner⟩ := List.append_of_mem hdot
        have hrest : rest ≠ [] := by
          intro hnil
          rw [hnil] at hdot
          cases hdot
        have hsplit : rest = before ++ '.' :: (after ++ [rest.getLast hrest]) := by
          rw [← List.cons_append, ← List.append_assoc, ← hinner, List.dropLast_concat_getLast]
        generalize rest.getLast hrest = d at hsplit
        subst hsplit
        have hparts : (c :: before) ++ '.' :: (after ++ [d])
            = c :: (before ++ '.' :: (after ++ [d])) := rfl
        rw [← hparts] at hdomain ⊢
        refine ⟨name, c :: before, after ++ [d], rfl, ⟨hne, hname⟩,
          ⟨List.cons_ne_nil c before, ?_⟩, by simp, ?_⟩
        · intro e he
          exact hdomain e (List.mem_append_left _ he)
        · intro e he
          exact hdomain e (List.mem_append_right _ (List.mem_cons_of_mem _ he))
    · cases h
  · intro h
    obtain ⟨name, first, last, rfl, ⟨hne, hname⟩, ⟨hfirstNe, hfirst⟩, hlastNe, hlast⟩ := h
    have hat : '@' ∉ name := by
      intro hmem
      exact Bool.false_ne_true (hname '@' hmem)
    have hdomain : ∀ c ∈ first ++ '.' :: last, isMailChar c = true := by
      intro c hc
      rw [List.mem_append, List.mem_cons] at hc
      obtain hc | rfl | hc := hc
      · exact hfirst c hc
      · decide
      · exact hlast c hc
    have hdot : '.' ∈ ((first ++ '.' :: last).drop 1).dropLast := by
      obtain ⟨c, before, rfl⟩ := List.exists_cons_of_ne_nil hfirstNe
      rw [List.cons_append, List.drop_one, List.tail_cons,
        List.dropLast_append_of_ne_nil (List.cons_ne_nil '.' last),
        List.dropLast_cons_of_ne_nil hlastNe]
      simp
    rw [isEmail, Text.splitOnce?_append _ hat]
    simp only [Bool.and_eq_true, Bool.not_eq_true', List.isEmpty_eq_false_iff, List.all_eq_true,
      List.contains_iff_mem]
    exact ⟨⟨⟨hne, hname⟩, hdomain⟩, hdot⟩

def mailParts : List Expr :=
  [oneOrMore mail, .chars (.single '@'), oneOrMore mail, .chars (.single '.'), oneOrMore mail]

theorem takes_mailParts : (Expr.sequence mailParts).Takes fun s => isEmail s = true := by
  have hmail : (oneOrMore mail).Takes IsMailText := by
    have htakes := takes_oneOrMore mail
    rwa [contains_mail] at htakes
  have hdomain :=
    hmail.sequence_cons ((takes_single '.').sequence_cons
      (hmail.sequence_cons Expr.takes_sequence_nil))
  apply (hmail.sequence_cons ((takes_single '@').sequence_cons hdomain)).of_iff
  intro s
  rw [isEmail_iff]
  constructor
  · intro h
    obtain ⟨name, _, rfl, hname, _, _, rfl, rfl, first, _, rfl, hfirst, _, _, rfl, rfl, last, _,
      rfl, hlast, rfl⟩ := h
    exact ⟨name, first, last, by simp, hname, hfirst, hlast⟩
  · intro h
    obtain ⟨name, first, last, rfl, hname, hfirst, hlast⟩ := h
    exact ⟨name, _, rfl, hname, ['@'], _, rfl, rfl, first, _, rfl, hfirst, ['.'], _, rfl, rfl, last,
      [], by simp, hlast, rfl⟩

theorem recognizes_email :
    Recognizes emailPattern isEmail (.sequence (.empty :: Expr.wholeParts mailParts)) where
  parse := by rfl
  formed := by
    apply Expr.wellFormed_sequence
    refine List.forall_mem_cons.2 ⟨trivial, Expr.wellFormed_whole ?_⟩
    simp only [mailParts, List.forall_mem_cons, wellFormed_oneOrMore, Expr.WellFormed,
      List.not_mem_nil, false_implies, implies_true, and_self]
  found := by
    intro text
    rw [Expr.found_sequence_empty_iff]
    exact Expr.found_whole_iff takes_mailParts

/-! ### All patterns -/

theorem matchesPattern_eq_of_recognizes {k : SegmentClass} {pattern : String}
    {test : List Char → Bool} {expr : Expr} (hpattern : k.pattern? = some pattern)
    (h : Recognizes pattern test expr) (s : List Char) :
    k.matchesPattern s = test s := by
  rw [matchesPattern, hpattern]
  dsimp only
  rw [h.isMatch_eq, String.toList_ofList]

/-- What the pattern of a class matches is what the class holds. -/
theorem matchesPattern_eq_holds (k : SegmentClass) (s : List Char) :
    k.matchesPattern s = k.holds s := by
  cases k with
  | number => exact matchesPattern_eq_of_recognizes rfl recognizes_number s
  | uuid => exact matchesPattern_eq_of_recognizes rfl recognizes_uuid s
  | date => exact matchesPattern_eq_of_recognizes rfl recognizes_date s
  | email => exact matchesPattern_eq_of_recognizes rfl recognizes_email s
  | ip => rfl
  | hash => exact matchesPattern_eq_of_recognizes rfl recognizes_hash s
  | secret => rfl

end SegmentClass

end RequestGuard.Route
