import Mathlib.Data.List.TakeDrop
import Mathlib.Data.List.TakeWhile
import RequestGuard.Proofs.Text.Utf8
import RequestGuard.Proofs.Url.Path

/-!
# Plain web addresses

A web address whose host is made of lower-case letters is read without changing anything up to its
path: no character that counts is trimmed (`exists_clean_append`), such a host is a domain name that
stands for itself and no address (`checkHost_of_letters`), and without a user and a port it is the
whole authority (`readAuthority_of_letters`). So the path of the address is that which its text
after the host writes (`parse_web`).
-/

namespace RequestGuard.Url

open Unicode (Direction)

/-- Nothing is taken from a text that begins with characters that are neither blanks nor controls
but at its end. -/
theorem exists_clean_append {front : List Char} (hne : front ≠ [])
    (h : ∀ c ∈ front, 0x20 < c.toNat) (rest : List Char) :
    ∃ kept, clean (front ++ rest) = front ++ kept ∧ kept.Sublist rest := by
  let isOuter : Char → Bool := fun c => c.toNat ≤ 0x20
  have hinner {c : Char} (hc : c ∈ front) : ¬ isOuter c = true := by
    have hlarge := h c hc
    rw [decide_eq_true_eq]
    omega
  have hstart : (front ++ rest).dropWhile isOuter = front ++ rest := by
    obtain ⟨c, more, rfl⟩ := List.exists_cons_of_ne_nil hne
    exact List.dropWhile_cons_of_neg (hinner List.mem_cons_self)
  have hend : (rest.reverse ++ front.reverse).dropWhile isOuter
      = rest.reverse.dropWhile isOuter ++ front.reverse := by
    have hback : front.reverse.dropWhile isOuter = front.reverse := by
      obtain ⟨c, more, hreverse⟩ := List.exists_cons_of_ne_nil (List.reverse_ne_nil_iff.2 hne)
      rw [hreverse]
      exact List.dropWhile_cons_of_neg (hinner (List.mem_reverse.1 (hreverse ▸ List.mem_cons_self)))
    rw [List.dropWhile_append]
    split
    · rename_i hempty
      rw [hback, List.isEmpty_iff.1 hempty, List.nil_append]
    · rfl
  have hkept : front.filter (fun c => !(c == '\t' || c == '\n' || c == '\r')) = front := by
    rw [List.filter_eq_self]
    intro c hc
    have hne {d : Char} (hd : d.toNat ≤ 0x20) : (c == d) = false := by
      rw [beq_eq_false_iff_ne]
      intro heq
      exact Nat.not_le.2 (h c hc) (heq ▸ hd)
    rw [hne (by decide), hne (by decide), hne (by decide)]
    rfl
  refine ⟨(rest.reverse.dropWhile isOuter).reverse.filter
    fun c => !(c == '\t' || c == '\n' || c == '\r'), ?_, ?_⟩
  · rw [clean, hstart, List.reverse_append, hend, List.reverse_append, List.reverse_reverse,
      List.filter_append, hkept]
  · apply List.filter_sublist.trans
    rw [← List.reverse_sublist, List.reverse_reverse]
    exact List.dropWhile_sublist _

/-! ### Domain names of letters -/

/-- What a letter is to those who read hosts. -/
structure IsHostLetter (c : Char) : Prop where
  ascii : c.toNat < 0x80
  printable : 0x20 < c.toNat
  chars : domainChars? c = some [c]
  unmarked : Pattern.mark.contains c = false
  unjoined : isJoiner c = false
  allowed : isForbiddenInDomain c = false
  direction : Direction.of c = .leftToRight
  inside : SchemeKind.special.endsAuthority c = false
  notDigit : c.isDigit = false
  notDigitInTen : isDigitIn 10 c = false

theorem isHostLetter_of_isLower {c : Char} (h : c.isLower = true) : IsHostLetter c := by
  have hbounds := Text.isLower_iff.1 h
  have hlast : c.toNat < 97 + 26 := by omega
  obtain ⟨hchars, hunmarked, hunjoined, hallowed, hdirection, hinside, hdigit, hten⟩ :
    domainChars? c = some [c]
      ∧ Pattern.mark.contains c = false ∧ isJoiner c = false ∧ isForbiddenInDomain c = false
      ∧ Direction.of c = .leftToRight ∧ SchemeKind.special.endsAuthority c = false
      ∧ c.isDigit = false
      ∧ isDigitIn 10 c = false := by
    apply Text.of_interval hbounds.1 hlast
    decide +kernel
  exact ⟨by omega, by omega, hchars, hunmarked, hunjoined, hallowed, hdirection,
    hinside, hdigit, hten⟩

section Letters

variable {name : List Char} (h : ∀ c ∈ name, c.isLower = true)

include h

theorem not_mem_of_isLower {c : Char} (hc : c.isLower = false) : c ∉ name := by
  intro hmem
  rw [h c hmem] at hc
  cases hc

theorem mapM_domainChars?_of_letters : name.mapM domainChars? = some (name.map fun c => [c]) := by
  induction name with
  | nil => rfl
  | cons c rest ih =>
    obtain ⟨hc, hrest⟩ := List.forall_mem_cons.1 h
    rw [List.mapM_cons, (isHostLetter_of_isLower hc).chars, ih hrest]
    rfl

theorem joinersFit_of_letters (before : List Char) : joinersFit before name = true := by
  induction name generalizing before with
  | nil => rfl
  | cons c rest ih =>
    obtain ⟨hc, hrest⟩ := List.forall_mem_cons.1 h
    rw [joinersFit, (isHostLetter_of_isLower hc).unjoined, ih hrest]
    rfl

theorem shownLabel?_of_letters : shownLabel? name = some name := by
  have hopen : "xn--".toList.isPrefixOf name = false := by
    rw [Bool.eq_false_iff, Ne, List.isPrefixOf_iff_prefix]
    intro hmark
    exact not_mem_of_isLower h (by decide) (hmark.subset (show '-' ∈ "xn--".toList by decide))
  have hchars : name.all (fun c => domainChars? c == some [c]) = true := by
    rw [List.all_eq_true]
    intro c hc
    rw [(isHostLetter_of_isLower (h c hc)).chars, beq_self_eq_true]
  have hfirst : name.head?.any Pattern.mark.contains = false := by
    cases name with
    | nil => rfl
    | cons c rest => exact (isHostLetter_of_isLower (h c List.mem_cons_self)).unmarked
  have hplain : isPlainLabel name = true := by
    rw [isPlainLabel, hchars, hfirst, joinersFit_of_letters h]
    rfl
  rw [shownLabel?, hopen, if_neg Bool.false_ne_true, if_pos hplain]

theorem normalizeDomain?_of_letters : normalizeDomain? name = some name := by
  have hflatten : (name.map fun c => [c]).flatten = name := by
    rw [← List.flatMap_def, List.flatMap_singleton']
  have hlabels : (Text.splitOn '.' name).mapM shownLabel? = some [name] := by
    rw [Text.splitOn_eq_singleton (not_mem_of_isLower h (by decide)), List.mapM_cons,
      shownLabel?_of_letters h]
    rfl
  have hallowed : name.any isForbiddenInDomain = false := by
    rw [List.any_eq_false]
    intro c hc
    rw [(isHostLetter_of_isLower (h c hc)).allowed]
    exact Bool.false_ne_true
  have hdirection : isRightToLeft name = false := by
    rw [isRightToLeft, List.any_map, List.any_eq_false]
    intro c hc
    rw [Function.comp_apply, (isHostLetter_of_isLower (h c hc)).direction]
    decide
  rw [normalizeDomain?, mapM_domainChars?_of_letters h]
  dsimp only
  rw [hflatten, hlabels]
  simp [hallowed, directionsFit, hdirection]

theorem decode_of_letters : Utf8.decode? (Percent.decode (Utf8.encode name)) = some name := by
  have hpercent : 0x25 ∉ Utf8.encode name := by
    rw [Utf8.encode_of_lt fun c hc => (isHostLetter_of_isLower (h c hc)).ascii, List.mem_map]
    intro hmem
    obtain ⟨c, hc, heq⟩ := hmem
    have hascii := (isHostLetter_of_isLower (h c hc)).ascii
    have hpoint : c.toNat = '%'.toNat := by
      rw [← Utf8.toNat_ofNat_of_lt (n := c.toNat) (by omega), heq]
      rfl
    exact not_mem_of_isLower h (c := '%') (by decide) (Char.toNat_inj.1 hpoint ▸ hc)
  rw [Percent.decode_eq_self hpercent, Utf8.decode?_eq_some_iff]

theorem endsInNumber_of_letters (hne : name ≠ []) : endsInNumber name = false := by
  have hparts : nameParts name = [name] := by
    rw [nameParts, Text.splitOn_eq_singleton (not_mem_of_isLower h (by decide))]
    obtain ⟨c, rest, rfl⟩ := List.exists_cons_of_ne_nil hne
    rfl
  obtain ⟨c, rest, rfl⟩ := List.exists_cons_of_ne_nil hne
  have hc := h c List.mem_cons_self
  have hbase : partBase (c :: rest) = (10, c :: rest) := by
    unfold partBase
    split
    case h_4 => rfl
    all_goals
      rename_i heq
      obtain ⟨rfl, -⟩ := List.cons.inj heq
      exact absurd hc (by decide)
  have hpart : readPart? (c :: rest) = none := by
    rw [readPart?, hbase]
    simp [(isHostLetter_of_isLower hc).notDigitInTen]
  rw [endsInNumber, hparts, List.getLast?_singleton]
  simp [(isHostLetter_of_isLower hc).notDigit, hpart]

theorem checkHost_of_letters (hne : name ≠ []) : checkHost name = .ok () := by
  have hbracket : name.head? ≠ some '[' := by
    intro hhead
    exact not_mem_of_isLower h (by decide) (List.mem_of_mem_head? hhead)
  rw [checkHost, if_neg hbracket, decode_of_letters h, Option.bind_some,
    normalizeDomain?_of_letters h]
  split
  · rename_i heq
    cases heq
  · rename_i heq
    exact absurd (Option.some.inj heq) hne
  · rename_i heq
    rw [← Option.some.inj heq, endsInNumber_of_letters h hne, if_neg Bool.false_ne_true]

/-! ### The authority -/

theorem hostLength_of_letters (rest : List Char) :
    hostLength .special false (name ++ '/' :: rest) = name.length := by
  induction name with
  | nil => rfl
  | cons c name ih =>
    obtain ⟨hc, hname⟩ := List.forall_mem_cons.1 h
    have hne {d : Char} (hd : d.isLower = false) : c ≠ d := by
      intro heq
      rw [← heq, hc] at hd
      cases hd
    have hcolon : (c == ':') = false := beq_eq_false_iff_ne.2 (hne (by decide))
    rw [List.cons_append, hostLength, hcolon, (isHostLetter_of_isLower hc).inside,
      if_neg (by decide),
      if_neg (hne (by decide)), if_neg (hne (by decide)), ih hname, List.length_cons]

theorem splitUserInfo_of_letters : splitUserInfo name = (none, name) := by
  have hspan : name.reverse.span (· != '@') = (name.reverse, []) := by
    have hkept : ∀ c ∈ name.reverse, (c != '@') = true := by
      intro c hc
      rw [bne_iff_ne]
      exact ne_of_mem_of_not_mem (List.mem_reverse.1 hc) (not_mem_of_isLower h (by decide))
    rw [List.span_eq_takeWhile_dropWhile, List.takeWhile_eq_self_iff.2 hkept,
      List.dropWhile_eq_nil_iff.2 hkept]
  rw [splitUserInfo, hspan]

theorem readHostPort_of_letters (hne : name ≠ []) (rest : List Char) :
    readHostPort .special false (name ++ '/' :: rest) = .ok ('/' :: rest) := by
  rw [readHostPort, hostLength_of_letters h, List.take_left, List.drop_left]
  simp [SchemeKind.isSpecial, checkHost_of_letters h hne, hne, bind, Except.bind, pure, Except.pure]

theorem readAuthority_of_letters (hne : name ≠ []) (rest : List Char) :
    readAuthority .special (name ++ '/' :: rest) = .ok ('/' :: rest) := by
  have hauthority :
      Text.takeUntil SchemeKind.special.endsAuthority (name ++ '/' :: rest) = name := by
    rw [Text.takeUntil_append_cons (by decide)]
    exact Text.takeUntil_eq_self fun c hc => (isHostLetter_of_isLower (h c hc)).inside
  rw [readAuthority, hauthority, splitUserInfo_of_letters h]
  exact readHostPort_of_letters h hne rest

theorem readPath_of_letters (hne : name ≠ []) (rest : List Char) :
    readPath .special ('/' :: '/' :: (name ++ '/' :: rest)) = .ok (pathOf .special rest) := by
  have hslashes : ('/' :: '/' :: (name ++ '/' :: rest)).dropWhile SchemeKind.special.isSlash
      = name ++ '/' :: rest := by
    obtain ⟨c, more, rfl⟩ := List.exists_cons_of_ne_nil hne
    have hc := (isHostLetter_of_isLower (h c List.mem_cons_self)).inside
    rw [SchemeKind.endsAuthority, Bool.or_eq_false_iff] at hc
    rw [List.dropWhile_cons_of_pos (by decide), List.dropWhile_cons_of_pos (by decide),
      List.cons_append, List.dropWhile_cons_of_neg (by simp [hc.2])]
  rw [readPath, hslashes, readAuthority_of_letters h hne]
  rfl

end Letters

/-- A text that is empty or begins with a query or a fragment. -/
def IsSuffix (s : List Char) : Prop := ∀ c ∈ s.head?, c = '?' ∨ c = '#'

theorem exists_clean_append_suffix {front suffix : List Char} (hne : front ≠ [])
    (h : ∀ c ∈ front, 0x20 < c.toNat) (hsuffix : IsSuffix suffix) :
    ∃ kept, clean (front ++ suffix) = front ++ kept ∧ IsSuffix kept := by
  cases suffix with
  | nil =>
    obtain ⟨kept, hclean, hkept⟩ := exists_clean_append hne h []
    obtain rfl := List.sublist_nil.1 hkept
    exact ⟨[], hclean, hsuffix⟩
  | cons c more =>
    have hc : c = '?' ∨ c = '#' := hsuffix c rfl
    have hprintable : ∀ d ∈ front ++ [c], 0x20 < d.toNat := by
      intro d hd
      obtain hd | hd := List.mem_append.1 hd
      · exact h d hd
      · rw [List.mem_singleton.1 hd]
        obtain rfl | rfl := hc <;> decide
    obtain ⟨kept, hclean, -⟩ :=
      exists_clean_append (List.append_ne_nil_of_left_ne_nil hne [c]) hprintable more
    refine ⟨c :: kept, ?_, ?_⟩
    · rw [List.append_cons, hclean, List.append_assoc, List.singleton_append]
    · intro d hd
      rwa [← Option.some.inj hd]

theorem takeUntil_append_suffix {suffix : List Char} (h : IsSuffix suffix) (s : List Char) :
    Text.takeUntil (fun c => c == '?' || c == '#') (s ++ suffix)
      = Text.takeUntil (fun c => c == '?' || c == '#') s := by
  cases suffix with
  | nil => rw [List.append_nil]
  | cons c more =>
    apply Text.takeUntil_append_cons
    obtain rfl | rfl := h c rfl <;> rfl

theorem pathOf_append_suffix {suffix : List Char} (h : IsSuffix suffix) (kind : SchemeKind)
    (s : List Char) :
    pathOf kind (s ++ suffix) = pathOf kind s := by
  rw [pathOf, takeUntil_append_suffix h, pathOf]

/-- A web address with a host of letters is read as its scheme and the path that stands between its
host and a query. -/
theorem parse_web {scheme host rest suffix : List Char}
    (hscheme : scheme = "http".toList ∨ scheme = "https".toList) (hne : host ≠ [])
    (hhost : ∀ c ∈ host, c.isLower = true) (hrest : ∀ c ∈ rest, 0x20 < c.toNat)
    (hsuffix : IsSuffix suffix) :
    parse (String.ofList (scheme ++ ':' :: '/' :: '/' :: (host ++ '/' :: (rest ++ suffix))))
      = .ok { scheme := String.ofList scheme, path := String.ofList (pathOf .special rest) } := by
  have hletters : ∀ c ∈ scheme, c.isLower = true := by
    rw [← List.all_eq_true]
    obtain rfl | rfl := hscheme <;> decide
  have hprintable : ∀ c ∈ scheme ++ ':' :: '/' :: '/' :: (host ++ '/' :: rest), 0x20 < c.toNat := by
    intro c hc
    simp only [List.mem_append, List.mem_cons] at hc
    obtain hc | rfl | rfl | rfl | hc | rfl | hc := hc
    · exact (isHostLetter_of_isLower (hletters c hc)).printable
    · decide
    · decide
    · decide
    · exact (isHostLetter_of_isLower (hhost c hc)).printable
    · decide
    · exact hrest c hc
  have hsplit (rest : List Char) : splitScheme? (scheme ++ ':' :: rest) = some (scheme, rest) := by
    obtain rfl | rfl := hscheme <;> rfl
  have hkind : SchemeKind.of (String.ofList scheme) = .special := by
    obtain rfl | rfl := hscheme <;> rfl
  obtain ⟨kept, hclean, hkept⟩ := exists_clean_append_suffix (by simp) hprintable hsuffix
  simp only [List.append_assoc, List.cons_append] at hclean
  rw [parse, String.toList_ofList, hclean, hsplit]
  dsimp only
  rw [hkind, readPath_of_letters hhost hne, pathOf_append_suffix hkept]
  rfl

end RequestGuard.Url
