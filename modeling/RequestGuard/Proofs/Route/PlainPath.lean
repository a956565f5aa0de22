import RequestGuard.Proofs.Route.NormalForm
import RequestGuard.Proofs.Url.WebAddress

/-!
# Plain paths have one route

A plain path (`IsPlainPath`) is made of characters that a URL keeps as they are, and its segments
name no place, so that the path of a URL with such a path is that path (`IsPlainPath.pathOf_eq`). A
reader that takes a URL apart and one that cuts a bare path before its query agree on it: the route
is the same, with an origin before the path and without (`ofUrl?_web_eq`).
-/

namespace RequestGuard.Route

open Text (splitOn joinWith)
open Url (SchemeKind Unmarked IsSuffix)

/-- The characters other than letters and digits that a URL writes as they are in a path. -/
def segmentSymbols : List Char :=
  ['-', '_', '~', '.', ':', '@', '!', '$', '&', '\x27', '(', ')', '*', '+', ',', ';', '=']

/-- The characters that a URL writes as they are in a path. -/
def isSegmentChar (c : Char) : Bool := c.isAlphanum || segmentSymbols.contains c

/-- A path whose segments are made of such characters and name no place. -/
structure IsPlainPath (path : List Char) : Prop where
  rooted : path.head? = some '/'
  plain : ∀ segment ∈ splitOn '/' path, segment.all isSegmentChar = true
  named : ∀ segment ∈ splitOn '/' path, segment ≠ ['.'] ∧ segment ≠ ['.', '.']

/-- What a character of a segment is to those who read paths. -/
structure IsKept (c : Char) : Prop where
  printable : 0x20 < c.toNat
  unmarked : c ≠ '?' ∧ c ≠ '#'
  notPercent : c ≠ '%'
  notSlash : SchemeKind.special.isSlash c = false
  written : Url.encodeChar Url.isEncodedInPath c = [c]

theorem toNat_lt_of_isAlphanum {c : Char} (h : c.isAlphanum = true) : c.toNat < 0x80 := by
  change (c.isUpper || c.isLower || c.isDigit) = true at h
  rw [Bool.or_eq_true, Bool.or_eq_true, Text.isUpper_iff, Text.isLower_iff, Text.isDigit_iff] at h
  omega

theorem isKept_of_isSegmentChar {c : Char} (h : isSegmentChar c = true) : IsKept c := by
  have hascii : c.toNat < 0 + 0x80 := by
    rw [isSegmentChar, Bool.or_eq_true] at h
    rw [Nat.zero_add]
    obtain h | h := h
    · exact toNat_lt_of_isAlphanum h
    · exact Text.isAscii_contains (by decide) c h
  have hkept : isSegmentChar c = true → 0x20 < c.toNat ∧ (c ≠ '?' ∧ c ≠ '#') ∧ c ≠ '%'
      ∧ SchemeKind.special.isSlash c = false ∧ Url.encodeChar Url.isEncodedInPath c = [c] := by
    apply Text.of_interval (Nat.zero_le c.toNat) hascii
    decide +kernel
  obtain ⟨hprintable, hunmarked, hpercent, hslash, hwritten⟩ := hkept h
  exact ⟨hprintable, hunmarked, hpercent, hslash, hwritten⟩

theorem plainDots_eq_self {segment : List Char} (h : '%' ∉ segment) :
    Url.plainDots segment = segment := by
  induction segment with
  | nil => rfl
  | cons c rest ih =>
    rw [List.mem_cons, not_or] at h
    unfold Url.plainDots
    split
    · rename_i heq
      exact absurd (List.cons.inj heq).1.symm h.1
    · rename_i heq
      exact absurd (List.cons.inj heq).1.symm h.1
    · rename_i heq
      obtain ⟨rfl, rfl⟩ := List.cons.inj heq
      rw [ih h.2]
    · rename_i heq
      cases heq

theorem encodeSegment_of_kept {segment : List Char} (h : ∀ c ∈ segment, IsKept c)
    (place : List (List Char)) :
    Url.encodeSegment .special place segment = segment := by
  show segment.flatMap (Url.encodeChar Url.isEncodedInPath) = segment
  induction segment with
  | nil => rfl
  | cons c rest ih =>
    obtain ⟨hc, hrest⟩ := List.forall_mem_cons.1 h
    rw [List.flatMap_cons, hc.written, ih hrest, List.singleton_append]

/-- Segments that are kept and name no place are followed one after another. -/
theorem follow_of_kept {written : List (List Char)}
    (hkept : ∀ segment ∈ written, ∀ c ∈ segment, IsKept c)
    (hnamed : ∀ segment ∈ written, segment ≠ ['.'] ∧ segment ≠ ['.', '.'])
    (place : List (List Char)) :
    Url.follow .special place written = written.reverse ++ place := by
  induction written generalizing place with
  | nil => rfl
  | cons segment rest ih =>
    obtain ⟨hsegment, hrest⟩ := List.forall_mem_cons.1 hkept
    obtain ⟨hname, hnames⟩ := List.forall_mem_cons.1 hnamed
    have hdots : Url.plainDots segment = segment :=
      plainDots_eq_self fun hmem => (hsegment _ hmem).notPercent rfl
    have hdouble : Url.isDoubleDot segment = false := by
      rw [Url.isDoubleDot, hdots, beq_eq_false_iff_ne]
      exact hname.2
    have hsingle : Url.isSingleDot segment = false := by
      rw [Url.isSingleDot, hdots, beq_eq_false_iff_ne]
      exact hname.1
    cases rest with
    | nil =>
      rw [Url.follow, hdouble, hsingle, encodeSegment_of_kept hsegment]
      rfl
    | cons next more =>
      rw [Url.follow, hdouble, hsingle, if_neg Bool.false_ne_true, if_neg Bool.false_ne_true,
        encodeSegment_of_kept hsegment,
        ih hrest hnames, List.reverse_cons (a := segment), List.append_assoc, List.singleton_append]
      exact List.cons_ne_nil next more

variable {rest : List Char}

theorem IsPlainPath.segments (h : IsPlainPath ('/' :: rest)) : ∀ segment ∈ splitOn '/' rest,
    (∀ c ∈ segment, IsKept c) ∧ segment ≠ ['.'] ∧ segment ≠ ['.', '.'] := by
  intro segment hsegment
  have hmem : segment ∈ splitOn '/' ('/' :: rest) := List.mem_cons_of_mem [] hsegment
  exact ⟨fun c hc => isKept_of_isSegmentChar (List.all_eq_true.1 (h.plain segment hmem) c hc),
    h.named segment hmem⟩

theorem IsPlainPath.mem (h : IsPlainPath ('/' :: rest)) {c : Char} (hc : c ∈ rest) :
    c = '/' ∨ IsKept c := by
  rw [← Text.joinWith_splitOn '/' rest] at hc
  obtain rfl | ⟨segment, hsegment, hc⟩ := Text.mem_joinWith hc
  · exact .inl rfl
  · exact .inr ((h.segments segment hsegment).1 c hc)

theorem IsPlainPath.unmarked (h : IsPlainPath ('/' :: rest)) : Unmarked rest := by
  intro c hc
  obtain rfl | hkept := h.mem hc
  · exact ⟨by decide, by decide⟩
  · exact hkept.unmarked

theorem IsPlainPath.pathOf_eq (h : IsPlainPath ('/' :: rest)) :
    Url.pathOf .special rest = '/' :: rest := by
  have hslash : (rest.map fun c => if SchemeKind.special.isSlash c then '/' else c) = rest := by
    rw [List.map_congr_left (g := id), List.map_id]
    intro c hc
    obtain rfl | hkept := h.mem hc
    · rfl
    · rw [hkept.notSlash]
      rfl
  have hfollow := follow_of_kept (fun segment hsegment => (h.segments segment hsegment).1)
    (fun segment hsegment => (h.segments segment hsegment).2) []
  rw [Url.pathOf, h.unmarked.takeUntil_eq, Url.segments, hslash, hfollow, List.append_nil,
    List.reverse_reverse, Text.joinWith_splitOn]

section Spellings

variable {scheme host path suffix : String} (hpath : IsPlainPath path.toList)
  (hsuffix : IsSuffix suffix.toList)

include hpath

theorem IsPlainPath.exists_toList_eq : ∃ rest, path.toList = '/' :: rest := by
  have hrooted := hpath.rooted
  generalize path.toList = s at hrooted ⊢
  cases s with
  | nil => cases hrooted
  | cons c rest =>
    obtain rfl := Option.some.inj hrooted
    exact ⟨rest, rfl⟩

include hsuffix

/-- A bare path is cut before its query. -/
theorem path?_append_suffix : path? (path ++ suffix) = some path.toList := by
  obtain ⟨rest, hrest⟩ := hpath.exists_toList_eq
  rw [hrest] at hpath
  rw [path?, String.toList_append, hrest, List.cons_append, List.head?_cons, if_pos rfl,
    ← List.cons_append,
    Url.takeUntil_append_suffix hsuffix, (Url.unmarked_cons_slash hpath.unmarked).takeUntil_eq]

/-- The path of an address of the web is the plain path that the address is written with. -/
theorem path?_web (hscheme : scheme = "http" ∨ scheme = "https") (hne : host ≠ "")
    (hhost : ∀ c ∈ host.toList, c.isLower = true) :
    path? (scheme ++ "://" ++ host ++ path ++ suffix) = some path.toList := by
  obtain ⟨rest, hrest⟩ := hpath.exists_toList_eq
  rw [hrest] at hpath
  have hurl : scheme ++ "://" ++ host ++ path ++ suffix
      = String.ofList (scheme.toList ++ ':' :: '/' :: '/'
        :: (host.toList ++ '/' :: (rest ++ suffix.toList))) := by
    rw [← String.ofList_toList (s := scheme ++ "://" ++ host ++ path ++ suffix)]
    simp [hrest]
  have hhead : (scheme ++ "://" ++ host ++ path ++ suffix).toList.head? ≠ some '/' := by
    obtain rfl | rfl := hscheme <;> simp
  have hprintable : ∀ c ∈ rest, 0x20 < c.toNat := by
    intro c hc
    obtain rfl | hkept := hpath.mem hc
    · decide
    · exact hkept.printable
  have hscheme : scheme.toList = "http".toList ∨ scheme.toList = "https".toList := by
    obtain rfl | rfl := hscheme
    · exact .inl rfl
    · exact .inr rfl
  have hne : host.toList ≠ [] := by simpa using hne
  rw [path?, if_neg hhead, hurl, Url.parse_web hscheme hne hhost hprintable hsuffix]
  dsimp only
  rw [String.toList_ofList, hpath.pathOf_eq, hrest]

end Spellings

/-- A plain path has one route, whether it is written alone or after a scheme of the web and a host
of letters, and whatever query and fragment follow it. -/
theorem ofUrl?_web_eq {scheme host path suffix : String}
    (hscheme : scheme = "http" ∨ scheme = "https") (hne : host ≠ "")
    (hhost : ∀ c ∈ host.toList, c.isLower = true) (hpath : IsPlainPath path.toList)
    (hsuffix : IsSuffix suffix.toList) :
    ∃ route, ofUrl? (scheme ++ "://" ++ host ++ path ++ suffix) = some route
      ∧ ofUrl? (path ++ suffix) = some route := by
  refine ⟨String.ofList (dropLastSlash (generalizePath path.toList)), ?_, ?_⟩
  · rw [ofUrl?, path?_web hpath hsuffix hscheme hne hhost, Option.map_some]
  · rw [ofUrl?, path?_append_suffix hpath hsuffix, Option.map_some]

theorem ofUrl?_web_eq_colons :
    ofUrl? "https://example/a:b//@me/42/~x;y=1/2024-01-31/?next=http://h/../1"
        = some "/a:b//@me/:number/~x;y=1/:date"
      ∧ ofUrl? "/a:b//@me/42/~x;y=1/2024-01-31/?next=http://h/../1"
        = some "/a:b//@me/:number/~x;y=1/:date" := by
  obtain ⟨route, hweb, hbare⟩ := @ofUrl?_web_eq "https" "example"
    "/a:b//@me/42/~x;y=1/2024-01-31/" "?next=http://h/../1" (.inr rfl) (by decide)
    (List.all_eq_true.1 (by decide +kernel))
      ⟨by decide +kernel, by decide +kernel, by decide +kernel⟩ (by simp [IsSuffix])
  have hroute : ofUrl? "/a:b//@me/42/~x;y=1/2024-01-31/?next=http://h/../1"
      = some "/a:b//@me/:number/~x;y=1/:date" := by
    decide +kernel
  refine ⟨?_, hroute⟩
  rw [← hroute]
  exact hweb.trans hbare.symm

end RequestGuard.Route
