import RequestGuard.Proofs.Url.Path
import RequestGuard.Route.Template

/-!
# Routes in normal form

A route is in normal form (`IsNormal`) if it begins with a slash, ends with one only as the root,
holds no query and no fragment, and is its own route.

Placeholders are in no class, so a route is generalized no further, and slashes are where they were
(`generalizePath_eq_append_slash_iff`). What is left is the slash at the end, of which one alone is
dropped: a route is in normal form exactly if its path begins with a slash and does not end with two
of them, or is made of these two (`isNormal_route_iff`).
-/

namespace RequestGuard.Route

open Text (splitOn joinWith)
open Url (SchemeKind Unmarked)

theorem placeholder_ne_nil (k : SegmentClass) : k.placeholder ≠ [] := by
  cases k <;> decide +kernel

theorem mem_placeholder {k : SegmentClass} {c : Char} (h : c ∈ k.placeholder) :
    c = ':' ∨ c.isLower = true := by
  have hall : (k.placeholder.all fun c => c == ':' || c.isLower) = true := by
    cases k <;> decide +kernel
  simpa using List.all_eq_true.1 hall c h

theorem generalize_placeholder (k : SegmentClass) : generalize k.placeholder = k.placeholder := by
  have hnone : SegmentClass.of? k.placeholder = none := by
    cases k <;> decide +kernel
  rw [generalize, if_neg (by simp [placeholder_ne_nil]), hnone]

theorem generalize_cases (s : List Char) :
    generalize s = s ∨ s ≠ [] ∧ ∃ k : SegmentClass, generalize s = k.placeholder := by
  unfold generalize
  split
  · rename_i hempty
    exact .inl (List.isEmpty_iff.1 hempty).symm
  · rename_i hne
    split
    · rename_i k _
      exact .inr ⟨fun hnil => hne (List.isEmpty_iff.2 hnil), k, rfl⟩
    · exact .inl rfl

theorem generalize_generalize (s : List Char) : generalize (generalize s) = generalize s := by
  obtain hsame | ⟨-, k, hk⟩ := generalize_cases s
  · rw [hsame, hsame]
  · rw [hk, generalize_placeholder]

theorem generalize_eq_nil_iff {s : List Char} : generalize s = [] ↔ s = [] := by
  obtain hsame | ⟨hne, k, hk⟩ := generalize_cases s
  · rw [hsame]
  · simp only [hk, placeholder_ne_nil, hne]

theorem mem_generalize {s : List Char} {c : Char} (h : c ∈ generalize s) :
    c ∈ s ∨ c = ':' ∨ c.isLower = true := by
  obtain hsame | ⟨-, k, hk⟩ := generalize_cases s
  · rw [hsame] at h
    exact .inl h
  · rw [hk] at h
    exact .inr (mem_placeholder h)

theorem splitOn_generalizePath (path : List Char) :
    splitOn '/' (generalizePath path) = (splitOn '/' path).map generalize := by
  refine Text.splitOn_joinWith (by simp [Text.splitOn_ne_nil]) ?_
  intro piece hpiece hslash
  obtain ⟨segment, hsegment, rfl⟩ := List.mem_map.1 hpiece
  obtain hslash | hslash | hslash := mem_generalize hslash
  · exact Text.not_mem_of_mem_splitOn hsegment hslash
  · exact absurd hslash (by decide)
  · exact absurd hslash (by decide)

theorem generalizePath_generalizePath (path : List Char) :
    generalizePath (generalizePath path) = generalizePath path := by
  have htwice : generalize ∘ generalize = generalize := funext generalize_generalize
  rw [generalizePath, splitOn_generalizePath, List.map_map, htwice, generalizePath]

theorem generalizePath_eq_append_slash_iff {path front back : List Char} :
    generalizePath path = front ++ '/' :: back
      ↔ ∃ before after, path = before ++ '/' :: after ∧ generalizePath before = front
        ∧ generalizePath after = back := by
  constructor
  · intro h
    have hpieces : (splitOn '/' path).map generalize = splitOn '/' front ++ splitOn '/' back := by
      rw [← splitOn_generalizePath, h, Text.splitOn_append_sep]
    obtain ⟨first, second, hsplit, hfirst, hsecond⟩ := List.map_eq_append_iff.1 hpieces
    have hne {pieces : List (List Char)} {s : List Char} (hmap : pieces.map generalize
        = splitOn '/' s) : pieces ≠ [] := by
      rintro rfl
      exact Text.splitOn_ne_nil '/' s hmap.symm
    have hjoin {pieces : List (List Char)} {s : List Char}
      (hsub : ∀ piece ∈ pieces, piece ∈ splitOn '/' path)
        (hmap : pieces.map generalize = splitOn '/' s) :
          generalizePath (joinWith '/' pieces) = s := by
      rw [generalizePath, Text.splitOn_joinWith (hne hmap), hmap, Text.joinWith_splitOn]
      exact fun piece hpiece => Text.not_mem_of_mem_splitOn (hsub piece hpiece)
    refine ⟨joinWith '/' first, joinWith '/' second, ?_, hjoin ?_ hfirst, hjoin ?_ hsecond⟩
    · rw [← Text.joinWith_append (hne hfirst) (hne hsecond), ← hsplit, Text.joinWith_splitOn]
    · rw [hsplit]
      exact fun piece => List.mem_append_left second
    · rw [hsplit]
      exact fun piece => List.mem_append_right first
  · rintro ⟨before, after, rfl, rfl, rfl⟩
    rw [generalizePath, Text.splitOn_append_sep, List.map_append,
      Text.joinWith_append (by simp [Text.splitOn_ne_nil]) (by simp [Text.splitOn_ne_nil]),
        generalizePath, generalizePath]

theorem generalizePath_eq_nil_iff {path : List Char} : generalizePath path = [] ↔ path = [] := by
  constructor
  · intro h
    have hslash : '/' ∉ path := by
      intro hmem
      obtain ⟨before, after, rfl⟩ := List.append_of_mem hmem
      have hkept := generalizePath_eq_append_slash_iff.2 ⟨before, after, rfl, rfl, rfl⟩
      rw [h] at hkept
      exact List.append_ne_nil_of_right_ne_nil _ (List.cons_ne_nil _ _) hkept.symm
    rw [generalizePath, Text.splitOn_eq_singleton hslash] at h
    exact generalize_eq_nil_iff.1 h
  · rintro rfl
    rfl

theorem generalizePath_eq_slash_iff {path : List Char} :
    generalizePath path = ['/'] ↔ path = ['/'] := by
  rw [← List.nil_append ['/'], generalizePath_eq_append_slash_iff]
  simp [generalizePath_eq_nil_iff]

theorem head?_generalizePath_iff {path : List Char} :
    (generalizePath path).head? = some '/' ↔ path.head? = some '/' := by
  have hcons (s : List Char) : s.head? = some '/' ↔ ∃ rest, s = [] ++ '/' :: rest := by
    cases s <;> simp
  simp only [hcons, generalizePath_eq_append_slash_iff, generalizePath_eq_nil_iff]
  constructor
  · rintro ⟨rest, before, after, hpath, rfl, -⟩
    exact ⟨after, hpath⟩
  · rintro ⟨rest, hpath⟩
    exact ⟨generalizePath rest, [], rest, hpath, rfl, rfl⟩

theorem slashes_suffix_generalizePath_iff {path : List Char} :
    ['/', '/'] <:+ generalizePath path ↔ ['/', '/'] <:+ path := by
  constructor
  · rintro ⟨front, hfront⟩
    obtain ⟨before, after, rfl, -, hafter⟩ := generalizePath_eq_append_slash_iff.1 hfront.symm
    rw [generalizePath_eq_slash_iff.1 hafter]
    exact ⟨before, rfl⟩
  · rintro ⟨front, rfl⟩
    exact ⟨generalizePath front,
      (generalizePath_eq_append_slash_iff.2 ⟨front, ['/'], rfl, rfl, rfl⟩).symm⟩

theorem generalizePath_eq_slashes_iff {path : List Char} :
    generalizePath path = ['/', '/'] ↔ path = ['/', '/'] := by
  rw [← List.nil_append ['/', '/'], generalizePath_eq_append_slash_iff]
  simp [generalizePath_eq_nil_iff, generalizePath_eq_slash_iff]

theorem unmarked_generalizePath {path : List Char} (h : Unmarked path) :
    Unmarked (generalizePath path) := by
  refine Url.unmarked_joinWith fun piece hpiece c hc => ?_
  obtain ⟨segment, hsegment, rfl⟩ := List.mem_map.1 hpiece
  obtain hmem | rfl | hlower := mem_generalize hc
  · refine h c ?_
    rw [← Text.joinWith_splitOn '/' path]
    exact Text.mem_joinWith_of_mem hsegment hmem
  · exact ⟨by decide, by decide⟩
  · constructor <;> rintro rfl <;> exact absurd hlower (by decide)

/-! ### The slash at the end -/

/-- A text that ends with a slash only if it is nothing else. -/
def Bare (s : List Char) : Prop := s.getLast? = some '/' → s = ['/']

theorem bare_or_concat (s : List Char) : Bare s ∨ ∃ front, front ≠ [] ∧ s = front ++ ['/'] := by
  by_cases hlast : s.getLast? = some '/'
  · obtain ⟨front, rfl⟩ := List.getLast?_eq_some_iff.1 hlast
    by_cases hne : front = []
    · exact .inl fun _ => by rw [hne, List.nil_append]
    · exact .inr ⟨front, hne, rfl⟩
  · exact .inl fun h => absurd h hlast

theorem dropLastSlash_concat {front : List Char} (h : front ≠ []) :
    dropLastSlash (front ++ ['/']) = front := by
  obtain ⟨last, rest, hreverse⟩ := List.exists_cons_of_ne_nil (List.reverse_ne_nil_iff.2 h)
  have hfront : (last :: rest).reverse = front := by rw [← hreverse, List.reverse_reverse]
  rw [dropLastSlash, List.reverse_append, hreverse, List.reverse_singleton, List.singleton_append]
  exact hfront

theorem Bare.dropLastSlash_eq {s : List Char} (h : Bare s) : dropLastSlash s = s := by
  unfold dropLastSlash
  split
  · rename_i c rest hreverse
    have hlast :
        s.getLast? = some '/' := by rw [List.getLast?_eq_head?_reverse, hreverse, List.head?_cons]
    rw [h hlast] at hreverse
    cases hreverse
  · rfl

theorem head?_dropLastSlash (s : List Char) : (dropLastSlash s).head? = s.head? := by
  obtain hbare | ⟨front, hne, rfl⟩ := bare_or_concat s
  · rw [hbare.dropLastSlash_eq]
  · rw [dropLastSlash_concat hne, List.head?_append, Option.or_of_isSome (List.isSome_head?.2 hne)]

theorem unmarked_dropLastSlash {s : List Char} (h : Unmarked s) : Unmarked (dropLastSlash s) := by
  obtain hbare | ⟨front, hne, rfl⟩ := bare_or_concat s
  · rwa [hbare.dropLastSlash_eq]
  · rw [dropLastSlash_concat hne]
    exact fun c hc => h c (List.mem_append_left _ hc)

/-- What is left has no slash to drop unless there were two. -/
theorem bare_dropLastSlash_iff {s : List Char} :
    Bare (dropLastSlash s) ↔ s = ['/', '/'] ∨ ¬ ['/', '/'] <:+ s := by
  obtain hbare | ⟨front, hne, rfl⟩ := bare_or_concat s
  · rw [hbare.dropLastSlash_eq]
    refine iff_of_true hbare (.inr ?_)
    rintro ⟨before, rfl⟩
    have hlast : (before ++ ['/', '/']).getLast? = some '/' := by simp
    have hlength := congrArg List.length (hbare hlast)
    simp at hlength
  · have hslashes : front ++ ['/'] = ['/', '/'] ↔ front = ['/'] :=
      @List.append_left_inj _ front ['/'] ['/']
    have hsuffix : ['/', '/'] <:+ front ++ ['/'] ↔ front.getLast? = some '/' := by
      rw [List.getLast?_eq_some_iff]
      constructor
      · rintro ⟨before, hbefore⟩
        refine ⟨before, ?_⟩
        rw [← @List.append_left_inj _ _ _ ['/'], ← hbefore, List.append_assoc]
        rfl
      · rintro ⟨before, rfl⟩
        exact ⟨before, by rw [List.append_assoc]; rfl⟩
    rw [dropLastSlash_concat hne, hslashes, hsuffix, Bare, Decidable.imp_iff_not_or, or_comm]

theorem generalizePath_dropLastSlash (path : List Char) :
    generalizePath (dropLastSlash (generalizePath path)) = dropLastSlash (generalizePath path) := by
  have hfixed := generalizePath_generalizePath path
  obtain hbare | ⟨front, hne, hconcat⟩ := bare_or_concat (generalizePath path)
  · rw [hbare.dropLastSlash_eq, hfixed]
  · rw [hconcat, dropLastSlash_concat hne]
    rw [hconcat] at hfixed
    obtain ⟨before, after, hsplit, hbefore, hafter⟩ := generalizePath_eq_append_slash_iff.1 hfixed
    obtain rfl := generalizePath_eq_nil_iff.1 hafter
    obtain rfl := (List.append_inj' hsplit rfl).1
    exact hbefore

/-! ### The route of a URL -/

/-- A route in normal form. -/
structure IsNormal (route : String) : Prop where
  rooted : route.toList.head? = some '/'
  bare : route.toList.getLast? = some '/' → route = "/"
  unmarked : Unmarked route.toList
  fixed : ofUrl? route = some route

theorem ofUrl?_of_unmarked {route : List Char} (hrooted : route.head? = some '/')
    (hunmarked : Unmarked route) :
    ofUrl? (String.ofList route) = some (String.ofList (dropLastSlash (generalizePath route))) := by
  have hpath : path? (String.ofList route) = some route := by
    rw [path?, String.toList_ofList, if_pos hrooted, hunmarked.takeUntil_eq]
  rw [ofUrl?, hpath, Option.map_some]

theorem unmarked_of_path? {url : String} {path : List Char} (h : path? url = some path) :
    Unmarked path := by
  unfold path? at h
  split at h
  · obtain rfl := Option.some.inj h
    exact Url.unmarked_takeUntil _
  · split at h
    · rename_i parsed hparsed
      obtain rfl := Option.some.inj h
      exact (Url.isPath_of_parse hparsed).unmarked
    · cases h

/-- The path begins with a slash if the URL does, and if its scheme is one of the web or of
files. -/
theorem head?_of_path? {url : String} {path : List Char} (h : path? url = some path)
    (hrooted : url.toList.head? = some '/'
      ∨ ∃ parsed, Url.parse url = .ok parsed ∧ (SchemeKind.of parsed.scheme).isSpecial = true) :
    path.head? = some '/' := by
  unfold path? at h
  split at h
  · rename_i hslash
    obtain rfl := Option.some.inj h
    cases hurl : url.toList with
    | nil => simp [hurl] at hslash
    | cons c rest =>
      obtain rfl : c = '/' := by simpa [hurl] using hslash
      rfl
  · rename_i hslash
    obtain hslash' | ⟨parsed, hparsed, hkind⟩ := hrooted
    · exact absurd hslash' hslash
    · rw [hparsed] at h
      obtain rfl := Option.some.inj h
      exact (Url.isPath_of_parse hparsed).head? hkind

/-- A route is in normal form exactly if its path begins with a slash and does not end with two. -/
theorem isNormal_iff {path : List Char} (h : Unmarked path) :
    IsNormal (String.ofList (dropLastSlash (generalizePath path)))
      ↔ path.head? = some '/' ∧ (path = ['/', '/'] ∨ ¬ ['/', '/'] <:+ path) := by
  have hunmarked := unmarked_dropLastSlash (unmarked_generalizePath h)
  rw [← generalizePath_eq_slashes_iff, ← slashes_suffix_generalizePath_iff,
    ← bare_dropLastSlash_iff, ← head?_generalizePath_iff, ← head?_dropLastSlash]
  constructor
  · intro hnormal
    obtain ⟨hrooted, hbare, -, -⟩ := hnormal
    rw [String.toList_ofList] at hrooted hbare
    refine ⟨hrooted, fun hlast => ?_⟩
    rw [← String.toList_ofList (l := dropLastSlash _), hbare hlast]
    decide +kernel
  · rintro ⟨hrooted, hbare⟩
    refine ⟨?_, ?_, ?_, ?_⟩
    · rwa [String.toList_ofList]
    · intro hlast
      rw [String.toList_ofList] at hlast
      rw [hbare hlast]
    · rwa [String.toList_ofList]
    · rw [ofUrl?_of_unmarked hrooted hunmarked, generalizePath_dropLastSlash,
        hbare.dropLastSlash_eq]

/-- The route of a URL holds no query and no fragment, and it is in normal form exactly if the path
of the URL begins with a slash and does not end with two slashes, or is made of these two. The path
begins with a slash if the URL does, or if its scheme is one of the web or of files. -/
theorem isNormal_route_iff {url route : String} (h : ofUrl? url = some route) :
    '?' ∉ route.toList ∧ '#' ∉ route.toList
      ∧ ∃ path, path? url = some path
        ∧ (IsNormal route ↔ path.head? = some '/' ∧ (path = ['/', '/'] ∨ ¬ ['/', '/'] <:+ path))
        ∧ ((url.toList.head? = some '/'
              ∨ ∃ parsed, Url.parse url = .ok parsed
                ∧ (SchemeKind.of parsed.scheme).isSpecial = true) →
            path.head? = some '/') := by
  obtain ⟨path, hpath, rfl⟩ := Option.map_eq_some_iff.1 h
  have hunmarked := unmarked_of_path? hpath
  have hroute := unmarked_dropLastSlash (unmarked_generalizePath hunmarked)
  rw [String.toList_ofList]
  exact ⟨fun hmem => (hroute _ hmem).1 rfl, fun hmem => (hroute _ hmem).2 rfl, path, hpath,
    isNormal_iff hunmarked, head?_of_path? hpath⟩

/-- The slashes in the query are not those of the path. -/
theorem isNormal_route_iff_query :
    ofUrl? "http://localhost/users/42/?x=//" = some "/users/:number"
      ∧ IsNormal "/users/:number" := by
  have hroute :
      ofUrl? "http://localhost/users/42/?x=//" = some "/users/:number" := by decide +kernel
  have hread : path? "http://localhost/users/42/?x=//"
      = some ['/', 'u', 's', 'e', 'r', 's', '/', '4', '2', '/'] := by
    decide +kernel
  obtain ⟨-, -, path, hpath, hnormal, -⟩ := isNormal_route_iff hroute
  obtain rfl := Option.some.inj (hread.symm.trans hpath)
  exact ⟨hroute, hnormal.2 (by decide)⟩

/-- Of two slashes at the end one is left, and the route of a path without a slash has none. -/
theorem not_isNormal_two_slashes :
    (ofUrl? "/posts//" = some "/posts/" ∧ ofUrl? "/posts/" = some "/posts" ∧ ¬ IsNormal "/posts/")
      ∧ ofUrl? "data:1" = some ":number" ∧ ¬ IsNormal ":number" := by
  refine ⟨⟨by decide +kernel, by decide +kernel, fun h => ?_⟩, by decide +kernel, fun h => ?_⟩
  · exact absurd (h.bare (by decide +kernel)) (by decide)
  · exact absurd h.rooted (by decide +kernel)

end RequestGuard.Route
