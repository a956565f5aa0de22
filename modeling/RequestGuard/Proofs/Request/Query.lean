import RequestGuard.Proofs.Keyed.Updates
import RequestGuard.Proofs.Request.Supplied
import RequestGuard.Proofs.Text.Form

/-!
# The query and the fragment of a URL

The query of a request holds the pairs that the query string of its URL writes
(`query_of_written_pairs`): it begins at the first question mark, and no pair is written with a
number sign, at which it ends.

The route ends at a question mark or a number sign, whichever comes first, but the query begins at
the first question mark even if a number sign stands before it. So the fragment of a URL without a
query is read as one (`fragment_read_as_query_iff`).
-/

namespace RequestGuard

namespace Request

/-- The same parts of a request with another URL, from which the route is taken. -/
def Parts.withUrl (parts : Parts) (url : String) : Parts := { parts with url, route := none }

theorem rawQuery?_append {path : List Char} (h : '?' ∉ path) (rest : List Char) :
    rawQuery? (path ++ '?' :: rest) = some (Text.takeUntil (· == '#') rest) := by
  rw [rawQuery?, Text.splitOnce?_append _ h, Option.map_some]

/-- What follows a number sign is only looked at if no question mark stands before it. -/
theorem rawQuery?_fragment (base fragment : List Char) :
    rawQuery? (base ++ '#' :: fragment)
      = if '?' ∈ base then rawQuery? base else rawQuery? fragment := by
  split
  · rename_i hmark
    obtain ⟨before, after, rfl, hbefore⟩ := List.eq_append_cons_of_mem hmark
    rw [List.append_assoc, List.cons_append, rawQuery?_append hbefore, rawQuery?_append hbefore,
      Text.takeUntil_append_cons (by decide)]
  · rename_i hmark
    have hbase : '?' ∉ base ++ ['#'] := by simpa using hmark
    rw [List.append_cons, rawQuery?, rawQuery?, Text.splitOnce?_append_of_not_mem hbase,
      Option.map_map]
    rfl

theorem toList_append_fragment (base fragment : String) :
    (base ++ "#" ++ fragment).toList = base.toList ++ '#' :: fragment.toList := by
  simp

theorem parseQuery_fragment (base fragment : String) :
    parseQuery (base ++ "#" ++ fragment)
      = if '?' ∈ base.toList then parseQuery base else parseQuery fragment := by
  rw [parseQuery, toList_append_fragment, rawQuery?_fragment]
  by_cases hmark : '?' ∈ base.toList
  · rw [if_pos hmark, if_pos hmark, parseQuery]
  · rw [if_neg hmark, if_neg hmark, parseQuery]

theorem path?_fragment {base : String} (h : base.toList.head? = some '/') (fragment : String) :
    Route.path? (base ++ "#" ++ fragment) = Route.path? base := by
  have hrooted : (base.toList ++ '#' :: fragment.toList).head? = some '/' := by
    rw [List.head?_append, h, Option.some_or]
  rw [Route.path?, Route.path?, toList_append_fragment, if_pos hrooted, if_pos h,
    Text.takeUntil_append_cons (by decide)]

/-- A fragment never influences the route. It is read as a query if there is no question mark before
it: so the query is the same for all fragments exactly if there is one. -/
theorem fragment_read_as_query_iff (parts : Parts) {base : String}
    (h : base.toList.head? = some '/') :
    (∀ f, (ofParts (parts.withUrl (base ++ "#" ++ f))).route = (ofParts (parts.withUrl base)).route)
      ∧ (∀ f, (ofParts (parts.withUrl (base ++ "#" ++ f))).query
          = if '?' ∈ base.toList then parseQuery base else parseQuery f)
      ∧ ((∀ f g, (ofParts (parts.withUrl (base ++ "#" ++ f))).query
            = (ofParts (parts.withUrl (base ++ "#" ++ g))).query) ↔ '?' ∈ base.toList) := by
  have hquery (f : String) : (ofParts (parts.withUrl (base ++ "#" ++ f))).query
      = if '?' ∈ base.toList then parseQuery base else parseQuery f := parseQuery_fragment base f
  refine ⟨?_, hquery, ?_⟩
  · intro f
    have hroute : Route.ofUrl? (base ++ "#" ++ f) = Route.ofUrl? base := by
      rw [Route.ofUrl?, path?_fragment h, Route.ofUrl?]
    simp only [ofParts, Parts.withUrl, hroute]
  · simp only [hquery]
    constructor
    · intro hsame
      by_contra hmark
      have hfilled := hsame "?x=1" ""
      rw [if_neg hmark, if_neg hmark] at hfilled
      exact absurd hfilled (by decide +kernel)
    · intro hmark f g
      rw [if_pos hmark, if_pos hmark]

theorem fragment_read_as_query_iff_two_marks :
    (ofParts { method := "GET", url := "/posts/42?a=1#x?a=2&b=3" }).route = "/posts/:number"
      ∧ (ofParts { method := "GET", url := "/posts/42?a=1#x?a=2&b=3" }).query = [("a", ["1"])] := by
  obtain ⟨hroute, hquery, -⟩ :=
    @fragment_read_as_query_iff { method := "GET", url := "" } "/posts/42?a=1" (by decide +kernel)
  have hurl : "/posts/42?a=1#x?a=2&b=3" = "/posts/42?a=1" ++ "#" ++ "x?a=2&b=3" := by decide +kernel
  rw [hurl]
  exact ⟨(hroute _).trans (by decide +kernel), (hquery _).trans (by decide +kernel)⟩

/-- Two fragments of a URL without a query, of which one is read as a query. -/
theorem query_of_fragment :
    '#' ∉ "/p".toList
      ∧ (ofParts { method := "GET", url := "/p" ++ "#" ++ "x?y=1" }).query = [("y", ["1"])]
      ∧ (ofParts { method := "GET", url := "/p" ++ "#" ++ "x" }).query = [] := by
  decide +kernel

def urlWithQuery (path : String) (pairs : List (String × String))
    (fragment : Option String) : String :=
  path ++ "?" ++ String.ofList (Form.serialize pairs) ++ (fragment.map ("#" ++ ·)).getD ""

theorem queryPairs_urlWithQuery {path : String} (h : '?' ∉ path.toList)
    (pairs : List (String × String)) (fragment : Option String) :
    queryPairs (urlWithQuery path pairs fragment) = pairs := by
  obtain ⟨rest, hrest, hquery⟩ :
    ∃ rest, (urlWithQuery path pairs fragment).toList = path.toList ++ '?' :: rest
      ∧ Text.takeUntil (· == '#') rest = Form.serialize pairs := by
    have hplain : Text.takeUntil (· == '#') (Form.serialize pairs) = Form.serialize pairs := by
      apply Text.takeUntil_eq_self
      intro c hc
      rw [beq_eq_false_iff_ne]
      exact ne_of_mem_of_not_mem hc (Form.number_sign_not_mem_serialize pairs)
    cases fragment with
    | none => exact ⟨Form.serialize pairs, by simp [urlWithQuery], hplain⟩
    | some f =>
      refine ⟨Form.serialize pairs ++ '#' :: f.toList, by simp [urlWithQuery], ?_⟩
      rw [Text.takeUntil_append_cons (by decide), hplain]
  rw [queryPairs, hrest, rawQuery?_append h, hquery]
  exact Form.parse_serialize pairs

/-- The query gives each name of the pairs that it writes the list of its values in their order, and
has no other names. -/
theorem query_of_written_pairs (parts : Parts) {path : String} (h : '?' ∉ path.toList)
    (pairs : List (String × String)) (fragment : Option String) :
    let query := (ofParts { parts with url := urlWithQuery path pairs fragment }).query
    (Keyed.keys query).Nodup ∧ ∀ name values, (name, values) ∈ query ↔
      name ∈ pairs.map Prod.fst
        ∧ values = (pairs.filter fun pair => pair.1 = name).map Prod.snd := by
  intro query
  have hquery : query = .ofPairs pairs :=
    (query_ofParts _).trans (congrArg ValuesByName.ofPairs
      (queryPairs_urlWithQuery h pairs fragment))
  have hordered : Keyed.Ordered query := hquery ▸ ValuesByName.ordered_ofPairs pairs
  refine ⟨hordered.nodup_keys, ?_⟩
  intro name values
  rw [← Keyed.find?_eq_some_iff hordered, hquery, ValuesByName.find?_ofPairs,
    Option.ite_none_right_eq_some, Option.some.injEq, eq_comm (a := values)]

theorem query_of_written_pairs_separators :
    ("q", ["a&b=c+d #é%", ""])
      ∈ (ofParts { method := "GET",
                   url := "/s?q=a%26b%3Dc%2Bd+%23%C3%A9%25&=&q=#x?q=1" }).query := by
  have hurl : "/s?q=a%26b%3Dc%2Bd+%23%C3%A9%25&=&q=#x?q=1"
      = urlWithQuery "/s" [("q", "a&b=c+d #é%"), ("", ""), ("q", "")] (some "x?q=1") := by
    decide +kernel
  obtain ⟨-, hmem⟩ :=
    @query_of_written_pairs { method := "GET", url := "" } "/s" (by decide +kernel)
    [("q", "a&b=c+d #é%"), ("", ""), ("q", "")] (some "x?q=1")
  rw [hurl]
  exact (hmem _ _).2 (by decide +kernel)

end Request
end RequestGuard
