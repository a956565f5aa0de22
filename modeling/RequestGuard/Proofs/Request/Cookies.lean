import RequestGuard.Proofs.Keyed.Updates
import RequestGuard.Proofs.Request.Supplied
import RequestGuard.Proofs.Text.Trim

/-!
# Written cookies are read back

`HeadersHold` is the grammar of headers that hold cookies: a header named `cookie` in any case is a
line of pieces between semicolons, and a piece is a cookie with blanks around it or a text without
an equals sign, which holds none. The cookies of a request are those that its headers hold, in the
order in which they are written, and of several with one name the first (`cookies_of_written`).
-/

namespace RequestGuard.Request

open Text (IsPadded IsTrimmed)

/-- What can be written as a cookie: a name and a value without blanks at their ends, in which no
character ends them. -/
structure IsCookie (name value : String) : Prop where
  name_ne_empty : name ≠ ""
  equals_not_mem_name : '=' ∉ name.toList
  semicolon_not_mem_name : ';' ∉ name.toList
  semicolon_not_mem_value : ';' ∉ value.toList
  name_trimmed : IsTrimmed name.toList
  value_trimmed : IsTrimmed value.toList

/-- The cookies in a piece of a line. -/
inductive PieceHolds : List Char → List (String × String) → Prop where
  | cookie {name value : String} {piece : List Char} : IsCookie name value →
      IsPadded (name.toList ++ '=' :: value.toList) piece → PieceHolds piece [(name, value)]
  | other {piece : List Char} : '=' ∉ piece → ';' ∉ piece → PieceHolds piece []

/-- The cookies in a line of pieces between semicolons. -/
inductive LineHolds : List Char → List (String × String) → Prop where
  | last {piece : List Char} {cookies : List (String × String)} : PieceHolds piece cookies →
      LineHolds piece cookies
  | more {piece line : List Char} {cookies later : List (String × String)} :
      PieceHolds piece cookies →
      LineHolds line later → LineHolds (piece ++ ';' :: line) (cookies ++ later)

/-- The cookies in headers, which may stand between other ones. -/
inductive HeadersHold : List (String × String) → List (String × String) → Prop where
  | nil : HeadersHold [] []
  | cookie {name line : String} {headers cookies later : List (String × String)} :
      name.toLower = "cookie" →
      LineHolds line.toList cookies → HeadersHold headers later →
      HeadersHold ((name, line) :: headers) (cookies ++ later)
  | other {name text : String} {headers cookies : List (String × String)} :
      name.toLower ≠ "cookie" →
      HeadersHold headers cookies → HeadersHold ((name, text) :: headers) cookies

theorem parseCookie?_of_isPadded {name value : String} (h : IsCookie name value)
    {piece : List Char} (hpiece : IsPadded (name.toList ++ '=' :: value.toList) piece) :
    parseCookie? piece = some (name, value) := by
  obtain ⟨before, after, rfl, hbefore, hafter⟩ := hpiece
  have hequals : '=' ∉ before ++ name.toList := by
    rw [List.mem_append]
    rintro (hmem | hmem)
    · exact absurd (hbefore _ hmem) (by decide)
    · exact h.equals_not_mem_name hmem
  have hsplit : Text.splitOnce? '=' (before ++ (name.toList ++ '=' :: value.toList) ++ after)
      = some (before ++ name.toList, value.toList ++ after) := by
    have hparts : before ++ (name.toList ++ '=' :: value.toList) ++ after
        = (before ++ name.toList) ++ '=' :: (value.toList ++ after) := by simp
    rw [hparts, Text.splitOnce?_append _ hequals]
  have hname : Text.trimChars (before ++ name.toList) = name.toList :=
    Text.trimChars_of_isPadded h.name_trimmed ⟨before, [], by simp, hbefore, by simp⟩
  have hvalue : Text.trimChars (value.toList ++ after) = value.toList :=
    Text.trimChars_of_isPadded h.value_trimmed ⟨[], after, by simp, by simp, hafter⟩
  rw [parseCookie?, hsplit]
  simp [hname, hvalue, h.name_ne_empty]

theorem PieceHolds.semicolon_not_mem {piece : List Char} {cookies : List (String × String)}
    (h : PieceHolds piece cookies) :
    ';' ∉ piece := by
  cases h with
  | cookie hcookie hpiece =>
    obtain ⟨before, after, rfl, hbefore, hafter⟩ := hpiece
    simp only [List.mem_append, List.mem_cons, not_or]
    refine ⟨⟨fun hmem => ?_, hcookie.semicolon_not_mem_name,
      by decide, hcookie.semicolon_not_mem_value⟩, fun hmem => ?_⟩
    · exact absurd (hbefore _ hmem) (by decide)
    · exact absurd (hafter _ hmem) (by decide)
  | other _ hsemicolon => exact hsemicolon

theorem PieceHolds.toList_parseCookie? {piece : List Char} {cookies : List (String × String)}
    (h : PieceHolds piece cookies) : (parseCookie? piece).toList = cookies := by
  cases h with
  | cookie hcookie hpiece => rw [parseCookie?_of_isPadded hcookie hpiece, Option.toList_some]
  | other hequals _ => rw [parseCookie?, Text.splitOnce?_eq_none hequals, Option.toList_none]

theorem filterMap_cons_toList (piece : List Char) (pieces : List (List Char)) :
    (piece :: pieces).filterMap parseCookie?
      = (parseCookie? piece).toList ++ pieces.filterMap parseCookie? := by
  cases h : parseCookie? piece <;> simp [h]

theorem LineHolds.filterMap_splitOn {line : List Char} {cookies : List (String × String)}
    (h : LineHolds line cookies) :
    (Text.splitOn ';' line).filterMap parseCookie? = cookies := by
  induction h with
  | last hpiece =>
    rw [Text.splitOn_eq_singleton hpiece.semicolon_not_mem, filterMap_cons_toList,
      hpiece.toList_parseCookie?, List.filterMap_nil, List.append_nil]
  | more hpiece _ ih =>
    rw [Text.splitOn_append _ hpiece.semicolon_not_mem, filterMap_cons_toList,
      hpiece.toList_parseCookie?, ih]

theorem valuesOf_headersByName (headers : List (String × String)) (name : String) :
    valuesOf (headersByName headers) name
      = ((lowerHeaders headers).filter fun header => header.1 = name).map Prod.snd := by
  rw [valuesOf, headersByName, ← lowerHeaders, ValuesByName.find?_ofPairs]
  split
  · rfl
  · rename_i hnone
    rw [ValuesByName.filter_eq_nil hnone]
    rfl

/-- The cookies that are read from headers before the first of each name is chosen. -/
theorem HeadersHold.filterMap_lines {headers cookies : List (String × String)}
    (h : HeadersHold headers cookies) :
    ((valuesOf (headersByName headers) "cookie").flatMap
      fun line => Text.splitOn ';' line.toList).filterMap parseCookie?
      = cookies := by
  rw [valuesOf_headersByName]
  induction h with
  | nil => rfl
  | cookie hname hline _ ih =>
    rw [lowerHeaders, List.map_cons, List.filter_cons_of_pos (by simpa using hname), List.map_cons,
      List.flatMap_cons, List.filterMap_append, hline.filterMap_splitOn, ← lowerHeaders, ih]
  | other hname _ ih =>
    rw [lowerHeaders, List.map_cons, List.filter_cons_of_neg (by simpa using hname),
      ← lowerHeaders, ih]

theorem find?_addCookie (name : String) (known : List (String × String))
    (cookie : String × String) :
    Keyed.find? name (addCookie known cookie)
      = (Keyed.find? name known).or ([cookie].lookup name) := by
  rw [List.lookup_cons, List.lookup_nil, addCookie]
  -- A cookie is only left out if its name is known, and then it is not the first one of its name.
  by_cases hsame : name = cookie.1
  · rw [← hsame, beq_self_eq_true]
    cases hknown : Keyed.find? name known with
    | some value => simp [Keyed.contains, hknown]
    | none => simp [Keyed.contains, hknown, Keyed.find?_insert_self]
  · rw [beq_false_of_ne hsame, Option.or_none]
    split
    · rfl
    · exact Keyed.find?_insert_of_ne hsame cookie.2 known

theorem find?_foldl_addCookie (name : String) (cookies known : List (String × String)) :
    Keyed.find? name (cookies.foldl addCookie known)
      = (Keyed.find? name known).or (cookies.lookup name) := by
  induction cookies generalizing known with
  | nil => simp
  | cons cookie cookies ih =>
    rw [List.foldl_cons, ih, find?_addCookie, Option.or_assoc, ← List.lookup_append,
      List.singleton_append]

theorem ordered_foldl_addCookie (cookies : List (String × String)) :
    Keyed.Ordered (cookies.foldl addCookie []) := by
  refine List.foldlRecOn cookies _ Keyed.ordered_nil fun known hknown cookie _ => ?_
  rw [addCookie]
  split
  · exact hknown
  · exact Keyed.ordered_insert _ _ hknown

/-- A request has the cookies that its headers hold, each name once and with the value with which it
is written first. -/
theorem cookies_of_written {parts : Parts} {written : List (String × String)}
    (h : HeadersHold parts.headers written) :
    let cookies := (ofParts parts).cookies
    (Keyed.keys cookies).Nodup
      ∧ ∀ name value, (name, value) ∈ cookies ↔ written.lookup name = some value := by
  intro cookies
  have hcookies : cookies = written.foldl addCookie [] :=
    congrArg (List.foldl addCookie []) h.filterMap_lines
  have hordered : Keyed.Ordered cookies := hcookies ▸ ordered_foldl_addCookie written
  refine ⟨hordered.nodup_keys, ?_⟩
  intro name value
  rw [← Keyed.find?_eq_some_iff hordered, hcookies, find?_foldl_addCookie]
  simp [Keyed.find?]

theorem cookies_of_written_two_headers :
    let parts : Parts :=
      { method := "GET", url := "/"
        headers := [("cookie", " a=1 ;;junk; b==y="), ("Accept", "*/*"),
          ("COOKIE", "a=2;\u3000c=\t")] }
    HeadersHold parts.headers [("a", "1"), ("b", "=y="), ("a", "2"), ("c", "")]
      ∧ ("a", "1") ∈ (ofParts parts).cookies ∧ ("a", "2") ∉ (ofParts parts).cookies
      ∧ ("b", "=y=") ∈ (ofParts parts).cookies ∧ ("c", "") ∈ (ofParts parts).cookies := by
  intro parts
  have hnames : IsCookie "a" "1" ∧ IsCookie "b" "=y=" ∧ IsCookie "a" "2" ∧ IsCookie "c" "" := by
    refine ⟨?_, ?_, ?_, ?_⟩ <;> constructor <;> decide +kernel
  obtain ⟨hone, hb, htwo, hc⟩ := hnames
  have hspace : ∀ c ∈ [' '], Text.isBlank c = true := List.forall_mem_singleton.2 (by decide)
  have hfirst :
      LineHolds " a=1 ;;junk; b==y=".toList ([("a", "1")] ++ ([] ++ ([] ++ [("b", "=y=")]))) := by
    have htext : " a=1 ;;junk; b==y=".toList
        = " a=1 ".toList ++ ';'
          :: ([] ++ ';' :: ("junk".toList ++ ';' :: " b==y=".toList)) := by decide +kernel
    rw [htext]
    refine .more (.cookie hone ?_)
      (.more (.other ?_ ?_) (.more (.other ?_ ?_) (.last (.cookie hb ?_))))
    · exact ⟨[' '], [' '], by decide +kernel, hspace, hspace⟩
    · decide
    · decide
    · decide +kernel
    · decide +kernel
    · exact ⟨[' '], [], by decide +kernel, hspace, List.forall_mem_nil _⟩
  have hsecond : LineHolds "a=2;\u3000c=\t".toList ([("a", "2")] ++ [("c", "")]) := by
    have htext :
        "a=2;\u3000c=\t".toList = "a=2".toList ++ ';' :: "\u3000c=\t".toList := by decide +kernel
    rw [htext]
    refine .more (.cookie htwo ?_) (.last (.cookie hc ?_))
    · exact ⟨[], [], by decide +kernel, List.forall_mem_nil _, List.forall_mem_nil _⟩
    · exact ⟨['\u3000'], ['\t'], by decide +kernel, List.forall_mem_singleton.2 (by decide),
        List.forall_mem_singleton.2 (by decide)⟩
  have hheaders : HeadersHold parts.headers [("a", "1"), ("b", "=y="), ("a", "2"), ("c", "")] :=
    .cookie (by decide +kernel) hfirst
      (.other (by decide +kernel) (.cookie (by decide +kernel) hsecond .nil))
  obtain ⟨-, hmem⟩ := cookies_of_written hheaders
  refine ⟨hheaders, ?_, ?_, ?_, ?_⟩ <;> rw [hmem] <;> decide +kernel

end RequestGuard.Request
