import RequestGuard.Url.Parser

/-!
# What a path holds

A path has one of four shapes, by the kind of the scheme and by what follows its colon (`IsPath`).
Whatever its shape, it holds neither a question mark nor a number sign: it ends before the first of
them, and inside a segment they are encoded (`Unmarked`). It begins with a slash unless the scheme
is none of those of the web and of files.
-/

namespace RequestGuard.Url

/-- A text in which no query and no fragment begins. -/
def Unmarked (s : List Char) : Prop := ∀ c ∈ s, c ≠ '?' ∧ c ≠ '#'

theorem unmarked_nil : Unmarked [] := fun _ hc => absurd hc List.not_mem_nil

theorem unmarked_takeUntil (s : List Char) :
    Unmarked (Text.takeUntil (fun c => c == '?' || c == '#') s) := by
  intro c hc
  have hkept := List.all_eq_true.1 List.all_takeWhile c hc
  simpa using hkept

theorem Unmarked.takeUntil_eq {s : List Char} (h : Unmarked s) :
    Text.takeUntil (fun c => c == '?' || c == '#') s = s := by
  have hkept : (s ++ []).takeWhile (fun c => !(c == '?' || c == '#')) = s ++ [] :=
    List.takeWhile_append_of_pos fun c hc => by simpa using h c hc
  rwa [List.append_nil] at hkept

theorem unmarked_joinWith {pieces : List (List Char)} (h : ∀ piece ∈ pieces, Unmarked piece) :
    Unmarked (Text.joinWith '/' pieces) := by
  intro c hc
  obtain rfl | ⟨piece, hpiece, hc⟩ := Text.mem_joinWith hc
  · exact ⟨by decide, by decide⟩
  · exact h piece hpiece c hc

/-- A character that is neither a digit nor the percent sign is there only if it was not encoded. -/
theorem eq_of_mem_encodeChar {test : Char → Bool} {c x : Char} (hhex : Text.isHexDigit x = false)
    (hpercent : x ≠ '%') (h : x ∈ encodeChar test c) : x = c ∧ test c = false := by
  unfold encodeChar at h
  split at h
  · obtain ⟨byte, -, hx⟩ := List.mem_flatMap.1 h
    have hbyte := byte.toNat_lt
    simp only [Percent.encodeByte, List.mem_cons, List.not_mem_nil, or_false] at hx
    obtain rfl | rfl | rfl := hx
    · exact absurd rfl hpercent
    · rw [Text.isHexDigit_hexDigitUpper (by omega)] at hhex
      cases hhex
    · rw [Text.isHexDigit_hexDigitUpper (by omega)] at hhex
      cases hhex
  · rename_i hplain
    simp only [Bool.or_eq_true, not_or, Bool.not_eq_true] at hplain
    exact ⟨List.mem_singleton.1 h, hplain.2⟩

theorem unmarked_flatMap_encodeChar {test : Char → Bool} {s : List Char}
    (h : ∀ c ∈ s, test c = false → c ≠ '?' ∧ c ≠ '#') :
    Unmarked (s.flatMap (encodeChar test)) := by
  intro x hx
  obtain ⟨c, hc, hx⟩ := List.mem_flatMap.1 hx
  constructor
  · rintro rfl
    obtain ⟨rfl, htest⟩ := eq_of_mem_encodeChar (by decide) (by decide) hx
    exact (h _ hc htest).1 rfl
  · rintro rfl
    obtain ⟨rfl, htest⟩ := eq_of_mem_encodeChar (by decide) (by decide) hx
    exact (h _ hc htest).2 rfl

theorem unmarked_encodeSegment (kind : SchemeKind) (place : List (List Char))
    (segment : List Char) :
    Unmarked (encodeSegment kind place segment) := by
  have hencoded (s : List Char) : Unmarked (s.flatMap (encodeChar isEncodedInPath)) := by
    refine unmarked_flatMap_encodeChar
      fun c _ htest => ⟨?_, ?_⟩ <;> rintro rfl <;> exact absurd htest (by decide)
  unfold encodeSegment
  split
  · rename_i letter
    split
    · rename_i halpha
      intro c hc
      simp only [List.mem_cons, List.not_mem_nil, or_false] at hc
      obtain rfl | rfl := hc
      · constructor <;> rintro rfl <;> exact absurd halpha (by decide)
      · exact ⟨by decide, by decide⟩
    · exact hencoded _
  · exact hencoded _

theorem unmarked_parent (kind : SchemeKind) {place : List (List Char)}
    (h : ∀ segment ∈ place, Unmarked segment) :
    ∀ segment ∈ parent kind place, Unmarked segment := by
  cases place with
  | nil => exact h
  | cons last above =>
    rw [parent]
    split
    · exact h
    · exact (List.forall_mem_cons.1 h).2

theorem unmarked_follow (kind : SchemeKind) {place : List (List Char)}
    (h : ∀ segment ∈ place, Unmarked segment) (written : List (List Char)) :
    ∀ segment ∈ follow kind place written, Unmarked segment := by
  fun_induction follow kind place written with
  | case1 => exact h
  | case2 => exact List.forall_mem_cons.2 ⟨unmarked_nil, unmarked_parent kind h⟩
  | case3 => exact List.forall_mem_cons.2 ⟨unmarked_nil, h⟩
  | case4 => exact List.forall_mem_cons.2 ⟨unmarked_encodeSegment kind _ _, h⟩
  | case5 place segment rest _ hdouble ih => exact ih (unmarked_parent kind h)
  | case6 place segment rest _ hdouble hsingle ih => exact ih h
  | case7 place segment rest _ hdouble hsingle ih =>
    exact ih (List.forall_mem_cons.2 ⟨unmarked_encodeSegment kind place segment, h⟩)

theorem unmarked_cons_slash {s : List Char} (h : Unmarked s) : Unmarked ('/' :: s) :=
  List.forall_mem_cons.2 ⟨⟨by decide, by decide⟩, h⟩

theorem unmarked_pathOf (kind : SchemeKind) (s : List Char) : Unmarked (pathOf kind s) := by
  refine unmarked_cons_slash (unmarked_joinWith fun segment hsegment => ?_)
  exact unmarked_follow kind (List.forall_mem_nil _) _ segment (List.mem_reverse.1 hsegment)

theorem exists_of_bind_eq_ok {α β : Type} {first : Except UrlError α}
    {next : α → Except UrlError β} {result : β} (h : (first >>= next) = .ok result) :
    ∃ value, first = .ok value ∧ next value = .ok result := by
  cases first with
  | error e => cases h
  | ok value => exact ⟨value, rfl, h⟩

/-- What a path is read from, by the kind of its scheme. -/
inductive IsPath : SchemeKind → List Char → Prop
  | authority (kind : SchemeKind) (rest : List Char) : IsPath kind (pathAfterAuthority kind rest)
  | file (rest : List Char) : IsPath .file (filePath rest)
  | rooted (rest : List Char) : IsPath .other (pathOf .other rest)
  | flat (rest : List Char) : IsPath .other (flatPath rest)

theorem isPath_of_readFile {s path : List Char} (h : readFile s = .ok path) :
    IsPath .file path := by
  unfold readFile at h
  split at h
  · split at h
    · dsimp only at h
      split at h
      · obtain rfl := Except.ok.inj h
        exact .file _
      · obtain ⟨-, -, h⟩ := exists_of_bind_eq_ok h
        obtain rfl := Except.ok.inj h
        exact .file _
    · obtain rfl := Except.ok.inj h
      exact .file _
  · obtain rfl := Except.ok.inj h
    exact .file _

theorem isPath_of_readPath {kind : SchemeKind} {s path : List Char}
    (h : readPath kind s = .ok path) : IsPath kind path := by
  unfold readPath at h
  cases kind with
  | file => exact isPath_of_readFile h
  | special =>
    obtain ⟨rest, -, h⟩ := exists_of_bind_eq_ok h
    obtain rfl := Except.ok.inj h
    exact .authority _ _
  | other =>
    dsimp only at h
    split at h
    · obtain ⟨rest, -, h⟩ := exists_of_bind_eq_ok h
      obtain rfl := Except.ok.inj h
      exact .authority _ _
    · obtain rfl := Except.ok.inj h
      exact .rooted _
    · obtain rfl := Except.ok.inj h
      exact .flat _

theorem isPath_of_parse {s : String} {url : Url} (h : parse s = .ok url) :
    IsPath (.of url.scheme) url.path.toList := by
  unfold parse at h
  split at h
  · cases h
  · obtain ⟨path, hpath, h⟩ := exists_of_bind_eq_ok h
    obtain rfl := Except.ok.inj h
    rw [String.toList_ofList]
    exact isPath_of_readPath hpath

theorem IsPath.unmarked {kind : SchemeKind} {path : List Char} (h : IsPath kind path) :
    Unmarked path := by
  cases h with
  | authority rest =>
    unfold pathAfterAuthority
    split
    · split
      · exact unmarked_cons_slash unmarked_nil
      · exact unmarked_nil
    · split
      · exact unmarked_pathOf kind _
      · split
        · exact unmarked_nil
        · exact unmarked_pathOf kind _
  | file rest =>
    refine unmarked_cons_slash fun c hc => ?_
    exact unmarked_pathOf .file _ c ((List.dropWhile_sublist _).subset hc)
  | rooted rest => exact unmarked_pathOf .other rest
  | flat rest => exact unmarked_flatMap_encodeChar fun c hc _ => unmarked_takeUntil rest c hc

theorem IsPath.head? {kind : SchemeKind} {path : List Char} (h : IsPath kind path)
    (hkind : kind.isSpecial = true) :
    path.head? = some '/' := by
  cases h with
  | authority rest =>
    unfold pathAfterAuthority
    split
    · rw [if_pos hkind]
      rfl
    · split
      · rfl
      · rw [if_neg (by simp [hkind])]
        rfl
  | file rest => rfl
  | rooted rest => cases hkind
  | flat rest => cases hkind

end RequestGuard.Url
