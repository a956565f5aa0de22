import RequestGuard.Input.Jwt
import RequestGuard.Proofs.Json.Depth
import RequestGuard.Proofs.Text.Base64Url
import RequestGuard.Proofs.Text.Utf8

/-!
# Which texts are tokens

A token has exactly two dots. Its header is not empty, and its payload is what the bytes of a text
are written as, with any number of padding signs (`Carries`). The claims of a text are the members
of the object that the text in the payload writes, so that a token gives back the claims for which
it was made (`claims_exactly_of_tokens`).
-/

namespace RequestGuard.Jwt

open Json (Value Whole Within)

/-- The text is a token: a header, a payload and a signature around exactly two dots, of which only
the signature may be empty. The payload carries `text`. -/
def Carries (candidate text : List Char) : Prop :=
  ∃ header payload signature padding, candidate = header ++ '.' :: (payload ++ '.' :: signature)
    ∧ '.' ∉ header ∧ '.' ∉ payload ∧ '.' ∉ signature ∧ header ≠ [] ∧ payload ≠ []
    ∧ payload = Base64Url.encode (Utf8.encode text) ++ List.replicate padding '='

theorem parts?_eq_some_iff {candidate header payload signature : List Char} :
    parts? candidate = some (header, payload, signature)
      ↔ candidate = header ++ '.' :: (payload ++ '.' :: signature)
          ∧ '.' ∉ header ∧ '.' ∉ payload ∧ '.' ∉ signature := by
  constructor
  · intro h
    unfold parts? at h
    split at h
    · rename_i first second third hsplit
      simp only [Option.some.injEq, Prod.mk.injEq] at h
      obtain ⟨rfl, rfl, rfl⟩ := h
      have hjoin := Text.joinWith_splitOn '.' candidate
      have hdots : ∀ piece ∈ Text.splitOn '.' candidate, '.' ∉ piece :=
        fun piece hmem => Text.not_mem_of_mem_splitOn hmem
      rw [hsplit] at hjoin hdots
      refine ⟨hjoin.symm, hdots _ ?_, hdots _ ?_, hdots _ ?_⟩ <;> simp
    · cases h
  · rintro ⟨rfl, hheader, hpayload, hsignature⟩
    rw [parts?, Text.splitOn_append _ hheader, Text.splitOn_append _ hpayload,
      Text.splitOn_eq_singleton hsignature]

theorem dropTrailing_padding (bytes : List UInt8) (padding : Nat) :
    Text.dropTrailing (· = '=') (Base64Url.encode bytes ++ List.replicate padding '=')
      = Base64Url.encode bytes := by
  rw [Text.dropTrailing_append, Text.dropTrailing_eq_self]
  · intro c hc
    rw [decide_eq_false_iff_not]
    rintro rfl
    exact Base64Url.not_mem_encode (by decide) bytes hc
  · intro c hc
    simp [List.eq_of_mem_replicate hc]

theorem payloadValue?_eq_some_iff {payload : List Char} {value : Value} :
    payloadValue? payload = some value
      ↔ ∃ text padding, payload = Base64Url.encode (Utf8.encode text) ++ List.replicate padding '='
          ∧ Value.parse? (String.ofList text) = some value := by
  unfold payloadValue?
  constructor
  · intro h
    obtain ⟨bytes, hbytes, h⟩ := Option.bind_eq_some_iff.1 h
    obtain ⟨text, htext, hparse⟩ := Option.bind_eq_some_iff.1 h
    obtain rfl := Utf8.decode?_eq_some_iff.1 htext
    obtain ⟨tail, hpayload, htail⟩ := Text.exists_append_dropTrailing (· = '=') payload
    have hpadding : tail = List.replicate tail.length '=' :=
      List.eq_replicate_of_mem fun c hc => of_decide_eq_true (htail c hc)
    refine ⟨text, tail.length, ?_, hparse⟩
    rw [← Base64Url.decode?_eq_some_iff.1 hbytes, ← hpadding]
    exact hpayload
  · rintro ⟨text, padding, rfl, hparse⟩
    rw [dropTrailing_padding, Base64Url.decode?_encode, Option.bind_some,
      Utf8.decode?_eq_some_iff.2 rfl, Option.bind_some, hparse]

theorem claims?_eq_some_iff {candidate : String} {claims : List (String × Value)} :
    claims? candidate = some claims
      ↔ ∃ text, Carries candidate.toList text
        ∧ Value.parse? (String.ofList text) = some (.object claims) := by
  constructor
  · intro h
    unfold claims? at h
    split at h
    · rename_i header payload signature hparts
      obtain ⟨hsplit, hheader, hpayload, hsignature⟩ := parts?_eq_some_iff.1 hparts
      split at h
      · cases h
      · rename_i hempty
        simp only [Bool.or_eq_true, List.isEmpty_iff, not_or] at hempty
        split at h
        · rename_i read hvalue
          obtain rfl := Option.some.inj h
          obtain ⟨text, padding, hwritten, hparse⟩ := payloadValue?_eq_some_iff.1 hvalue
          exact ⟨text, ⟨header, payload, signature, padding, hsplit, hheader, hpayload, hsignature,
            hempty.1, hempty.2,
            hwritten⟩, hparse⟩
        · cases h
    · cases h
  · rintro ⟨text, ⟨header, payload, signature, padding, hsplit, hheader, hpayload, hsignature,
      hheader', hpayload', hwritten⟩,
      hparse⟩
    rw [claims?, parts?_eq_some_iff.2 ⟨hsplit, hheader, hpayload, hsignature⟩]
    dsimp only
    rw [if_neg (by simp [hheader', hpayload']),
      payloadValue?_eq_some_iff.2 ⟨text, padding, hwritten, hparse⟩]

theorem encode_text_ne_nil {text : List Char} (h : text ≠ []) :
    Base64Url.encode (Utf8.encode text) ≠ [] := by
  intro hnil
  have hbytes : Base64Url.decode? [] = some (Utf8.encode text) :=
    Base64Url.decode?_eq_some_iff.2 hnil.symm
  have htext : Utf8.decode? [] = some text := Utf8.decode?_eq_some_iff.2 (Option.some.inj hbytes)
  exact h (Option.some.inj htext).symm

theorem carries_encode {header signature : List Char} (hne : header ≠ []) (hheader : '.' ∉ header)
    (hsignature : '.' ∉ signature) (claims : List (String × Value)) (padding : Nat) :
    Carries (encode header claims padding signature).toList (Value.object claims).chars := by
  have htext : (Value.object claims).chars ≠ [] := by
    cases claims <;> simp [Value.chars]
  refine ⟨header, Base64Url.encode (Utf8.encode (Value.object claims).chars)
    ++ List.replicate padding '=', signature, padding,
    ?_, hheader, ?_, hsignature, hne, ?_, rfl⟩
  · rw [encode, String.toList_ofList]
  · rw [List.mem_append, not_or]
    exact ⟨Base64Url.not_mem_encode (by decide) _,
      fun hmem => absurd (List.eq_of_mem_replicate hmem) (by decide)⟩
  · exact List.append_ne_nil_of_left_ne_nil (encode_text_ne_nil htext) _

/-- A text has claims exactly if it is a token whose payload writes them, and a token that was made
for claims gives them back, whatever its header, its signature and its padding are. -/
theorem claims_exactly_of_tokens (claims : List (String × Value)) :
    (∀ candidate, claims? candidate = some claims
        ↔ ∃ text, Carries candidate.toList text
          ∧ Value.parse? (String.ofList text) = some (.object claims))
      ∧ (Whole (.object claims) → Within Json.maxDepth (.object claims) →
          ∀ header padding signature, header ≠ [] → '.' ∉ header → '.' ∉ signature →
            claims? (encode header claims padding signature) = some claims) := by
  refine ⟨fun candidate => claims?_eq_some_iff, ?_⟩
  intro hwhole hwithin header padding signature hne hheader hsignature
  exact claims?_eq_some_iff.2 ⟨_, carries_encode hne hheader hsignature claims padding,
    Value.parse?_render hwhole hwithin⟩

/-- Nested claims, a character of three bytes and padding that the bytes do not need. -/
theorem claims_exactly_of_tokens_padded :
    claims? (encode ['h'] [("a", .array [.ofInt (-7), .null]), ("sub", .string "€")] 3 [])
      = some [("a", .array [.ofInt (-7), .null]), ("sub", .string "€")] := by
  have hwhole : Whole (.object [("a", .array [.ofInt (-7), .null]), ("sub", .string "€")]) := by
    refine .object (List.forall_mem_cons.2 ⟨.array ?_, List.forall_mem_singleton.2 (.string _)⟩)
    exact List.forall_mem_cons.2 ⟨.int (by decide) (by decide), List.forall_mem_singleton.2 .null⟩
  have hwithin :
      Within Json.maxDepth
        (.object [("a", .array [.ofInt (-7), .null]), ("sub", .string "€")]) := by
    refine .object (List.pairwise_pair.2 (by decide +kernel))
      (List.forall_mem_cons.2 ⟨.array ?_, List.forall_mem_singleton.2 (.string _ _)⟩)
    exact List.forall_mem_cons.2 ⟨.number _ _, List.forall_mem_singleton.2 (.null _)⟩
  exact (claims_exactly_of_tokens _).2 hwhole hwithin ['h'] 3 [] (by decide) (by decide) (by decide)

end RequestGuard.Jwt
