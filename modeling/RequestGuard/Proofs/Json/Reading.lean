import RequestGuard.Json.Print
import RequestGuard.Json.Tree

/-!
# Reading what was written

The text of a value is read as the tree of that value, if the numbers of the value are whole
(`Tree.parse?_render`). A double is left out: which text it has depends on how doubles are rounded.

A written token is read as that token whatever comes after it; only the end of a number is not its
own, and so the text after a value must go on in a way that ends a number (`Follows`). The machine
that reads the tokens is followed through one value at a time: a state in which a value may begin
(`State.Opens`) is left as the state into which the tree of that value was delivered.
-/

namespace RequestGuard

namespace Json

/-- A text that goes on after a value. -/
def Follows (rest : List Char) : Prop := ∀ c ∈ rest.head?, c = ',' ∨ c = ']' ∨ c = '\x7d'

namespace Token

theorem readRun_append {digits rest : List Char} (hne : digits ≠ [])
    (hdigits : ∀ c ∈ digits, c.isDigit = true) (hrest : ∀ c ∈ rest.head?, c.isDigit = false) :
    readRun (digits ++ rest) = some (digits, rest) := by
  have htake : (digits ++ rest).takeWhile Char.isDigit = digits := by
    rw [List.takeWhile_append_of_pos hdigits]
    cases rest with
    | nil => simp
    | cons c tail => simp [List.takeWhile_cons_of_neg, hrest c rfl]
  have hdrop : (digits ++ rest).dropWhile Char.isDigit = rest := by
    rw [List.dropWhile_append_of_pos hdigits]
    cases rest with
    | nil => simp
    | cons c tail => simp [List.dropWhile_cons_of_neg, hrest c rfl]
  rw [readRun, htake, hdrop, if_neg (by simpa using hne)]

theorem readUnsigned_digits (negative : Bool) (n : Nat) {rest : List Char} (h : Follows rest) :
    readUnsigned negative (Text.digits n ++ rest)
      = some (⟨negative, Text.digits n, none, none⟩, rest) := by
  have hdigit (c : Char) (hc : c ∈ rest.head?) : c.isDigit = false := by
    obtain rfl | rfl | rfl := h c hc <;> rfl
  have hrun : readRun (Text.digits n ++ rest) = some (Text.digits n, rest) :=
    readRun_append (Text.digits_ne_nil n) (fun _ => Text.isDigit_of_mem_digits) hdigit
  have hwhole : readWhole (Text.digits n ++ rest) = some (Text.digits n, rest) := by
    rw [readWhole, hrun]
    split
    · rename_i heq
      obtain ⟨hzero, -⟩ := Prod.mk.inj (Option.some.inj heq)
      have hn := Text.eq_zero_of_digits_head hzero
      subst hn
      simp [Text.digits] at hzero
    · rfl
  have hfraction : readFraction rest = some (none, rest) := by
    cases rest with
    | nil => rfl
    | cons c tail => obtain rfl | rfl | rfl := h c rfl <;> rfl
  have hexponent : readExponent rest = some (none, rest) := by
    cases rest with
    | nil => rfl
    | cons c tail => obtain rfl | rfl | rfl := h c rfl <;> rfl
  simp only [readUnsigned, hwhole, hfraction, hexponent, Option.bind_some, Option.map_some]

inductive Piece.Stands (c : Char) : Piece → Prop
  | char : Stands c (.char c)
  | unit (h : c.toNat < 0xD800) : Stands c (.unit c.toNat)

theorem Piece.Stands.assemble {c : Char} {piece : Piece} (h : piece.Stands c) (rest : List Piece) :
    assemble (piece :: rest) = (assemble rest).map (c :: ·) := by
  cases h with
  | char => rw [Token.assemble]
  | unit hlow =>
    have hhigh : ¬ (0xD800 ≤ c.toNat ∧ c.toNat ≤ 0xDBFF) := by omega
    have hhalf : ¬ (0xDC00 ≤ c.toNat ∧ c.toNat ≤ 0xDFFF) := by omega
    have hsingle : ¬ (0xD800 ≤ c.toNat ∧ c.toNat ≤ 0xDFFF) := by omega
    rw [Token.assemble.eq_def]
    split
    · contradiction
    · simp_all
    · rename_i heq
      obtain ⟨hunit, rfl⟩ := List.cons.inj heq
      cases hunit
      simp [hhigh, hhalf]
    · rename_i heq
      obtain ⟨hunit, rfl⟩ := List.cons.inj heq
      cases hunit
      simp [hsingle]

theorem ofHexDigits_byte {n : Nat} (h : n < 0x100) :
    Text.ofHexDigits ['0', '0', Text.hexDigit (n / 16), Text.hexDigit (n % 16)] = n := by
  have hzero : Text.hexValue? '0' = some 0 := rfl
  have hhigh := Text.hexValue?_hexDigit (n := n / 16) (by omega)
  have hlow := Text.hexValue?_hexDigit (n := n % 16) (by omega)
  simp only [Text.ofHexDigits, List.foldl_cons, List.foldl_nil, hzero, hhigh,
    hlow, Option.getD_some]
  omega

theorem readPieces_letter {letter c : Char} (h : escaped? letter = some c) (pieces : List Piece)
    (rest : List Char) :
    readPieces pieces ('\\' :: letter :: rest) = readPieces (.char c :: pieces) rest := by
  have hletter : letter ≠ 'u' := by
    rintro rfl
    cases h
  rw [readPieces, h]
  rintro _ _ _ _ _ rfl
  exact absurd rfl hletter

theorem readPieces_escapeChar (c : Char) : ∃ piece : Piece, piece.Stands c ∧ ∀ pieces rest,
    readPieces pieces (escapeChar c ++ rest) = readPieces (piece :: pieces) rest := by
  unfold escapeChar
  split
  · subst_vars; exact ⟨_, .char, readPieces_letter rfl⟩
  split
  · subst_vars; exact ⟨_, .char, readPieces_letter rfl⟩
  split
  · subst_vars; exact ⟨_, .char, readPieces_letter rfl⟩
  split
  · subst_vars; exact ⟨_, .char, readPieces_letter rfl⟩
  split
  · subst_vars; exact ⟨_, .char, readPieces_letter rfl⟩
  split
  · rename_i h
    obtain rfl : c = Char.ofNat 8 := by rw [← h, Char.ofNat_toNat]
    exact ⟨_, .char, readPieces_letter rfl⟩
  split
  · rename_i h
    obtain rfl : c = Char.ofNat 12 := by rw [← h, Char.ofNat_toNat]
    exact ⟨_, .char, readPieces_letter rfl⟩
  split
  · rename_i h
    refine ⟨_, .unit (by omega), fun pieces rest => ?_⟩
    have hzero : Text.isHexDigit '0' = true := rfl
    have hhigh := Text.isHexDigit_hexDigit (n := c.toNat / 16) (by omega)
    have hlow := Text.isHexDigit_hexDigit (n := c.toNat % 16) (by omega)
    simp [readPieces, hzero, hhigh, hlow, ofHexDigits_byte (n := c.toNat) (by omega)]
  · rename_i hquote hbackslash _ _ _ _ _ hplain
    refine ⟨_, .char, fun pieces rest => ?_⟩
    have hallowed : (decide (c.toNat < 0x20) || c == '\\') = false := by simp [hplain, hbackslash]
    rw [List.singleton_append, readPieces, if_neg (by rw [hallowed]; decide)]
    · simpa using hquote
    · rintro _ _ _ _ _ rfl
      exact absurd rfl hbackslash
    · rintro _ _ rfl
      exact absurd rfl hbackslash

theorem readPieces_flatMap (s : List Char) : ∃ written : List Piece, assemble written = some s ∧
    ∀ pieces rest,
      readPieces pieces (s.flatMap escapeChar ++ '"' :: rest)
        = some (pieces.reverse ++ written, rest) := by
  induction s with
  | nil => exact ⟨[], rfl, fun pieces rest => by simp [readPieces]⟩
  | cons c s ih =>
    obtain ⟨written, hwritten, hread⟩ := ih
    obtain ⟨piece, hstands, hpiece⟩ := readPieces_escapeChar c
    refine ⟨piece :: written,
      by rw [hstands.assemble, hwritten, Option.map_some], fun pieces rest => ?_⟩
    rw [List.flatMap_cons, List.append_assoc, hpiece, hread, List.reverse_cons, List.append_assoc]
    rfl

theorem read?_quote (s : String) (rest : List Char) :
    read? (quote s ++ rest) = some (.string (some s), rest) := by
  obtain ⟨written, hwritten, hread⟩ := readPieces_flatMap s.toList
  have hpieces := hread [] rest
  simp only [quote, List.cons_append, List.append_assoc, List.nil_append] at hpieces ⊢
  simp only [read?, hpieces, List.reverse_nil, List.nil_append, hwritten, Option.map_some,
    String.ofList_toList]

theorem Literal.value?_digits {n : Nat} (h : n < 0x10000000000000000) :
    (Literal.mk false (Text.digits n) none none).value? = some (.int n) := by
  simp [Literal.value?, Literal.int?, Text.ofDigits_digits, Literal.wordLimit, h]

theorem Literal.value?_neg_digits {n : Nat} (hpos : 0 < n) (h : n ≤ 0x8000000000000000) :
    (Literal.mk true (Text.digits n) none none).value? = some (.int (-n)) := by
  simp [Literal.value?, Literal.int?, Text.ofDigits_digits, hpos, h]

theorem read?_of_isDigit {c : Char} (h : c.isDigit = true) (rest : List Char) :
    read? (c :: rest)
      = (readUnsigned false (c :: rest)).map
        fun (literal, tail) => (.number literal.value?, tail) := by
  rw [read?.eq_def]
  split
  · contradiction
  -- No other token starts with a digit.
  all_goals
    first
    | rfl
    | (rename_i heq; obtain ⟨rfl, -⟩ := List.cons.inj heq; exact absurd h (by decide))

theorem read?_decimalInt {n : Int} (hlower : -0x8000000000000000 ≤ n)
    (hupper : n < 0x10000000000000000) {rest : List Char} (h : Follows rest) :
    read? ((Text.decimalInt n).toList ++ rest) = some (.number (some (.int n)), rest) := by
  cases n with
  | ofNat n =>
    have hword : n < 0x10000000000000000 := Int.ofNat_lt.1 hupper
    obtain ⟨c, tail, hdigits⟩ := List.exists_cons_of_ne_nil (Text.digits_ne_nil n)
    have hdigit : c.isDigit = true := Text.isDigit_of_mem_digits (n := n) (by simp [hdigits])
    have hread := readUnsigned_digits false n h
    rw [Text.decimalInt, Text.decimal, String.toList_ofList]
    rw [hdigits, List.cons_append, read?_of_isDigit hdigit, ← List.cons_append, ← hdigits,
      hread, Option.map_some]
    simp only [Literal.value?_digits hword, Int.ofNat_eq_natCast]
  | negSucc n =>
    have hread := readUnsigned_digits true (n + 1) h
    rw [Text.decimalInt, String.toList_ofList, List.cons_append, read?, hread, Option.map_some]
    simp [Literal.value?_neg_digits (n := n + 1) (by omega) (by omega)]
    omega

theorem exists_cons_decimalInt (n : Int) :
    ∃ c tail, (Text.decimalInt n).toList = c :: tail ∧ isSpace c = false := by
  cases n with
  | ofNat n =>
    obtain ⟨c, tail, hdigits⟩ := List.exists_cons_of_ne_nil (Text.digits_ne_nil n)
    have hdigit : c.isDigit = true := Text.isDigit_of_mem_digits (n := n) (by simp [hdigits])
    refine ⟨c, tail, by rw [Text.decimalInt, Text.decimal, String.toList_ofList, hdigits], ?_⟩
    refine Bool.eq_false_iff.2 fun hspace => ?_
    simp only [isSpace, Bool.or_eq_true, beq_iff_eq] at hspace
    obtain ((rfl | rfl) | rfl) | rfl := hspace <;> exact absurd hdigit (by decide)
  | negSucc n => exact ⟨'-', Text.digits (n + 1), String.toList_ofList .., rfl⟩

end Token

/-! ### From a text to its tree -/

/-- A value whose numbers are all whole and fit 64 bits. -/
inductive Whole : Value → Prop
  | null : Whole .null
  | bool (b : Bool) : Whole (.bool b)
  | int {n : Int} (hlower : -0x8000000000000000 ≤ n) (hupper : n < 0x10000000000000000) :
      Whole (.number (.int n))
  | string (s : String) : Whole (.string s)
  | array {items : List Value} (h : ∀ item ∈ items, Whole item) : Whole (.array items)
  | object {members : List (String × Value)} (h : ∀ member ∈ members, Whole member.2) :
      Whole (.object members)

theorem tokens?_of_read {c : Char} {s tail : List Char} {token : Token}
    (hread : Token.read? (c :: s) = some (token, tail)) (hspace : Token.isSpace c = false) :
    tokens? (c :: s) = (tokens? tail).map (token :: ·) := by
  have hdrop : (c :: s).dropWhile Token.isSpace = c :: s :=
    List.dropWhile_cons_of_neg (by simp [hspace])
  rw [tokens?, hdrop, if_neg (by simp)]
  split
  · rename_i hnone
    rw [hread] at hnone
    cases hnone
  · rename_i heq
    rw [hread] at heq
    cases heq
    rfl

namespace Tree

def readFrom (state : State) (s : List Char) : Option State := (tokens? s).bind (run? state)

theorem readFrom_of_read {state : State} {c : Char} {s tail : List Char} (token : Token)
    (hread : Token.read? (c :: s) = some (token, tail)) (hspace : Token.isSpace c = false) :
    readFrom state (c :: s) = (step? state token).bind fun next => readFrom next tail := by
  rw [readFrom, tokens?_of_read hread hspace]
  cases htail : tokens? tail with
  | none => simp [readFrom, htail]
  | some tokens => simp [readFrom, htail, run?]

theorem readFrom_quote (state : State) (s : String) (rest : List Char) :
    readFrom state (quote s ++ rest)
      = (step? state (.string (some s))).bind fun next => readFrom next rest :=
  readFrom_of_read _ (Token.read?_quote s rest) rfl

theorem readFrom_decimalInt (state : State) {n : Int} (hlower : -0x8000000000000000 ≤ n)
    (hupper : n < 0x10000000000000000) {rest : List Char} (h : Follows rest) :
    readFrom state ((Text.decimalInt n).toList ++ rest)
      = (step? state (.number (some (.int n)))).bind fun next => readFrom next rest := by
  have hread := Token.read?_decimalInt hlower hupper h
  obtain ⟨c, tail, heq, hspace⟩ := Token.exists_cons_decimalInt n
  rw [heq, List.cons_append] at hread ⊢
  exact readFrom_of_read _ hread hspace

/-- The states in which a value may begin, with the containers around it. -/
inductive State.Opens (stack : List Frame) : State → Prop
  | value : State.Opens stack (.value stack)
  | firstItem {inner : List Frame} (h : stack = .array [] :: inner) :
      State.Opens stack (.firstItem inner)

theorem State.Opens.step? {stack : List Frame} {state : State} (h : state.Opens stack)
    {token : Token} (htoken : token ≠ .closeBracket) :
    Tree.step? state token = begin? stack token := by
  cases h with
  | value => rfl
  | firstItem hstack => cases token <;> first | (subst hstack; rfl) | exact absurd rfl htoken

/-- The text of a value is read as the tree of the value. -/
def ReadsBack (value : Value) : Prop :=
  ∀ (stack : List Frame) (state : State) (rest : List Char), state.Opens stack → Follows rest →
    readFrom state (value.chars ++ rest) = readFrom (deliver (ofValue value) stack) rest

theorem follows_itemChars (items : List Value) (rest : List Char) :
    Follows (Value.itemChars items ++ rest) := by
  cases items <;> simp [Value.itemChars, Follows]

theorem follows_memberChars (members : List (String × Value)) (rest : List Char) :
    Follows (Value.memberChars members ++ rest) := by
  cases members <;> simp [Value.memberChars, Follows]

theorem readFrom_itemChars {items : List Value} (h : ∀ item ∈ items, ReadsBack item)
    (done : List Tree) (stack : List Frame) (rest : List Char) :
    readFrom (.afterItem done stack) (Value.itemChars items ++ rest)
      = readFrom (deliver (.array (done.reverse ++ ofItems items)) stack) rest := by
  induction items generalizing done with
  | nil =>
    rw [Value.itemChars, List.singleton_append, readFrom_of_read .closeBracket rfl rfl]
    simp [step?, ofItems]
  | cons item items ih =>
    rw [Value.itemChars, List.cons_append, List.append_assoc, readFrom_of_read .comma rfl rfl]
    rw [step?, Option.bind_some, h item (by simp) _ _ _ .value (follows_itemChars items rest),
      deliver, ih (fun other hother => h other (by simp [hother]))]
    simp [ofItems]

theorem readFrom_memberChars {members : List (String × Value)}
    (h : ∀ member ∈ members, ReadsBack member.2) (done : List (Option String × Tree))
    (stack : List Frame) (rest : List Char) :
    readFrom (.afterMember done stack) (Value.memberChars members ++ rest)
      = readFrom (deliver (.object (done.reverse ++ ofMembers members)) stack) rest := by
  induction members generalizing done with
  | nil =>
    rw [Value.memberChars, List.singleton_append, readFrom_of_read .closeBrace rfl rfl]
    simp [step?, ofMembers]
  | cons member members ih =>
    obtain ⟨name, value⟩ := member
    rw [Value.memberChars]
    simp only [List.cons_append, List.append_assoc]
    rw [readFrom_of_read .comma rfl rfl, step?, Option.bind_some, readFrom_quote, step?,
      Option.bind_some, readFrom_of_read .colon rfl rfl, step?, Option.bind_some,
      h (name, value) (by simp) _ _ _ .value (follows_memberChars members rest), deliver,
      ih (fun other hother => h other (by simp [hother]))]
    simp [ofMembers]

/-- The text of a value with whole numbers is read as the tree of the value. -/
theorem readsBack_of_whole {value : Value} (h : Whole value) : ReadsBack value := by
  induction h with
  | null =>
    intro stack state rest hopens hfollows
    rw [Value.chars, List.cons_append, readFrom_of_read .null rfl rfl, hopens.step? (by simp)]
    rfl
  | bool b =>
    intro stack state rest hopens hfollows
    cases b with
    | false =>
      rw [Value.chars, List.cons_append, readFrom_of_read (.bool false) rfl rfl,
        hopens.step? (by simp)]
      rfl
    | true =>
      rw [Value.chars, List.cons_append, readFrom_of_read (.bool true) rfl rfl,
        hopens.step? (by simp)]
      rfl
  | int hlower hupper =>
    intro stack state rest hopens hfollows
    rw [Value.chars, Number.render, readFrom_decimalInt state hlower hupper hfollows,
      hopens.step? (by simp)]
    rfl
  | string s =>
    intro stack state rest hopens hfollows
    rw [Value.chars, readFrom_quote, hopens.step? (by simp)]
    rfl
  | @array items hitems ih =>
    intro stack state rest hopens hfollows
    cases items with
    | nil =>
      rw [Value.chars, List.cons_append, readFrom_of_read .openBracket rfl rfl,
        hopens.step? (by simp), begin?, Option.bind_some, List.cons_append, List.nil_append,
        readFrom_of_read .closeBracket rfl rfl]
      rfl
    | cons item items =>
      have hitem : ReadsBack item := ih item (by simp)
      have hrest :
          ∀ other ∈ items, ReadsBack other := fun other hother => ih other (by simp [hother])
      rw [Value.chars, List.cons_append, List.append_assoc,
        readFrom_of_read .openBracket rfl rfl, hopens.step? (by simp), begin?,
        Option.bind_some, hitem _ _ _ (.firstItem rfl) (follows_itemChars items rest), deliver,
          readFrom_itemChars hrest]
      simp [ofValue, ofItems]
  | @object members hmembers ih =>
    intro stack state rest hopens hfollows
    cases members with
    | nil =>
      rw [Value.chars, List.cons_append, readFrom_of_read .openBrace rfl rfl,
        hopens.step? (by simp), begin?, Option.bind_some, List.cons_append, List.nil_append,
        readFrom_of_read .closeBrace rfl rfl]
      rfl
    | cons member members =>
      obtain ⟨name, value⟩ := member
      have hvalue : ReadsBack value := ih (name, value) (by simp)
      have hrest :
          ∀ other ∈ members, ReadsBack other.2 := fun other hother => ih other (by simp [hother])
      rw [Value.chars]
      simp only [List.cons_append, List.append_assoc]
      rw [readFrom_of_read .openBrace rfl rfl, hopens.step? (by simp), begin?,
        Option.bind_some, readFrom_quote, step?, Option.bind_some,
        readFrom_of_read .colon rfl rfl, step?, Option.bind_some,
        hvalue _ _ _ .value (follows_memberChars members rest), deliver, readFrom_memberChars hrest]
      simp [ofValue, ofMembers]

/-- Reading undoes writing. -/
theorem parse?_render {value : Value} (h : Whole value) :
    parse? value.render = some (ofValue value) := by
  have hread : readFrom (.value []) value.chars = some (.finished (ofValue value)) := by
    have hback := readsBack_of_whole h [] _ [] .value (by simp [Follows])
    rw [List.append_nil] at hback
    rw [hback, deliver, readFrom, tokens?]
    rfl
  rw [readFrom] at hread
  rw [parse?, Value.render, String.toList_ofList, hread]

end Tree

end Json

end RequestGuard
