/-!
# Entries in order of their keys

An association list kept in strictly increasing order of its keys: the form in which objects,
headers, query maps, statistics and counters are held, so that whatever walks one of them walks it
in that order. The order is a `KeyOrder`; texts are ordered by their characters, which is also the
order of their UTF-8 bytes.

One lemma per operation says what it does to `find?`, and `Ordered` is kept by all of them.
-/

namespace RequestGuard

/-- A strict total order on keys. -/
class KeyOrder (κ : Type) where
  before : κ → κ → Bool
  before_irrefl (a : κ) : before a a = false
  before_trans {a b c : κ} : before a b = true → before b c = true → before a c = true
  before_total {a b : κ} : before a b = false → before b a = false → a = b

theorem KeyOrder.before_asymm {κ : Type} [KeyOrder κ] {a b : κ} (h : KeyOrder.before a b = true) :
    KeyOrder.before b a = false := by
  refine Bool.eq_false_iff.2 fun hback => ?_
  have hcycle := KeyOrder.before_trans h hback
  rw [KeyOrder.before_irrefl] at hcycle
  cases hcycle

/-- Texts are ordered character by character. -/
instance : KeyOrder String where
  before a b := decide (a < b)
  before_irrefl a := by simp
  before_trans h h' := by
    simp only [decide_eq_true_eq] at h h' ⊢
    exact String.lt_trans h h'
  before_total {a b} h h' := by
    simp only [decide_eq_false_iff_not, String.not_lt] at h h'
    exact String.le_antisymm h' h

/-- Numbers are ordered by size. -/
instance : KeyOrder Nat where
  before a b := decide (a < b)
  before_irrefl a := by simp
  before_trans h h' := by simp at *; omega
  before_total h h' := by simp at *; omega

/-- Pairs are ordered by their first parts, and by their second parts where these agree. -/
instance {α β : Type} [KeyOrder α] [KeyOrder β] [DecidableEq α] : KeyOrder (α × β) where
  before a b := KeyOrder.before a.1 b.1 || (decide (a.1 = b.1) && KeyOrder.before a.2 b.2)
  before_irrefl a := by simp [KeyOrder.before_irrefl]
  before_trans {a b c} h h' := by
    simp only [Bool.or_eq_true, Bool.and_eq_true, decide_eq_true_eq] at h h' ⊢
    rcases h with h | ⟨h1, h2⟩ <;> rcases h' with h' | ⟨h1', h2'⟩
    · exact .inl (KeyOrder.before_trans h h')
    · exact .inl (h1' ▸ h)
    · exact .inl (h1 ▸ h')
    · exact .inr ⟨h1.trans h1', KeyOrder.before_trans h2 h2'⟩
  before_total {a b} h h' := by
    simp only [Bool.or_eq_false_iff, Bool.and_eq_false_iff, decide_eq_false_iff_not] at h h'
    have h1 := KeyOrder.before_total h.1 h'.1
    refine Prod.ext h1 (KeyOrder.before_total ?_ ?_)
    · exact h.2.resolve_left fun hne => hne h1
    · exact h'.2.resolve_left fun hne => hne h1.symm

namespace Keyed

variable {κ ν : Type} [KeyOrder κ] [DecidableEq κ]

def find? (key : κ) : List (κ × ν) → Option ν
  | [] => none
  | (k, v) :: rest => if k = key then some v else find? key rest

def contains (key : κ) (entries : List (κ × ν)) : Bool := (find? key entries).isSome

/-- Sets the value at a key, in the place that the order gives it. -/
def insert (key : κ) (value : ν) : List (κ × ν) → List (κ × ν)
  | [] => [(key, value)]
  | (k, v) :: rest =>
    if k = key then (key, value) :: rest
    else if KeyOrder.before key k then (key, value) :: (k, v) :: rest
    else (k, v) :: insert key value rest

/-- Sets the value at a key to a function of the value there. -/
def update (key : κ) (f : Option ν → ν) (entries : List (κ × ν)) : List (κ × ν) :=
  insert key (f (find? key entries)) entries

/-- The entries of a list of pairs; of two pairs with one key the later one counts. -/
def ofList (pairs : List (κ × ν)) : List (κ × ν) :=
  pairs.foldl (fun entries (k, v) => insert k v entries) []

def keys (entries : List (κ × ν)) : List κ := entries.map Prod.fst

/-- The keys are strictly increasing. -/
def Ordered (entries : List (κ × ν)) : Prop :=
  entries.Pairwise fun a b => KeyOrder.before a.1 b.1 = true

theorem find?_insert_self (key : κ) (value : ν) (entries : List (κ × ν)) :
    find? key (insert key value entries) = some value := by
  induction entries with
  | nil => simp [insert, find?]
  | cons entry rest ih =>
    obtain ⟨k, v⟩ := entry
    by_cases hk : k = key
    · simp [insert, find?, hk]
    · by_cases hb : KeyOrder.before key k = true
      · simp [insert, find?, hk, hb]
      · simp [insert, find?, hk, hb, ih]

theorem find?_insert_of_ne {key other : κ} (h : other ≠ key) (value : ν)
    (entries : List (κ × ν)) : find? other (insert key value entries) = find? other entries := by
  induction entries with
  | nil => simp [insert, find?, Ne.symm h]
  | cons entry rest ih =>
    obtain ⟨k, v⟩ := entry
    by_cases hk : k = key
    · subst hk
      simp [insert, find?, Ne.symm h]
    · by_cases hb : KeyOrder.before key k = true
      · simp [insert, find?, hk, hb, Ne.symm h]
      · simp [insert, find?, hk, hb, ih]

theorem find?_insert (key other : κ) (value : ν) (entries : List (κ × ν)) :
    find? other (insert key value entries) =
      if other = key then some value else find? other entries := by
  split
  · rename_i h
    rw [h, find?_insert_self]
  · rename_i h
    exact find?_insert_of_ne h value entries

theorem find?_update (key other : κ) (f : Option ν → ν) (entries : List (κ × ν)) :
    find? other (update key f entries) =
      if other = key then some (f (find? key entries)) else find? other entries :=
  find?_insert key other _ entries

omit [KeyOrder κ] in
theorem find?_map {μ : Type} (f : ν → μ) (key : κ) (entries : List (κ × ν)) :
    find? key (entries.map fun (k, v) => (k, f v)) = (find? key entries).map f := by
  induction entries with
  | nil => rfl
  | cons entry rest ih =>
    obtain ⟨k, v⟩ := entry
    by_cases hk : k = key
    · simp [find?, hk]
    · simp [find?, hk, ih]

/-- Of the pairs with one key the last one counts. -/
theorem find?_ofList (key : κ) (pairs : List (κ × ν)) :
    find? key (ofList pairs)
      = (pairs.reverse.find? fun pair => decide (pair.1 = key)).map Prod.snd := by
  have hfold :
    ∀ entries : List (κ × ν),
    find? key (pairs.foldl (fun entries (k, v) => insert k v entries) entries)
      = ((pairs.reverse.find? fun pair => decide (pair.1 = key)).map Prod.snd).or
        (find? key entries) := by
    induction pairs with
    | nil => simp
    | cons pair rest ih =>
      intro entries
      rw [List.foldl_cons, ih, List.reverse_cons, List.find?_append]
      cases rest.reverse.find? fun pair => decide (pair.1 = key) with
      | some found => rfl
      | none =>
        by_cases hkey : pair.1 = key
        · simp [hkey, find?_insert_self]
        · simp [hkey, find?_insert_of_ne (Ne.symm hkey)]
  rw [ofList, hfold]
  simp [find?]

omit [KeyOrder κ] in
theorem mem_of_find? {key : κ} {value : ν} {entries : List (κ × ν)}
    (h : find? key entries = some value) :
    (key, value) ∈ entries := by
  induction entries with
  | nil => cases h
  | cons entry rest ih =>
    obtain ⟨k, v⟩ := entry
    simp only [find?] at h
    split at h
    · rename_i hk
      rw [hk, Option.some.inj h]
      exact List.mem_cons_self
    · exact List.mem_cons_of_mem _ (ih h)

omit [KeyOrder κ] in
theorem contains_iff_mem_keys {key : κ} {entries : List (κ × ν)} :
    contains key entries = true ↔ key ∈ keys entries := by
  induction entries with
  | nil => simp [contains, find?, keys]
  | cons entry rest ih =>
    obtain ⟨k, v⟩ := entry
    by_cases hk : k = key
    · simp [contains, find?, keys, hk]
    · have hrest :
          contains key ((k, v) :: rest) = contains key rest := by simp [contains, find?, hk]
      rw [hrest, ih]
      simp [keys, Ne.symm hk]

theorem contains_insert (key other : κ) (value : ν) (entries : List (κ × ν)) :
    contains other (insert key value entries)
      = (decide (other = key) || contains other entries) := by
  rw [contains, find?_insert]
  by_cases hsame : other = key <;> simp [hsame, contains]

theorem mem_insert {key : κ} {value : ν} {entry : κ × ν} {entries : List (κ × ν)}
    (h : entry ∈ insert key value entries) : entry = (key, value) ∨ entry ∈ entries := by
  induction entries with
  | nil => simpa [insert] using h
  | cons head rest ih =>
    obtain ⟨k, v⟩ := head
    simp only [insert] at h
    split at h
    · rcases List.mem_cons.1 h with h | h
      · exact .inl h
      · exact .inr (List.mem_cons_of_mem _ h)
    · split at h
      · rcases List.mem_cons.1 h with h | h
        · exact .inl h
        · exact .inr h
      · rcases List.mem_cons.1 h with h | h
        · exact .inr (h ▸ List.mem_cons_self)
        · rcases ih h with h | h
          · exact .inl h
          · exact .inr (List.mem_cons_of_mem _ h)

omit [DecidableEq κ] in
theorem ordered_nil : Ordered ([] : List (κ × ν)) := List.Pairwise.nil

omit [DecidableEq κ] in
theorem Ordered.nodup_keys {entries : List (κ × ν)} (h : Ordered entries) :
    (keys entries).Nodup := by
  rw [keys, List.Nodup, List.pairwise_map]
  refine h.imp fun {a b} hbefore heq => ?_
  rw [heq, KeyOrder.before_irrefl] at hbefore
  cases hbefore

theorem ordered_insert (key : κ) (value : ν) {entries : List (κ × ν)} (h : Ordered entries) :
    Ordered (insert key value entries) := by
  induction entries with
  | nil => simp [insert, Ordered]
  | cons head rest ih =>
    obtain ⟨k, v⟩ := head
    obtain ⟨hhead, hrest⟩ := List.pairwise_cons.1 h
    simp only [insert]
    split
    · rename_i hk
      subst hk
      exact List.pairwise_cons.2 ⟨hhead, hrest⟩
    · rename_i hk
      split
      · rename_i hb
        refine List.pairwise_cons.2 ⟨fun entry hentry => ?_, h⟩
        rcases List.mem_cons.1 hentry with rfl | hentry
        · exact hb
        · exact KeyOrder.before_trans hb (hhead entry hentry)
      · rename_i hb
        refine List.pairwise_cons.2 ⟨fun entry hentry => ?_, ih hrest⟩
        rcases mem_insert hentry with rfl | hentry
        · cases hkey : KeyOrder.before k key with
          | true => rfl
          | false => exact absurd (KeyOrder.before_total hkey (by simpa using hb)) hk
        · exact hhead entry hentry

theorem ordered_update (key : κ) (f : Option ν → ν) {entries : List (κ × ν)}
    (h : Ordered entries) : Ordered (update key f entries) :=
  ordered_insert key _ h

theorem insert_perm {key : κ} (value : ν) {entries : List (κ × ν)}
    (h : key ∉ entries.map Prod.fst) :
    (insert key value entries).Perm ((key, value) :: entries) := by
  induction entries with
  | nil => exact .refl _
  | cons entry rest ih =>
    obtain ⟨k, v⟩ := entry
    obtain ⟨hne, hrest⟩ : key ≠ k ∧ key ∉ rest.map Prod.fst := by simpa using h
    rw [insert, if_neg (Ne.symm hne)]
    split
    · exact .refl _
    · exact ((ih hrest).cons _).trans (.swap ..)

theorem ofList_perm {pairs : List (κ × ν)} (h : (pairs.map Prod.fst).Nodup) :
    (ofList pairs).Perm pairs := by
  have hfold (pairs entries : List (κ × ν)) (hnodup : ((entries ++ pairs).map Prod.fst).Nodup) :
      (pairs.foldl (fun entries (k, v) => insert k v entries) entries).Perm (entries ++ pairs) := by
    induction pairs generalizing entries with
    | nil => simp
    | cons pair pairs ih =>
      obtain ⟨key, value⟩ := pair
      have hmiddle : (entries ++ (key, value) :: pairs).Perm ((key, value) :: (entries ++ pairs)) :=
        List.perm_middle
      have hnew : key ∉ (entries ++ pairs).map Prod.fst :=
        (List.nodup_cons.1 ((hmiddle.map Prod.fst).nodup_iff.1 hnodup)).1
      have hinsert : (insert key value entries ++ pairs).Perm (entries ++ (key, value) :: pairs) :=
        ((insert_perm value fun hmem => hnew (by simp_all)).append_right pairs).trans hmiddle.symm
      exact (ih _ ((hinsert.map Prod.fst).nodup_iff.2 hnodup)).trans hinsert
  exact hfold pairs [] h

end Keyed

end RequestGuard
