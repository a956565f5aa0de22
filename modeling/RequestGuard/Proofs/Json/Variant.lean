import Mathlib.Data.List.Nodup
import Mathlib.Logic.Relation
import RequestGuard.Json.Record

/-!
# Variants of a text

Two writers of one document may order the members of an object differently, a newer writer may add
members that the reader does not know, and a writer may leave out what has its default. `Shape` says
where in a document this may happen, `Edit` is one such difference between two trees, and a
`Variant` comes about by any number of them.

A record is read from its fields, and `fields?_edit` says all that an edit of an object does to
them.
-/

namespace RequestGuard.Json

/-- What a part of a document is: the fields of a record have names, shapes and defaults. -/
inductive Shape where
  | scalar
  | list (item : Shape)
  | record (fields : List (String × Shape × Value))

/-- A field of a record, with its default as it is written. -/
abbrev Shape.Field := String × Shape × Value

namespace Shape.Field

abbrev name (field : Field) : String := field.1

abbrev shape (field : Field) : Shape := field.2.1

abbrev fallback (field : Field) : Value := field.2.2

end Shape.Field

namespace Tree

/-- One difference between two texts of a document. -/
inductive Edit : Shape → Tree → Tree → Prop
  /-- An item differs. -/
  | item {shape : Shape} {before after : List Tree} {old new : Tree} (h : Edit shape old new) :
      Edit (.list shape) (.array (before ++ old :: after)) (.array (before ++ new :: after))
  /-- The value of a field differs. -/
  | member {fields : List Shape.Field} (field : Shape.Field) {old new : Tree}
    {rest : List (Option String × Tree)}
      (hfield : field ∈ fields) (h : Edit field.shape old new) :
      Edit (.record fields) (.object ((some field.name, old) :: rest))
        (.object ((some field.name, new) :: rest))
  /-- The members are in another order. -/
  | reorder {fields : List Shape.Field} {old new : List (Option String × Tree)} (h : old.Perm new) :
      Edit (.record fields) (.object old) (.object new)
  /-- There is a member that is no field. -/
  | add {fields : List Shape.Field} (name : String) (tree : Tree)
    {rest : List (Option String × Tree)}
      (h : name ∉ fields.map Shape.Field.name) :
      Edit (.record fields) (.object rest) (.object ((some name, tree) :: rest))
  /-- A field that has its default is missing. -/
  | leaveOut {fields : List Shape.Field} (field : Shape.Field) {rest : List (Option String × Tree)}
      (hfield : field ∈ fields) :
      Edit (.record fields) (.object ((some field.name, ofValue field.fallback) :: rest))
        (.object rest)

/-- A tree that differs from another one in nothing that counts for a document of a shape. -/
def Variant (shape : Shape) : Tree → Tree → Prop := Relation.ReflTransGen (Edit shape)

theorem Variant.item {shape : Shape} {old new : Tree} (h : Variant shape old new)
    (before after : List Tree) :
    Variant (.list shape) (.array (before ++ old :: after)) (.array (before ++ new :: after)) :=
  Relation.ReflTransGen.lift (fun tree => array (before ++ tree :: after))
    (fun _ _ => Edit.item) _ _ h

theorem Variant.member {fields : List Shape.Field} (field : Shape.Field) (hfield : field ∈ fields)
    {old new : Tree} (h : Variant field.shape old new) (rest : List (Option String × Tree)) :
    Variant (.record fields) (.object ((some field.name, old) :: rest))
      (.object ((some field.name, new) :: rest)) :=
  Relation.ReflTransGen.lift (fun tree => object ((some field.name, tree) :: rest))
    (fun _ _ => Edit.member field hfield) _ _ h

def known? (names : List String) : Option String × Tree → Option (String × Tree)
  | (some name, tree) => if name ∈ names then some (name, tree) else none
  | (none, _) => none

theorem isSome_lookup_iff {found : Fields} {name : String} :
    (found.lookup name).isSome = true ↔ name ∈ found.map Prod.fst := by
  rw [List.lookup_isSome_iff, List.mem_map]
  exact exists_congr fun field => and_congr_right fun _ => by rw [beq_iff_eq, eq_comm]

/-- An object has fields if all its names are texts and no field is there twice. -/
theorem fieldsOfMembers?_eq_some_iff {names : List String} {members : List (Option String × Tree)}
    {found : Fields} :
    fieldsOfMembers? names members = some found ↔
      (∀ member ∈ members, member.1.isSome) ∧ members.filterMap (known? names) = found
        ∧ (found.map Prod.fst).Nodup := by
  induction members generalizing found with
  | nil =>
    simp only [fieldsOfMembers?, Option.some.injEq, List.filterMap_nil, List.not_mem_nil,
      false_imp_iff, implies_true, true_and]
    constructor
    · rintro rfl
      simp
    · exact fun h => h.1
  | cons member members ih =>
    obtain ⟨name, tree⟩ := member
    cases name with
    | none => simp [fieldsOfMembers?]
    | some name =>
      simp only [fieldsOfMembers?, Option.bind_eq_some_iff, ih, List.forall_mem_cons,
        Option.isSome_some, true_and]
      by_cases hname : name ∈ names
      · have hcontains : names.contains name = true := List.contains_iff_mem.2 hname
        have hknown : known? names (some name, tree) = some (name, tree) := if_pos hname
        simp only [hcontains, Bool.not_true, Bool.false_eq_true, if_false, isSome_lookup_iff,
          List.filterMap_cons_some hknown]
        constructor
        · rintro ⟨rest, ⟨hnames, rfl, hnodup⟩, hfound⟩
          split at hfound
          · cases hfound
          · rename_i hnew
            cases hfound
            exact ⟨hnames, rfl, List.nodup_cons.2 ⟨hnew, hnodup⟩⟩
        · rintro ⟨hnames, rfl, hnodup⟩
          obtain ⟨hnew, hnodup⟩ := List.nodup_cons.1 hnodup
          exact ⟨_, ⟨hnames, rfl, hnodup⟩, if_neg hnew⟩
      · have hcontains : names.contains name = false := by simpa using hname
        have hknown : known? names (some name, tree) = none := if_neg hname
        simp only [hcontains, Bool.not_false, if_true, Option.some.injEq,
          List.filterMap_cons_none hknown]
        constructor
        · rintro ⟨rest, hrest, rfl⟩
          exact hrest
        · exact fun h => ⟨found, h, rfl⟩

theorem lookup_cons_of_ne {name key : String} (h : name ≠ key) (tree : Tree) (found : Fields) :
    List.lookup name ((key, tree) :: found) = found.lookup name := by
  rw [List.lookup_cons, beq_eq_false_iff_ne.2 h]

theorem lookup_eq_some_iff {found : Fields} (h : (found.map Prod.fst).Nodup) {name : String}
    {tree : Tree} :
    found.lookup name = some tree ↔ (name, tree) ∈ found := by
  induction found with
  | nil => simp
  | cons field found ih =>
    obtain ⟨key, value⟩ := field
    obtain ⟨hnew, hnodup⟩ := List.nodup_cons.1 h
    by_cases hsame : name = key
    · subst hsame
      have hother : (name, tree) ∉ found := fun hmem => hnew (List.mem_map.2 ⟨_, hmem, rfl⟩)
      simp [hother, eq_comm]
    · rw [lookup_cons_of_ne hsame, ih hnodup]
      simp [hsame]

theorem lookup_perm {old new : Fields} (hperm : old.Perm new) (h : (old.map Prod.fst).Nodup)
    (name : String) :
    new.lookup name = old.lookup name := by
  refine Option.ext fun tree => ?_
  have hnew : (new.map Prod.fst).Nodup := (hperm.map Prod.fst).nodup_iff.1 h
  rw [lookup_eq_some_iff h, lookup_eq_some_iff hnew, hperm.mem_iff]

/-- What an edit of an object does to a field: nothing, an edit of its value, or its omission. -/
inductive FieldEdit (field : Shape.Field) : Option Tree → Option Tree → Prop
  | same (value : Option Tree) : FieldEdit field value value
  | edit {old new : Tree} (h : Edit field.shape old new) : FieldEdit field (some old) (some new)
  | leaveOut : FieldEdit field (some (ofValue field.fallback)) none

section

variable {fields : List Shape.Field}

theorem known?_field {field : Shape.Field} (h : field ∈ fields) (tree : Tree) :
    known? (fields.map Shape.Field.name) (some field.name, tree) = some (field.name, tree) :=
  if_pos (List.mem_map_of_mem h)

theorem fieldEdit_of_ne (hnames : (fields.map Shape.Field.name).Nodup) {field other : Shape.Field}
    (hfield : field ∈ fields) (hother : other ∈ fields)
    {old new : Fields} (hedit : FieldEdit field (old.lookup field.name) (new.lookup field.name))
    (hothers : ∀ name, name ≠ field.name → new.lookup name = old.lookup name) :
    FieldEdit other (old.lookup other.name) (new.lookup other.name) := by
  by_cases hsame : other.name = field.name
  · rwa [List.inj_on_of_nodup_map hnames hother hfield hsame]
  · rw [hothers other.name hsame]
    exact .same _

/-- An edited object has fields again, and each of them is edited at most. -/
theorem fields?_edit (hnames : (fields.map Shape.Field.name).Nodup) {old new : Tree}
    (h : Edit (.record fields) old new) {found : Fields}
    (hfound : old.fields? (fields.map Shape.Field.name) = some found) :
    ∃ found', new.fields? (fields.map Shape.Field.name) = some found' ∧
      ∀ field ∈ fields, FieldEdit field (found.lookup field.name) (found'.lookup field.name) := by
  cases h with
  | @member _ field old new rest hfield hedit =>
    obtain ⟨htexts, rfl, hnodup⟩ := fieldsOfMembers?_eq_some_iff.1 hfound
    rw [List.filterMap_cons_some (known?_field hfield old)] at hnodup ⊢
    refine ⟨_,
      fieldsOfMembers?_eq_some_iff.2 ⟨by simpa using htexts,
        List.filterMap_cons_some (known?_field hfield new), by simpa using hnodup⟩,
      fun other hother => ?_⟩
    refine fieldEdit_of_ne hnames hfield hother ?_ fun name hname => ?_
    · simpa using FieldEdit.edit hedit
    · rw [lookup_cons_of_ne hname, lookup_cons_of_ne hname]
  | @reorder _ old new hperm =>
    obtain ⟨htexts, rfl, hnodup⟩ := fieldsOfMembers?_eq_some_iff.1 hfound
    have hperm' := hperm.filterMap (known? (fields.map Shape.Field.name))
    refine ⟨_,
      fieldsOfMembers?_eq_some_iff.2 ⟨fun member hmem => htexts member (hperm.mem_iff.2 hmem), rfl,
        (hperm'.map Prod.fst).nodup_iff.1 hnodup⟩,
      fun field _ => ?_⟩
    rw [lookup_perm hperm' hnodup]
    exact .same _
  | @add _ name tree rest hname =>
    obtain ⟨htexts, rfl, hnodup⟩ := fieldsOfMembers?_eq_some_iff.1 hfound
    refine ⟨_,
      fieldsOfMembers?_eq_some_iff.2
        ⟨by simpa using htexts, List.filterMap_cons_none (if_neg hname), hnodup⟩,
      fun field _ => .same _⟩
  | @leaveOut _ field rest hfield =>
    obtain ⟨htexts, rfl, hnodup⟩ := fieldsOfMembers?_eq_some_iff.1 hfound
    rw [List.filterMap_cons_some (known?_field hfield _)] at hnodup ⊢
    obtain ⟨hnew, hnodup⟩ := List.nodup_cons.1 hnodup
    refine ⟨_, fieldsOfMembers?_eq_some_iff.2 ⟨(List.forall_mem_cons.1 htexts).2, rfl, hnodup⟩,
      fun other hother => ?_⟩
    refine fieldEdit_of_ne hnames hfield hother ?_ fun name hname => ?_
    · have habsent :
          List.lookup field.name (rest.filterMap (known? (fields.map Shape.Field.name))) = none :=
        Option.not_isSome_iff_eq_none.1 (mt isSome_lookup_iff.1 hnew)
      rw [habsent]
      simpa using FieldEdit.leaveOut
    · rw [lookup_cons_of_ne hname]

end

end Tree

end RequestGuard.Json
