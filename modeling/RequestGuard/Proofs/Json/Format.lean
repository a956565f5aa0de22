import RequestGuard.Proofs.Json.Reading
import RequestGuard.Proofs.Json.Variant

/-!
# Formats

A `Format` is a writer and a reader of the documents of a type, with the shape of the documents and
what makes them fit: whatever is written is read back, and what is read from a tree is also read
from an edited one. Therefore every document is read from each text that writes a variant of it
(`Format.roundTrips`).

The formats of single values and of lists are given here. The reader of a record asks for one field
after the other, and `Tolerant.get` carries an edit of the fields through one such question.
-/

namespace RequestGuard.Json

/-- Every document is read from the text that is written for it, and from each text that writes a
variant of it. -/
def RoundTrips {α : Type} (shape : Shape) (write : α → Value) (read : Tree → Option α) : Prop :=
  ∀ a, (Tree.parse? (write a).render).bind read = some a ∧
    ∀ text tree, Tree.parse? text = some tree → Tree.Variant shape (.ofValue (write a)) tree →
      (Tree.parse? text).bind read = some a

/-- How the documents of a type are written and read. -/
structure Format (α : Type) where
  shape : Shape
  write : α → Value
  read : Tree → Option α
  whole (a : α) : Whole (write a)
  read_write (a : α) : read (.ofValue (write a)) = some a
  read_edit {old new : Tree} {a : α} (h : Tree.Edit shape old new) (hread : read old = some a) :
    read new = some a

namespace Format

variable {α β : Type}

theorem read_variant (format : Format α) {old new : Tree} {a : α}
    (h : Tree.Variant format.shape old new) (hread : format.read old = some a) :
    format.read new = some a := by
  induction h with
  | refl => exact hread
  | tail _ hedit ih => exact format.read_edit hedit ih

theorem roundTrips (format : Format α) : RoundTrips format.shape format.write format.read := by
  refine fun a => ⟨?_, fun text tree htext hvariant => ?_⟩
  · rw [Tree.parse?_render (format.whole a), Option.bind_some, format.read_write]
  · rw [htext, Option.bind_some, format.read_variant hvariant (format.read_write a)]

def scalar (write : α → Value) (read : Tree → Option α) (whole : ∀ a, Whole (write a))
    (read_write : ∀ a, read (.ofValue (write a)) = some a) : Format α where
  shape := .scalar
  write
  read
  whole
  read_write
  read_edit := nofun

def bool : Format Bool := scalar .bool Tree.bool? .bool fun _ => rfl

def string : Format String := scalar .string Tree.string? .string fun _ => rfl

def uint64 : Format UInt64 :=
  have hupper (n : UInt64) : Int.ofNat n.toNat < 0x10000000000000000 := Int.ofNat_lt.2 n.toNat_lt
  have hlower (n : UInt64) : 0 ≤ Int.ofNat n.toNat := Int.natCast_nonneg _
  scalar (fun n => .ofNat n.toNat) Tree.uint64?
    (fun n => .int (Int.le_trans (by decide) (hlower n)) (hupper n))
    (fun n => by
      rw [Value.ofNat, Tree.ofValue, Tree.uint64?, if_pos ⟨hlower n, hupper n⟩]
      exact congrArg some (UInt64.ofNat_toNat ..))

def int64 : Format Int64 :=
  have hlower (n : Int64) : -0x8000000000000000 ≤ n.toInt := n.le_toInt
  have hupper (n : Int64) : n.toInt < 0x8000000000000000 := n.toInt_lt
  scalar (fun n => .ofInt n.toInt) Tree.int64?
    (fun n => .int (hlower n) (Int.lt_trans (hupper n) (by decide)))
    (fun n => by
      rw [Value.ofInt, Tree.ofValue, Tree.int64?, if_pos ⟨hlower n, hupper n⟩]
      exact congrArg some (Int64.ofInt_toInt ..))

def optionalBool : Format (Option Bool) :=
  scalar (.ofOption .bool) (Tree.optional? Tree.bool?)
    (fun b => by cases b <;> constructor)
    (fun b => by cases b <;> rfl)

theorem mapM_replace {read : Tree → Option α} {old new : Tree}
    (h : ∀ {a}, read old = some a → read new = some a) {before after : List Tree} {as : List α}
    (hread : (before ++ old :: after).mapM read = some as) :
    (before ++ new :: after).mapM read = some as := by
  induction before generalizing as with
  | nil =>
    simp only [List.nil_append, List.mapM_cons, Option.bind_eq_bind, Option.bind_eq_some_iff]
      at hread ⊢
    obtain ⟨a, ha, hrest⟩ := hread
    exact ⟨a, h ha, hrest⟩
  | cons item before ih =>
    simp only [List.cons_append, List.mapM_cons, Option.bind_eq_bind, Option.bind_eq_some_iff]
      at hread ⊢
    obtain ⟨a, ha, rest, hrest, has⟩ := hread
    exact ⟨a, ha, rest, ih hrest, has⟩

theorem mapM_ofValue_write (format : Format α) (as : List α) :
    ((as.map format.write).map Tree.ofValue).mapM format.read = some as := by
  induction as with
  | nil => rfl
  | cons a as ih => rw [List.map_cons, List.map_cons, List.mapM_cons, format.read_write, ih]; rfl

/-- The lists of documents of a format. -/
def list (format : Format α) : Format (List α) where
  shape := .list format.shape
  write as := .array (as.map format.write)
  read := Tree.list? format.read
  whole as := .array (by simpa using fun a _ => format.whole a)
  read_write as := by
    rw [Tree.ofValue, Tree.list?, Tree.ofItems_eq_map, mapM_ofValue_write]
  read_edit h hread := by
    cases h with
    | item hitem => exact mapM_replace (format.read_edit hitem) hread

/-- A field of a record in a format, with a default. -/
def field (format : Format β) (name : String) (fallback : β) : Shape.Field :=
  (name, format.shape, format.write fallback)

theorem get?_edit {format : Format β} {name : String} {fallback : β} {old new : Fields}
    (h : Tree.FieldEdit (format.field name fallback) (old.lookup name) (new.lookup name)) {b : β}
    (hread : old.get? name format.read fallback = some b) :
    new.get? name format.read fallback = some b := by
  rw [Fields.get?] at hread ⊢
  generalize old.lookup name = oldValue at h hread
  generalize new.lookup name = newValue at h
  cases h with
  | same => exact hread
  | edit hedit => exact format.read_edit hedit hread
  | leaveOut => exact (format.read_write fallback).symm.trans hread

/-- A reader that does not mind edits of the fields. -/
def Tolerant (fields : List Shape.Field) (read : Fields → Option α) : Prop :=
  ∀ (old new : Fields) (a : α),
    (∀ field ∈ fields, Tree.FieldEdit field (old.lookup field.name) (new.lookup field.name)) →
      read old = some a → read new = some a

namespace Tolerant

variable {fields : List Shape.Field}

theorem pure (a : α) : Tolerant fields fun _ => some a := fun _ _ _ _ h => h

theorem get (format : Format β) {name : String} {fallback : β}
    (hfield : format.field name fallback ∈ fields) {rest : β → Fields → Option α}
    (hrest : ∀ b, Tolerant fields (rest b)) :
    Tolerant fields fun found => (found.get? name format.read fallback).bind
      fun b => rest b found := by
  intro old new a hedit hread
  obtain ⟨b, hb, ha⟩ := Option.bind_eq_some_iff.1 hread
  exact Option.bind_eq_some_iff.2 ⟨b, get?_edit (hedit _ hfield) hb, hrest b old new a hedit ha⟩

theorem read_edit {read : Fields → Option α} (h : Tolerant fields read)
    (hnames : (fields.map Shape.Field.name).Nodup) {old new : Tree}
    (hedit : Tree.Edit (.record fields) old new) {a : α}
    (hread : (old.fields? (fields.map Shape.Field.name)).bind read = some a) :
    (new.fields? (fields.map Shape.Field.name)).bind read = some a := by
  obtain ⟨found, hfound, ha⟩ := Option.bind_eq_some_iff.1 hread
  obtain ⟨found', hfound', hfields⟩ := Tree.fields?_edit hnames hedit hfound
  exact Option.bind_eq_some_iff.2 ⟨found', hfound', h found found' a hfields ha⟩

end Tolerant

theorem fieldsOfMembers?_ofMembers {members : List (String × Value)}
    (h : (members.map Prod.fst).Nodup) :
    Tree.fieldsOfMembers? (members.map Prod.fst) (Tree.ofMembers members)
      = some (members.map fun member => (member.1, Tree.ofValue member.2)) := by
  refine Tree.fieldsOfMembers?_eq_some_iff.2 ⟨?_, ?_, ?_⟩
  · rw [Tree.ofMembers_eq_map, List.forall_mem_map]
    exact fun _ _ => rfl
  · have hknown : ∀ member ∈ members,
        Tree.known? (members.map Prod.fst) (some member.1, Tree.ofValue member.2)
          = some (member.1, Tree.ofValue member.2) :=
      fun member hmem => if_pos (List.mem_map_of_mem hmem)
    rw [Tree.ofMembers_eq_map, List.filterMap_map]
    exact (List.filterMap_congr hknown).trans (congrFun List.filterMap_eq_map' members)
  · simpa [Function.comp_def] using h

/-- What a reader makes of some fields. -/
def Reads (found : Fields) (read : Fields → Option α) (a : α) : Prop := read found = some a

theorem Reads.pure (found : Fields) (a : α) : Reads found (fun _ => some a) a := rfl

theorem Reads.get (format : Format β) {name : String} {fallback : β} {found : Fields} {b : β}
    (hfound : found.lookup name = some (.ofValue (format.write b))) {rest : β → Fields → Option α}
    {a : α} (hrest : Reads found (rest b) a) :
    Reads found (fun found => (found.get? name format.read fallback).bind fun b => rest b found)
      a := by
  have hb : found.get? name format.read fallback = some b := by
    simp only [Fields.get?, hfound, format.read_write]
  rw [Reads, hb, Option.bind_some]
  exact hrest

theorem ofValue_ofMembers {members : List (String × Value)} (h : (members.map Prod.fst).Nodup) :
    ∃ written, Tree.ofValue (.ofMembers members) = .object written
      ∧ written.Perm (Tree.ofMembers members) := by
  refine ⟨Tree.ofMembers (Keyed.ofList members), rfl, ?_⟩
  rw [Tree.ofMembers_eq_map, Tree.ofMembers_eq_map]
  exact (Keyed.ofList_perm h).map _

/-- The records with some fields. Each of them is written with all its fields. -/
def record (fields : List Shape.Field) (write : α → Value) (read : Tree → Option α)
    {members : α → List (String × Value)} {readFields : Fields → Option α}
    (hwrite : ∀ a, write a = .ofMembers (members a))
    (hread : ∀ tree, read tree = (tree.fields? (fields.map Shape.Field.name)).bind readFields)
    (hnames : (fields.map Shape.Field.name).Nodup)
    (hmembers : ∀ a, (members a).map Prod.fst = fields.map Shape.Field.name)
    (hwhole : ∀ a, ∀ member ∈ members a, Whole member.2) (htolerant : Tolerant fields readFields)
    (hreads : ∀ a, Reads ((members a).map fun member => (member.1, .ofValue member.2))
      readFields a) :
    Format α where
  shape := .record fields
  write
  read
  whole a := by
    rw [hwrite]
    refine .object fun member hmem => hwhole a member ?_
    exact (Keyed.ofList_perm ((hmembers a).symm ▸ hnames)).mem_iff.1 hmem
  read_write a := by
    have hnodup : ((members a).map Prod.fst).Nodup := (hmembers a).symm ▸ hnames
    have hdeclared :
      (Tree.fields? (fields.map Shape.Field.name) (.object (Tree.ofMembers (members a)))).bind
        readFields
        = some a := by
      rw [← hmembers, Tree.fields?, fieldsOfMembers?_ofMembers hnodup, Option.bind_some, hreads]
    obtain ⟨written, hwritten, hperm⟩ := ofValue_ofMembers hnodup
    rw [hread, hwrite, hwritten]
    exact htolerant.read_edit hnames (.reorder hperm.symm) hdeclared
  read_edit hedit ha := by
    rw [hread] at ha ⊢
    exact htolerant.read_edit hnames hedit ha

end Format

end RequestGuard.Json
