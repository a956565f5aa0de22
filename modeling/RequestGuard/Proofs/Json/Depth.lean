import RequestGuard.Proofs.Json.Reading
import RequestGuard.Proofs.Keyed.Updates

/-!
# Values within a depth

A text gives a value whose objects hold their members in the order of their names, and which has no
more containers inside each other than the reader allows (`Within`). Such a value is what the tree
of the value gives (`Tree.toValue?_ofValue`), and with whole numbers it is read off its own text
(`Value.parse?_render`).
-/

namespace RequestGuard.Json

/-- A value with at most `depth` containers inside each other, each object with its members in the
order of their names. -/
inductive Within : Nat → Value → Prop
  | null (depth : Nat) : Within depth .null
  | bool (depth : Nat) (b : Bool) : Within depth (.bool b)
  | number (depth : Nat) (n : Number) : Within depth (.number n)
  | string (depth : Nat) (s : String) : Within depth (.string s)
  | array {depth : Nat} {items : List Value} (h : ∀ item ∈ items, Within depth item) :
      Within (depth + 1) (.array items)
  | object {depth : Nat} {members : List (String × Value)} (hordered : Keyed.Ordered members)
      (h : ∀ member ∈ members, Within depth member.2) : Within (depth + 1) (.object members)

namespace Tree

theorem itemValues?_ofItems {depth : Nat} {items : List Value}
    (h : ∀ item ∈ items, toValue? depth (ofValue item) = some item) :
    itemValues? depth (ofItems items) = some items := by
  induction items with
  | nil => rfl
  | cons item items ih =>
    obtain ⟨hitem, hitems⟩ := List.forall_mem_cons.1 h
    rw [ofItems, itemValues?, hitem, Option.bind_some, ih hitems, Option.map_some]

theorem memberValues?_ofMembers {depth : Nat} {members : List (String × Value)}
    (h : ∀ member ∈ members, toValue? depth (ofValue member.2) = some member.2) :
    memberValues? depth (ofMembers members) = some members := by
  induction members with
  | nil => rfl
  | cons member members ih =>
    obtain ⟨hmember, hmembers⟩ := List.forall_mem_cons.1 h
    rw [ofMembers, memberValues?, Option.bind_some, hmember, Option.bind_some,
      ih hmembers, Option.map_some]

theorem toValue?_ofValue {depth : Nat} {value : Value} (h : Within depth value) :
    toValue? depth (ofValue value) = some value := by
  induction h with
  | null | bool | number | string => rfl
  | array hitems ih =>
    rw [ofValue, toValue?, if_neg (Nat.succ_ne_zero _), Nat.add_sub_cancel,
      itemValues?_ofItems ih, Option.map_some]
  | object hordered hmembers ih =>
    rw [ofValue, toValue?, if_neg (Nat.succ_ne_zero _), Nat.add_sub_cancel,
      memberValues?_ofMembers ih, Option.map_some, Value.ofMembers, hordered.ofList_eq]

end Tree

/-- A value with whole numbers is read off its own text. -/
theorem Value.parse?_render {value : Value} (hwhole : Whole value)
    (hwithin : Within maxDepth value) :
    parse? value.render = some value := by
  rw [parse?, Tree.parse?_render hwhole, Option.bind_some, Tree.toValue?_ofValue hwithin]

end RequestGuard.Json
