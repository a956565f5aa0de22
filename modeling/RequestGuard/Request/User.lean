import RequestGuard.Text.Blank

/-!
# Users and groups

Who a request is made for. Blanks around the names do not count, and no name may be empty.
-/

namespace RequestGuard

structure User where
  id : String
  name : String
deriving DecidableEq, Repr

/-- Why a user or a group is not accepted. -/
inductive IdentityError where
  | emptyUser
  | emptyGroup
deriving DecidableEq, Repr

def IdentityError.message : IdentityError → String
  | .emptyUser => "empty id or name"
  | .emptyGroup => "empty rate limit group id"

def User.ofTexts (id name : String) : Except IdentityError User :=
  let user : User := { id := Text.trim id, name := Text.trim name }
  if user.id.isEmpty || user.name.isEmpty then .error .emptyUser else .ok user

/-- The name of a group without the blanks around it. -/
def groupOfText (group : String) : Except IdentityError String :=
  let name := Text.trim group
  if name.isEmpty then .error .emptyGroup else .ok name

end RequestGuard
