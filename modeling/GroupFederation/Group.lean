import GroupFederation.Text.Blank

/-!
# Groups, members and roles

A group is shown as one person sees it: with that person's role in it. Its `id` is the fully
qualified name, which is also what two reports of the same group have in common. Roles are ordered
from the least to the most privileged one.
-/

namespace GroupFederation

/-- The role of a person in a group. -/
inductive Role where
  | member
  | manager
  | admin
  deriving DecidableEq, Repr, Inhabited

namespace Role

/-- A higher rank carries more privileges. -/
def rank : Role → Nat
  | .member => 0
  | .manager => 1
  | .admin => 2

theorem rank_injective {left right : Role} (equal : left.rank = right.rank) : left = right := by
  cases left <;> cases right <;> simp_all [rank]

/-- The more privileged of two roles. -/
def max (left right : Role) : Role :=
  if left.rank ≤ right.rank then right else left

@[simp] theorem rank_max (left right : Role) :
    (max left right).rank = Nat.max left.rank right.rank := by
  cases left <;> cases right <;> rfl

/-- The name of the role. -/
def name : Role → String
  | .member => "member"
  | .manager => "manager"
  | .admin => "admin"

/-- The role with the given name. -/
def ofName? : String → Option Role
  | "member" => some .member
  | "manager" => some .manager
  | "admin" => some .admin
  | _ => none

@[simp] theorem ofName?_name (role : Role) : ofName? role.name = some role := by
  cases role <;> rfl

/-- What a backend's word for a role means: the words for administrators and managers are known up
to case and surrounding space, and everyone else is a plain member. -/
def ofBackend (word : String) : Role :=
  let known := Text.lower (Text.trim word)
  if known = "admin" ∨ known = "admins" ∨ known = "owner" then .admin
  else if known = "manager" ∨ known = "updaters" then .manager
  else .member

/-- The most privileged role of a list. -/
def highest? : List Role → Option Role
  | [] => none
  | role :: roles => some (roles.foldl max role)

/-- What lies above the most privileged of some roles lies above all of them. -/
theorem rank_foldl_max_le_iff {role : Role} {roles : List Role} {bound : Nat} :
    (roles.foldl max role).rank ≤ bound ↔ ∀ other ∈ role :: roles, other.rank ≤ bound := by
  induction roles generalizing role with
  | nil => simp
  | cons next roles inductionHypothesis =>
      rw [List.foldl_cons, inductionHypothesis, List.forall_mem_cons, rank_max, Nat.max_le]
      simp only [List.forall_mem_cons, and_assoc]

/-- The most privileged of some roles is one of them. -/
theorem foldl_max_mem (role : Role) (roles : List Role) : roles.foldl max role ∈ role :: roles := by
  induction roles generalizing role with
  | nil => simp
  | cons next roles inductionHypothesis =>
      have either : max role next = role ∨ max role next = next := by
        unfold max
        split <;> simp
      rcases List.mem_cons.mp (inductionHypothesis (max role next)) with reached | later
      · rw [List.foldl_cons, reached]
        rcases either with same | same <;> simp [same]
      · exact List.mem_cons_of_mem role (List.mem_cons_of_mem next later)

theorem highest?_eq_none_iff {roles : List Role} : highest? roles = none ↔ roles = [] := by
  cases roles <;> simp [highest?]

/-- The most privileged role of a list is the one in it that no other surpasses. -/
theorem highest?_eq_some_iff {roles : List Role} {role : Role} :
    highest? roles = some role ↔ role ∈ roles ∧ ∀ other ∈ roles, other.rank ≤ role.rank := by
  cases roles with
  | nil => simp [highest?]
  | cons first roles =>
      have above := rank_foldl_max_le_iff.mp (Nat.le_refl (roles.foldl max first).rank)
      have reached := foldl_max_mem first roles
      rw [highest?, Option.some.injEq]
      constructor
      · rintro rfl
        exact ⟨reached, above⟩
      · rintro ⟨member, greatest⟩
        exact rank_injective (Nat.le_antisymm (greatest _ reached) (above role member))

end Role

/-- What a person is to a group. -/
structure Membership where
  basic : Role
  deriving DecidableEq, Repr

/-- A group as one person sees it. -/
structure Group where
  id : String
  displayName : String
  description : Option String
  organization : String
  membership : Membership
  deriving DecidableEq, Repr

/-- A person in the list of a group's members. -/
structure Member where
  id : String
  displayName : String
  deriving DecidableEq, Repr

end GroupFederation
