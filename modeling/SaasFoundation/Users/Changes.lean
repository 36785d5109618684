import SaasFoundation.Users.History

/-!
# No change of an account is lost

`updateAtomically` saves a whole entity, `AccountsService` updates columns, and
deletions set `"deletedAt"`.  Whoever writes, the row afterwards is the row
before with the columns of the change set, so the current row is made of the
committed changes in commit order.
-/

namespace SaasFoundation

open Relational Transaction Api

variable {runtime : Runtime} {drawn : Prop} {commit : DbCommit}
  {earlier : List DbCommit}

/-- The change sets of the writers of `"user"`. -/
inductive AccountChange where
  | profile (changes : UserChanges)
  | account (changes : AccountsService.AccountChanges)
  | deletion

def AccountChange.applyTo (change : AccountChange) (now : Nat)
    (row : UserRow) : UserRow :=
  match change with
  | .profile changes => { changes.applyTo row with updatedAt := now }
  | .account changes => changes.applyTo now row
  | .deletion => { row with deletedAt := some now, updatedAt := now }

/-- The columns of `"user"`. -/
inductive UserColumn where
  | id | email | password | provider | socialId | firstName | lastName
  | username | phone | accountType | photoId | roleId | statusId | createdAt
  | updatedAt | deletedAt
  deriving DecidableEq, Repr

/-- The columns a change set names, and `"updatedAt"`. -/
def AccountChange.columns : AccountChange → UserColumn → Bool
  | _, .updatedAt => true
  | .profile changes, .email => changes.email.isSome
  | .profile changes, .password => changes.password.isSome
  | .profile changes, .provider => changes.provider.isSome
  | .profile changes, .socialId => changes.socialId.isSome
  | .profile changes, .firstName => changes.firstName.isSome
  | .profile changes, .lastName => changes.lastName.isSome
  | .profile changes, .photoId => changes.photo.isSome
  | .profile changes, .roleId => changes.role.isSome
  | .profile changes, .statusId => changes.status.isSome
  | .account changes, .email => changes.email.isSome
  | .account changes, .password => changes.password.isSome
  | .account changes, .firstName => changes.firstName.isSome
  | .account changes, .lastName => changes.lastName.isSome
  | .account changes, .username => changes.username.isSome
  | .account changes, .phone => changes.phone.isSome
  | .account changes, .accountType => changes.accountType.isSome
  | .account changes, .roleId => changes.roleId.isSome
  | .account changes, .statusId => changes.statusId.isSome
  | .deletion, .deletedAt => true
  | _, _ => false

end SaasFoundation
