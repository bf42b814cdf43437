import GroupFederation.Provider.Basic

/-!
# Providers without a backend

For trying out how answers are put together, two kinds of providers reply from prepared lists. A
simulated provider always answers, always fails, or always sleeps well past its timeout. A scripted
one waits a given time and then answers, fails in a given way, or breaks down.
-/

namespace GroupFederation.Provider

/-- How a simulated provider behaves. -/
inductive Simulation where
  | success
  | timeout
  | failure
  deriving DecidableEq, Repr

/-- What a provider without a backend is made of. -/
structure Fake where
  name : String
  organization : String
  isExternal : Bool
  timeout : Nat := 500
  groups : List Group
  /-- The members it lists; without them it lists none. -/
  members : Option (List Member)
  deriving Repr

namespace Fake

/-- A provider that replies with the prepared lists, each handed to `reply`. External providers
are simulated to know no groups beyond those of a person when `hidesGroups` is set. -/
def provider (fake : Fake) (hidesGroups : Bool)
    (reply : {α : Type} → α → Reply α) : Provider where
  name := fake.name
  organization := fake.organization
  timeout := fake.timeout
  isExternal := fake.isExternal
  listsMembers := fake.members.isSome
  memberships _ _ := reply fake.groups
  membership _ _ group := reply (fake.groups.find? fun found => found.id == group)
  members _ _ := reply (fake.members.getD [])
  allGroups _ := reply (if hidesGroups && fake.isExternal then [] else fake.groups)

/-- A simulated provider. -/
def simulated (fake : Fake) (simulation : Simulation) : Provider :=
  fake.provider true fun value =>
    match simulation with
    | .success => ⟨0, .answered value, []⟩
    | .timeout => ⟨fake.timeout * 10, .answered value, []⟩
    | .failure => ⟨0, .failed (.connection (fake.name ++ " simulated failure")), []⟩

/-- How a scripted call ends. -/
inductive Ending where
  | answer
  | fail (failure : Failure)
  | crash
  deriving DecidableEq, Repr

/-- A scripted provider. -/
def scripted (fake : Fake) (delay : Nat) (ending : Ending) : Provider :=
  fake.provider false fun value =>
    match ending with
    | .answer => ⟨delay, .answered value, []⟩
    | .fail failure => ⟨delay, .failed failure, []⟩
    | .crash => ⟨delay, .crashed, []⟩

end Fake

end GroupFederation.Provider
