import Gatekeeper.Encoding
import Gatekeeper.Safety.Data

set_option autoImplicit false

namespace Gatekeeper

inductive Event where
  | addUser (user : UserId)
  | removeUser (user : UserId)
  | addPackage (package : Package)
  /-- The installed package of that name, if there is one. -/
  | removePackage (name : PackageName)
  | setDecision (subject object : AccessUri) (decision : Decision)
  /-- Asks for a decision, and may say which one to expect. -/
  | check (subject object : AccessUri) (expect : Option Decision)
  | subscribe (listener : String) (user : UserId)
  | unsubscribe (listener : String) (user : UserId)
  | publish (user : UserId) (data : Safety.Data)
  deriving DecidableEq, Repr

namespace Event

inductive Kind where
  | addUser
  | removeUser
  | addPackage
  | removePackage
  | setDecision
  | check
  | subscribe
  | unsubscribe
  | publish
  deriving DecidableEq, Repr

namespace Kind

def all : List Kind :=
  [addUser, removeUser, addPackage, removePackage, setDecision, check, subscribe, unsubscribe, publish]

def name : Kind → String
  | addUser => "add_user"
  | removeUser => "remove_user"
  | addPackage => "add_package"
  | removePackage => "remove_package"
  | setDecision => "set_decision"
  | check => "check"
  | subscribe => "subscribe"
  | unsubscribe => "unsubscribe"
  | publish => "publish"

def ofName? (name : String) : Option Kind := all.find? fun k => k.name = name

theorem ofName?_name (k : Kind) : ofName? k.name = some k := by cases k <;> rfl

end Kind

def kind : Event → Kind
  | addUser _ => .addUser
  | removeUser _ => .removeUser
  | addPackage _ => .addPackage
  | removePackage _ => .removePackage
  | setDecision .. => .setDecision
  | check .. => .check
  | subscribe .. => .subscribe
  | unsubscribe .. => .unsubscribe
  | publish .. => .publish

end Event
end Gatekeeper
