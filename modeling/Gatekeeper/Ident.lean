set_option autoImplicit false

namespace Gatekeeper

structure UserId where
  value : UInt32
  deriving DecidableEq, Repr, Inhabited

/-- Shared by every package that runs under the same `Uid`. -/
structure AppId where
  value : UInt32
  deriving DecidableEq, Repr, Inhabited

structure Uid where
  value : UInt32
  deriving DecidableEq, Repr, Inhabited

structure PackageName where
  value : String
  deriving DecidableEq, Repr, Inhabited

structure Package where
  name : PackageName
  appId : AppId
  requestedPermissions : List String := []
  deriving DecidableEq, Repr, Inhabited

instance : Ord UserId := ⟨compareOn UserId.value⟩
instance : Ord AppId := ⟨compareOn AppId.value⟩
instance : Ord PackageName := ⟨compareOn PackageName.value⟩

instance : Std.TransOrd UserId := inferInstanceAs (Std.TransCmp (compareOn UserId.value))
instance : Std.TransOrd AppId := inferInstanceAs (Std.TransCmp (compareOn AppId.value))
instance : Std.TransOrd PackageName := inferInstanceAs (Std.TransCmp (compareOn PackageName.value))

instance : Std.LawfulEqOrd UserId where
  compare_self {a} := by show compare a.value a.value = _; simp
  eq_of_compare {a b} h := by
    cases a; cases b; exact congrArg _ (Std.compare_eq_iff_eq.1 h)

instance : Std.LawfulEqOrd AppId where
  compare_self {a} := by show compare a.value a.value = _; simp
  eq_of_compare {a b} h := by
    cases a; cases b; exact congrArg _ (Std.compare_eq_iff_eq.1 h)

instance : Std.LawfulEqOrd PackageName where
  compare_self {a} := by show compare a.value a.value = _; simp
  eq_of_compare {a b} h := by
    cases a; cases b; exact congrArg _ (Std.compare_eq_iff_eq.1 h)

def UserId.text (u : UserId) : String := Nat.repr u.value.toNat
def AppId.text (a : AppId) : String := Nat.repr a.value.toNat
def Uid.text (u : Uid) : String := Nat.repr u.value.toNat

def appsPerUser : Nat := 100000

def AppId.isValid (a : AppId) : Bool := a.value.toNat < appsPerUser

namespace Word

/-- The product, if 32 bits suffice. -/
def mul? (a b : UInt32) : Option UInt32 :=
  if a.toBitVec.umulOverflow b.toBitVec then none else some (a * b)

def add? (a b : UInt32) : Option UInt32 :=
  if a.toBitVec.uaddOverflow b.toBitVec then none else some (a + b)

end Word

namespace Uid

/-- The uid of an application of a user, if the application identifier is valid and 32 bits suffice. -/
def pack? (user : UserId) (app : AppId) : Option Uid :=
  if app.isValid then do
    let block ← Word.mul? user.value (.ofNat appsPerUser)
    let value ← Word.add? block app.value
    some ⟨value⟩
  else none

def user (u : Uid) : UserId := ⟨UInt32.ofNat (u.value.toNat / appsPerUser)⟩
def app (u : Uid) : AppId := ⟨UInt32.ofNat (u.value.toNat % appsPerUser)⟩

theorem user_value (u : Uid) : u.user.value.toNat = u.value.toNat / appsPerUser :=
  UInt32.toNat_ofNat_of_lt' (Nat.lt_of_le_of_lt (Nat.div_le_self _ _) u.value.toNat_lt)

theorem app_value (u : Uid) : u.app.value.toNat = u.value.toNat % appsPerUser :=
  UInt32.toNat_ofNat_of_lt' (Nat.lt_of_le_of_lt (Nat.mod_le _ _) u.value.toNat_lt)

end Uid
end Gatekeeper
