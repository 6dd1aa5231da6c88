import Gatekeeper.State.Draft
import Gatekeeper.Proofs.SortedMap

set_option autoImplicit false

namespace Gatekeeper.Draft

variable (d : Draft) (u v : UserId)

@[simp] theorem editSystem_version (f : SystemState → SystemState) : (d.editSystem f).version = d.version := rfl
@[simp] theorem editSystem_system (f : SystemState → SystemState) : (d.editSystem f).system = f d.system := rfl
@[simp] theorem editSystem_users (f : SystemState → SystemState) : (d.editSystem f).users = d.users := rfl

@[simp] theorem insertUser_version (user : UserState) : (d.insertUser u user).version = d.version := rfl
@[simp] theorem insertUser_system (user : UserState) : (d.insertUser u user).system = d.system := rfl
@[simp] theorem insertUser_users (user : UserState) : (d.insertUser u user).users = d.users.insert u user := rfl

@[simp] theorem removeUser_version : (d.removeUser u).version = d.version := rfl
@[simp] theorem removeUser_system : (d.removeUser u).system = d.system := rfl
@[simp] theorem removeUser_users : (d.removeUser u).users = d.users.erase u := rfl

@[simp] theorem editUsers_version (f : UserId → UserState → UserState) : (d.editUsers f).version = d.version := rfl
@[simp] theorem editUsers_system (f : UserId → UserState → UserState) : (d.editUsers f).system = d.system := rfl
@[simp] theorem editUsers_users (f : UserId → UserState → UserState) :
    (d.editUsers f).users = d.users.mapWithKey f := rfl

@[simp] theorem editUser_version (f : UserState → UserState) : (d.editUser u f).version = d.version := by
  unfold editUser
  split <;> rfl

@[simp] theorem editUser_system (f : UserState → UserState) : (d.editUser u f).system = d.system := by
  unfold editUser
  split <;> rfl

theorem editUser_of_unknown {u : UserId} (f : UserState → UserState) (h : d.users.get? u = none) : d.editUser u f = d := by
  rw [editUser, h]

theorem editUser_users (f : UserState → UserState) : (d.editUser u f).users = d.users.adjust u f := by
  unfold editUser SortedMap.adjust
  cases d.users.get? u <;> rfl

theorem editUser_get?_self (f : UserState → UserState) : (d.editUser u f).users.get? u = (d.users.get? u).map f := by
  rw [editUser_users, SortedMap.get?_adjust_self]

theorem editUser_get?_ne {v : UserId} (f : UserState → UserState) (h : v ≠ u) :
    (d.editUser u f).users.get? v = d.users.get? v := by
  rw [editUser_users, SortedMap.get?_adjust_ne _ _ h]

@[simp] theorem editUser_contains (f : UserState → UserState) :
    (d.editUser u f).users.contains v = d.users.contains v := by
  by_cases h : v = u
  · subst h
    simp [SortedMap.contains_eq_isSome, editUser_get?_self]
  · simp [SortedMap.contains_eq_isSome, editUser_get?_ne d u f h]

@[simp] theorem editUser_systemCopied (f : UserState → UserState) : (d.editUser u f).systemCopied = d.systemCopied := by
  unfold editUser
  split <;> rfl

theorem insertUser_copied_iff (user : UserState) :
    (d.insertUser u user).copiedUsers.contains v ↔ v = u ∨ d.copiedUsers.contains v :=
  SortedMap.contains_insert_iff d.copiedUsers u v ()

theorem editUser_copied_iff (f : UserState → UserState) :
    (d.editUser u f).copiedUsers.contains v ↔ (v = u ∧ d.users.contains u) ∨ d.copiedUsers.contains v := by
  unfold editUser
  rw [SortedMap.contains_eq_isSome d.users]
  cases d.users.get? u with
  | none => simp
  | some user => simp [SortedMap.contains_insert_iff]

theorem editUsers_copied_iff (f : UserId → UserState → UserState) :
    (d.editUsers f).copiedUsers.contains v ↔ d.users.contains v ∨ d.copiedUsers.contains v := by
  rw [← SortedMap.mem_keys_iff d.users]
  exact SortedMap.foldl_add_contains_iff d.users.keys d.copiedUsers v

structure SameRecords (before after : Draft) : Prop where
  system : after.system = before.system
  users : ∀ u, after.users.contains u = before.users.contains u

theorem SameRecords.refl : SameRecords d d := ⟨rfl, fun _ => rfl⟩

theorem SameRecords.trans {a b c : Draft} (h : SameRecords a b) (h' : SameRecords b c) : SameRecords a c :=
  ⟨h'.system.trans h.system, fun u => (h'.users u).trans (h.users u)⟩

theorem editUser_sameRecords (f : UserState → UserState) : SameRecords d (d.editUser u f) :=
  ⟨editUser_system d u f, fun v => editUser_contains d u v f⟩

theorem editUsers_sameRecords (f : UserId → UserState → UserState) : SameRecords d (d.editUsers f) :=
  ⟨rfl, fun v => SortedMap.contains_mapWithKey f d.users v⟩

/-- Between two drafts the parts of some users were accessed for writing, and the system part if a condition holds. -/
structure Copies (before after : Draft) (system : Prop) (users : UserId → Prop) : Prop where
  system : after.systemCopied ↔ before.systemCopied ∨ system
  users : ∀ u, after.copiedUsers.contains u ↔ before.copiedUsers.contains u ∨ users u

theorem Copies.idle {system : Prop} {users : UserId → Prop} (unwritten : ¬system) (nobody : ∀ u, ¬users u) :
    Copies d d system users :=
  ⟨by simp [unwritten], fun u => by simp [nobody u]⟩

theorem Copies.trans {a b c : Draft} {system system' : Prop} {users users' : UserId → Prop}
    (h : Copies a b system users) (h' : Copies b c system' users') :
    Copies a c (system ∨ system') fun u => users u ∨ users' u :=
  ⟨by rw [h'.system, h.system, or_assoc], fun u => by rw [h'.users, h.users, or_assoc]⟩

theorem Copies.congr {a b : Draft} {system system' : Prop} {users users' : UserId → Prop}
    (h : Copies a b system users) (hs : system ↔ system') (hu : ∀ u, users u ↔ users' u) : Copies a b system' users' :=
  ⟨by rw [h.system, hs], fun u => by rw [h.users, hu]⟩

theorem editSystem_copies (f : SystemState → SystemState) : Copies d (d.editSystem f) True fun _ => False :=
  ⟨by simp [editSystem], fun v => by simp [editSystem]⟩

theorem insertUser_copies (user : UserState) : Copies d (d.insertUser u user) False (· = u) :=
  ⟨by simp [insertUser], fun v => by rw [insertUser_copied_iff, or_comm]⟩

theorem removeUser_copies : Copies d (d.removeUser u) False fun _ => False :=
  ⟨by simp [removeUser], fun v => by simp [removeUser]⟩

theorem editUser_copies (f : UserState → UserState) :
    Copies d (d.editUser u f) False fun v => v = u ∧ d.users.contains u :=
  ⟨by simp, fun v => by rw [editUser_copied_iff, or_comm]⟩

theorem editUsers_copies (f : UserId → UserState → UserState) :
    Copies d (d.editUsers f) False fun v => d.users.contains v :=
  ⟨by simp [editUsers], fun v => by rw [editUsers_copied_iff, or_comm]⟩

end Gatekeeper.Draft
