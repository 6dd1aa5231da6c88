import Gatekeeper.State.Draft

/-!
# Pools of versions

States that came from one another and share what none of them has written. Every part of a member carries a token for
the storage it lies in. A new member takes over the tokens of the one it was made from; a part that is written gets a
token no other part has. Two members share a part when its tokens are equal.
-/

set_option autoImplicit false

namespace Gatekeeper

structure Version where
  state : AccessState := {}
  systemToken : Nat := 0
  userTokens : SortedMap UserId Nat := ∅
  deriving DecidableEq, Inhabited

structure VersionPool where
  members : List Version := [{}]
  /-- Tokens from here on are unused. -/
  unused : Nat := 1
  deriving DecidableEq, Inhabited

namespace Version

def next (v : Version) : Version := { v with state := v.state.nextVersion }

/-- Two parts have the same token, and each state has the part. -/
def sharesUser (a b : Version) (u : UserId) : Bool :=
  match a.state.users.get? u, b.state.users.get? u with
  | some _, some _ => a.userTokens.get? u = b.userTokens.get? u
  | _, _ => false

def sharesSystem (a b : Version) : Bool := a.systemToken = b.systemToken

/-- Gives each of some users a fresh token; the second component is the first token then unused. -/
def stamp (users : List UserId) (tokens : SortedMap UserId Nat) (unused : Nat) : SortedMap UserId Nat × Nat :=
  users.foldl (fun acc u => (acc.1.insert u acc.2, acc.2 + 1)) (tokens, unused)

/-- Takes over a draft that was begun at this version: a copied part gets a fresh token, and the second component is the
    first token then unused. -/
def accept (v : Version) (unused : Nat) (d : Draft) : Version × Nat :=
  let systemToken := if d.systemCopied then unused else v.systemToken
  let unused := if d.systemCopied then unused + 1 else unused
  let (userTokens, unused) := stamp d.copiedUsers.toList v.userTokens unused
  ({ state := d.state, systemToken, userTokens }, unused)

end Version

namespace VersionPool

def get? (p : VersionPool) (i : Nat) : Option Version := p.members[i]?

/-- A new member with the empty state, which shares nothing. -/
def create (p : VersionPool) : VersionPool :=
  { members := p.members ++ [{ systemToken := p.unused }], unused := p.unused + 1 }

/-- A new member made from member `i`, with everything shared. -/
def derive (p : VersionPool) (i : Nat) (f : Version → Version) : VersionPool :=
  match p.members[i]? with
  | some v => { p with members := p.members ++ [f v] }
  | none => p

def next (p : VersionPool) (i : Nat) : VersionPool := p.derive i Version.next
def fork (p : VersionPool) (i : Nat) : VersionPool := p.derive i id

def write (p : VersionPool) (i : Nat) (f : Draft → Draft) : VersionPool :=
  match p.members[i]? with
  | some v =>
    let (v, unused) := v.accept p.unused (f (.of v.state))
    { members := p.members.set i v, unused }
  | none => p

end VersionPool
end Gatekeeper
