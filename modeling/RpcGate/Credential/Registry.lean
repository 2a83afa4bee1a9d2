import RpcGate.Credential.Directive

/-!
# Registries

Directives are replayed from the first to the last; what survives, on top of
the legacy pair, is inserted into the registry, where the last credential of
a user name counts.
-/

namespace RpcGate

/-- What the directives so far have left: the entries that count, and those a clear put aside. -/
structure Replay where
  active : List Entry
  cleared : Option (List Entry)
  deriving DecidableEq, Repr

namespace Replay

def start : Replay := ⟨[], none⟩

def apply (fs : FileSystem) (r : Replay) (d : Directive) : Except AuthError Replay :=
  match d with
  | .clear => .ok ⟨[], some r.active⟩
  | .reEnable => match r.cleared with
    | some put => .ok ⟨put ++ r.active, none⟩
    | none => .ok r
  | add => do return { r with active := r.active ++ (← add.entries fs) }

end Replay

/-- The entries that survive the directives, before later ones replace earlier ones. -/
def resolve (fs : FileSystem) (ds : List Directive) : Except AuthError (List Entry) := do
  return (← ds.foldlM (Replay.apply fs) Replay.start).active

/-- One credential for each user name. -/
structure Registry where
  credentials : List Credential
  distinct : (credentials.map Credential.username).Nodup := by simp

namespace Registry

def empty : Registry := ⟨[], by simp⟩

def get? (r : Registry) (username : Text) : Option Credential :=
  r.credentials.find? (·.username = username)

def contains (r : Registry) (username : Text) : Bool := (r.get? username).isSome

def size (r : Registry) : Nat := r.credentials.length

def usernames (r : Registry) : List Text := r.credentials.map Credential.username

/-- Adds a credential in the place of an earlier one of the same user. -/
def insert (r : Registry) (c : Credential) : Registry where
  credentials := c :: r.credentials.filter (·.username ≠ c.username)
  distinct := by
    rw [List.map_cons, List.nodup_cons]
    constructor
    · intro h
      obtain ⟨d, hd, hu⟩ := List.mem_map.1 h
      simp [hu] at hd
    · exact r.distinct.sublist (List.filter_sublist.map _)

theorem get?_insert (r : Registry) (c : Credential) (username : Text) :
    (r.insert c).get? username = if c.username = username then some c else r.get? username := by
  unfold get? insert
  by_cases h : c.username = username
  · simp [h]
  · simp only [h, List.find?_cons_of_neg, decide_false, Bool.false_eq_true, not_false_eq_true,
      if_false, List.find?_filter]
    congr 1
    funext d
    by_cases hd : d.username = username
    · simp [hd, Ne.symm h]
    · simp [hd]

/-- The legacy pair first, then the surviving entries in their order. -/
def ofEntries (legacy : Option LegacyPair) (entries : List Entry) : Registry :=
  let first := match legacy with
    | some pair => empty.insert (.legacy pair)
    | none => empty
  entries.foldl (fun r e => r.insert (.hashed e)) first

def build (fs : FileSystem) (ds : List Directive) (legacy : Option LegacyPair) :
    Except AuthError Registry := do
  return ofEntries legacy (← resolve fs ds)

def verify (r : Registry) (username password : Text) : Bool :=
  match r.get? username with
  | some c => c.accepts password
  | none => false

end Registry

end RpcGate
