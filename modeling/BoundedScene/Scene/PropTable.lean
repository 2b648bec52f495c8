import BoundedScene.Scene.Cleanup

/-!
Contract: the props of a scene.

Owns:
- `PropTable`, the stored props, at most one for each key;
- storing, fetching and removing a prop;
- `VisitingOrder`, the order in which a teardown visits the remaining props.

Does not own: running a cleanup.
-/

namespace BoundedScene

/-- A stored value with its key and its cleanup, if it has one. -/
structure StoredProp (V : Type) where
  key : String
  value : V
  cleanup : Option Cleanup := none

/-- The stored props, oldest first. -/
structure PropTable (V : Type) where
  props : List (StoredProp V) := []

namespace PropTable

variable {V : Type}

def find? (table : PropTable V) (key : String) : Option (StoredProp V) :=
  table.props.find? fun prop => prop.key == key

def size (table : PropTable V) : Nat :=
  table.props.length

/-- Add a prop; a key that is present is never overwritten. -/
def store (table : PropTable V) (prop : StoredProp V) : Except SceneError (PropTable V) :=
  match table.find? prop.key with
  | some _ => .error (.propAlreadyExists prop.key)
  | none => .ok ⟨table.props ++ [prop]⟩

/-- The value under a key. -/
def fetch (table : PropTable V) (key : String) : Except SceneError V :=
  match table.find? key with
  | some prop => .ok prop.value
  | none => .error (.propNotFound key)

def erase (table : PropTable V) (key : String) : PropTable V :=
  ⟨table.props.filter fun prop => prop.key != key⟩

/-- Take the prop under a key out of the table. -/
def remove (table : PropTable V) (key : String) :
    Except SceneError (StoredProp V × PropTable V) :=
  match table.find? key with
  | some prop => .ok (prop, table.erase key)
  | none => .error (.propNotFound key)

/-- Whether the cleanup of some prop owns a handle of the scene. -/
def holdsHandle (table : PropTable V) : Bool :=
  table.props.any fun prop => prop.cleanup.any Cleanup.holdsHandle

end PropTable

/-- An order in which to visit props: every one of them, once. -/
structure VisitingOrder (V : Type) where
  arrange : List (StoredProp V) → List (StoredProp V)
  perm : ∀ props, (arrange props).Perm props

/-- Visit the oldest prop first. -/
def VisitingOrder.oldestFirst {V : Type} : VisitingOrder V where
  arrange props := props
  perm props := List.Perm.refl props

end BoundedScene
