import CameraConsole.Number.Double

/-!
# JSON values

Values as read from a text: objects have their members in ascending order of keys, each key once.
Values built for writing may list members in any order.
-/

namespace CameraConsole

/-- A number is an integer or, when written otherwise or too large for 64 bits, a double. -/
inductive Number where
  | int (value : Int)
  | real (value : Double)
  deriving DecidableEq

inductive Json where
  | null
  | bool (value : Bool)
  | number (value : Number)
  | text (value : String)
  | list (items : List Json)
  | object (members : List (String × Json))

namespace Json

instance : Inhabited Json := ⟨null⟩

mutual

/-- Equality of values, member by member in the order they are listed. -/
def decEq : (v w : Json) → Decidable (v = w)
  | .null, .null => isTrue rfl
  | .bool a, .bool b => decidable_of_iff (a = b) (by simp)
  | .number a, .number b => decidable_of_iff (a = b) (by simp)
  | .text a, .text b => decidable_of_iff (a = b) (by simp)
  | .list a, .list b =>
    match decEqList a b with
    | isTrue h => isTrue (by rw [h])
    | isFalse h => isFalse (by simpa using h)
  | .object a, .object b =>
    match decEqMembers a b with
    | isTrue h => isTrue (by rw [h])
    | isFalse h => isFalse (by simpa using h)
  | .null, .bool _ | .null, .number _ | .null, .text _ | .null, .list _ | .null, .object _
  | .bool _, .null | .bool _, .number _ | .bool _, .text _ | .bool _, .list _ | .bool _, .object _
  | .number _, .null | .number _, .bool _ | .number _, .text _ | .number _, .list _
  | .number _, .object _
  | .text _, .null | .text _, .bool _ | .text _, .number _ | .text _, .list _ | .text _, .object _
  | .list _, .null | .list _, .bool _ | .list _, .number _ | .list _, .text _ | .list _, .object _
  | .object _, .null | .object _, .bool _ | .object _, .number _ | .object _, .text _
  | .object _, .list _ => isFalse (by simp)

def decEqList : (a b : List Json) → Decidable (a = b)
  | [], [] => isTrue rfl
  | v :: a, w :: b =>
    match decEq v w, decEqList a b with
    | isTrue h, isTrue k => isTrue (by rw [h, k])
    | isFalse h, _ => isFalse (by simp [h])
    | _, isFalse k => isFalse (by simp [k])
  | [], _ :: _ | _ :: _, [] => isFalse (by simp)

def decEqMembers : (a b : List (String × Json)) → Decidable (a = b)
  | [], [] => isTrue rfl
  | (k, v) :: a, (l, w) :: b =>
    match decEq v w, decEqMembers a b with
    | isTrue h, isTrue i => decidable_of_iff (k = l) (by simp [h, i])
    | isFalse h, _ => isFalse (by simp [h])
    | _, isFalse i => isFalse (by simp [i])
  | [], _ :: _ | _ :: _, [] => isFalse (by simp)

end

instance : DecidableEq Json := decEq

/-- The member `key` of an object. -/
def member? (key : String) : Json → Option Json
  | .object members => members.lookup key
  | _ => none

def text? : Json → Option String
  | .text s => some s
  | _ => none

/-- Puts a member at its place in the order of keys; a member of the same key gives way. -/
def insertMember (key : String) (value : Json) : List (String × Json) → List (String × Json)
  | [] => [(key, value)]
  | (k, v) :: rest =>
    if key < k then (key, value) :: (k, v) :: rest
    else if key = k then (key, value) :: rest
    else (k, v) :: insertMember key value rest

/-- Members in the order of keys; of members with the same key the last counts. -/
def orderMembers (members : List (String × Json)) : List (String × Json) :=
  members.foldl (fun ordered (k, v) => insertMember k v ordered) []

mutual

/-- The value with the members of every object in the order of keys. -/
def ordered : Json → Json
  | .null => .null
  | .bool b => .bool b
  | .number n => .number n
  | .text s => .text s
  | .list items => .list (orderedItems items)
  | .object members => .object (orderMembers (orderedValues members))

def orderedItems : List Json → List Json
  | [] => []
  | v :: rest => v.ordered :: orderedItems rest

def orderedValues : List (String × Json) → List (String × Json)
  | [] => []
  | (k, v) :: rest => (k, v.ordered) :: orderedValues rest

end

mutual

/-- How deeply lists and objects are nested. -/
def depth : Json → Nat
  | .list items => depthItems items + 1
  | .object members => depthMembers members + 1
  | _ => 0

def depthItems : List Json → Nat
  | [] => 0
  | v :: rest => max v.depth (depthItems rest)

def depthMembers : List (String × Json) → Nat
  | [] => 0
  | (_, v) :: rest => max v.depth (depthMembers rest)

end

end Json

end CameraConsole
