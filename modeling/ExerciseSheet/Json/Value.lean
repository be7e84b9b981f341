import ExerciseSheet.Number.Decimal
import ExerciseSheet.Text.Quoted

/-!
# JSON values

A value keeps whole numbers apart from those with a point, and an object keeps its fields in the
order in which their keys first came. Its texts are made of characters, or of other signs where a
file may have more than characters in them. A value has a truth, by which empty and zero ones count
as absent, and a shown form for messages: a text stands as itself, and inside other values in
quotes.
-/

namespace ExerciseSheet

/-- A JSON value whose texts are lists of `σ`. -/
inductive Json (σ : Type := Char) where
  | null
  | bool (b : Bool)
  | whole (n : Int)
  | real (x : Float)
  | text (t : List σ)
  | list (items : List (Json σ))
  | object (fields : List (List σ × Json σ))

namespace Json

variable {σ τ κ α : Type}

instance : Inhabited (Json σ) := ⟨null⟩

/-- The fields with `key` given `value`: in its old place when the key is there, else at the end. -/
def putField [DecidableEq κ] (key : κ) (value : α) : List (κ × α) → List (κ × α)
  | [] => [(key, value)]
  | field :: fields =>
    if field.1 = key then (key, value) :: fields else field :: putField key value fields

/-- The fields that a sequence of pairs leaves, the last value of each key in its first place. -/
def fieldsOf [DecidableEq κ] (pairs : List (κ × α)) : List (κ × α) :=
  pairs.foldl (fun fields pair => putField pair.1 pair.2 fields) []

mutual

/-- The value with every sign of its texts and keys replaced. -/
def map (f : σ → τ) : Json σ → Json τ
  | null => null
  | bool b => bool b
  | whole n => whole n
  | real x => real x
  | text t => text (t.map f)
  | list items => list (mapItems f items)
  | object fields => object (mapFields f fields)

/-- The items of a list with every sign replaced. -/
def mapItems (f : σ → τ) : List (Json σ) → List (Json τ)
  | [] => []
  | v :: vs => map f v :: mapItems f vs

/-- The fields of an object with every sign replaced. -/
def mapFields (f : σ → τ) : List (List σ × Json σ) → List (List τ × Json τ)
  | [] => []
  | (k, v) :: fields => (k.map f, map f v) :: mapFields f fields

end

mutual

/-- Whether every sign of a value's texts and keys passes a test. -/
def all (p : σ → Bool) : Json σ → Bool
  | text t => t.all p
  | list items => allItems p items
  | object fields => allFields p fields
  | _ => true

/-- Whether every sign in the items of a list passes a test. -/
def allItems (p : σ → Bool) : List (Json σ) → Bool
  | [] => true
  | v :: vs => all p v && allItems p vs

/-- Whether every sign in the fields of an object passes a test. -/
def allFields (p : σ → Bool) : List (List σ × Json σ) → Bool
  | [] => true
  | (k, v) :: fields => k.all p && all p v && allFields p fields

end

/-- The value under a key of an object. -/
def get? (key : Text) : Json → Option Json
  | object fields => fields.lookup key
  | _ => none

/-- Whether a value counts as present. -/
def truth : Json → Bool
  | null => false
  | bool b => b
  | whole n => n != 0
  | real x => x != 0.0
  | text t => !t.isEmpty
  | list items => !items.isEmpty
  | object fields => !fields.isEmpty

mutual

/-- A value as it appears inside another one. -/
def inner : Json → Text
  | null => "None".toList
  | bool b => (if b then "True" else "False").toList
  | whole n => wholeText n
  | real x => realText x
  | text t => Text.quoted t
  | list items => '[' :: innerItems items ++ [']']
  | object fields => '\x7b' :: innerFields fields ++ ['\x7d']

/-- The items of a list with commas between. -/
def innerItems : List Json → Text
  | [] => []
  | [v] => inner v
  | v :: w :: vs => inner v ++ ", ".toList ++ innerItems (w :: vs)

/-- The fields of an object with commas between. -/
def innerFields : List (Text × Json) → Text
  | [] => []
  | [(k, v)] => Text.quoted k ++ ": ".toList ++ inner v
  | (k, v) :: f :: fs =>
    Text.quoted k ++ ": ".toList ++ inner v ++ ", ".toList ++ innerFields (f :: fs)

end

/-- A value as a message shows it. -/
def shown : Json → Text
  | text t => t
  | v => inner v

end Json

end ExerciseSheet
