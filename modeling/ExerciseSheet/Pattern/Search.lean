import ExerciseSheet.Pattern.Basic

/-!
# Searching a text for a pattern

A search tries the ways of a pattern one at a time and stops at the first that is good enough
(`search_eq_findSome?`), so a way that is not needed costs nothing. The matches in a text are taken
from left to right.
-/

namespace ExerciseSheet

/-- The first answer of `found` on the ways to match a body again and again; the arguments are those
of `waysAgain`. -/
def searchAgain (body : (Spot → Option Spot) → Spot → Option Spot) (least : Nat)
    (most : Option Nat) (eager : Bool) (found : Spot → Option Spot) :
    (fuel count : Nat) → (last : Option Nat) → Spot → Option Spot
  | 0, _, _, _ => none
  | fuel + 1, count, last, s =>
    if count < least then
      body (searchAgain body least most eager found fuel (count + 1) last) s
    else if most.all (count < ·) && last != some s.offset then
      let more := searchAgain body least most eager found fuel (count + 1) (some s.offset)
      if eager then body more s <|> found s else found s <|> body more s
    else found s

namespace Pattern

/-- The first answer of `found` on the spots that a pattern leads to. -/
def search : Pattern → (found : Spot → Option Spot) → Spot → Option Spot
  | empty, found, s => found s
  | oneOf fold negated items, found, s =>
    (s.readIf fun c => items.any (·.holds fold c) != negated).findSome? found
  | any lines, found, s => (s.readIf fun c => lines || c != '\n').findSome? found
  | seq first second, found, s => first.search (second.search found) s
  | alt first second, found, s => first.search found s <|> second.search found s
  | group number body, found, s => body.search (fun e => found (e.keep number s)) s
  | again least most eager body, found, s =>
    searchAgain body.search least most eager found (least + s.rest.length + 2) 0 none s
  | only body, found, s => (body.search some s).bind found
  | anchor a, found, s => if s.meets a then found s else none
  | ahead wanted body, found, s =>
    match body.search some s with
    | none => if wanted then none else found s
    | some e => if wanted then found { s with groups := e.groups } else none
  | same fold number, found, s =>
    match s.groups.lookup number with
    | some t => (s.readText fold t).findSome? found
    | none => none

private theorem findSome?_flatMap {found : Spot → Option Spot} {next : Spot → List Spot}
    (l : List Spot) :
    (l.flatMap next).findSome? found = l.findSome? fun s => (next s).findSome? found := by
  induction l with
  | nil => rfl
  | cons s l ih =>
    rw [List.flatMap_cons, List.findSome?_append, List.findSome?_cons, ih]
    cases (next s).findSome? found <;> rfl

private theorem findSome?_some (l : List Spot) : l.findSome? some = l.head? := by
  cases l <;> rfl

theorem searchAgain_eq {body : Pattern} {least : Nat} {most : Option Nat} {eager : Bool}
    (ih : ∀ found s, body.search found s = (body.ways s).findSome? found)
    (found : Spot → Option Spot) (fuel count : Nat) (last : Option Nat) (s : Spot) :
    searchAgain body.search least most eager found fuel count last s
      = (waysAgain body.ways least most eager fuel count last s).findSome? found := by
  induction fuel generalizing count last s with
  | zero => rfl
  | succ fuel ihf =>
    have step : ∀ count last, searchAgain body.search least most eager found fuel count last
        = fun s => (waysAgain body.ways least most eager fuel count last s).findSome? found :=
      fun count last => funext fun s => ihf count last s
    simp only [searchAgain, waysAgain, step, ih, ← findSome?_flatMap]
    split
    · rfl
    · split <;> cases eager <;> cases h : found s <;> simp [List.findSome?_append, h]

/-- A search gives the first answer on the ways of the pattern. -/
theorem search_eq_findSome? (p : Pattern) (found : Spot → Option Spot) (s : Spot) :
    p.search found s = (p.ways s).findSome? found := by
  induction p generalizing found s with
  | empty => simp [search, ways]
  | oneOf | any => rfl
  | seq first second ih₁ ih₂ =>
    rw [search, ways, ih₁, findSome?_flatMap]
    exact congrArg (List.findSome? · _) (funext (ih₂ found))
  | alt first second ih₁ ih₂ =>
    rw [search, ways, ih₁, ih₂, List.findSome?_append]
    cases (first.ways s).findSome? found <;> rfl
  | group number body ih => rw [search, ways, ih, List.findSome?_map]; rfl
  | again least most eager body ih => exact searchAgain_eq ih found _ 0 none s
  | only body ih =>
    rw [search, ways, ih, findSome?_some]
    cases body.ways s <;> simp
  | anchor a => by_cases h : s.meets a <;> simp [search, ways, h]
  | ahead wanted body ih =>
    rw [search, ways, ih, findSome?_some]
    cases body.ways s <;> cases wanted <;> simp
  | same fold number => cases h : s.groups.lookup number <;> simp [search, ways, h]

end Pattern

/-- A match: where it starts and ends, and what its groups read. -/
structure Match where
  start : Nat
  stop : Nat
  groups : List (Nat × Text)
  deriving DecidableEq, Repr

namespace Pattern

/-- The first way from a spot, one that reads something when `advance`. -/
def firstWay? (p : Pattern) (advance : Bool) (s : Spot) : Option Spot :=
  p.search (fun e => if advance && e.offset == s.offset then none else some e) s

/-- The matches from a spot on, at most `fuel` steps of the search being taken. -/
def matchesFrom (p : Pattern) : (fuel : Nat) → (advance : Bool) → Spot → List Match
  | 0, _, _ => []
  | fuel + 1, advance, s =>
    match p.firstWay? advance s with
    | some e =>
      ⟨s.offset, e.offset, e.groups⟩
        :: matchesFrom p fuel (e.offset == s.offset) { e with groups := [] }
    | none =>
      match s.rest with
      | [] => []
      | c :: rest => matchesFrom p fuel false (s.after c rest)

/-- The matches in a text, from left to right and not overlapping. -/
def allMatches (p : Pattern) (t : Text) : List Match :=
  p.matchesFrom (2 * t.length + 2) false (.start t)

end Pattern

end ExerciseSheet
