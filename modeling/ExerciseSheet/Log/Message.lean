import ExerciseSheet.Fault
import ExerciseSheet.Json.Value
import ExerciseSheet.Number.Placed

/-!
# Messages with arguments

A message may have places for its arguments. A place starts at a percent sign and says how its
argument is shown: flags, a width, a precision and a letter for the kind. Two percent signs are one.
The arguments fill the places in order; a single argument with fields may be asked for them by key.
-/

namespace ExerciseSheet

/-- How a place shows its argument. -/
structure Place where
  leftAligned : Bool
  plusSign : Bool
  blankSign : Bool
  alternative : Bool
  zeroFilled : Bool
  width : Nat
  precision : Option Nat
  deriving DecidableEq, Repr

/-- The arguments that are left: in order, or the one whose fields are asked for. -/
structure Arguments where
  queue : List Json
  fields : Option (List (Text × Json))

/-- A text for a place: a sign and a mark of the base in front, and whether it is a number. -/
structure Shown where
  sign : Text
  base : Text
  body : Text
  isNumber : Bool

namespace Place

/-- A place with the flags in a text. -/
def ofFlags (flags : Text) : Place :=
  ⟨flags.contains '-', flags.contains '+', flags.contains ' ', flags.contains '#',
    flags.contains '0', 0, none⟩

/-- The sign in front of a number. -/
def signOf (p : Place) (negative : Bool) : Text :=
  if negative then ['-'] else if p.plusSign then ['+'] else if p.blankSign then [' '] else []

/-- Brings what is shown to the place's width. -/
def fit (p : Place) (s : Shown) : Text :=
  let missing := p.width - (s.sign.length + s.base.length + s.body.length)
  if p.leftAligned then s.sign ++ s.base ++ s.body ++ List.replicate missing ' '
  else if s.isNumber && p.zeroFilled then
    s.sign ++ s.base ++ List.replicate missing '0' ++ s.body
  else List.replicate missing ' ' ++ s.sign ++ s.base ++ s.body

/-- A text, cut to the place's precision. -/
def showText (p : Place) (t : Text) : Shown :=
  ⟨[], [], match p.precision with
    | some n => t.take n
    | none => t, false⟩

/-- The whole number of an argument, its fraction dropped when `fromReal` allows one. -/
def wholeOf (fromReal : Bool) : Json → Except FillFault Int
  | .whole n => .ok n
  | .bool b => .ok (if b then 1 else 0)
  | .real x =>
    if !fromReal then .error .wrongKind
    else if x.isNaN then .error .notANumber
    else if x.isInf then .error .outOfRange
    else .ok (Binary.ofFloat x).whole
  | _ => .error .wrongKind

/-- A whole number in a base, the digits above nine as letters. -/
def showWhole (p : Place) (base : Nat) (mark : Text) (n : Int) : Shown :=
  ⟨p.signOf (n < 0), if p.alternative then mark else [],
    Text.padLeft '0' (p.precision.getD 0) (Nat.toDigits base n.natAbs), true⟩

/-- The number of an argument. -/
def realOf : Json → Except FillFault Float
  | .real x => .ok x
  | .bool b => .ok (if b then 1.0 else 0.0)
  | .whole n =>
    let x := floatOfWhole n
    if x.isInf then .error .outOfRange else .ok x
  | _ => .error .wrongKind

/-- A number whose magnitude is written by `write`. -/
def showReal (p : Place) (write : Binary → Bool → Nat → Text) (x : Float) : Shown :=
  if x.isNaN then ⟨p.signOf false, [], "nan".toList, true⟩
  else if x.isInf then ⟨p.signOf (x < 0), [], "inf".toList, true⟩
  else
    let b := Binary.ofFloat x
    ⟨p.signOf b.negative, [], write b p.alternative (p.precision.getD 6), true⟩

/-- A character, given as itself or by its number. -/
def showChar : Json → Except FillFault Shown
  | .text [c] => .ok ⟨[], [], [c], false⟩
  | .whole n =>
    if 0 ≤ n && n < 0x110000 then .ok ⟨[], [], [Char.ofNat n.toNat], false⟩
    else .error .outOfRange
  | .bool b => .ok ⟨[], [], [Char.ofNat (if b then 1 else 0)], false⟩
  | _ => .error .wrongKind

/-- A text in ASCII, every other character by its code point. -/
def asciiText (t : Text) : Text :=
  t.flatMap fun c =>
    if c.toNat < 0x80 then [c]
    else if c.toNat < 0x100 then '\\' :: 'x' :: hexText 2 c.toNat
    else if c.toNat < 0x10000 then '\\' :: 'u' :: hexText 4 c.toNat
    else '\\' :: 'U' :: hexText 8 c.toNat

/-- The letters of what is shown as capitals. -/
def capitals (s : Shown) : Shown :=
  { s with base := s.base.map Char.toUpper, body := s.body.map Char.toUpper }

/-- An argument in a place of the given kind, which stands at `offset` in the message. -/
def show? (p : Place) (kind : Char) (offset : Nat) (v : Json) : Except FillFault Shown :=
  match kind with
  | 's' => .ok (p.showText v.shown)
  | 'r' => .ok (p.showText v.inner)
  | 'a' => .ok (p.showText (asciiText v.inner))
  | 'd' | 'i' | 'u' => (wholeOf true v).map (p.showWhole 10 [])
  | 'o' => (wholeOf false v).map (p.showWhole 8 ['0', 'o'])
  | 'x' => (wholeOf false v).map (p.showWhole 16 ['0', 'x'])
  | 'X' => (wholeOf false v).map fun n => capitals (p.showWhole 16 ['0', 'x'] n)
  | 'e' => (realOf v).map (p.showReal Binary.scientific)
  | 'E' => (realOf v).map fun x => capitals (p.showReal Binary.scientific x)
  | 'f' => (realOf v).map (p.showReal Binary.positional)
  | 'F' => (realOf v).map fun x => capitals (p.showReal Binary.positional x)
  | 'g' => (realOf v).map (p.showReal Binary.general)
  | 'G' => (realOf v).map fun x => capitals (p.showReal Binary.general x)
  | 'c' => showChar v
  | _ => .error (.unknownKind kind offset)

end Place

namespace Arguments

/-- The arguments of a message. -/
def ofList (args : List Json) : Arguments :=
  match args with
  | [.object (f :: fs)] => ⟨args, some (f :: fs)⟩
  | _ => ⟨args, none⟩

/-- The next argument. -/
def next (a : Arguments) : Except FillFault (Json × Arguments) :=
  match a.queue with
  | v :: queue => .ok (v, { a with queue })
  | [] => .error .tooFew

/-- The arguments with the field under a key as the next one. -/
def choose (a : Arguments) (key : Text) : Except FillFault Arguments :=
  match a.fields with
  | none => .error .noFields
  | some fields =>
    match fields.lookup key with
    | some v => .ok { a with queue := [v] }
    | none => .error .missingField

end Arguments

namespace Message

/-- The text up to the parenthesis that closes the one before it, and the text after that. -/
def closing? : (depth : Nat) → Text → Option (Text × Text)
  | _, [] => none
  | depth, c :: t =>
    if c = ')' then
      match depth with
      | 0 => some ([], t)
      | depth + 1 => (closing? depth t).map fun (key, rest) => (c :: key, rest)
    else (closing? (if c = '(' then depth + 1 else depth) t).map fun (key, rest) => (c :: key, rest)

/-- Takes the key of a place, if it has one. -/
def takeKey (a : Arguments) : Text → Except FillFault (Arguments × Text)
  | '(' :: t =>
    if a.fields.isNone then .error .noFields
    else match closing? 0 t with
      | some (key, rest) => do return (← a.choose key, rest)
      | none => .error .incompleteKey
  | t => .ok (a, t)

/-- Takes a count below `limit`: digits, or a star for one that is an argument. -/
def takeCount (limit : Nat) (tooLarge : FillFault) (a : Arguments) :
    Text → Except FillFault (Option Int × Arguments × Text)
  | '*' :: t => do
    let (v, a) ← a.next
    match v with
    | .whole n => if limit ≤ n.natAbs then throw .outOfRange else return (some n, a, t)
    | .bool b => return (some (if b then 1 else 0), a, t)
    | _ => throw .wrongKind
  | t =>
    let (ds, rest) := leadingDigits t
    if limit ≤ ofDigits ds then .error tooLarge
    else .ok (if ds.isEmpty then none else some (ofDigits ds), a, rest)

/-- Takes a precision behind a point. -/
def takePrecision (a : Arguments) : Text → Except FillFault (Option Nat × Arguments × Text)
  | '.' :: t => do
    let (count, a, rest) ← takeCount (Nat.pow 2 31) .precisionTooLarge a t
    return (some (count.getD 0).toNat, a, rest)
  | t => .ok (none, a, t)

/-- The text after a letter that only says how long the argument is. -/
def dropLength : Text → Text
  | c :: t => if c = 'h' || c = 'l' || c = 'L' then t else c :: t
  | [] => []

/-- Whether a character is a flag of a place. -/
def isFlag (c : Char) : Bool := "-+ #0".toList.contains c

/-- Fills the place at the start of a text, given after its percent sign, in a message of `size`
characters. -/
def fillPlace (size : Nat) (a : Arguments) (t : Text) :
    Except FillFault (Text × Arguments × Text) := do
  let (a, t) ← takeKey a t
  let p := Place.ofFlags (t.takeWhile isFlag)
  let (width, a, t) ← takeCount (Nat.pow 2 63) .widthTooLarge a (t.dropWhile isFlag)
  let width := width.getD 0
  let (precision, a, t) ← takePrecision a t
  let p := { p with
    leftAligned := p.leftAligned || width < 0, width := width.natAbs, precision := precision }
  match dropLength t with
  | [] => throw .incomplete
  | kind :: t =>
    let (v, a) ← a.next
    return (p.fit (← p.show? kind (size - t.length - 1) v), a, t)

/-- Fills the places of a text, at most `fuel` characters and places of it. -/
def fillFrom (size : Nat) : (fuel : Nat) → Arguments → Text → Except FillFault Text
  | 0, _, t => .ok t
  | _, a, [] => if a.fields.isNone && !a.queue.isEmpty then .error .tooMany else .ok []
  | fuel + 1, a, '%' :: '%' :: t => do return '%' :: (← fillFrom size fuel a t)
  | fuel + 1, a, '%' :: t => do
    let (filled, a, rest) ← fillPlace size a t
    return filled ++ (← fillFrom size fuel a rest)
  | fuel + 1, a, c :: t => do return c :: (← fillFrom size fuel a t)

/-- A message with its arguments in its places; without arguments it stands as it is. -/
def fill (t : Text) (args : List Json) : Except Fault Text :=
  if args.isEmpty then .ok t
  else match fillFrom t.length (t.length + 1) (.ofList args) t with
    | .ok filled => .ok filled
    | .error cause => .error (.unfilled cause)

end Message

end ExerciseSheet
