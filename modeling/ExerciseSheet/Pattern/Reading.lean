import ExerciseSheet.Pattern.Search
import ExerciseSheet.Json.Reader

/-!
# Reading patterns

A pattern's text has branches between bars, and each branch is a sequence of parts with repetition
marks. A part is a character, a set in square brackets, an escape, an anchor, or a group in round
brackets, which may carry a name. Options may be switched on at the very start. Groups that look
behind, depend on another group, repeat one by its name, set options of their own or hold a comment
are left out.
-/

namespace ExerciseSheet.Pattern

/-- The options a pattern is read under. -/
structure Options where
  /-- Case does not count. -/
  fold : Bool
  /-- Line starts and ends count as such. -/
  lines : Bool
  /-- A dot takes a line feed too. -/
  dots : Bool
  deriving DecidableEq, Repr

/-- What is left to read, and the groups begun, named and closed so far. -/
structure Reading where
  rest : Text
  options : Options
  groups : Nat
  names : List (Text × Nat)
  closed : List Nat
  deriving Repr

namespace Reading

/-- The reading with another rest. -/
def withRest (r : Reading) (rest : Text) : Reading := { r with rest := rest }

/-- What is left after a character that has to come next. -/
def skip? (r : Reading) (c : Char) : Option Reading :=
  match r.rest with
  | d :: t => if c = d then some (r.withRest t) else none
  | [] => none

end Reading

/-- The number in the first `n` characters, all of them hexadecimal digits. -/
def hexOf? (n : Nat) (t : Text) : Option Nat :=
  if t.length < n then none
  else (t.take n).foldlM (fun v c => (Json.hexValue? c).map (16 * v + ·)) 0

/-- The character of a code point, and the text after its `n` hexadecimal digits. -/
def codeChar? (n : Nat) (t : Text) : Option (Char × Text) := do
  let code ← hexOf? n t
  if code < 0x110000 then return (Char.ofNat code, t.drop n) else none

/-- The control character that a letter escapes. -/
def controlLetter? : Char → Option Char
  | 'n' => some '\n'
  | 't' => some '\t'
  | 'r' => some '\r'
  | 'f' => some (Char.ofNat 12)
  | 'v' => some (Char.ofNat 11)
  | 'a' => some (Char.ofNat 7)
  | _ => none

/-- The set of characters that a letter escapes. -/
def kindLetter? : Char → Option ClassItem
  | 'd' => some (.kind .digit)
  | 'D' => some (.notKind .digit)
  | 'w' => some (.kind .word)
  | 'W' => some (.notKind .word)
  | 's' => some (.kind .blank)
  | 'S' => some (.notKind .blank)
  | _ => none

/-- Whether a character is an ASCII letter or digit, so that escaping it needs a meaning. -/
def isAsciiAlnum (c : Char) : Bool := c.isAlpha || c.isDigit

/-- Whether a character is an octal digit. -/
def isOctal (c : Char) : Bool := '0' ≤ c && c ≤ '7'

/-- The character of an octal code in one octet. -/
def octalChar? (ds : Text) : Option Char :=
  let code := ds.foldl (fun v d => 8 * v + (d.toNat - '0'.toNat)) 0
  if code < 0x100 then some (Char.ofNat code) else none

/-- The character of the octal digit `c` with up to two more behind it. -/
def octalEscape? (c : Char) (t : Text) : Option (Char × Text) :=
  let more := (t.take 2).takeWhile isOctal
  (octalChar? (c :: more)).map fun d => (d, t.drop more.length)

/-- The character that an escape stands for, `c` being the one after the backslash. -/
def escapedChar? (c : Char) (t : Text) : Option (Char × Text) :=
  match controlLetter? c with
  | some d => some (d, t)
  | none =>
    if c = 'x' then codeChar? 2 t
    else if c = 'u' then codeChar? 4 t
    else if c = 'U' then codeChar? 8 t
    else if c = '0' then octalEscape? c t
    else if isAsciiAlnum c then none
    else some (c, t)

/-- One end of a range in a set, or a whole kind of characters. -/
def classAtom? (t : Text) : Option (ClassItem × Text) :=
  match t with
  | '\\' :: c :: rest =>
    match kindLetter? c with
    | some k => some (k, rest)
    | none =>
      if c = 'b' then some (.one (Char.ofNat 8), rest)
      else if isOctal c then (octalEscape? c rest).map fun (d, rest) => (.one d, rest)
      else (escapedChar? c rest).map fun (d, rest) => (.one d, rest)
  | '\\' :: [] => none
  | c :: rest => some (.one c, rest)
  | [] => none

/-- The parts of a set up to its closing bracket, which does not close it as the `first` part. -/
def classItems? : (fuel : Nat) → (first : Bool) → Text → Option (List ClassItem × Text)
  | 0, _, _ => none
  | fuel + 1, first, t =>
    match t with
    | [] => none
    | c :: rest =>
      if c = ']' && !first then some ([], rest)
      else do
        let (low, after) ← classAtom? t
        match after with
        | '-' :: ']' :: tail => return ([low, .one '-'], tail)
        | '-' :: tail =>
          let (high, after) ← classAtom? tail
          match low, high with
          | .one a, .one b =>
            if b < a then none
            else
              let (items, tail) ← classItems? fuel false after
              return (.range a b :: items, tail)
          | _, _ => none
        | after =>
          let (items, tail) ← classItems? fuel false after
          return (low :: items, tail)

/-- The set after its opening bracket. -/
def class? (fold : Bool) (t : Text) : Option (Pattern × Text) :=
  let (negated, body) := match t with
    | '^' :: rest => (true, rest)
    | _ => (false, t)
  (classItems? (body.length + 1) true body).map fun (items, rest) =>
    (oneOf fold negated items, rest)

/-- The character of three octal digits, or what the group of a number of up to two digits read,
`c` being the first digit. -/
def numberEscape? (r : Reading) (c : Char) (t : Text) : Option (Pattern × Text) :=
  let more := (t.take 1).takeWhile Char.isDigit
  let digits := c :: more ++ (t.drop 1).take 1
  if digits.length = 3 && digits.all isOctal then
    (octalChar? digits).map fun d => (char r.options.fold d, t.drop 2)
  else
    let number := ofDigits ((c :: more).map fun d => d.toNat - '0'.toNat)
    if r.closed.contains number then some (same r.options.fold number, t.drop more.length)
    else none

/-- The escape after its backslash. -/
def escape? (r : Reading) (c : Char) (t : Text) : Option (Pattern × Text) :=
  match kindLetter? c with
  | some k => some (oneOf r.options.fold false [k], t)
  | none =>
    match c with
    | 'A' => some (anchor .textStart, t)
    | 'Z' => some (anchor .veryEnd, t)
    | 'b' => some (anchor .wordEdge, t)
    | 'B' => some (anchor .notWordEdge, t)
    | _ =>
      if '1' ≤ c && c ≤ '9' then numberEscape? r c t
      else (escapedChar? c t).map fun (d, rest) => (char r.options.fold d, rest)

/-- The repetition at the start of a text: its least and most counts. -/
def counts? (t : Text) : Option ((Nat × Option Nat) × Text) :=
  match t with
  | '*' :: rest => some ((0, none), rest)
  | '+' :: rest => some ((1, none), rest)
  | '?' :: rest => some ((0, some 1), rest)
  | '\x7b' :: body =>
    let (low, rest) := Json.spanDigits body
    let number := fun (ds : Text) => ofDigits (ds.map fun d => d.toNat - '0'.toNat)
    let (high, rest, comma) := match rest with
      | ',' :: r =>
        let (ds, r) := Json.spanDigits r
        (ds, r, true)
      | r => (low, r, false)
    match rest with
    | '\x7d' :: tail =>
      if low.isEmpty && !comma then none
      else some ((number low, if high.isEmpty then none else some (number high)), tail)
    | _ => none
  | _ => none

/-- Whether a part may not be repeated. -/
def isAnchor : Pattern → Bool
  | anchor _ => true
  | _ => false

/-- The repetition marks after a part; two in a row, or one after an anchor, are refused. -/
def repeat? (p : Pattern) (t : Text) : Option (Pattern × Text) :=
  match counts? t with
  | none => some (p, t)
  | some ((least, most), rest) =>
    if isAnchor p || most.any (· < least) then none
    else
      let (q, rest) := match rest with
        | '?' :: r => (again least most false p, r)
        | '+' :: r => (only (again least most true p), r)
        | r => (again least most true p, r)
      if (counts? rest).isSome then none else some (q, rest)

/-- Whether a text may name a group. -/
def isGroupName (t : Text) : Bool :=
  match t with
  | c :: _ => t.all isWordChar && !isDecimalDigit c
  | [] => false

/-- The options that letters switch on, up to the closing bracket. -/
def optionLetters? (o : Options) : Text → Option (Options × Text)
  | 'i' :: t => optionLetters? { o with fold := true } t
  | 'm' :: t => optionLetters? { o with lines := true } t
  | 's' :: t => optionLetters? { o with dots := true } t
  | 'u' :: t => optionLetters? o t
  | ')' :: t => some (o, t)
  | _ => none

/-- The options switched on at the very start. -/
def leadingOptions : (fuel : Nat) → Options → Text → Options × Text
  | fuel + 1, o, '(' :: '?' :: c :: t =>
    match if c = ')' then none else optionLetters? o (c :: t) with
    | some (o, rest) => leadingOptions fuel o rest
    | none => (o, '(' :: '?' :: c :: t)
  | _, o, t => (o, t)

/-- What kind of group starts after an opening bracket. -/
inductive Opening where
  | plain
  | numbered (name : Option Text)
  | lookAhead (wanted : Bool)
  | once
  deriving DecidableEq, Repr

/-- The kind of group, and the text of its body on. -/
def opening? (t : Text) : Option (Opening × Text) :=
  match t with
  | '?' :: ':' :: r => some (.plain, r)
  | '?' :: '=' :: r => some (.lookAhead true, r)
  | '?' :: '!' :: r => some (.lookAhead false, r)
  | '?' :: '>' :: r => some (.once, r)
  | '?' :: 'P' :: '<' :: r =>
    let name := r.takeWhile (· != '>')
    match r.drop name.length with
    | _ :: rest => if isGroupName name then some (.numbered (some name), rest) else none
    | [] => none
  | '?' :: _ => none
  | r => some (.numbered none, r)

/-- The reading inside a group that takes the next number, unless its name is taken. -/
def Reading.enter? (r : Reading) (name : Option Text) : Option Reading :=
  let number := r.groups + 1
  match name with
  | none => some { r with groups := number }
  | some n =>
    if r.names.any (·.1 == n) then none
    else some { r with groups := number, names := r.names ++ [(n, number)] }

mutual

/-- Reads branches up to a closing bracket or the end. -/
def branches? : (fuel : Nat) → Reading → Option (Pattern × Reading)
  | 0, _ => none
  | fuel + 1, r => do
    let (p, r) ← sequence? fuel r
    match r.rest with
    | '|' :: t =>
      let (q, r) ← branches? fuel (r.withRest t)
      return (alt p q, r)
    | _ => return (p, r)

/-- Reads the parts of one branch. -/
def sequence? : (fuel : Nat) → Reading → Option (Pattern × Reading)
  | 0, _ => none
  | fuel + 1, r =>
    match r.rest with
    | [] => some (empty, r)
    | c :: _ =>
      if c = '|' || c = ')' then some (empty, r)
      else do
        let (p, r) ← part? fuel r
        let (p, t) ← repeat? p r.rest
        let (q, r) ← sequence? fuel (r.withRest t)
        return (seq p q, r)

/-- Reads one part. -/
def part? : (fuel : Nat) → Reading → Option (Pattern × Reading)
  | 0, _ => none
  | fuel + 1, r =>
    match r.rest with
    | [] => none
    | c :: t =>
      match c with
      | '(' => do
        let (kind, body) ← opening? t
        match kind with
        | .numbered name =>
          let inside ← (r.withRest body).enter? name
          let (p, r) ← branches? fuel inside
          let r ← r.skip? ')'
          return (group inside.groups p, { r with closed := inside.groups :: r.closed })
        | .plain =>
          let (p, r) ← branches? fuel (r.withRest body)
          return (p, ← r.skip? ')')
        | .lookAhead wanted =>
          let (p, r) ← branches? fuel (r.withRest body)
          return (ahead wanted p, ← r.skip? ')')
        | .once =>
          let (p, r) ← branches? fuel (r.withRest body)
          return (only p, ← r.skip? ')')
      | '[' => (class? r.options.fold t).map fun (p, rest) => (p, r.withRest rest)
      | '\\' =>
        match t with
        | d :: rest => (escape? r d rest).map fun (p, rest) => (p, r.withRest rest)
        | [] => none
      | '.' => some (any r.options.dots, r.withRest t)
      | '^' => some (anchor (if r.options.lines then .lineStart else .textStart), r.withRest t)
      | '$' => some (anchor (if r.options.lines then .lineEnd else .textEnd), r.withRest t)
      | _ =>
        if (counts? r.rest).isSome then none else some (char r.options.fold c, r.withRest t)

end

/-- The pattern of a text, and the numbers of its named groups. -/
def read? (options : Options) (t : Text) : Option (Pattern × List (Text × Nat)) := do
  let (options, body) := leadingOptions t.length options t
  let (p, r) ← branches? (3 * body.length + 3) ⟨body, options, 0, [], []⟩
  if r.rest.isEmpty then return (p, r.names) else none

end ExerciseSheet.Pattern
