import ScriptHost.Text.Alphanumeric
import ScriptHost.Text.CharClass

/-!
# Patterns of field values

A filter may ask that a field have a value that matches a pattern: a regular expression with groups,
alternatives, repetitions, classes, escapes and flags. Nothing in this program is matched, so all
that counts of a pattern is whether it is one.

A pattern can be read by characters or, under a flag, by bytes. Which characters are letters, digits
or white space, and which are the same but for their case, is known of bytes alone; what is matched
by bytes must be ASCII, or the pattern could match half a character. Patterns nest up to a limit.

* `Log.Pattern.Mode` — the flags that matter here.
* `Log.Pattern.rowHeight`, `Log.Pattern.maxHeight` — how deep a pattern is nested.
* `Log.Pattern.escape?`, `Log.Pattern.bracketed?`, `Log.Pattern.paren?` — escapes, classes, groups.
* `Log.Pattern.isWellFormed` — whether a text is a pattern.
* `Log.Pattern.isValue` — whether a text says what the value of a field must be.
-/

namespace ScriptHost.Log.Pattern

/-! ## Flags -/

/-- How a stretch of a pattern is read. -/
structure Mode where
  /-- Letters match in either case. -/
  caseless : Bool := false
  /-- The pattern speaks of characters, and not of bytes. -/
  ofCharacters : Bool := true
  /-- White space and comments do not count. -/
  spaced : Bool := false
  deriving Repr, DecidableEq

/-- What is left after white space and comments. A comment starts at a number sign and ends with the
line; the first argument says whether one has started. -/
def dropSpace : Bool → List Char → List Char
  | _, [] => []
  | true, c :: cs => dropSpace (c != '\n') cs
  | false, c :: cs =>
    if Text.whiteSpace.contains c then dropSpace false cs
    else if c == '#' then dropSpace true cs
    else c :: cs

namespace Mode

/-- What is left after what does not count. -/
def skip (m : Mode) (cs : List Char) : List Char :=
  if m.spaced then dropSpace false cs else cs

/-- Whether the case of what is matched is known. -/
def knowsCase (m : Mode) : Bool := !(m.caseless && m.ofCharacters)

/-- The character that decides whether the hyphen before `cs` makes a range. White space does not
count here either; of a comment, only its sign and the white space after that do not. -/
def peek? (m : Mode) (cs : List Char) : Option Char :=
  if m.spaced then
    match cs.dropWhile Text.whiteSpace.contains with
    | '#' :: cs => (cs.dropWhile Text.whiteSpace.contains).head?
    | cs => cs.head?
  else cs.head?

/-- Sets or clears a flag. Some flags do not matter here; what is no flag gives nothing. -/
def set? (m : Mode) (flag : Char) (value : Bool) : Option Mode :=
  match flag with
  | 'i' => some { m with caseless := value }
  | 'u' => some { m with ofCharacters := value }
  | 'x' => some { m with spaced := value }
  | 'm' | 's' | 'U' | 'R' => some m
  | _ => none

end Mode

/-! ## Nesting -/

/-- How many levels a row makes whose parts make that many: a row of more than one part is a level
itself. -/
def rowHeight : List Nat → Nat
  | [] => 0
  | [h] => h
  | hs => hs.foldl max 0 + 1

/-- How many levels a pattern may have. -/
def maxHeight : Nat := 250

/-! ## Characters and escapes -/

/-- What matches a single character, or a place between two. -/
inductive Atom where
  | literal (c : Char)
  | set
  | place
  deriving Repr, DecidableEq

/-- The value of exactly `n` hexadecimal digits, after `value`. -/
def hexDigits? (m : Mode) : Nat → Nat → List Char → Option (Nat × List Char)
  | 0, value, cs => some (value, cs)
  | _ + 1, _, [] => none
  | n + 1, value, c :: cs => do
    let digit ← Text.hexValue? c
    hexDigits? m n (value * 16 + digit) (m.skip cs)

/-- A character by its code point, in `n` digits. Two digits give a byte where bytes are matched. -/
def codePoint? (m : Mode) (n : Nat) (cs : List Char) : Option (Atom × List Char) := do
  let (value, cs) ← hexDigits? m n 0 (m.skip cs)
  if value.isValidChar && (m.ofCharacters || n != 2 || value < 0x80) then
    return (.literal (Char.ofNat value), cs)
  else none

/-- The control characters that have a letter. -/
def controls : List (Char × Char) :=
  [('a', '\x07'), ('f', '\x0c'), ('n', '\n'), ('r', '\r'), ('t', '\t'), ('v', '\x0b')]

/-- What a character stands for after a backslash. Every ASCII character that is neither a letter
nor a digit nor an angle bracket stands for itself. -/
def escaped? (m : Mode) (c : Char) : Option Atom :=
  match controls.lookup c with
  | some control => some (.literal control)
  | none =>
    if c == 'A' || c == 'z' then some .place
    else if c == 'b' || c == 'B' || c == '<' || c == '>' then
      if m.ofCharacters then none else some .place
    else if c == 'd' || c == 's' || c == 'w' then if m.ofCharacters then none else some .set
    else if c.toNat < 0x80 && !c.isAlphanum then some (.literal c)
    else none

/-- An escape, after the backslash. -/
def escape? (m : Mode) : List Char → Option (Atom × List Char)
  | [] => none
  | 'x' :: cs => codePoint? m 2 cs
  | 'u' :: cs => codePoint? m 4 cs
  | 'U' :: cs => codePoint? m 8 cs
  | c :: cs => (escaped? m c).map (·, cs)

/-- A character or an escape. -/
def atom? (m : Mode) : List Char → Option (Atom × List Char)
  | [] => none
  | '\\' :: cs => escape? m cs
  | c :: cs => some (.literal c, cs)

/-! ## Classes -/

/-- Whether an atom may be a member of a class. -/
def Atom.isMember (m : Mode) : Atom → Bool
  | .literal c => m.ofCharacters || c.toNat < 0x80
  | .set => true
  | .place => false

/-- Whether two atoms are the ends of a range. -/
def Atom.spans : Atom → Atom → Bool
  | .literal low, .literal high => low ≤ high
  | _, _ => false

/-- What is left after a member of a class or a range of members. A hyphen before a bracket or
before another hyphen makes no range. -/
def range? (m : Mode) (cs : List Char) : Option (List Char) := do
  let (low, cs) ← atom? m cs
  if !(m.knowsCase && low.isMember m) then failure
  match m.skip cs with
  | '-' :: more =>
    if m.peek? more == some ']' || m.peek? more == some '-' then return '-' :: more
    let (high, rest) ← atom? m (m.skip more)
    if high.isMember m && low.spans high then return rest else failure
  | rest => return rest

/-- The classes that have a name. -/
def classNames : List String :=
  ["alnum", "alpha", "ascii", "blank", "cntrl", "digit", "graph", "lower", "print", "punct",
    "space", "upper", "word", "xdigit"]

/-- A class by its name between colons, after the bracket: whether it is negated, and what is left
after its end. -/
def namedClass? : List Char → Option (Bool × List Char)
  | ':' :: cs =>
    let (negated, cs) := match cs with
      | '^' :: cs => (true, cs)
      | cs => (false, cs)
    let name := cs.takeWhile (· != ':')
    match cs.drop name.length with
    | ':' :: ']' :: rest =>
      if classNames.contains (String.ofList name) then some (negated, rest) else none
    | _ => none
  | _ => none

/-- The hyphens that open a class are members of it: their heights, and what is left after at most
`n`. -/
def hyphens (m : Mode) : Nat → List Char → List Nat × List Char
  | n + 1, '-' :: cs =>
    let (row, cs) := hyphens m n (m.skip cs)
    (0 :: row, cs)
  | _, cs => ([], cs)

/-- The start of a class, after the bracket: the heights of its first members, and what is left. A
closing bracket at the start is a member. A class of bytes is not negated. -/
def classStart? (m : Mode) (cs : List Char) : Option (List Nat × List Char) :=
  let (negated, cs) := match m.skip cs with
    | '^' :: cs => (true, m.skip cs)
    | cs => (false, cs)
  let (row, cs) := match hyphens m cs.length cs with
    | ([], ']' :: cs) => ([0], m.skip cs)
    | found => found
  if negated && !m.ofCharacters || !row.isEmpty && !m.knowsCase then none else some (row, cs)

/-- How many levels the members of a class make, where `joined` is how many those before the last
operator do and `row` are those after it. -/
def setHeight (joined : Option Nat) (row : List Nat) : Nat :=
  joined.elim (rowHeight row) fun h => max h (rowHeight row) + 1

/-- The members of a class up to its closing bracket: how many levels they make, and what is left.
With every call at least one character is read. -/
def members? (m : Mode) : Nat → (joined : Option Nat) → (row : List Nat) → List Char →
    Option (Nat × List Char)
  | 0, _, _, _ => none
  | fuel + 1, joined, row, cs =>
    match m.skip cs with
    | [] => none
    | ']' :: rest => some (setHeight joined row, rest)
    | '&' :: '&' :: rest | '-' :: '-' :: rest | '~' :: '~' :: rest =>
      members? m fuel (some (setHeight joined row)) [] rest
    | '[' :: rest =>
      match namedClass? rest with
      | some (negated, rest) =>
        if m.knowsCase && (m.ofCharacters || !negated) then members? m fuel joined (0 :: row) rest
        else none
      | none => do
        let (inner, rest) ← classStart? m rest
        let (height, rest) ← members? m fuel none inner rest
        members? m fuel joined ((height + 1) :: row) rest
    | rest => do members? m fuel joined (0 :: row) (← range? m rest)

/-- A class, read from behind its bracket: how many levels it makes, and what is left. -/
def bracketed? (m : Mode) (cs : List Char) : Option (Nat × List Char) := do
  let (row, rest) ← classStart? m cs
  let (height, rest) ← members? m (cs.length + 1) none row rest
  return (height + 1, rest)

/-! ## Groups -/

/-- What a parenthesis opens. -/
inductive Paren where
  | group (mode : Mode) (name : Option (List Char))
  | flags (mode : Mode)
  deriving Repr, DecidableEq

/-- Whether a text names a group. -/
def isName : List Char → Bool
  | [] => false
  | c :: cs =>
    (c == '_' || Text.isAlphabetic c)
      && cs.all fun c => "_.[]".toList.contains c || Text.alphanumeric.contains c

/-- Flags up to a colon or a closing parenthesis. No flag is given twice; those after a hyphen are
cleared, and a hyphen is followed by one. -/
def flags? (m : Mode) (seen : List Char) : List Char → Option (Paren × List Char)
  | [] => none
  | ':' :: rest => if seen.head? == some '-' then none else some (.group m none, rest)
  | ')' :: rest =>
    if seen.isEmpty || seen.head? == some '-' then none else some (.flags m, rest)
  | c :: rest => do
    if seen.contains c then none
    else if c == '-' then flags? m ('-' :: seen) rest
    else flags? (← m.set? c (!seen.contains '-')) (c :: seen) rest

/-- The name of a group up to its closing angle bracket. -/
def named? (m : Mode) (cs : List Char) : Option (Paren × List Char) :=
  let name := cs.takeWhile (· != '>')
  match cs.drop name.length with
  | _ :: rest => if isName name then some (.group m name, rest) else none
  | [] => none

/-- What a parenthesis opens, and what is left after that. -/
def paren? (m : Mode) (cs : List Char) : Option (Paren × List Char) :=
  match m.skip cs with
  | '?' :: 'P' :: '<' :: rest | '?' :: '<' :: rest => named? m rest
  | '?' :: rest => flags? m [] rest
  | rest => some (.group m none, rest)

/-! ## Patterns -/

/-- A group that is open, or all of the pattern, as far as it has been read. -/
structure Branches where
  mode : Mode := {}
  /-- The heights of the alternatives before the last one. -/
  closed : List Nat := []
  /-- The heights of the parts of the last alternative, the latest first. -/
  parts : List Nat := []
  /-- Whether the latest part could be repeated: there is one, and it is more than flags. -/
  repeatable : Bool := false

namespace Branches

/-- How many levels the alternatives make. -/
def height (b : Branches) : Nat := rowHeight (rowHeight b.parts :: b.closed)

/-- One more part that could be repeated. -/
def add (b : Branches) (height : Nat) : Branches :=
  { b with parts := height :: b.parts, repeatable := true }

/-- Other flags from here on. They are a part of the row too. -/
def setMode (b : Branches) (mode : Mode) : Branches :=
  { b with mode, parts := 0 :: b.parts, repeatable := false }

/-- The start of the next alternative. -/
def next (b : Branches) : Branches :=
  { b with closed := rowHeight b.parts :: b.closed, parts := [], repeatable := false }

/-- The latest part repeated, if it could be. -/
def repeat? (b : Branches) : Option Branches :=
  match b.repeatable, b.parts with
  | true, h :: hs => some { b with parts := (h + 1) :: hs }
  | _, _ => none

end Branches

/-- Whether the rest of a pattern can be read, in the innermost group that is open and those around
it, with the names of groups so far. With every call at least one character is read. A repetition
that is counted between braces cannot be, as the field ends at the first closing brace. -/
def reads : Nat → Branches → List Branches → List (List Char) → List Char → Bool
  | 0, _, _, _, _ => false
  | fuel + 1, b, outer, names, cs =>
    match b.mode.skip cs with
    | [] => outer.isEmpty && b.height ≤ maxHeight
    | '(' :: rest =>
      match paren? b.mode rest with
      | some (.group mode name, rest) =>
        name.all (!names.contains ·) && reads fuel { mode } (b :: outer) (name.toList ++ names) rest
      | some (.flags mode, rest) => reads fuel (b.setMode mode) outer names rest
      | none => false
    | ')' :: rest =>
      match outer with
      | around :: outer => reads fuel (around.add (b.height + 1)) outer names rest
      | [] => false
    | '|' :: rest => reads fuel b.next outer names rest
    | '?' :: rest | '*' :: rest | '+' :: rest =>
      match b.repeat? with
      | some b => reads fuel b outer names (if rest.head? == some '?' then rest.tail else rest)
      | none => false
    | '\x7b' :: _ => false
    | '[' :: rest =>
      match bracketed? b.mode rest with
      | some (height, rest) => reads fuel (b.add height) outer names rest
      | none => false
    | '.' :: rest => b.mode.ofCharacters && reads fuel (b.add 0) outer names rest
    | '^' :: rest | '$' :: rest => reads fuel (b.add 0) outer names rest
    | rest =>
      match atom? b.mode rest with
      | some (.literal _, rest) => b.mode.knowsCase && reads fuel (b.add 0) outer names rest
      | some (_, rest) => reads fuel (b.add 0) outer names rest
      | none => false

/-- Whether a text is a pattern. -/
def isWellFormed (cs : List Char) : Bool := reads (cs.length + 1) {} [] [] cs

/-! ## Numbers -/

/-- Whether a text is a number without a sign, in decimal notation. -/
def isNumber (cs : List Char) : Bool :=
  let whole := cs.takeWhile Char.isDigit
  let rest := cs.dropWhile Char.isDigit
  let (fraction, rest) := match rest with
    | '.' :: rest => (rest.takeWhile Char.isDigit, rest.dropWhile Char.isDigit)
    | rest => ([], rest)
  let exponent := match rest with
    | 'e' :: '+' :: ds | 'E' :: '+' :: ds | 'e' :: '-' :: ds | 'E' :: '-' :: ds
    | 'e' :: ds | 'E' :: ds => some ds
    | _ => none
  !(whole.isEmpty && fraction.isEmpty)
    && exponent.elim rest.isEmpty fun ds => !ds.isEmpty && ds.all Char.isDigit

/-- Whether a text says what the value of a field must be. A number stands for itself: of those that
is a pattern too, unless it begins with a plus sign. -/
def isValue : List Char → Bool
  | '+' :: cs =>
    isNumber cs || ["inf", "infinity", "nan"].contains (String.ofList (cs.map Char.toLower))
  | cs => isWellFormed cs

end ScriptHost.Log.Pattern
