import Waterworks.Pattern.Tree

namespace Waterworks.Pattern

open Waterworks.Unicode

/-!
# Reading a pattern

The readers take what remains of the text and return what they have read with what then remains;
`none` stands for a text that is no pattern. The argument `verbose` says whether blanks and
comments between the parts of a pattern are dropped.

* `Escape.read` — what follows a backslash.
* `SetFrame.read` — what follows an opening bracket.
* `ReaderState.step` — one part of a pattern.
* `Tree.read?` — a whole pattern.
-/

/-! ### Blanks and braces -/

/-- Drops blanks and comments, each of which runs from a number sign to the end of its line. -/
def skipBlanks : (inComment : Bool) → List Char → List Char
  | _, [] => []
  | true, c :: rest => skipBlanks (c != '\n') rest
  | false, c :: rest =>
    if isBlank c then skipBlanks false rest
    else if c == '#' then skipBlanks true rest
    else c :: rest

/-- Drops blanks and comments in a verbose pattern. -/
def blanks (verbose : Bool) (cs : List Char) : List Char :=
  if verbose then skipBlanks false cs else cs

/-- The characters before a closing brace, without blanks and comments in a verbose pattern. -/
def readBraced (verbose : Bool) :
    (inComment : Bool) → (read : List Char) → List Char → Option (List Char × List Char)
  | _, _, [] => none
  | true, read, c :: rest => readBraced verbose (c != '\n') read rest
  | false, read, c :: rest =>
    if verbose && isBlank c then readBraced verbose false read rest
    else if verbose && c == '#' then readBraced verbose true read rest
    else if c == '\x7D' then some (read.reverse, rest)
    else readBraced verbose false (c :: read) rest

/-! ### Escapes -/

/-- What a backslash and the characters after it stand for. -/
inductive Escape where
  | literal (l : Literal)
  | anchor (a : Anchor)
  | shorthand (negated : Bool) (k : Shorthand)
  | property (negated : Bool) (query : Query)

/-- The character with a code point, unless it is a surrogate or too large. -/
def charOfCode? (n : Nat) : Option Char :=
  if n < 0xD800 || (0xDFFF < n && n ≤ CodePoints.last) then some (Char.ofNat n) else none

/-- Reads a given number of hexadecimal digits. -/
def readHexDigits (verbose : Bool) : (count value : Nat) → List Char → Option (Nat × List Char)
  | 0, value, cs => some (value, cs)
  | count + 1, value, cs =>
    match blanks verbose cs with
    | [] => none
    | c :: rest => do
      let digit ← CodePoints.hexDigit? c
      readHexDigits verbose count (value * 16 + digit) rest

/-- The number that hexadecimal digits write; there is at least one digit. -/
def hexValue? (digits : List Char) : Option Nat := do
  if digits.isEmpty then none
  digits.foldlM (fun value c => (CodePoints.hexDigit? c).map (value * 16 + ·)) 0

/-- Reads the code point after `\x`, `\u` or `\U`, which has `count` digits or stands in braces. -/
def readCodePoint (verbose : Bool) (count : Nat) (cs : List Char) :
    Option (Literal × List Char) :=
  match blanks verbose cs with
  | '\x7B' :: rest => do
    let (digits, rest) ← readBraced verbose false [] rest
    let c ← (← hexValue? digits) |> charOfCode?
    return (⟨c, false⟩, rest)
  | rest => do
    let (value, rest) ← readHexDigits verbose count 0 rest
    let c ← charOfCode? value
    -- Two digits may stand for a byte, where Unicode is off.
    return (⟨c, count == 2⟩, rest)

/-- Splits a text at the first place where `mark` begins. -/
def splitAtMark (mark : List Char) : (before : List Char) → List Char →
    Option (List Char × List Char)
  | _, [] => none
  | before, c :: rest =>
    if mark.isPrefixOf (c :: rest) then some (before.reverse, (c :: rest).drop mark.length)
    else splitAtMark mark (c :: before) rest

/-- The query that a property in braces spells. -/
def queryOf (name : List Char) : Query :=
  -- The mark of a negated value comes first, for it contains the mark of a plain one.
  match splitAtMark ['!', '='] [] name <|> splitAtMark [':'] [] name <|>
      splitAtMark ['='] [] name with
  | some (property, value) => .valued (String.ofList property) (String.ofList value)
  | none => .named (String.ofList name)

/-- Reads the property after `\p` or `\P`. -/
def readProperty (verbose : Bool) (cs : List Char) : Option (Query × List Char) :=
  match blanks verbose cs with
  | [] => none
  | '\x7B' :: rest => do
    let (name, rest) ← readBraced verbose false [] rest
    return (queryOf name, rest)
  | '\\' :: _ => none
  | c :: rest => some (.named (String.ofList [c]), rest)

/-- The characters of which names of edges are made. -/
def isEdgeNameChar (c : Char) : Bool :=
  c.isAlpha || c == '-'

/-- The edge of a word with a name. -/
def edgeOfName? (name : List Char) : Option WordEdge :=
  match String.ofList name with
  | "start" => some .start
  | "end" => some .finish
  | "start-half" => some .startHalf
  | "end-half" => some .finishHalf
  | _ => none

/-- Reads what follows `\b`. A brace that does not begin a name begins a repetition. -/
def readEdge (verbose : Bool) : List Char → Option (WordEdge × List Char)
  | '\x7B' :: rest =>
    match blanks verbose rest with
    | [] => none
    | c :: _ =>
      -- Only the first character after the brace decides.
      if isEdgeNameChar c then do
        let (name, rest) ← readBraced verbose false [] rest
        return (← edgeOfName? name, rest)
      else some (.boundary, '\x7B' :: rest)
  | cs => some (.boundary, cs)

/-- The characters with a meaning of their own, which a backslash takes from them. -/
def isMeta (c : Char) : Bool :=
  "\\.+*?()|[]\x7B\x7D^$#&-~".toList.contains c

/-- Whether a character that a backslash precedes stands for itself. -/
def standsForItself (c : Char) : Bool :=
  isMeta c || (c.toNat < 128 && !c.isAlphanum && c != '<' && c != '>')

/-- The control characters that a letter stands for. -/
def controlOfLetter? : Char → Option Char
  | 'a' => some '\x07'
  | 'f' => some '\x0C'
  | 't' => some '\t'
  | 'n' => some '\n'
  | 'r' => some '\r'
  | 'v' => some '\x0B'
  | _ => none

namespace Escape

/-- Reads what follows a backslash. -/
def read (verbose : Bool) : List Char → Option (Escape × List Char)
  | [] => none
  | c :: rest =>
    match c with
    | 'x' => (readCodePoint verbose 2 rest).map fun (l, rest) => (literal l, rest)
    | 'u' => (readCodePoint verbose 4 rest).map fun (l, rest) => (literal l, rest)
    | 'U' => (readCodePoint verbose 8 rest).map fun (l, rest) => (literal l, rest)
    | 'p' => (readProperty verbose rest).map fun (q, rest) => (property false q, rest)
    | 'P' => (readProperty verbose rest).map fun (q, rest) => (property true q, rest)
    | 'd' => some (shorthand false .digit, rest)
    | 'D' => some (shorthand true .digit, rest)
    | 's' => some (shorthand false .blank, rest)
    | 'S' => some (shorthand true .blank, rest)
    | 'w' => some (shorthand false .word, rest)
    | 'W' => some (shorthand true .word, rest)
    | 'A' => some (anchor .textStart, rest)
    | 'z' => some (anchor .textEnd, rest)
    | 'b' => (readEdge verbose rest).map fun (e, rest) => (anchor (.edge e), rest)
    | 'B' => some (anchor (.edge .interior), rest)
    | '<' => some (anchor (.edge .start), rest)
    | '>' => some (anchor (.edge .finish), rest)
    | c =>
      if standsForItself c then some (literal ⟨c, false⟩, rest)
      else (controlOfLetter? c).map fun c => (literal ⟨c, false⟩, rest)

end Escape

/-! ### Sets in brackets -/

/-- A set that is being read: the items of its last union, latest first, and the operation that
awaits this union, with the operand before it. -/
structure SetFrame where
  negated : Bool
  items : List SetTree
  pending : Option (SetOp × SetTree)

namespace SetFrame

/-- The union of items that are given latest first. -/
def unionOf : List SetTree → SetTree
  | [] => .empty
  | last :: before => before.foldl (fun union item => .union item union) last

/-- What has been read between the brackets. -/
def body (f : SetFrame) : SetTree :=
  match f.pending with
  | none => unionOf f.items
  | some (o, left) => .op o left (unionOf f.items)

/-- Adds an item to the set that is being read. -/
def push (f : SetFrame) (item : SetTree) : SetFrame :=
  { f with items := item :: f.items }

/-- Makes all that has been read the left operand of an operation. -/
def await (f : SetFrame) (o : SetOp) : SetFrame :=
  { f with items := [], pending := some (o, f.body) }

end SetFrame

/-- A character that stands for itself. -/
def plain (c : Char) : Literal := ⟨c, false⟩

/-- Reads hyphens that stand for themselves at the beginning of a set. -/
def readHyphens (verbose : Bool) : (fuel : Nat) → List SetTree → List Char →
    List SetTree × List Char
  | fuel + 1, items, '-' :: rest =>
    readHyphens verbose fuel (.literal (plain '-') :: items) (blanks verbose rest)
  | _, items, cs => (items, cs)

/-- Reads what follows an opening bracket up to the first item that is not special there. -/
def SetFrame.open? (verbose : Bool) (cs : List Char) : Option (SetFrame × List Char) :=
  let (negated, cs) :=
    match blanks verbose cs with
    | '^' :: rest => (true, blanks verbose rest)
    | cs => (false, cs)
  let (items, cs) := readHyphens verbose cs.length [] cs
  match items, cs with
  | _, [] => none
  -- A closing bracket at the very beginning stands for itself.
  | [], ']' :: rest =>
    match blanks verbose rest with
    | [] => none
    | rest => some (⟨negated, [.literal (plain ']')], none⟩, rest)
  | items, cs => some (⟨negated, items, none⟩, cs)

/-- Reads a class such as `[:alpha:]` after its opening bracket. -/
def readPosix? : List Char → Option (SetTree × List Char)
  | ':' :: rest =>
    let (negated, rest) :=
      match rest with
      | '^' :: rest => (true, rest)
      | rest => (false, rest)
    match rest.span (· != ':') with
    | (name, ':' :: ']' :: rest) =>
      (PosixClass.ofName? (String.ofList name)).map fun k => (.posix negated k, rest)
    | _ => none
  | _ => none

/-- The character that decides whether a hyphen before `cs` makes a range. In a verbose pattern it
is the first that is not blank after at most one number sign, or else the first of all. -/
def afterHyphen? (verbose : Bool) (cs : List Char) : Option Char :=
  if verbose then
    match cs.dropWhile isBlank with
    | '#' :: rest => (rest.dropWhile isBlank).head? <|> cs.head?
    | rest => rest.head? <|> cs.head?
  else cs.head?

/-- Reads one item of a set that is no bracket. -/
def readSetItem (verbose : Bool) : List Char → Option (Escape × List Char)
  | [] => none
  | '\\' :: rest => Escape.read verbose rest
  | c :: rest => some (.literal (plain c), rest)

/-- The item of a set that an escape makes; an assertion makes none. -/
def Escape.asItem? : Escape → Option SetTree
  | literal l => some (.literal l)
  | shorthand negated k => some (.shorthand negated k)
  | property negated q => some (.property negated q)
  | anchor _ => none

/-- Reads an item of a set or a range of characters. -/
def readRange (verbose : Bool) (cs : List Char) : Option (SetTree × List Char) := do
  let (first, rest) ← readSetItem verbose cs
  match blanks verbose rest with
  | [] => none
  | '-' :: rest =>
    let after := afterHyphen? verbose rest
    -- A hyphen before the closing bracket or before another hyphen makes no range.
    if after == some ']' || after == some '-' then
      return (← first.asItem?, '-' :: rest)
    else
      let (last, rest) ← readSetItem verbose (blanks verbose rest)
      match first, last with
      | .literal a, .literal b => if a.char ≤ b.char then some (.range a b, rest) else none
      | _, _ => none
  | rest => return (← first.asItem?, rest)

/-- Reads a set up to its closing bracket; `outer` are the sets around it, the nearest first. -/
def SetFrame.read (verbose : Bool) : (fuel : Nat) → SetFrame → (outer : List SetFrame) →
    List Char → Option (SetTree × List Char)
  | 0, _, _, _ => none
  | fuel + 1, f, outer, cs =>
    match blanks verbose cs with
    | [] => none
    | '[' :: rest =>
      match readPosix? rest with
      | some (item, rest) => SetFrame.read verbose fuel (f.push item) outer rest
      | none => do
        let (inner, rest) ← SetFrame.open? verbose rest
        SetFrame.read verbose fuel inner (f :: outer) rest
    -- The innermost set is closed and becomes an item of the set around it.
    | ']' :: rest =>
      match outer with
      | [] => some (.bracketed f.negated f.body, rest)
      | g :: outer =>
        SetFrame.read verbose fuel (g.push (.bracketed f.negated f.body)) outer rest
    | '&' :: '&' :: rest => SetFrame.read verbose fuel (f.await .intersection) outer rest
    | '-' :: '-' :: rest => SetFrame.read verbose fuel (f.await .difference) outer rest
    | '~' :: '~' :: rest => SetFrame.read verbose fuel (f.await .symmetricDifference) outer rest
    | cs => do
      let (item, rest) ← readRange verbose cs
      SetFrame.read verbose fuel (f.push item) outer rest

/-- Reads a set after its opening bracket. -/
def readSet (verbose : Bool) (cs : List Char) : Option (Tree × List Char) := do
  let (f, rest) ← SetFrame.open? verbose cs
  match ← SetFrame.read verbose (rest.length + 1) f [] rest with
  | (.bracketed negated body, rest) => some (.bracketed negated body, rest)
  | _ => none

/-! ### Repetitions -/

/-- The largest count of a repetition. -/
def maxCount : Nat := Nat.pow 2 32 - 1

/-- Reads digits; blanks and comments may stand after each digit of a verbose pattern. -/
def readDigits (verbose : Bool) : (inComment : Bool) → (value : Option Nat) → List Char →
    Option Nat × List Char
  | _, value, [] => (value, [])
  | true, value, c :: rest => readDigits verbose (c != '\n') value rest
  | false, value, c :: rest =>
    if c.isDigit then
      readDigits verbose false (some (value.getD 0 * 10 + (c.toNat - '0'.toNat))) rest
    else if verbose && value.isSome && isBlank c then readDigits verbose false value rest
    else if verbose && value.isSome && c == '#' then readDigits verbose true value rest
    else (value, c :: rest)

/-- Reads a count, which blanks may surround. -/
def readCount (verbose : Bool) (cs : List Char) : Option (Nat × List Char) :=
  match readDigits verbose false none (cs.dropWhile isBlank) with
  | (some n, rest) => if n ≤ maxCount then some (n, rest.dropWhile isBlank) else none
  | (none, _) => none

/-- Reads the counts of a repetition after the opening brace, with the brace that closes them. -/
def readCounts (verbose : Bool) (cs : List Char) : Option ((Nat × Option Nat) × List Char) := do
  let (min, rest) ← readCount verbose (blanks verbose cs)
  match rest with
  | '\x7D' :: rest => some ((min, some min), rest)
  | ',' :: rest =>
    match blanks verbose rest with
    | '\x7D' :: rest => some ((min, none), rest)
    -- With a second count the repetition is bounded.
    | rest =>
      match ← readCount verbose rest with
      | (max, '\x7D' :: rest) => if min ≤ max then some ((min, some max), rest) else none
      | _ => none
  | _ => none

/-- Drops the mark that makes a repetition match as little as it can. -/
def dropLazyMark : List Char → List Char
  | '?' :: rest => rest
  | cs => cs

/-! ### Groups -/

/-- Whether a character may stand in the name of a group. -/
def isNameChar (first : Bool) (c : Char) : Bool :=
  if first then c == '_' || isAlphabetic c
  else c == '_' || c == '.' || c == '[' || c == ']' || isAlphabetic c || isNumeric c

/-- Reads the name of a group up to the angle that closes it. -/
def readName : (read : List Char) → List Char → Option (List Char × List Char)
  | _, [] => none
  | read, c :: rest =>
    if c == '>' then (if read.isEmpty then none else some (read.reverse, rest))
    else if isNameChar read.isEmpty c then readName (c :: read) rest
    else none

/-- A flag group that is being read. -/
structure FlagReading where
  flags : List (Flag × Bool)
  negated : Bool
  /-- Whether the last character was the hyphen. -/
  afterHyphen : Bool

/-- Reads flags up to the colon or parenthesis after them; says whether it was a colon. -/
def FlagReading.read (r : FlagReading) : List Char → Option (FlagChange × Bool × List Char)
  | [] => none
  | c :: rest =>
    if c == ':' || c == ')' then
      if r.afterHyphen then none else some (r.flags.reverse, c == ':', rest)
    else if c == '-' then
      if r.negated then none else FlagReading.read ⟨r.flags, true, true⟩ rest
    else
      match Flag.ofChar? c with
      | none => none
      | some flag =>
        -- No flag may be given twice, whether it is turned on or off.
        if r.flags.any (·.1 == flag) then none
        else FlagReading.read ⟨(flag, !r.negated) :: r.flags, r.negated, false⟩ rest

/-- A group that is open while its body is read. -/
structure GroupFrame where
  /-- The flags of a group without capture. -/
  change : Option FlagChange
  /-- The sequence before the group, latest part first. -/
  items : List Tree
  /-- The alternatives before that sequence, latest first. -/
  alternatives : List Tree
  verbose : Bool

/-- How far a pattern has been read. -/
structure ReaderState where
  verbose : Bool
  /-- The names of groups so far. -/
  names : List (List Char)
  items : List Tree
  alternatives : List Tree
  groups : List GroupFrame

namespace ReaderState

/-- Nothing has been read yet. -/
def initial : ReaderState := ⟨false, [], [], [], []⟩

/-- The sequence of parts that are given latest first. -/
def sequenceOf : List Tree → Tree
  | [] => .empty
  | last :: before => before.foldl (fun tail part => .seq part tail) last

/-- The choice among alternatives that are given latest first. -/
def choiceOf : List Tree → Tree
  | [] => .empty
  | last :: before => before.foldl (fun tail part => .alt part tail) last

/-- What has been read since the innermost open group began. -/
def body (s : ReaderState) : Tree :=
  choiceOf (sequenceOf s.items :: s.alternatives)

/-- Adds a part to the sequence that is being read. -/
def push (s : ReaderState) (part : Tree) : ReaderState :=
  { s with items := part :: s.items }

/-- Begins a group. -/
def enter (s : ReaderState) (change : Option FlagChange) : ReaderState :=
  { s with
    verbose := ((change.getD []).lookup .verbose).getD s.verbose
    items := []
    alternatives := []
    groups := ⟨change, s.items, s.alternatives, s.verbose⟩ :: s.groups }

/-- Ends the innermost group. -/
def leave? (s : ReaderState) : Option ReaderState :=
  match s.groups with
  | [] => none
  | g :: groups =>
    let part :=
      match g.change with
      | none => .capture s.body
      | some change => .group change s.body
    some ⟨g.verbose, s.names, part :: g.items, g.alternatives, groups⟩

/-- Begins a group with a name, which no other group may have. -/
def enterNamed (s : ReaderState) (cs : List Char) : Option (ReaderState × List Char) := do
  let (name, rest) ← readName [] cs
  if s.names.contains name then none
  else return ({ s with names := name :: s.names }.enter none, rest)

/-- Reads what follows an opening parenthesis. Looking around is not part of patterns. -/
def openGroup (s : ReaderState) (cs : List Char) : Option (ReaderState × List Char) :=
  match blanks s.verbose cs with
  | '?' :: '=' :: _ | '?' :: '!' :: _ | '?' :: '<' :: '=' :: _ | '?' :: '<' :: '!' :: _ => none
  | '?' :: 'P' :: '<' :: rest => s.enterNamed rest
  | '?' :: '<' :: rest => s.enterNamed rest
  | '?' :: rest => do
    let (change, isGroup, rest) ← FlagReading.read ⟨[], false, false⟩ rest
    if isGroup then return (s.enter (some change), rest)
    else if change.isEmpty then none
    else
      let verbose := (change.lookup .verbose).getD s.verbose
      return ({ s with verbose := verbose }.push (.flags change), rest)
  | rest => some (s.enter none, rest)

/-- Applies a repetition to the last part, which must be there and not be a flag group. -/
def repeatLast (s : ReaderState) (min : Nat) (max : Option Nat) : Option ReaderState :=
  match s.items with
  | [] => none
  | .flags _ :: _ => none
  | part :: items => some { s with items := .repeated min max part :: items }

/-- The part that an escape makes. -/
def pushEscape (s : ReaderState) : Escape → ReaderState
  | .literal l => s.push (.literal l)
  | .anchor a => s.push (.anchor a)
  | .shorthand negated k => s.push (.shorthand negated k)
  | .property negated q => s.push (.property negated q)

/-- Reads one part of a pattern, which begins with `c`. -/
def step (s : ReaderState) (c : Char) (rest : List Char) : Option (ReaderState × List Char) :=
  match c with
  | '(' => s.openGroup rest
  | ')' => s.leave?.map fun s => (s, rest)
  | '|' => some ({ s with items := [], alternatives := sequenceOf s.items :: s.alternatives }, rest)
  | '[' => (readSet s.verbose rest).map fun (set, rest) => (s.push set, rest)
  | '?' => (s.repeatLast 0 (some 1)).map fun s => (s, dropLazyMark rest)
  | '*' => (s.repeatLast 0 none).map fun s => (s, dropLazyMark rest)
  | '+' => (s.repeatLast 1 none).map fun s => (s, dropLazyMark rest)
  | '\x7B' => do
    let ((min, max), rest) ← readCounts s.verbose rest
    let s ← s.repeatLast min max
    return (s, dropLazyMark (blanks s.verbose rest))
  | '\\' => (Escape.read s.verbose rest).map fun (e, rest) => (s.pushEscape e, rest)
  | '.' => some (s.push .dot, rest)
  | '^' => some (s.push (.anchor .lineStart), rest)
  | '$' => some (s.push (.anchor .lineEnd), rest)
  | c => some (s.push (.literal (plain c)), rest)

/-- Reads the rest of a pattern; each round takes at least one character. -/
def run : (fuel : Nat) → ReaderState → List Char → Option Tree
  | 0, _, _ => none
  | fuel + 1, s, cs =>
    match blanks s.verbose cs with
    | [] => if s.groups.isEmpty then some s.body else none
    | c :: rest => do
      let (s, rest) ← s.step c rest
      run fuel s rest

end ReaderState

/-- The tree of a pattern, if the text is one. -/
def Tree.read? (pattern : List Char) : Option Tree :=
  ReaderState.run (pattern.length + 1) .initial pattern

end Waterworks.Pattern
