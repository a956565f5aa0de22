import RequestGuard.Pattern.Escape

/-!
# Classes in brackets

A class in brackets is a union of characters, intervals, named classes and classes in brackets, or a
combination of such unions with `&&`, `--` and `~~`, which are read from left to right. The reader
also gives the depth to which the parts are nested.
-/

namespace RequestGuard.Pattern

namespace Bracket

/-- A class with the depth of its nesting. -/
structure Part where
  cls : CharClass
  depth : Nat

/-- How two classes are combined. -/
inductive Operation where
  | inter
  | diff
  | symmDiff

/-- Combines two classes, each taken up to case if the flags say so. -/
def combine (flags : Flags) (op : Operation) (a b : CharClass) : CharClass :=
  let a := Escape.foldClass flags a
  let b := Escape.foldClass flags b
  match op with
  | .inter => .inter a b
  | .diff => .diff a b
  | .symmDiff => .symmDiff a b

/-- The union of the parts read so far, the last one first. -/
def unionOf (parts : List Part) : Part :=
  let depth := (parts.map Part.depth).foldl max 0
  { cls := CharClass.unions (parts.map Part.cls)
    depth := if parts.length > 1 then depth + 1 else depth }

/-- The parts read so far, combined with what stands before the last operation. -/
def operand (flags : Flags) (left : Option (Part × Operation)) (parts : List Part) : Part :=
  let right := unionOf parts
  match left with
  | none => right
  | some (part, op) =>
    { cls := combine flags op part.cls right.cls, depth := max part.depth right.depth + 1 }

/-- A class up to case and complemented, if it may be written under the flags. -/
def finish? (flags : Flags) (negated : Bool) (c : CharClass) : Option CharClass :=
  let folded := Escape.foldClass flags c
  let result := if negated then .compl folded else folded
  if !flags.unicode && result.leavesAscii then none else some result

/-- Reads a class named like `[:alpha:]`, after the bracket. -/
def readNamed? (flags : Flags) (s : List Char) : Option (Option CharClass × List Char) :=
  match s with
  | ':' :: rest =>
    let (negated, rest) :=
      match rest with
      | '^' :: more => (true, more)
      | more => (false, more)
    let name := rest.takeWhile (· != ':')
    match rest.drop name.length with
    | ':' :: ']' :: rest =>
      (asciiClass? (String.ofList name)).map fun c => (finish? flags negated c, rest)
    | _ => none
  | _ => none

/-- Reads a single item of a class: a character or a named class. -/
def readItem? (flags : Flags) : List Char → Option (Escape × List Char)
  | '\\' :: rest => Escape.read? flags rest
  | c :: rest => some (.char c, rest)
  | [] => none

/-- Whether a hyphen before a text stands for an interval. -/
def beginsInterval (flags : Flags) (s : List Char) : Bool :=
  match flags.skip s with
  | ']' :: _ | '-' :: _ => false
  | _ => true

def isMember (flags : Flags) (c : Char) : Bool := flags.unicode || c.toNat < 0x80

def readRange? (flags : Flags) (s : List Char) : Option (CharClass × List Char) := do
  let (first, rest) ← readItem? flags s
  let rest := flags.skip rest
  match first, rest with
  | .char a, '-' :: more =>
    if beginsInterval flags more then
      let (last, rest) ← readItem? flags (flags.skip more)
      match last with
      | .char b =>
        if a.toNat ≤ b.toNat ∧ isMember flags b then return (.interval a.toNat b.toNat, rest)
        else none
      | _ => none
    else if isMember flags a then return (.single a, rest)
    else none
  | .char a, rest => if isMember flags a then return (.single a, rest) else none
  | .cls c, '-' :: more => if beginsInterval flags more then none else return (c, rest)
  | .cls c, rest => return (c, rest)
  | .assertion _, _ => none

/-- The parts with which a class begins: hyphens, or a closing bracket in their place. -/
def readOpening (flags : Flags) (parts : List Part) : List Char → List Part × List Char
  | '-' :: rest =>
    readHyphens flags (⟨.single '-', 0⟩ :: parts) rest
  | ']' :: rest => (⟨.single ']', 0⟩ :: parts, rest)
  | s => (parts, s)
where
  /-- Reads more hyphens. -/
  readHyphens (flags : Flags) (parts : List Part) : List Char → List Part × List Char
    | '-' :: rest => readHyphens flags (⟨.single '-', 0⟩ :: parts) rest
    | c :: rest =>
      if flags.spaced && Text.isBlank c then readHyphens flags parts rest else (parts, c :: rest)
    | [] => (parts, [])

/-- A class that is open: whether it is complemented, what stands before its last operation, and
its parts after it, the last one first. -/
structure Frame where
  negated : Bool
  left : Option (Part × Operation) := none
  parts : List Part

def openFrame (flags : Flags) (s : List Char) : Frame × List Char :=
  let (negated, rest) :=
    match flags.skip s with
    | '^' :: more => (true, flags.skip more)
    | more => (false, more)
  let (parts, rest) := readOpening flags [] rest
  ({ negated, parts }, rest)

/-- Begins the right side of an operation. -/
def Frame.operate (frame : Frame) (flags : Flags) (op : Operation) : Frame :=
  { frame with left := some (operand flags frame.left frame.parts, op), parts := [] }

def Frame.close? (frame : Frame) (flags : Flags) : Option Part :=
  let inside := operand flags frame.left frame.parts
  (finish? flags frame.negated inside.cls).map fun c => { cls := c, depth := inside.depth + 1 }

def Frame.add (frame : Frame) (part : Part) : Frame := { frame with parts := part :: frame.parts }

/-- Reads the rest of the open classes, of which there may be `fuel` parts. -/
def readFrames? (flags : Flags) : Nat → Frame → List Frame → List Char → Option (Part × List Char)
  | 0, _, _, _ => none
  | fuel + 1, frame, outer, s =>
    match flags.skip s with
    | [] => none
    | '[' :: rest =>
      match readNamed? flags rest with
      | some (some c, rest) => readFrames? flags fuel (frame.add ⟨c, 0⟩) outer rest
      | some (none, _) => none
      | none =>
        let (inner, rest) := openFrame flags rest
        readFrames? flags fuel inner (frame :: outer) rest
    | ']' :: rest =>
      (frame.close? flags).bind fun part =>
        match outer with
        | [] => some (part, rest)
        | next :: outer => readFrames? flags fuel (next.add part) outer rest
    | '&' :: '&' :: rest => readFrames? flags fuel (frame.operate flags .inter) outer rest
    | '-' :: '-' :: rest => readFrames? flags fuel (frame.operate flags .diff) outer rest
    | '~' :: '~' :: rest => readFrames? flags fuel (frame.operate flags .symmDiff) outer rest
    | s =>
      (readRange? flags s).bind fun (c, rest) =>
        readFrames? flags fuel (frame.add ⟨c, 0⟩) outer rest

def read? (flags : Flags) (s : List Char) : Option (Part × List Char) :=
  let (frame, rest) := openFrame flags s
  readFrames? flags (rest.length + 1) frame [] rest

end Bracket

end RequestGuard.Pattern
