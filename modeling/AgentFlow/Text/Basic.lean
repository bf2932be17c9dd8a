/-!
Texts as lists of characters: blanks and trimming, the first occurrence of a pattern, and filling up
to a width.

A character is blank when Unicode gives it the property `White_Space`: twenty-five characters, of
which the ASCII ones are the tab to the carriage return and the space.
-/

namespace AgentFlow.Text

def blankRanges : List (Nat × Nat) :=
  [(0x9, 0xD), (0x20, 0x20), (0x85, 0x85), (0xA0, 0xA0), (0x1680, 0x1680), (0x2000, 0x200A),
    (0x2028, 0x2029), (0x202F, 0x202F), (0x205F, 0x205F), (0x3000, 0x3000)]

def isBlank (c : Char) : Bool := blankRanges.any fun (lo, hi) => lo ≤ c.toNat && c.toNat ≤ hi

/-- The text without its leading and trailing blanks. -/
def trim (cs : List Char) : List Char :=
  ((cs.dropWhile isBlank).reverse.dropWhile isBlank).reverse

/-- What follows `pattern` at the front of a text. -/
def dropFront? : List Char → List Char → Option (List Char)
  | [], cs => some cs
  | _ :: _, [] => none
  | p :: ps, c :: cs => if p = c then dropFront? ps cs else none

/-- The parts of a text before and after the first occurrence of `pattern`. -/
def splitFirst? (pattern : List Char) : List Char → Option (List Char × List Char)
  | [] => (dropFront? pattern []).map fun rest => ([], rest)
  | c :: cs =>
    match dropFront? pattern (c :: cs) with
    | some rest => some ([], rest)
    | none => (splitFirst? pattern cs).map fun (before, after) => (c :: before, after)

/-- The text with the first occurrence of `pattern` replaced, if it has one. -/
def replaceFirst? (pattern replacement text : String) : Option String :=
  (splitFirst? pattern.toList text.toList).map fun (before, after) =>
    String.ofList (before ++ replacement.toList ++ after)

/-- The text filled with blanks on the right up to `width` characters. -/
def padRight (width : Nat) (s : String) : String :=
  s ++ String.ofList (List.replicate (width - s.length) ' ')

/-- The text filled with blanks on the left up to `width` characters. -/
def padLeft (width : Nat) (s : String) : String :=
  String.ofList (List.replicate (width - s.length) ' ') ++ s

end AgentFlow.Text
