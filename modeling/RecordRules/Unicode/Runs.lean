/-!
# Run-length tables

A property that gives every code point a short code is kept as a text of
runs: a code of fixed width, then how many code points in a row have it,
which is left out for a single one.
-/

namespace RecordRules.Unicode

/-- So many code points in a row with one code. -/
abbrev Run := Nat × String

/-- The runs that a text spells. Every code has `width` letters; `code` holds
the letters of the present one that have been read, last first, and `length`
its digits so far. -/
def decodeRunsFrom (width : Nat) (code : List Char) (length : Nat) : List Char → List Run
  | [] => [(if length = 0 then 1 else length, String.ofList code.reverse)]
  | c :: cs =>
    if c.isDigit then decodeRunsFrom width code (10 * length + (c.toNat - '0'.toNat)) cs
    else if code.length < width then decodeRunsFrom width (c :: code) 0 cs
    else
      (if length = 0 then 1 else length, String.ofList code.reverse)
        :: decodeRunsFrom width [c] 0 cs

/-- The runs that a text spells. -/
def decodeRuns (width : Nat) (cs : List Char) : List Run := decodeRunsFrom width [] 0 cs

/-- The code of a code point. -/
def valueAt : List Run → Nat → Option String
  | [], _ => none
  | (length, code) :: runs, n => if n < length then some code else valueAt runs (n - length)

end RecordRules.Unicode
