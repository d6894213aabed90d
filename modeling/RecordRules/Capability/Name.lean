import RecordRules.Letter
import RecordRules.Text

/-!
# Names of capabilities

A capability has one name in two spellings: `GreaterThan`, under which it is
registered, and `greater_than`, in which rules are written. `titleCase`
raises the first letter of every part between underscores and closes the
gaps; `snakeCase` opens a gap before every capital letter. Only ASCII letters
are raised and lowered. `greaterthan` and `GREATER_THAN` are other names.

The registered spelling of a name is its own registered spelling
(`titleCase_titleCase`).
-/

namespace RecordRules

/-- The part with its first letter raised. -/
def capitalize : List Char → List Char
  | [] => []
  | c :: cs => c.toUpper :: cs

/-- The registered spelling of a name. -/
def titleChars (cs : List Char) : List Char := (Text.splitOn '_' cs).flatMap capitalize

/-- A letter within a name in the spelling of rules. -/
def snakeChar (c : Char) : List Char := if c.isUpper then ['_', c.toLower] else [c]

/-- The spelling of a name in rules. -/
def snakeChars : List Char → List Char
  | [] => []
  | c :: cs => c.toLower :: cs.flatMap snakeChar

/-- The registered spelling of a name: `greater_than` becomes `GreaterThan`. -/
def titleCase (name : String) : String := String.ofList (titleChars name.toList)

/-- The spelling of a name in rules: `GreaterThan` becomes `greater_than`. -/
def snakeCase (name : String) : String := String.ofList (snakeChars name.toList)

/-! ## Registered spellings -/

theorem notMem_titleChars (cs : List Char) : '_' ∉ titleChars cs := by
  intro h
  obtain ⟨piece, hpiece, hc⟩ := List.mem_flatMap.mp h
  have hnot := Text.notMem_of_mem_splitOn hpiece
  cases piece with
  | nil => cases hc
  | cons c piece =>
      obtain ⟨hhead, htail⟩ := List.ne_and_not_mem_of_not_mem_cons hnot
      rcases List.mem_cons.mp hc with hc | hc
      · exact toUpper_ne_underscore (Ne.symm hhead) hc.symm
      · exact htail hc

/-- A text without gaps is one part. -/
theorem titleChars_of_notMem {piece : List Char} (h : '_' ∉ piece) :
    titleChars piece = capitalize piece := by
  rw [titleChars, Text.splitOn_of_notMem h, List.flatMap_singleton]

/-- What is put together from raised parts begins with a raised letter. -/
theorem capitalize_flatMap (pieces : List (List Char)) :
    capitalize (pieces.flatMap capitalize) = pieces.flatMap capitalize := by
  induction pieces with
  | nil => rfl
  | cons piece pieces ih =>
      cases piece with
      | nil => exact ih
      | cons c piece =>
          rw [List.flatMap_cons, capitalize, List.cons_append, capitalize, toUpper_toUpper]

theorem titleChars_titleChars (cs : List Char) : titleChars (titleChars cs) = titleChars cs := by
  rw [titleChars_of_notMem (notMem_titleChars cs), titleChars, capitalize_flatMap]

theorem titleCase_titleCase (name : String) : titleCase (titleCase name) = titleCase name := by
  rw [titleCase, titleCase, String.toList_ofList, titleChars_titleChars]

end RecordRules
