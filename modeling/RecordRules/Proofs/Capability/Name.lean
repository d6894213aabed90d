import RecordRules.Capability.Name
import RecordRules.Proofs.Text

/-!
# Both spellings of a name

The spelling of a name in rules begins every part with a small letter and sets
it off by an underscore. Raising the first letters again and closing the gaps
undoes this (`titleChars_snakeChars`), up to the very first letter, which is
raised whatever it was. So the registered spellings are those that survive the
way to the spelling of rules and back (`titleCase_snakeCase_eq_self_iff`), and
no two of them come to the same spelling in rules (`snakeCase_inj`). A text, the
name that it is registered as, and this name in rules are spellings of one name
(`titleCase_of_spelling`).
-/

namespace RecordRules

/-! ## Raised parts -/

/-- The part before a gap is raised on its own. -/
theorem titleChars_append {piece : List Char} (h : '_' ∉ piece) (rest : List Char) :
    titleChars (piece ++ '_' :: rest) = capitalize piece ++ titleChars rest := by
  rw [titleChars, Text.splitOn_append h, List.flatMap_cons]
  rfl

theorem capitalize_append {piece : List Char} (h : piece ≠ []) (rest : List Char) :
    capitalize (piece ++ rest) = capitalize piece ++ rest := by
  cases piece with
  | nil => exact absurd rfl h
  | cons c piece => rfl

/-- A registered spelling has no gaps, and its first letter is raised. -/
theorem titleChars_eq_self_iff (cs : List Char) :
    titleChars cs = cs ↔ '_' ∉ cs ∧ capitalize cs = cs := by
  constructor
  · intro h
    have hgaps : '_' ∉ cs := h ▸ notMem_titleChars cs
    exact ⟨hgaps, (titleChars_of_notMem hgaps).symm.trans h⟩
  · rintro ⟨hgaps, hraised⟩
    exact (titleChars_of_notMem hgaps).trans hraised

/-! ## From rules and back -/

theorem underscore_notMem_lowered {c : Char} (h : '_' ≠ c) : '_' ∉ [c.toLower] := by
  rw [List.mem_singleton]
  exact (toLower_ne_underscore h.symm).symm

/-- Gaps that were opened before capital letters are closed again. The induction
is on the letters that are still to come; `piece` holds those since the last
gap, so it is never empty and only its own first letter is raised. -/
theorem titleChars_append_flatMap {piece cs : List Char} (hne : piece ≠ []) (hpiece : '_' ∉ piece)
    (hcs : '_' ∉ cs) : titleChars (piece ++ cs.flatMap snakeChar) = capitalize piece ++ cs := by
  induction cs generalizing piece with
  | nil => rw [List.flatMap_nil, List.append_nil, List.append_nil, titleChars_of_notMem hpiece]
  | cons c cs ih =>
      obtain ⟨hc, hcs⟩ := List.ne_and_not_mem_of_not_mem_cons hcs
      rw [List.flatMap_cons, snakeChar]
      by_cases hupper : c.isUpper = true
      · have hraised : c.toLower.toUpper = c := by
          rw [toUpper_toLower, toUpper_of_isUpper hupper]
        rw [if_pos hupper]
        calc titleChars (piece ++ '_' :: ([c.toLower] ++ cs.flatMap snakeChar))
            = capitalize piece ++ titleChars ([c.toLower] ++ cs.flatMap snakeChar) :=
              titleChars_append hpiece _
          _ = capitalize piece ++ (capitalize [c.toLower] ++ cs) := by
              rw [ih (List.cons_ne_nil _ _) (underscore_notMem_lowered hc) hcs]
          _ = capitalize piece ++ c :: cs := by
              rw [capitalize, hraised, List.singleton_append]
      · have hlonger : '_' ∉ piece ++ [c] := by
          rw [List.mem_append, List.mem_singleton]
          exact not_or.mpr ⟨hpiece, hc⟩
        rw [if_neg hupper, ← List.append_assoc, ih (List.append_ne_nil_of_left_ne_nil hne _) hlonger
          hcs, capitalize_append hne, List.append_assoc, List.singleton_append]

theorem titleChars_snakeChars {cs : List Char} (h : '_' ∉ cs) :
    titleChars (snakeChars cs) = capitalize cs := by
  cases cs with
  | nil => rfl
  | cons c cs =>
      obtain ⟨hc, hcs⟩ := List.ne_and_not_mem_of_not_mem_cons h
      have htitle := titleChars_append_flatMap (List.cons_ne_nil _ _)
        (underscore_notMem_lowered hc) hcs
      rw [List.singleton_append, capitalize, toUpper_toLower] at htitle
      exact htitle

/-- The spelling of rules leads back to registered spellings, and to no other. -/
theorem titleCase_snakeCase_eq_self_iff {name : String} :
    titleCase (snakeCase name) = name ↔ titleCase name = name := by
  constructor
  · intro h
    rw [← h, titleCase_titleCase]
  · intro h
    have hchars : titleChars name.toList = name.toList := by
      rw [← String.toList_ofList (l := titleChars name.toList), ← titleCase, h]
    obtain ⟨hgaps, hraised⟩ := (titleChars_eq_self_iff _).mp hchars
    rw [titleCase, snakeCase, String.toList_ofList, titleChars_snakeChars hgaps, hraised,
      String.ofList_toList]

/-- Registered spellings that rules spell alike are the same. -/
theorem snakeCase_inj {m n : String} (hm : titleCase m = m) (hn : titleCase n = n) :
    snakeCase m = snakeCase n ↔ m = n := by
  constructor
  · intro h
    rw [← titleCase_snakeCase_eq_self_iff.mpr hm, h, titleCase_snakeCase_eq_self_iff.mpr hn]
  · exact congrArg snakeCase

/-- A text, the name that it is registered as, and this name in rules are
spellings of one name. -/
theorem titleCase_of_spelling {x spelling : String}
    (h : spelling ∈ [x, titleCase x, snakeCase (titleCase x)]) :
    titleCase spelling = titleCase x := by
  simp only [List.mem_cons, List.not_mem_nil, or_false] at h
  rcases h with rfl | rfl | rfl
  · rfl
  · exact titleCase_titleCase x
  · exact titleCase_snakeCase_eq_self_iff.mpr (titleCase_titleCase x)

end RecordRules
