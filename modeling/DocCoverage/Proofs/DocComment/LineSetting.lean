import DocCoverage.Proofs.DocComment.FencedCode
import DocCoverage.Proofs.Text.WrittenText

/-!
# How the lines of a comment are set

The same lines can be set in a comment in many ways: indented by any blanks, with a star in front or
without one, and with blanks or a carriage return at their ends. The content of a line is the same in all
of them. Fences and constructs are looked for in the content, so the validator reports the same.
-/

namespace DocCoverage.DocComment

open Text

/-- What stands between the blanks in front of a line and the line. -/
inductive Decoration where
  | none
  | star
  | starAndSpace
  deriving DecidableEq, Repr

/-- The characters of a decoration. -/
def Decoration.chars : Decoration → List Char
  | none => []
  | star => ['*']
  | starAndSpace => ['*', ' ']

/-- How one line is set: the blanks around it and its decoration. -/
structure Setting where
  before : List Char
  decoration : Decoration
  after : List Char
  before_blank : ∀ c ∈ before, isBlank c = true ∧ c ≠ '\n'
  after_blank : ∀ c ∈ after, isBlank c = true ∧ c ≠ '\n'

/-- A line in its setting, at its place in a comment. The first line is not decorated. -/
def Setting.line (setting : Setting) : Nat → List Char → List Char
  | 0, line => setting.before ++ (line ++ setting.after)
  | _ + 1, line => setting.before ++ (setting.decoration.chars ++ line ++ setting.after)

/-- Lines, each in the setting of its place. -/
def setLines (settings : Nat → Setting) (lines : List (List Char)) : List Char :=
  ['\n'].intercalate (lines.mapIdx fun place line => (settings place).line place line)

/-- Lines that can be told from the way in which they are set: all but the first start with neither a
star nor a blank. -/
structure IsContent (lines : List (List Char)) : Prop where
  onLine : ∀ line ∈ lines, '\n' ∉ line
  starts : ∀ line ∈ lines.tail, ∀ c ∈ line.head?, c ≠ '*' ∧ isBlank c = false

/-! ## One line -/

/-- A decoration is taken away from a line that starts with neither a star nor a blank. -/
theorem undecorate_trim_append {line : List Char}
    (hline : ∀ c ∈ line.head?, c ≠ '*' ∧ isBlank c = false) (decoration : Decoration) :
    undecorate (trim (decoration.chars ++ line)) = trim line := by
  have hstart : line.head?.any isBlank = false := by
    rw [Option.any_eq_false]
    exact fun c hc => by simp [(hline c hc).2]
  obtain ⟨after, hafter, hbare, hblank⟩ := exists_trim_append hstart
  have hhead {c : Char} (hc : (trim line).head? = some c) : c ≠ '*' ∧ isBlank c = false := by
    apply hline
    rw [hafter, List.head?_append, hc]
    rfl
  cases decoration with
  | none => exact undecorate_of_head?_ne fun h => (hhead h).1 rfl
  | star =>
    have htrim : trim ('*' :: line) = '*' :: trim line := by
      have hstar : Bare ('*' :: trim line) := bare_cons (by decide) hbare
      nth_rewrite 1 [hafter]
      exact trim_append_append hstar (fun c hc => absurd hc List.not_mem_nil) hblank
    change undecorate (trim ('*' :: line)) = _
    rw [htrim]
    exact undecorate_star_of_head?_ne fun h => absurd (hhead h).2 (by decide)
  | starAndSpace =>
    by_cases hempty : trim line = []
    · -- nothing but blanks would be left of the line, and it starts with none
      have hline : line = [] := by
        rw [hempty, List.nil_append] at hafter
        subst hafter
        cases line with
        | nil => rfl
        | cons c rest => exact absurd (hblank c List.mem_cons_self) (by simpa using hstart)
      subst hline
      rfl
    · have htrim : trim ('*' :: ' ' :: line) = '*' :: ' ' :: trim line := by
        have hstar : Bare (['*'] ++ [' '] ++ trim line) :=
          bare_append_append (by decide) ⟨hempty, hbare⟩ [' ']
        nth_rewrite 1 [hafter]
        exact trim_append_append hstar (fun c hc => absurd hc List.not_mem_nil) hblank
      change undecorate (trim ('*' :: ' ' :: line)) = _
      rw [htrim]
      rfl

/-- What is left of the first line in its setting. -/
theorem trim_line_zero (setting : Setting) (line : List Char) :
    trim (setting.line 0 line) = trim line :=
  trim_between_blanks (fun c hc => (setting.before_blank c hc).1)
    (fun c hc => (setting.after_blank c hc).1) line

/-- What is left of any other line in its setting. -/
theorem undecorate_trim_line_succ (setting : Setting) (place : Nat) {line : List Char}
    (hline : ∀ c ∈ line.head?, c ≠ '*' ∧ isBlank c = false) :
    undecorate (trim (setting.line (place + 1) line)) = trim line := by
  have htrim : trim (setting.line (place + 1) line) = trim (setting.decoration.chars ++ line) :=
    trim_between_blanks (fun c hc => (setting.before_blank c hc).1)
      (fun c hc => (setting.after_blank c hc).1) _
  rw [htrim, undecorate_trim_append hline]

/-- A line in its setting is one line. -/
theorem lineFeed_notMem_line (setting : Setting) (place : Nat) {line : List Char}
    (hline : '\n' ∉ line) : '\n' ∉ setting.line place line := by
  have hbefore : '\n' ∉ setting.before := fun h => (setting.before_blank _ h).2 rfl
  have hafter : '\n' ∉ setting.after := fun h => (setting.after_blank _ h).2 rfl
  have hdecoration : '\n' ∉ setting.decoration.chars := by
    cases setting.decoration <;> decide
  cases place <;> simp [Setting.line, hbefore, hafter, hdecoration, hline]

/-! ## All lines -/

/-- The content of lines in their settings is that of the lines. -/
theorem contentLines_setLines {lines : List (List Char)} (hne : lines ≠ []) (hlines : IsContent lines)
    (settings : Nat → Setting) : contentLines (setLines settings lines) = lines.map trim := by
  have hpieces : pieces '\n' (setLines settings lines) =
      lines.mapIdx fun place line => (settings place).line place line := by
    apply pieces_intercalate
    · simpa using hne
    · intro line hmem
      obtain ⟨place, hplace, rfl⟩ := List.mem_mapIdx.mp hmem
      exact lineFeed_notMem_line _ place (hlines.onLine _ (List.getElem_mem hplace))
  obtain ⟨first, later, rfl⟩ := List.exists_cons_of_ne_nil hne
  rw [contentLines, hpieces, List.mapIdx_cons, List.map_cons]
  simp only [trim_line_zero, List.cons.injEq, true_and]
  apply List.ext_getElem?
  intro place
  rw [List.getElem?_map, List.getElem?_mapIdx, List.getElem?_map]
  cases hline : later[place]? with
  | none => rfl
  | some line =>
    have hstart := hlines.starts line (List.mem_of_getElem? hline)
    exact congrArg some (undecorate_trim_line_succ _ place hstart)

/-- The validator reports the same of lines in any setting. -/
theorem validate_setLines {lines : List (List Char)} (hlines : IsContent lines)
    (settings settings' : Nat → Setting) :
    validate (delimited (setLines settings lines)) =
      validate (delimited (setLines settings' lines)) := by
  cases lines with
  | nil => rfl
  | cons first later =>
    have hne : first :: later ≠ [] := List.cons_ne_nil first later
    rw [validate_delimited, validate_delimited, contentLines_setLines hne hlines,
      contentLines_setLines hne hlines]

/-- Lines with a link that goes on over an empty line, a fence with a brace inside, and a tag that lacks
its name. -/
def linkAndFenceLines : List (List Char) :=
  ["Sum of \x7b@link".toList, [], "f\x7d.".toList, "\x60\x60\x60ts ".toList, ['\x7d'],
    "\x60\x60\x60".toList, "\x7d @param".toList]

/-- Lines as they are. -/
def plainSetting : Setting where
  before := []
  decoration := .none
  after := []
  before_blank := by simp
  after_blank := by simp

/-- Every third line without a star, and every third with a star and no space, between blanks of many
kinds. -/
def mixedSetting (place : Nat) : Setting where
  before := ['\t', '\u00a0', ' ']
  decoration := if place % 3 = 0 then .none else if place % 3 = 1 then .star else .starAndSpace
  after := ['\u2028', '\r']
  before_blank := List.forall_mem_cons.mpr ⟨by decide,
    List.forall_mem_cons.mpr ⟨by decide, List.forall_mem_singleton.mpr (by decide)⟩⟩
  after_blank := List.forall_mem_cons.mpr ⟨by decide, List.forall_mem_singleton.mpr (by decide)⟩

/-- In both settings the brace after the fence and the tag without a name are reported. -/
theorem linkAndFenceLines_validate_setLines :
    IsContent linkAndFenceLines ∧
      validate (delimited (setLines (fun _ => plainSetting) linkAndFenceLines)) =
        [⟨.escapeRightBrace, 7⟩, ⟨.paramMissingName "param", 7⟩] ∧
      validate (delimited (setLines mixedSetting linkAndFenceLines)) =
        [⟨.escapeRightBrace, 7⟩, ⟨.paramMissingName "param", 7⟩] := by
  have hlines : IsContent linkAndFenceLines := by
    refine ⟨by decide, fun line hline c hc => ?_⟩
    have hstarts : linkAndFenceLines.tail.all (fun line =>
        line.head?.all fun c => c != '*' && !isBlank c) = true := by
      decide
    have hstart := List.all_eq_true.mp hstarts line hline
    rw [Option.mem_def.mp hc, Option.all_some] at hstart
    simpa using hstart
  have hplain : validate (delimited (setLines (fun _ => plainSetting) linkAndFenceLines)) =
      [⟨.escapeRightBrace, 7⟩, ⟨.paramMissingName "param", 7⟩] := by
    decide +kernel
  exact ⟨hlines, hplain, (validate_setLines hlines mixedSetting _).trans hplain⟩

end DocCoverage.DocComment
