import DocCoverage.Proofs.DocComment.FencedCode
import DocCoverage.Proofs.Text.WrittenText

/-!
# Escaped text

With a backslash before each punctuation character a text is literal: the scanner passes over it and
reports nothing, whatever it holds. Between the delimiters of a comment it stays literal, since neither
the blanks nor the stars nor the fences of its lines are taken for anything else. Between the braces of
an inline tag it does not: the tag ends at the first right brace, escaped or not.
-/

namespace DocCoverage.DocComment

open Text

/-- A text with a backslash before each punctuation character. -/
def escape (text : List Char) : List Char :=
  text.flatMap fun c => if isPunctuation c then ['\\', c] else [c]

/-- A text of characters without a meaning of their own and of escapes. -/
inductive IsLiteral : List Char → Prop
  | nil : IsLiteral []
  | plain {c : Char} {rest : List Char} : c ∉ specialChars → IsLiteral rest → IsLiteral (c :: rest)
  | escaped {c : Char} {rest : List Char} : isPunctuation c = true → IsLiteral rest →
      IsLiteral ('\\' :: c :: rest)

/-! ## Escaped characters -/

/-- Nothing is escaped in an empty text. -/
@[simp]
theorem escape_nil : escape [] = [] := rfl

/-- Two texts are escaped one after the other. -/
@[simp]
theorem escape_append (first second : List Char) :
    escape (first ++ second) = escape first ++ escape second :=
  List.flatMap_append

/-- A punctuation character gets a backslash. -/
theorem escape_cons_of_isPunctuation {c : Char} (hc : isPunctuation c = true) (rest : List Char) :
    escape (c :: rest) = '\\' :: c :: escape rest := by
  rw [escape, List.flatMap_cons, if_pos hc]
  rfl

/-- Any other character stays as it is. -/
theorem escape_cons_of_not_isPunctuation {c : Char} (hc : isPunctuation c = false)
    (rest : List Char) : escape (c :: rest) = c :: escape rest := by
  rw [escape, List.flatMap_cons, hc]
  rfl

/-- A blank is no punctuation. -/
theorem isPunctuation_eq_false_of_isBlank {c : Char} (hc : isBlank c = true) :
    isPunctuation c = false := by
  rw [isBlank_iff] at hc
  simp only [isPunctuation, Bool.or_eq_false_iff, Bool.and_eq_false_iff, decide_eq_false_iff_not]
  omega

/-- The characters with a meaning of their own are punctuation. -/
theorem isPunctuation_of_mem_specialChars {c : Char} (hc : c ∈ specialChars) :
    isPunctuation c = true := by
  simp only [specialChars, List.mem_cons, List.not_mem_nil, or_false] at hc
  rcases hc with rfl | rfl | rfl | rfl | rfl | rfl | rfl <;> decide

/-- Blanks stay as they are. -/
theorem escape_of_forall_isBlank {text : List Char} (hblank : ∀ c ∈ text, isBlank c = true) :
    escape text = text := by
  induction text with
  | nil => rfl
  | cons c rest ih =>
    obtain ⟨hc, hrest⟩ := List.forall_mem_cons.mp hblank
    rw [escape_cons_of_not_isPunctuation (isPunctuation_eq_false_of_isBlank hc), ih hrest]

/-- Of the punctuation characters only the backslash comes first in an escaped text. -/
theorem head?_escape_ne {c : Char} (hc : isPunctuation c = true) (hne : c ≠ '\\')
    (text : List Char) : (escape text).head? ≠ some c := by
  intro hhead
  cases text with
  | nil => simp at hhead
  | cons d rest =>
    cases hd : isPunctuation d with
    | true =>
      rw [escape_cons_of_isPunctuation hd] at hhead
      exact hne (Option.some.inj hhead).symm
    | false =>
      rw [escape_cons_of_not_isPunctuation hd] at hhead
      obtain rfl := Option.some.inj hhead
      rw [hc] at hd
      cases hd

/-- An escaped text that holds a character holds it in the text. -/
theorem mem_of_mem_escape {c : Char} {text : List Char} (hne : c ≠ '\\') (hmem : c ∈ escape text) :
    c ∈ text := by
  obtain ⟨d, hd, hc⟩ := List.mem_flatMap.mp hmem
  split at hc
  · rcases List.mem_cons.mp hc with rfl | hc
    · exact absurd rfl hne
    · rwa [List.mem_singleton.mp hc]
  · rwa [List.mem_singleton.mp hc]

/-- An escaped text is literal. -/
theorem isLiteral_escape (text : List Char) : IsLiteral (escape text) := by
  induction text with
  | nil => exact .nil
  | cons c rest ih =>
    cases hc : isPunctuation c with
    | true =>
      rw [escape_cons_of_isPunctuation hc]
      exact .escaped hc ih
    | false =>
      rw [escape_cons_of_not_isPunctuation hc]
      refine .plain (fun hmem => ?_) ih
      rw [isPunctuation_of_mem_specialChars hmem] at hc
      cases hc

/-- Characters without a meaning of their own are literal. -/
theorem isLiteral_of_forall {text : List Char} (hplain : ∀ c ∈ text, c ∉ specialChars) :
    IsLiteral text := by
  induction text with
  | nil => exact .nil
  | cons c rest ih =>
    obtain ⟨hc, hrest⟩ := List.forall_mem_cons.mp hplain
    exact .plain hc (ih hrest)

/-! ## The scanner -/

/-- The scanner passes over a unit and goes on after it. -/
theorem IsTextUnit.scan_eq {previous : Option Char} {unit after : List Char} {cells : List Cell}
    (hunit : IsTextUnit previous unit after) (htext : cells.map Cell.char = unit ++ after) :
    scan previous cells = scan unit.getLast? (cells.drop unit.length) := by
  obtain ⟨c, others, rfl⟩ := List.exists_cons_of_ne_nil hunit.ne_nil
  obtain ⟨start, rest, rfl, rfl, hrest⟩ := List.map_eq_cons_iff.mp htext
  have hfound := (construct_eq_iff previous start hrest).mpr hunit
  change rest.map Cell.char = others ++ after at hrest
  have hpassed : (rest.take others.length).map Cell.char = others := by
    rw [List.map_take, hrest, List.take_left]
  simp only [scan, hfound, List.nil_append]
  rw [← List.getLast?_map, List.map_cons, hpassed, List.length_cons, List.drop_succ_cons]

/-- A text that the scanner passes over, in front of a given text, wherever it comes to it. -/
def IsPassed (text after : List Char) : Prop :=
  ∀ (previous : Option Char) (cells : List Cell), cells.map Cell.char = text ++ after →
    ∃ last, scan previous cells = scan last (cells.drop text.length)

/-- The scanner passes over a text that is a unit after any character. -/
theorem isPassed_of_isTextUnit {unit after : List Char}
    (hunit : ∀ previous, IsTextUnit previous unit after) : IsPassed unit after :=
  fun previous _ htext => ⟨unit.getLast?, (hunit previous).scan_eq htext⟩

/-- The scanner passes over one text after the other. -/
theorem IsPassed.append {first second after : List Char} (hfirst : IsPassed first (second ++ after))
    (hsecond : IsPassed second after) : IsPassed (first ++ second) after := by
  intro previous cells htext
  rw [List.append_assoc] at htext
  obtain ⟨between, hbetween⟩ := hfirst previous cells htext
  obtain ⟨last, hlast⟩ := hsecond between _ (map_char_drop htext rfl)
  refine ⟨last, ?_⟩
  rw [hbetween, hlast, List.drop_drop, List.length_append]

/-- The scanner passes over literal text. -/
theorem IsLiteral.isPassed {text : List Char} (hliteral : IsLiteral text) (after : List Char) :
    IsPassed text after := by
  induction hliteral with
  | nil => exact fun previous cells _ => ⟨previous, rfl⟩
  | @plain c rest hc _ ih =>
    exact (isPassed_of_isTextUnit fun _ => .plain ⟨c, rfl, hc⟩).append ih
  | @escaped c rest hc _ ih =>
    exact (isPassed_of_isTextUnit fun _ => .escape ⟨c, rfl, hc⟩).append ih

/-- The scanner reports nothing of literal text. -/
theorem IsLiteral.scan_eq_nil {cells : List Cell} (hliteral : IsLiteral (cells.map Cell.char))
    (previous : Option Char) : scan previous cells = [] := by
  obtain ⟨last, hlast⟩ := hliteral.isPassed [] previous cells (List.append_nil _).symm
  rw [hlast, List.length_map, List.drop_length, scan]

/-! ## The lines of escaped text -/

/-- Escaped lines are joined to the escaped text of the lines. -/
theorem escape_intercalate (lines : List (List Char)) :
    escape (['\n'].intercalate lines) = ['\n'].intercalate (lines.map escape) := by
  induction lines with
  | nil => rfl
  | cons line rest ih =>
    by_cases hrest : rest = []
    · subst hrest
      rw [List.map_singleton, List.intercalate_singleton, List.intercalate_singleton]
    · have hmap : rest.map escape ≠ [] := mt List.map_eq_nil_iff.mp hrest
      rw [List.map_cons, List.intercalate_cons_of_ne_nil hrest,
        List.intercalate_cons_of_ne_nil hmap, escape_append, escape_append, ih]
      rfl

/-- The lines of an escaped text are those of the text, each of them escaped. -/
theorem pieces_escape (text : List Char) :
    pieces '\n' (escape text) = (pieces '\n' text).map escape := by
  have hfree : ∀ line ∈ (pieces '\n' text).map escape, '\n' ∉ line := by
    intro line hline hmem
    obtain ⟨piece, hpiece, rfl⟩ := List.mem_map.mp hline
    exact notMem_of_mem_pieces hpiece (mem_of_mem_escape (by decide) hmem)
  have hne : (pieces '\n' text).map escape ≠ [] := mt List.map_eq_nil_iff.mp (pieces_ne_nil '\n' text)
  rw [← pieces_intercalate hne hfree, ← escape_intercalate, intercalate_pieces]

/-- An escaped text ends as the text does. -/
theorem getLast?_escape (text : List Char) : (escape text).getLast? = text.getLast? := by
  rcases List.eq_nil_or_concat text with rfl | ⟨others, c, rfl⟩
  · rfl
  · rw [List.concat_eq_append, escape_append, List.getLast?_concat]
    cases hc : isPunctuation c with
    | true =>
      rw [escape_cons_of_isPunctuation hc, escape_nil, List.append_cons, List.getLast?_concat]
    | false => rw [escape_cons_of_not_isPunctuation hc, escape_nil, List.getLast?_concat]

/-- A text that neither starts nor ends with a blank does not when it is escaped. -/
theorem bare_escape {text : List Char} (hbare : Bare text) : Bare (escape text) := by
  refine ⟨?_, by rw [getLast?_escape]; exact hbare.stop⟩
  cases text with
  | nil => rfl
  | cons c rest =>
    cases hc : isPunctuation c with
    | true =>
      rw [escape_cons_of_isPunctuation hc, List.head?_cons, Option.any_some]
      decide
    | false =>
      rw [escape_cons_of_not_isPunctuation hc]
      exact hbare.start

/-- An escaped line is trimmed to the escaped text of the trimmed line. -/
theorem trim_escape (line : List Char) : trim (escape line) = escape (trim line) := by
  obtain ⟨before, after, hline, hbare, hbefore, hafter⟩ := exists_trim line
  conv_lhs => rw [hline]
  rw [escape_append, escape_append, escape_of_forall_isBlank hbefore,
    escape_of_forall_isBlank hafter, trim_append_append (bare_escape hbare) hbefore hafter]

/-- Escaped content has the lines of the text without the blanks at their ends, each of them
escaped. -/
theorem contentLines_escape (text : List Char) :
    contentLines (escape text) = ((pieces '\n' text).map trim).map escape := by
  have hcontent (place : Nat) (line : List Char) :
      contentLine place (escape line) = escape (trim line) := by
    cases place with
    | zero => exact trim_escape line
    | succ place =>
      rw [contentLine, trim_escape,
        undecorate_of_head?_ne (head?_escape_ne (by decide) (by decide) (trim line))]
  rw [contentLines_eq_mapIdx, pieces_escape]
  apply List.ext_getElem?
  intro place
  rw [List.getElem?_mapIdx, List.getElem?_map, List.getElem?_map, List.getElem?_map,
    Option.map_map, Option.map_map]
  simp only [Function.comp_def, hcontent]

/-- An escaped line that is trimmed is no fence. -/
theorem isFence_escape_trim (line : List Char) : isFence (escape (trim line)) = false := by
  have hbare := (exists_trim line).choose_spec.choose_spec.2.1
  have hstart : trimStart (escape (trim line)) = escape (trim line) :=
    dropWhile_isBlank_eq_self (bare_escape hbare).start
  rw [isFence, hstart, ← Bool.not_eq_true, List.isPrefixOf_iff_prefix]
  rintro ⟨rest, hrest⟩
  have hhead : (escape (trim line)).head? = some '\x60' := hrest ▸ rfl
  exact head?_escape_ne (by decide) (by decide) (trim line) hhead

/-- A comment with escaped content has no diagnostics, whatever the text. -/
theorem validate_escape (text : List Char) : validate (delimited (escape text)) = [] := by
  have hnone : ∀ line ∈ contentLines (escape text), isFence line = false := by
    intro line hmem
    rw [contentLines_escape, List.map_map] at hmem
    obtain ⟨piece, -, rfl⟩ := List.mem_map.mp hmem
    exact isFence_escape_trim piece
  have hliteral : IsLiteral ((flatten (contentLines (escape text))).map Cell.char) := by
    rw [flatten_map_char, contentLines_escape, ← escape_intercalate]
    exact isLiteral_escape _
  rw [validate_delimited, maskFences_none_of_forall_not_isFence hnone, hliteral.scan_eq_nil]
  rfl

/-! ## Links -/

/-- An inline tag with some content. -/
def link (content : List Char) : List Char :=
  ['{', '@', 'l', 'i', 'n', 'k', ' '] ++ content ++ ['}']

/-- The words before the link of a comment. -/
def linkIntroduction : List Char := ['S', 'e', 'e', ' ']

/-- The words after the link. -/
def linkEnding : List Char := [' ', 'f', 'o', 'r', ' ', 'm', 'o', 'r', 'e', '.']

/-- The content line of a comment with a link. -/
def linkLine (content : List Char) : List Char :=
  linkIntroduction ++ (link content ++ linkEnding)

/-- The inner text of the comment. -/
def linkText (content : List Char) : List Char := [' '] ++ (linkLine content ++ [' '])

/-- A link ends at its first right brace. -/
theorem link_append_brace (first second : List Char) :
    link (first ++ '}' :: second) = link first ++ (second ++ ['}']) := by
  simp [link]

/-- The scanner passes over a link. -/
theorem isPassed_link {content : List Char} (hbrace : '}' ∉ content) (after : List Char) :
    IsPassed (link content) after := by
  have hword : IsWord ['l', 'i', 'n', 'k'] := ⟨'l', ['i', 'n', 'k'], rfl, rfl, by simp⟩
  have hbody : '}' ∉ ' ' :: content := List.not_mem_cons_of_ne_of_not_mem (by decide) hbrace
  have hblank : StartsBlank (' ' :: content) := by
    intro c hc
    obtain rfl := Option.some.inj hc
    decide
  have htag : IsInlineTag (link content) :=
    ⟨_, _, ⟨"link", .inline⟩, by simp [link], hword, by decide, rfl, hbody, hblank⟩
  exact isPassed_of_isTextUnit fun _ => .inlineTag htag

/-- A comment with a link in one line has that line for its content. -/
theorem contentLines_linkText {content : List Char} (hline : '\n' ∉ content) :
    contentLines (linkText content) = [linkLine content] := by
  have hfree : '\n' ∉ linkText content := by
    simp [linkText, linkLine, linkIntroduction, link, linkEnding, hline]
  have hbare : Bare (linkLine content) := by
    constructor
    · rfl
    · rw [linkLine, ← List.append_assoc, List.getLast?_append_of_ne_nil _ (by decide)]
      rfl
  have hspace : ∀ c ∈ [' '], isBlank c = true := List.forall_mem_singleton.mpr rfl
  have htrim : trim (linkText content) = linkLine content := trim_append_append hbare hspace hspace
  rw [contentLines, pieces_of_not_mem hfree, ← htrim]
  rfl

/-- The validator reports of the comment what the scanner reports of the line. -/
theorem validate_linkText {content : List Char} (hline : '\n' ∉ content) :
    validate (delimited (linkText content)) = scan none (lineCells 1 (linkLine content)) := by
  have hnone : ∀ line ∈ [linkLine content], isFence line = false := by
    rw [List.forall_mem_singleton]
    rfl
  rw [validate_delimited, contentLines_linkText hline, maskFences_none_of_forall_not_isFence hnone,
    flatten, laterCells, List.append_nil]
  rfl

/-- After a passed text the scanner goes on with the cells of what follows in the line. -/
theorem IsPassed.scan_lineCells {text after : List Char} (hpassed : IsPassed text after)
    (number : Nat) :
    ∃ last, scan none (lineCells number (text ++ after)) = scan last (lineCells number after) := by
  obtain ⟨last, hlast⟩ := hpassed none _ (lineCells_map_char number (text ++ after))
  refine ⟨last, ?_⟩
  rw [hlast, lineCells, ← List.map_drop, List.drop_left, lineCells]

/-- The words around a link are literal. -/
theorem isLiteral_linkIntroduction : IsLiteral linkIntroduction :=
  isLiteral_of_forall (by simp [linkIntroduction, specialChars])

/-- The words after a link are literal. -/
theorem isLiteral_linkEnding : IsLiteral linkEnding :=
  isLiteral_of_forall (by simp [linkEnding, specialChars])

/-- A link whose content has no right brace has no problem. -/
theorem scan_linkLine_of_notMem {content : List Char} (hbrace : '}' ∉ content) :
    scan none (lineCells 1 (linkLine content)) = [] := by
  have hpassed : IsPassed (linkLine content) [] :=
    (isLiteral_linkIntroduction.isPassed _).append
      ((isPassed_link hbrace _).append (isLiteral_linkEnding.isPassed []))
  obtain ⟨last, hlast⟩ := hpassed.scan_lineCells 1
  rw [List.append_nil] at hlast
  rw [hlast, lineCells, List.map_nil, scan]

/-- A link ends at the first right brace of its content, and the brace that should end it is
reported. -/
theorem scan_linkLine_append_brace {first second : List Char} (hfirst : '}' ∉ first)
    (hsecond : IsLiteral second) :
    scan none (lineCells 1 (linkLine (first ++ '}' :: second))) = [⟨.escapeRightBrace, 1⟩] := by
  have hpassed : IsPassed (linkIntroduction ++ (link first ++ second)) ('}' :: linkEnding) :=
    (isLiteral_linkIntroduction.isPassed _).append
      ((isPassed_link hfirst _).append (hsecond.isPassed _))
  obtain ⟨last, hlast⟩ := hpassed.scan_lineCells 1
  have hline : linkLine (first ++ '}' :: second) =
      linkIntroduction ++ (link first ++ second) ++ '}' :: linkEnding := by
    simp only [linkLine, link_append_brace, List.append_assoc, List.cons_append, List.nil_append]
  have hending : IsLiteral ((lineCells 1 linkEnding).map Cell.char) := by
    rw [lineCells_map_char]
    exact isLiteral_linkEnding
  rw [hline, hlast, lineCells, List.map_cons, scan]
  exact congrArg (⟨.escapeRightBrace, 1⟩ :: ·) (hending.scan_eq_nil _)

/-- A link with escaped content has no problem unless the content has a right brace: there the link
ends, though the brace is escaped, and the brace that should end it is reported. -/
theorem validate_linkText_escape {content : List Char} (hline : '\n' ∉ content) :
    validate (delimited (linkText (escape content))) =
      if '}' ∈ content then [⟨.escapeRightBrace, 1⟩] else [] := by
  rw [validate_linkText (mt (mem_of_mem_escape (by decide)) hline)]
  split
  · next hbrace =>
    obtain ⟨front, rest, rfl, hfront⟩ := List.eq_append_cons_of_mem hbrace
    -- the backslash before the first brace belongs to what the link holds
    rw [escape_append, escape_cons_of_isPunctuation (by decide), List.append_cons]
    refine scan_linkLine_append_brace ?_ (isLiteral_escape rest)
    rw [List.mem_append, not_or]
    exact ⟨mt (mem_of_mem_escape (by decide)) hfront, by decide⟩
  · next hbrace => exact scan_linkLine_of_notMem (mt (mem_of_mem_escape (by decide)) hbrace)

/-- The star of an address is escaped in a link without a problem, and a right brace is not. -/
theorem starAndBrace_validate_linkText_escape :
    '\n' ∉ "a*b".toList ∧ validate (delimited (linkText (escape "a*b".toList))) = [] ∧
      '\n' ∉ "a\x7db".toList ∧
      validate (delimited (linkText (escape "a\x7db".toList))) = [⟨.escapeRightBrace, 1⟩] :=
  ⟨by decide, validate_linkText_escape (by decide), by decide, validate_linkText_escape (by decide)⟩

/-- A comment with an escaped right brace in a link is not accepted. -/
theorem escapedBraceInLink_validate :
    '\n' ∉ ['}'] ∧ delimited (linkText (escape ['}'])) =
        "/** See \x7b@link \\\x7d\x7d for more. */".toList ∧
      validate (delimited (linkText (escape ['}']))) = [⟨.escapeRightBrace, 1⟩] := by
  decide +kernel

end DocCoverage.DocComment
