import DocCoverage.Proofs.DocComment.FencedCode
import Mathlib

/-!
# Letter case

The validator tells letters from other characters, and one letter from another in the names of tags
only, which it looks up in any case. Each construct of a comment in lower case is therefore the same up
to the words of its messages, and so is what the validator reports.
-/

namespace DocCoverage.DocComment

open Text Tag

/-- A diagnostic without the words of its message. -/
def Diagnostic.outline (diagnostic : Diagnostic) : String × Nat :=
  (diagnostic.problem.id, diagnostic.line)

/-- A construct without the words of its messages. -/
def Construct.outline (construct : Construct) : List (String × Nat) × Nat :=
  (construct.diagnostics.map Diagnostic.outline, construct.length)

/-- Two comments of one length that agree in each character up to ASCII letter case. -/
def SameUpToCase (comment other : List Char) : Prop :=
  List.Forall₂ (fun c d => c.toLower = d.toLower) comment other

/-- A cell with its character in lower case. -/
def Cell.toLower (cell : Cell) : Cell := ⟨cell.char.toLower, cell.line⟩

/-! ## Characters -/

/-- A test gives the same answer in upper and lower case. -/
def Caseless {α : Type} (test : Char → α) : Prop := ∀ c, test c.toLower = test c

/-- A test that tells no letter from another gives the same answer in upper and lower case. -/
theorem caseless_of_forall_isAlpha {α : Type} {test : Char → α} {value : α}
    (hletters : ∀ c, c.isAlpha = true → test c = value) : Caseless test := by
  intro c
  by_cases hupper : c.isUpper = true
  · have hletter : c.isAlpha = true := by rw [Char.isAlpha, hupper, Bool.true_or]
    rw [hletters c hletter, hletters c.toLower (by rwa [Char.isAlpha_toLower_eq_isAlpha])]
  · rw [Char.toLower_eq_of_not_isUpper (by simpa using hupper)]

/-- A letter is a letter or a digit. -/
theorem isAlphanum_of_isAlpha {c : Char} (hc : c.isAlpha = true) : c.isAlphanum = true := by
  rw [Char.isAlphanum, hc, Bool.true_or]

/-- A letter is no blank. -/
theorem isBlank_eq_false_of_isAlpha {c : Char} (hc : c.isAlpha = true) : isBlank c = false := by
  rw [← Bool.not_eq_true]
  intro hblank
  have hother := isAlphanum_eq_false_of_isBlank hblank
  rw [isAlphanum_of_isAlpha hc] at hother
  cases hother

/-- A letter is no punctuation. -/
theorem isPunctuation_eq_false_of_isAlpha {c : Char} (hc : c.isAlpha = true) :
    isPunctuation c = false := by
  have hrange := (isAlphanum_iff c).mp (isAlphanum_of_isAlpha hc)
  simp only [isPunctuation, Bool.or_eq_false_iff, Bool.and_eq_false_iff, decide_eq_false_iff_not]
  omega

/-- The letters do not depend on letter case. -/
theorem caseless_isAlpha : Caseless Char.isAlpha := Char.isAlpha_toLower_eq_isAlpha

/-- The letters and digits do not depend on letter case. -/
theorem caseless_isAlphanum : Caseless Char.isAlphanum :=
  caseless_of_forall_isAlpha fun _ => isAlphanum_of_isAlpha

/-- The blanks do not depend on letter case. -/
theorem caseless_isBlank : Caseless isBlank :=
  caseless_of_forall_isAlpha fun _ => isBlank_eq_false_of_isAlpha

/-- The punctuation does not depend on letter case. -/
theorem caseless_isPunctuation : Caseless isPunctuation :=
  caseless_of_forall_isAlpha fun _ => isPunctuation_eq_false_of_isAlpha

/-- Whether a character is one that is no letter does not depend on its case. -/
theorem toLower_eq_iff {d : Char} (hd : d.isAlpha = false) (c : Char) : c.toLower = d ↔ c = d := by
  have hletters : ∀ c : Char, c.isAlpha = true → (c = d) = False := by
    intro c hc
    rw [eq_iff_iff, iff_false]
    rintro rfl
    rw [hc] at hd
    cases hd
  exact iff_of_eq (caseless_of_forall_isAlpha hletters c)

/-- A character that is no letter is there in both cases. -/
theorem caseless_beq {d : Char} (hd : d.isAlpha = false) : Caseless (· == d) := by
  intro c
  rw [Bool.eq_iff_iff, beq_iff_eq, beq_iff_eq, toLower_eq_iff hd]

/-- One of two tests does not depend on letter case when neither does. -/
theorem Caseless.or {test other : Char → Bool} (htest : Caseless test) (hother : Caseless other) :
    Caseless fun c => test c || other c := fun c => by simp only [htest c, hother c]

/-- Both of two tests do not depend on letter case when neither does. -/
theorem Caseless.and {test other : Char → Bool} (htest : Caseless test) (hother : Caseless other) :
    Caseless fun c => test c && other c := fun c => by simp only [htest c, hother c]

/-- The opposite of a test does not depend on letter case when the test does not. -/
theorem Caseless.not {test : Char → Bool} (htest : Caseless test) : Caseless fun c => !test c :=
  fun c => by simp only [htest c]

/-- The spaces on a line do not depend on letter case. -/
theorem caseless_isSpace : Caseless isSpace := (caseless_beq rfl).or (caseless_beq rfl)

/-- What starts a parameter name does not depend on letter case. -/
theorem caseless_isNameStart : Caseless isNameStart :=
  (caseless_isAlpha.or (caseless_beq rfl)).or (caseless_beq rfl)

/-- What goes on with a parameter name does not depend on letter case. -/
theorem caseless_isNamePart : Caseless isNamePart :=
  (caseless_isAlphanum.or (caseless_beq rfl)).or (caseless_beq rfl)

/-- The lower case of a word in lower case is the word. -/
theorem foldCase_foldCase (word : List Char) : foldCase (foldCase word) = foldCase word := by
  simp [foldCase]

/-- Two texts are put in lower case one after the other. -/
theorem foldCase_append (first second : List Char) :
    foldCase (first ++ second) = foldCase first ++ foldCase second :=
  List.map_append

/-- A tag has its name in any case. -/
theorem find?_foldCase (name : List Char) : Tag.find? (foldCase name) = Tag.find? name := by
  rw [Tag.find?, Tag.find?, foldCase_foldCase]

/-! ## Cells -/

/-- A cell in lower case stands on its line. -/
@[simp]
theorem Cell.toLower_line (cell : Cell) : cell.toLower.line = cell.line := rfl

/-- A cell in lower case has its character in lower case. -/
@[simp]
theorem Cell.toLower_char (cell : Cell) : cell.toLower.char = cell.char.toLower := rfl

/-- Cells in lower case hold their text in lower case. -/
theorem map_char_map_toLower (cells : List Cell) :
    (cells.map Cell.toLower).map Cell.char = foldCase (cells.map Cell.char) := by
  rw [foldCase, List.map_map, List.map_map]
  rfl

/-- The leading characters of cells in lower case. -/
theorem leading_map_toLower {test : Char → Bool} (htest : Caseless test) (cells : List Cell) :
    leading test (cells.map Cell.toLower) = foldCase (leading test cells) := by
  rw [leading, leading, map_char_map_toLower, foldCase, foldCase, List.takeWhile_map]
  congr 2
  exact funext htest

/-- The first character is put in lower case. -/
theorem firstChar_map_toLower (cells : List Cell) :
    firstChar (cells.map Cell.toLower) = (firstChar cells).map Char.toLower := by
  cases cells <;> rfl

/-- A test of the first character. -/
theorem any_firstChar_map_toLower {test : Char → Bool} (htest : Caseless test)
    (cells : List Cell) :
    (firstChar (cells.map Cell.toLower)).any test = (firstChar cells).any test := by
  rw [firstChar_map_toLower]
  cases firstChar cells with
  | none => rfl
  | some c => exact htest c

/-- The first character is one that is no letter. -/
theorem firstChar_map_toLower_eq_some_iff {d : Char} (hd : d.isAlpha = false)
    (cells : List Cell) :
    firstChar (cells.map Cell.toLower) = some d ↔ firstChar cells = some d := by
  rw [firstChar_map_toLower]
  cases firstChar cells with
  | none => simp
  | some c => rw [Option.map_some, Option.some.injEq, Option.some.injEq, toLower_eq_iff hd]

/-- A word has as many characters in lower case. -/
@[simp]
theorem length_foldCase (word : List Char) : (foldCase word).length = word.length :=
  List.length_map _

/-- A word in lower case is empty where the word is. -/
@[simp]
theorem isEmpty_foldCase (word : List Char) : (foldCase word).isEmpty = word.isEmpty := by
  cases word <;> rfl

/-- Letter case does not move what is reported to another line. -/
theorem lineAt_map_toLower (start : Cell) (cells : List Cell) :
    lineAt start.toLower (cells.map Cell.toLower) = lineAt start cells := by
  cases cells <;> rfl

/-! ## Constructs -/

/-- A backslash does not depend on letter case. -/
theorem backslash_toLower (start : Cell) (rest : List Cell) :
    (backslash start.toLower (rest.map Cell.toLower)).outline = (backslash start rest).outline := by
  simp only [backslash, any_firstChar_map_toLower caseless_isPunctuation, Cell.toLower_line]

/-- A code span does not depend on letter case. -/
theorem codeSpan_toLower (start : Cell) (rest : List Cell) :
    (codeSpan start.toLower (rest.map Cell.toLower)).outline = (codeSpan start rest).outline := by
  have hbody : Caseless fun c => c != '\x60' && c != '\n' :=
    (caseless_beq rfl).not.and (caseless_beq rfl).not
  have hclose : Char.isAlpha '\x60' = false := rfl
  simp only [codeSpan, leading_map_toLower hbody, length_foldCase, isEmpty_foldCase, ← List.map_drop,
    firstChar_map_toLower_eq_some_iff hclose, Cell.toLower_line]

/-- A tag name starts with a letter of any case. -/
theorem isTagName_foldCase (name : List Char) : isTagName (foldCase name) = isTagName name := by
  cases name with
  | nil => rfl
  | cons c rest => exact caseless_isAlpha c

/-- The name of an inline tag has the same problems up to the words of their messages. -/
theorem inlineTagProblems_foldCase (name : List Char) :
    (inlineTagProblems (foldCase name)).map Problem.id =
      (inlineTagProblems name).map Problem.id := by
  rw [inlineTagProblems, inlineTagProblems, find?_foldCase]
  cases Tag.find? name <;> rfl

/-- What is reported at one place, without the words of the messages. -/
theorem map_outline_map (problems : List Problem) (line : Nat) :
    (problems.map (Diagnostic.mk · line)).map Diagnostic.outline =
      (problems.map Problem.id).map (·, line) := by
  rw [List.map_map, List.map_map]
  rfl

/-- An inline tag does not depend on letter case. -/
theorem inlineTag_toLower (start : Cell) (rest : List Cell) :
    (inlineTag start.toLower (rest.map Cell.toLower)).outline = (inlineTag start rest).outline := by
  have hat : Char.isAlpha '@' = false := rfl
  have hbody : Caseless (· != '}') := (caseless_beq rfl).not
  have hafter : Caseless fun c => c == '}' || isBlank c := (caseless_beq rfl).or caseless_isBlank
  simp only [inlineTag, firstChar_map_toLower_eq_some_iff hat, ← List.map_drop,
    leading_map_toLower caseless_isAlphanum, leading_map_toLower hbody, isTagName_foldCase,
    length_foldCase, List.length_map, any_firstChar_map_toLower hafter, Cell.toLower_line]
  split
  · split
    · split
      · rfl
      · simp only [Construct.outline, map_outline_map, List.map_append, inlineTagProblems_foldCase]
        split <;> rfl
    · rfl
  · rfl

/-- The length up to a closing character does not depend on letter case. -/
theorem lengthPast_map_toLower {close : Char} (hclose : close.isAlpha = false) (cells : List Cell) :
    lengthPast close (cells.map Cell.toLower) = lengthPast close cells := by
  have hbefore : Caseless fun c => c != close && c != '\n' :=
    (caseless_beq hclose).not.and (caseless_beq rfl).not
  simp only [lengthPast, leading_map_toLower hbefore, length_foldCase, ← List.map_drop,
    firstChar_map_toLower_eq_some_iff hclose]

/-- A word of a parameter name is one in both cases. -/
theorem isNameWord_foldCase (word : List Char) : isNameWord (foldCase word) = isNameWord word := by
  cases word with
  | nil => rfl
  | cons c rest =>
    have hrest : (foldCase rest).all isNamePart = rest.all isNamePart := by
      rw [foldCase, List.all_map]
      congr 1
      exact funext caseless_isNamePart
    change (isNameStart c.toLower && (foldCase rest).all isNamePart) = _
    rw [caseless_isNameStart, hrest, isNameWord]

/-- The pieces of a text between separators that are no letters. -/
theorem pieces_foldCase {separator : Char} (hseparator : separator.isAlpha = false)
    (text : List Char) : pieces separator (foldCase text) = (pieces separator text).map foldCase := by
  induction text with
  | nil => rfl
  | cons c rest ih =>
    change pieces separator (c.toLower :: foldCase rest) = _
    rw [pieces, ih, pieces]
    cases pieces separator rest with
    | nil => rfl
    | cons first others =>
      simp only [List.map_cons, toLower_eq_iff hseparator]
      split <;> rfl

/-- A parameter name is one in both cases. -/
theorem isParamName_foldCase (name : List Char) : isParamName (foldCase name) = isParamName name := by
  rw [isParamName, isParamName, pieces_foldCase rfl, List.all_map]
  congr 1
  exact funext isNameWord_foldCase

/-- What follows a parameter tag does not depend on letter case. -/
theorem paramBlock_toLower (tag : String) (start : Cell) (rest : List Cell) :
    (paramBlock tag start.toLower (rest.map Cell.toLower)).outline =
      (paramBlock tag start rest).outline := by
  have hname : Caseless fun c => !isBlank c := caseless_isBlank.not
  have hhyphen : Char.isAlpha '-' = false := rfl
  have hbody : (rest.drop (leading isSpace rest).length).map Cell.toLower =
      (rest.map Cell.toLower).drop (leading isSpace (rest.map Cell.toLower)).length := by
    rw [List.map_drop, leading_map_toLower caseless_isSpace, length_foldCase]
  have hfirst {d : Char} (hd : d.isAlpha = false) :=
    firstChar_map_toLower_eq_some_iff hd (rest.drop (leading isSpace rest).length)
  -- the brackets are taken apart first: the routine matches on them before any test is made
  by_cases hbrace : firstChar (rest.drop (leading isSpace rest).length) = some '{'
  · have hclose : Char.isAlpha '}' = false := rfl
    simp only [paramBlock, ← List.map_drop, (hfirst rfl).mpr hbrace, hbrace, lineAt_map_toLower,
      lengthPast_map_toLower hclose, leading_map_toLower caseless_isSpace, length_foldCase]
  · by_cases hbracket : firstChar (rest.drop (leading isSpace rest).length) = some '['
    · have hclose : Char.isAlpha ']' = false := rfl
      simp only [paramBlock, ← List.map_drop, (hfirst rfl).mpr hbracket, hbracket, lineAt_map_toLower,
        lengthPast_map_toLower hclose, leading_map_toLower caseless_isSpace, length_foldCase]
    · rw [paramBlock_of_ne tag _ hbody (mt (hfirst rfl).mp hbrace) (mt (hfirst rfl).mp hbracket),
        paramBlock_of_ne tag _ rfl hbrace hbracket]
      simp only [leading_map_toLower caseless_isSpace, length_foldCase, leading_map_toLower hname,
        ← List.map_drop, isEmpty_foldCase, isParamName_foldCase, lineAt_map_toLower,
        firstChar_map_toLower_eq_some_iff hhyphen]
      split
      · rfl
      · split <;> rfl

/-- Whether a message follows does not depend on letter case. -/
theorem hasMessage_map_toLower (free : Bool) (cells : List Cell) :
    hasMessage free (cells.map Cell.toLower) = hasMessage free cells := by
  have hat : Char.isAlpha '@' = false := rfl
  induction cells generalizing free with
  | nil => rfl
  | cons cell rest ih =>
    rw [List.map_cons, hasMessage, hasMessage, ih, any_firstChar_map_toLower caseless_isAlpha,
      Cell.toLower_char, caseless_isBlank]
    simp only [toLower_eq_iff hat]

/-- What a tag requires after it does not depend on letter case. -/
theorem tagBlock_toLower (tag : String) (start : Cell) (rest : List Cell) :
    (tagBlock tag start.toLower (rest.map Cell.toLower)).outline =
      (tagBlock tag start rest).outline := by
  rw [tagBlock, tagBlock]
  split
  · exact paramBlock_toLower tag start rest
  · rw [hasMessage_map_toLower, lineAt_map_toLower]

/-- A block tag does not depend on letter case. -/
theorem blockTag_toLower (previous : Option Char) (start : Cell) (rest : List Cell) :
    (blockTag (previous.map Char.toLower) start.toLower (rest.map Cell.toLower)).outline =
      (blockTag previous start rest).outline := by
  have hword : Caseless fun c => !isBlank c := caseless_isBlank.not
  have hprevious : (previous.map Char.toLower).any (fun c => !isBlank c) =
      previous.any fun c => !isBlank c := by
    cases previous with
    | none => rfl
    | some c => exact hword c
  simp only [blockTag, hprevious, leading_map_toLower caseless_isAlphanum, length_foldCase,
    leading_map_toLower hword, isTagName_foldCase, ← List.map_drop, any_firstChar_map_toLower hword,
    find?_foldCase, Cell.toLower_line]
  split
  · rfl
  · split
    · rfl
    · split
      · rfl
      · cases Tag.find? (leading Char.isAlphanum rest) with
        | none => rfl
        | some tag =>
          dsimp only
          split
          · rfl
          · have hblock := tagBlock_toLower tag.name start
              (rest.drop (leading Char.isAlphanum rest).length)
            rw [Construct.outline, Construct.outline, Prod.mk.injEq] at hblock ⊢
            exact ⟨hblock.1, congrArg ((leading Char.isAlphanum rest).length + ·) hblock.2⟩

/-- The attributes of an element tag do not depend on letter case. -/
theorem attributes_map_toLower (quote : Option Char) (cells : List Cell) :
    attributes quote (cells.map Cell.toLower) = attributes quote cells := by
  induction cells generalizing quote with
  | nil => rfl
  | cons cell rest ih =>
    have hclose : cell.char.toLower = '>' ↔ cell.char = '>' := toLower_eq_iff rfl _
    have hopen : cell.char.toLower = '<' ↔ cell.char = '<' := toLower_eq_iff rfl _
    have hline : cell.char.toLower = '\n' ↔ cell.char = '\n' := toLower_eq_iff rfl _
    have hdouble : cell.char.toLower = '\x22' ↔ cell.char = '\x22' := toLower_eq_iff rfl _
    have hsingle : cell.char.toLower = '\x27' ↔ cell.char = '\x27' := toLower_eq_iff rfl _
    simp only [List.map_cons, attributes, Cell.toLower_char, hclose, hopen, hline, hdouble, hsingle, ih]
    split
    · rfl
    · split
      · next hmark =>
        -- the open quotation mark is compared with the character itself
        have hsame : cell.char.toLower = cell.char := by
          rcases hmark with hmark | hmark
          · rw [hdouble.mpr hmark, hmark]
          · rw [hsingle.mpr hmark, hmark]
        simp only [hsame]
      · rfl

/-- An element tag does not depend on letter case. -/
theorem htmlTag_toLower (start : Cell) (rest : List Cell) :
    (htmlTag start.toLower (rest.map Cell.toLower)).outline = (htmlTag start rest).outline := by
  have hname : Caseless fun c => c.isAlphanum || c == '-' :=
    caseless_isAlphanum.or (caseless_beq rfl)
  have hslash : Char.isAlpha '/' = false := rfl
  simp only [htmlTag, firstChar_map_toLower_eq_some_iff hslash, ← List.map_drop,
    any_firstChar_map_toLower caseless_isAlpha, leading_map_toLower hname, length_foldCase,
    attributes_map_toLower, Cell.toLower_line]

/-- A construct is the same in any case up to the words of its messages. -/
theorem construct_toLower (previous : Option Char) (start : Cell) (rest : List Cell) :
    (construct (previous.map Char.toLower) start.toLower (rest.map Cell.toLower)).outline =
      (construct previous start rest).outline := by
  have hsame {d : Char} (hd : d.isAlpha = false) (hc : start.char = d) : start.toLower.char = d :=
    (toLower_eq_iff hd start.char).mpr hc
  by_cases hspecial : start.char ∈ specialChars
  · simp only [specialChars, List.mem_cons, List.not_mem_nil, or_false] at hspecial
    rcases hspecial with hc | hc | hc | hc | hc | hc | hc <;>
      simp only [construct, hsame rfl hc, hc]
    · exact backslash_toLower start rest
    · exact codeSpan_toLower start rest
    · exact inlineTag_toLower start rest
    · rfl
    · exact blockTag_toLower previous start rest
    · exact htmlTag_toLower start rest
    · rfl
  · have hother : start.toLower.char ∉ specialChars := by
      intro hmem
      have hletters : ∀ d ∈ specialChars, d.isAlpha = false := by
        simp [specialChars]
      rw [Cell.toLower_char] at hmem
      have hsame : start.char = start.char.toLower := (toLower_eq_iff (hletters _ hmem) _).mp rfl
      rw [← hsame] at hmem
      exact hspecial hmem
    rw [construct_of_notMem _ _ hspecial, construct_of_notMem _ _ hother]

/-- The scanner reports the same in any case up to the words of the messages. -/
theorem scan_toLower (previous : Option Char) (cells : List Cell) :
    (scan (previous.map Char.toLower) (cells.map Cell.toLower)).map Diagnostic.outline =
      (scan previous cells).map Diagnostic.outline := by
  fun_induction scan previous cells with
  | case1 previous => simp [scan]
  | case2 previous start rest found last ih =>
    have hconstruct := construct_toLower previous start rest
    rw [Construct.outline, Construct.outline, Prod.mk.injEq] at hconstruct
    obtain ⟨hdiagnostics, hlength⟩ := hconstruct
    have hlast : (((start.toLower :: (rest.map Cell.toLower).take found.length).getLast?).map
        Cell.char) = last.map Char.toLower := by
      rw [← List.map_take, ← List.map_cons, List.getLast?_map, Option.map_map, Option.map_map]
      rfl
    rw [List.map_cons, scan]
    simp only [hlength, List.map_append, hdiagnostics]
    rw [hlast, ← List.map_drop, ih]

/-! ## Comments -/

/-- A word without letters comes from the same word only. -/
theorem foldCase_eq_iff {word : List Char} (hword : ∀ c ∈ word, c.isAlpha = false)
    (text : List Char) : foldCase text = word ↔ text = word := by
  induction text generalizing word with
  | nil => rfl
  | cons c rest ih =>
    cases word with
    | nil => simp [foldCase]
    | cons d word =>
      obtain ⟨hd, hword⟩ := List.forall_mem_cons.mp hword
      rw [foldCase, List.map_cons, List.cons.injEq, List.cons.injEq, toLower_eq_iff hd]
      exact and_congr_right fun _ => ih hword

/-- A word without letters stands in front of a text in any case. -/
theorem prefix_foldCase_iff {word : List Char} (hword : ∀ c ∈ word, c.isAlpha = false)
    (text : List Char) : word <+: foldCase text ↔ word <+: text := by
  constructor
  · rintro ⟨after, hafter⟩
    obtain ⟨front, rest, rfl, hfront, -⟩ := List.map_eq_append_iff.mp hafter.symm
    obtain rfl := (foldCase_eq_iff hword front).mp hfront
    exact List.prefix_append front rest
  · rintro ⟨after, rfl⟩
    rw [foldCase_append, (foldCase_eq_iff hword word).mpr rfl]
    exact List.prefix_append word (foldCase after)

/-- A word without letters stands at the end of a text in any case. -/
theorem suffix_foldCase_iff {word : List Char} (hword : ∀ c ∈ word, c.isAlpha = false)
    (text : List Char) : word <:+ foldCase text ↔ word <:+ text := by
  have hreverse : ∀ c ∈ word.reverse, c.isAlpha = false :=
    fun c hc => hword c (List.mem_reverse.mp hc)
  have hiff := prefix_foldCase_iff hreverse text.reverse
  rwa [foldCase, List.map_reverse, List.reverse_prefix, List.reverse_prefix] at hiff

/-- The inner text of a comment in lower case. -/
theorem inner_foldCase (comment : List Char) :
    inner (foldCase comment) = (inner comment).map foldCase := by
  have hopen : ['/', '*', '*'] <+: foldCase comment ↔ ['/', '*', '*'] <+: comment :=
    prefix_foldCase_iff (by simp) comment
  by_cases hopening : ['/', '*', '*'] <+: comment
  · obtain ⟨body, rfl⟩ := hopening
    have hclose : ['*', '/'] <:+ foldCase body ↔ ['*', '/'] <:+ body :=
      suffix_foldCase_iff (by simp) body
    change inner (['/', '*', '*'] ++ foldCase body) = _
    by_cases hclosing : ['*', '/'] <:+ body
    · obtain ⟨text, rfl⟩ := hclosing
      rw [(inner_eq_ok_iff _ text).mpr (List.append_assoc _ _ _).symm, foldCase_append]
      exact (inner_eq_ok_iff _ _).mpr (List.append_assoc _ _ _).symm
    · rw [inner_eq_missingClosingDelimiter hclosing,
        inner_eq_missingClosingDelimiter (mt hclose.mp hclosing)]
      rfl
  · rw [inner_eq_missingOpeningDelimiter hopening,
      inner_eq_missingOpeningDelimiter (mt hopen.mp hopening)]
    rfl

/-- The blanks at the front are dropped in any case. -/
theorem trimStart_foldCase (line : List Char) :
    trimStart (foldCase line) = foldCase (trimStart line) := by
  rw [trimStart, trimStart, foldCase, foldCase, List.dropWhile_map]
  congr 2
  exact funext caseless_isBlank

/-- A line is trimmed in the same way in both cases. -/
theorem trim_foldCase (line : List Char) : trim (foldCase line) = foldCase (trim line) := by
  have hend (text : List Char) : trimEnd text = (trimStart text.reverse).reverse := rfl
  have hreverse (text : List Char) : (foldCase text).reverse = foldCase text.reverse :=
    List.map_reverse.symm
  simp only [trim, hend, trimStart_foldCase, hreverse]

/-- A text starts with a character that is no letter in any case. -/
theorem head?_foldCase_eq_some_iff {d : Char} (hd : d.isAlpha = false) (text : List Char) :
    (foldCase text).head? = some d ↔ text.head? = some d := by
  cases text with
  | nil => rfl
  | cons c rest => exact (Option.some_inj.trans (toLower_eq_iff hd c)).trans Option.some_inj.symm

/-- The star of a line is taken away in any case. -/
theorem undecorate_foldCase (line : List Char) :
    undecorate (foldCase line) = foldCase (undecorate line) := by
  by_cases hstar : line.head? = some '*'
  · obtain ⟨rest, rfl⟩ := List.head?_eq_some_iff.mp hstar
    change undecorate ('*' :: foldCase rest) = _
    by_cases hspace : rest.head? = some ' '
    · obtain ⟨rest, rfl⟩ := List.head?_eq_some_iff.mp hspace
      rfl
    · rw [undecorate_star_of_head?_ne hspace,
        undecorate_star_of_head?_ne (mt (head?_foldCase_eq_some_iff rfl rest).mp hspace)]
  · rw [undecorate_of_head?_ne hstar,
      undecorate_of_head?_ne (mt (head?_foldCase_eq_some_iff rfl line).mp hstar)]

/-- The content lines of a text in lower case. -/
theorem contentLines_foldCase (text : List Char) :
    contentLines (foldCase text) = (contentLines text).map foldCase := by
  rw [contentLines, contentLines, pieces_foldCase rfl]
  cases pieces '\n' text with
  | nil => rfl
  | cons first others => simp [trim_foldCase, undecorate_foldCase]

/-- A fence is one in both cases. -/
theorem isFence_foldCase (line : List Char) : isFence (foldCase line) = isFence line := by
  rw [isFence, isFence, trimStart_foldCase, Bool.eq_iff_iff, List.isPrefixOf_iff_prefix,
    List.isPrefixOf_iff_prefix, prefix_foldCase_iff (by simp)]

/-- Fenced code is the same in lower case. -/
theorem maskFences_foldCase (fence : Option Nat) (number : Nat) (lines : List (List Char)) :
    maskFences fence number (lines.map foldCase) =
      ((maskFences fence number lines).1.map foldCase, (maskFences fence number lines).2) := by
  induction lines generalizing fence number with
  | nil => rfl
  | cons line rest ih =>
    simp only [List.map_cons, maskFences, isFence_foldCase, ih]
    split
    · rfl
    · split <;> rfl

/-- The cells of lines in lower case. -/
theorem flatten_foldCase (lines : List (List Char)) :
    flatten (lines.map foldCase) = (flatten lines).map Cell.toLower := by
  have hcells (number : Nat) (line : List Char) :
      lineCells number (foldCase line) = (lineCells number line).map Cell.toLower := by
    rw [lineCells, lineCells, foldCase, List.map_map, List.map_map]
    rfl
  have hlater (number : Nat) (rest : List (List Char)) :
      laterCells number (rest.map foldCase) = (laterCells number rest).map Cell.toLower := by
    induction rest generalizing number with
    | nil => rfl
    | cons line rest ih =>
      rw [List.map_cons, laterCells, laterCells, ih, hcells, List.map_append, List.map_cons]
      rfl
  cases lines with
  | nil => rfl
  | cons first rest => rw [List.map_cons, flatten, flatten, hcells, hlater, List.map_append]

/-- The validator reports the same in any case up to the words of the messages. -/
theorem validate_foldCase (comment : List Char) :
    (validate (foldCase comment)).map Diagnostic.outline =
      (validate comment).map Diagnostic.outline := by
  rw [validate, validate, inner_foldCase]
  cases inner comment with
  | error problem =>
    cases problem <;> simp [Except.map, pieces_foldCase]
  | ok text =>
    have hscan := scan_toLower none (flatten (maskFences none 1 (contentLines text)).1)
    simp only [Except.map, contentLines_foldCase, maskFences_foldCase, flatten_foldCase,
      List.map_append]
    rw [← hscan]
    rfl

/-- Comments that agree up to case are the same in lower case. -/
theorem sameUpToCase_iff (comment other : List Char) :
    SameUpToCase comment other ↔ foldCase comment = foldCase other := by
  rw [SameUpToCase, foldCase, foldCase, ← List.forall₂_eq_eq_eq, List.forall₂_map_left_iff,
    List.forall₂_map_right_iff]

end DocCoverage.DocComment
