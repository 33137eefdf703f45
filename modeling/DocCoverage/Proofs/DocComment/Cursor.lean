import DocCoverage.DocComment.Scanner

/-!
# A scanner with a cursor

The cells of a comment can also be read in place: a cursor moves over them, and what a construct needs to
know is read by position. There are two ways to do so. `look` tells what stands at a position, or that
nothing does. `read` must not be asked for a position outside of the cells: there is no answer then, and
none for the whole construct. Searches that run up to the end of the cells, and the character before a tag
or a message, are read in this second way.
-/

namespace DocCoverage.DocComment

open Text

/-- Where the cursor stands after a construct, and what was reported on the way. -/
structure Advance where
  next : Nat
  diagnostics : List Diagnostic
  deriving DecidableEq, Repr

variable (cells : List Cell)

/-- The character at a position, if there is one. -/
def look (pos : Nat) : Option Char := (cells[pos]?).map Cell.char

/-- The character at a position where there has to be one. -/
def read (pos : Nat) : Option Char := look cells pos

/-- A problem is reported on the line of the cell under the cursor, or of the last cell when the cursor is
behind it. -/
def reportAt (pos : Nat) (problem : Problem) : Diagnostic :=
  ⟨problem, ((cells[pos]?).or cells.getLast?).elim 1 Cell.line⟩

/-- The position after the characters from a position on that pass a test. -/
def skipWhile (test : Char → Bool) (pos : Nat) : Nat :=
  match hcell : cells[pos]? with
  | none => pos
  | some cell => if test cell.char then skipWhile test (pos + 1) else pos
termination_by cells.length - pos
decreasing_by
  have hlt := (List.getElem?_eq_some_iff.mp hcell).1
  omega

/-- The position after the next closing character, or at the end of the line. -/
def skipPast (close : Char) (pos : Nat) : Nat :=
  match hcell : cells[pos]? with
  | none => pos
  | some cell =>
    if cell.char = '\n' then pos
    else if cell.char = close then pos + 1
    else skipPast close (pos + 1)
termination_by cells.length - pos
decreasing_by
  have hlt := (List.getElem?_eq_some_iff.mp hcell).1
  omega

/-- The position of the next closing character, if there is one before a character that stops the search
or the end of the cells. -/
def seek (stops : Char → Bool) (close : Char) (pos : Nat) : Option (Option Nat) :=
  if pos < cells.length then do
    let c ← read cells pos
    if stops c then return none
    else if c = close then return some pos
    else seek stops close (pos + 1)
  else return none
termination_by cells.length - pos

/-- The name that starts at a position. -/
def nameAt (pos : Nat) : List Char := leading Char.isAlphanum (cells.drop pos)

/-- A backslash escapes the punctuation after it and is reported before anything else. -/
def backslashAt (pos : Nat) : Advance :=
  if (look cells (pos + 1)).any isPunctuation then ⟨pos + 2, []⟩
  else ⟨pos + 1, [reportAt cells pos .unnecessaryBackslash]⟩

/-- A code span runs to the next backtick of its line and is not empty. -/
def codeSpanAt (pos : Nat) : Option Advance := do
  match ← seek cells (· == '\n') '\x60' (pos + 1) with
  | none => return ⟨pos + 1, [reportAt cells pos .codeSpanMissingDelimiter]⟩
  | some close =>
    if close = pos + 1 then return ⟨close + 1, [reportAt cells pos .codeSpanEmpty]⟩
    else return ⟨close + 1, []⟩

/-- An inline tag runs to the next right brace, wherever that stands. -/
def inlineTagAt (pos : Nat) : Option Advance :=
  let name := nameAt cells (pos + 2)
  let after := pos + 2 + name.length
  if look cells (pos + 1) ≠ some '@' then
    return ⟨pos + 1, [reportAt cells pos .expectedInlineTag]⟩
  else if !isTagName name then return ⟨pos + 2, [reportAt cells pos .expectedInlineTagName]⟩
  else do
    match ← seek cells (fun _ => false) '}' after with
    | none =>
      return ⟨cells.length, [reportAt cells pos (.inlineTagMissingRightBrace (String.ofList name))]⟩
    | some close =>
      let malformed :=
        if (look cells after).any (fun c => c == '}' || isBlank c) then []
        else [Problem.inlineTagInvalidCharacter (String.ofList name)]
      return ⟨close + 1, (malformed ++ inlineTagProblems name).map (reportAt cells pos)⟩

/-- What a tag for a parameter is followed by: a name and a hyphen, with no type and no brackets. -/
def paramBlockAt (tag : String) (pos : Nat) : Advance :=
  let pos := skipWhile cells isSpace pos
  match look cells pos with
  | some '{' => ⟨skipPast cells '}' pos, [reportAt cells pos (.paramWithType tag)]⟩
  | some '[' => ⟨skipPast cells ']' pos, [reportAt cells pos (.paramWithOptionalName tag)]⟩
  | _ =>
    let name := leading (fun c => !isBlank c) (cells.drop pos)
    if name.isEmpty then ⟨pos, [reportAt cells pos (.paramMissingName tag)]⟩
    else if isParamName name then
      let pos := skipWhile cells isSpace (pos + name.length)
      if look cells pos = some '-' then ⟨pos + 1, []⟩
      else ⟨pos, [reportAt cells pos (.paramMissingHyphen tag)]⟩
    else ⟨pos + name.length, [reportAt cells pos (.paramInvalidName tag (String.ofList name))]⟩

/-- Whether a tag may start at a position: nothing or a blank stands before it. -/
def isFree (pos : Nat) : Option Bool :=
  if pos = 0 then return true
  else do
    let c ← read cells (pos - 1)
    return isBlank c

/-- Whether a block tag starts with the character at a position. -/
def startsTagAt (pos : Nat) (c : Char) : Option Bool :=
  if c = '@' then do
    let free ← isFree cells pos
    return free && (look cells (pos + 1)).any Char.isAlpha
  else return false

/-- Whether a message starts at a position or after blanks, before the next block tag. -/
def hasMessageAt (pos : Nat) : Option Bool :=
  if pos < cells.length then do
    let c ← read cells pos
    let startsTag ← startsTagAt cells pos c
    if startsTag then return false
    else if isBlank c then hasMessageAt (pos + 1)
    else return true
  else return false
termination_by cells.length - pos

/-- What a tag with a canonical name requires after it. -/
def tagBlockAt (tag : String) (pos : Nat) : Option Advance :=
  if tag = "param" ∨ tag = "typeParam" then return paramBlockAt cells tag pos
  else if tag = "deprecated" then do
    let message ← hasMessageAt cells pos
    return ⟨pos, if message then [] else [reportAt cells pos .missingDeprecationMessage]⟩
  else return ⟨pos, []⟩

/-- A tag outside of braces, which blanks surround. -/
def blockTagAt (pos : Nat) : Option Advance := do
  let name := nameAt cells (pos + 1)
  let after := pos + 1 + name.length
  let free ← isFree cells pos
  if !free then return ⟨pos + 1, [reportAt cells pos .atSignInWord]⟩
  else if !isTagName name then return ⟨pos + 1, [reportAt cells pos .missingTag]⟩
  else if (look cells after).any (fun c => !isBlank c) then
    return ⟨skipWhile cells (fun c => !isBlank c) pos,
      [reportAt cells pos (.charactersAfterTag (String.ofList name))]⟩
  else
    match Tag.find? name with
    | none => return ⟨after, [reportAt cells pos (.undefinedTag (String.ofList name))]⟩
    | some tag =>
      if tag.syntaxKind = .inline then
        return ⟨after, [reportAt cells pos (.tagShouldHaveBraces tag.name)]⟩
      else tagBlockAt cells tag.name after

/-- The position after the rest of an element tag, and whether the tag is closed there. `quote` is the
quotation mark that is open. -/
def attributesAt (quote : Option Char) (pos : Nat) : Nat × Bool :=
  match hcell : cells[pos]? with
  | none => (pos, false)
  | some cell =>
    let c := cell.char
    if c = '>' ∧ quote = none then (pos + 1, true)
    else if c = '\x22' ∨ c = '\x27' then
      attributesAt (if quote = some c then none else if quote = none then some c else quote) (pos + 1)
    else if c = '\n' ∨ (c = '<' ∧ quote = none) then (pos, false)
    else attributesAt quote (pos + 1)
termination_by cells.length - pos
decreasing_by
  all_goals
    have hlt := (List.getElem?_eq_some_iff.mp hcell).1
    omega

/-- An HTML tag runs over its name and its attributes to the sign that ends it. -/
def htmlTagAt (pos : Nat) : Advance :=
  let named := if look cells (pos + 1) = some '/' then pos + 2 else pos + 1
  if (look cells named).any Char.isAlpha then
    let after := attributesAt cells none (skipWhile cells (fun c => c.isAlphanum || c == '-') named)
    ⟨after.1, if after.2 then [] else [reportAt cells pos .htmlTagMissingGreaterThan]⟩
  else ⟨pos + 1, [reportAt cells pos .malformedHtmlName]⟩

/-- One iteration of the scanner, with the cursor on a character. -/
def advance (pos : Nat) (c : Char) : Option Advance :=
  match c with
  | '\\' => return backslashAt cells pos
  | '\x60' => codeSpanAt cells pos
  | '{' => inlineTagAt cells pos
  | '}' => return ⟨pos + 1, [reportAt cells pos .escapeRightBrace]⟩
  | '@' => blockTagAt cells pos
  | '<' => return htmlTagAt cells pos
  | '>' => return ⟨pos + 1, [reportAt cells pos .escapeGreaterThan]⟩
  | _ => return ⟨pos + 1, []⟩

/-- What is reported from a position on until nothing stands under the cursor. There is no answer when the
iterations are used up before that. -/
def runFrom : Nat → Nat → Option (List Diagnostic)
  | 0, pos => if (look cells pos).isNone then some [] else none
  | iterations + 1, pos =>
    match look cells pos with
    | none => some []
    | some c => do
      let step ← advance cells pos c
      let later ← runFrom iterations step.next
      return step.diagnostics ++ later

/-! ## Searches -/

variable {cells} {pos : Nat} {cell : Cell}

/-- The cells from a position on, with the one that stands there. -/
theorem drop_of_getElem? (hcell : cells[pos]? = some cell) :
    cells.drop pos = cell :: cells.drop (pos + 1) := by
  obtain ⟨hlt, rfl⟩ := List.getElem?_eq_some_iff.mp hcell
  exact List.drop_eq_getElem_cons hlt

/-- No cells are left behind the last one. -/
theorem drop_of_getElem?_eq_none (hcell : cells[pos]? = none) : cells.drop pos = [] :=
  List.drop_eq_nil_of_le (List.getElem?_eq_none_iff.mp hcell)

/-- What is looked at is the first of the characters from the position on. -/
theorem look_eq (cells : List Cell) (pos : Nat) : look cells pos = firstChar (cells.drop pos) := by
  rw [look, firstChar, List.head?_drop]

/-- What is read within the cells is there. -/
theorem read_of_getElem? (hcell : cells[pos]? = some cell) : read cells pos = some cell.char := by
  rw [read, look, hcell, Option.map_some]

/-- Leading characters go on with the next one that passes. -/
theorem leading_cons (test : Char → Bool) (cell : Cell) (rest : List Cell) :
    leading test (cell :: rest) = if test cell.char then cell.char :: leading test rest else [] := by
  rw [leading, leading, List.map_cons, List.takeWhile_cons]

/-- The leading other characters are all of them where the one that is looked for does not follow. -/
theorem length_leading_ne_iff (c : Char) (cells : List Cell) :
    (leading (· != c) cells).length = cells.length ↔
      firstChar (cells.drop (leading (· != c) cells).length) ≠ some c := by
  induction cells with
  | nil => simp [leading, firstChar]
  | cons cell rest ih =>
    rw [leading_cons]
    by_cases hfound : cell.char = c
    · simp [hfound, firstChar]
    · rw [if_pos (by simpa using hfound), List.length_cons, List.length_cons, Nat.succ_inj, ih]
      rfl

/-- The cursor skips the leading characters that pass a test. -/
theorem skipWhile_eq (cells : List Cell) (test : Char → Bool) (pos : Nat) :
    skipWhile cells test pos = pos + (leading test (cells.drop pos)).length := by
  fun_induction skipWhile cells test pos with
  | case1 pos hcell => rw [drop_of_getElem?_eq_none hcell]; rfl
  | case2 pos cell hcell hpass ih =>
    rw [ih, drop_of_getElem? hcell, leading_cons, if_pos hpass, List.length_cons]
    omega
  | case3 pos cell hcell hpass =>
    rw [drop_of_getElem? hcell, leading_cons, if_neg hpass]
    rfl

/-- The number of characters up to a closing one, character by character. -/
theorem lengthPast_cons {close : Char} (hclose : close ≠ '\n') (cell : Cell) (rest : List Cell) :
    lengthPast close (cell :: rest) =
      if cell.char = '\n' then 0 else if cell.char = close then 1 else lengthPast close rest + 1 := by
  have hfirst : firstChar (cell :: rest) = some cell.char := rfl
  simp only [lengthPast, leading_cons]
  by_cases hfeed : cell.char = '\n'
  · simp [hfeed, hfirst, hclose.symm]
  · by_cases hend : cell.char = close
    · simp [hend, hfirst, hclose]
    · have hpass : (cell.char != close && cell.char != '\n') = true := by simp [hend, hfeed]
      rw [if_neg hfeed, if_neg hend, if_pos hpass, List.length_cons, List.drop_succ_cons]
      split <;> rfl

/-- The cursor skips the characters up to a closing one on the line. -/
theorem skipPast_eq (cells : List Cell) {close : Char} (hclose : close ≠ '\n') (pos : Nat) :
    skipPast cells close pos = pos + lengthPast close (cells.drop pos) := by
  fun_induction skipPast cells close pos with
  | case1 pos hcell => rw [drop_of_getElem?_eq_none hcell]; rfl
  | case2 pos cell hcell hfeed =>
    rw [drop_of_getElem? hcell, lengthPast_cons hclose, if_pos hfeed]
    rfl
  | case3 pos cell hcell hfeed =>
    rw [drop_of_getElem? hcell, lengthPast_cons hclose, if_neg hfeed, if_pos ‹_›]
  | case4 pos cell hcell hfeed hother ih =>
    rw [ih, drop_of_getElem? hcell, lengthPast_cons hclose, if_neg hfeed, if_neg hother]
    omega

/-- A search finds a closing character behind the leading characters that neither close nor stop it. -/
theorem seek_eq (cells : List Cell) (stops : Char → Bool) (close : Char)
    (hclose : stops close = false) (pos : Nat) :
    seek cells stops close pos = some
      (let body := leading (fun c => c != close && !stops c) (cells.drop pos)
      if firstChar (cells.drop (pos + body.length)) = some close then some (pos + body.length)
      else none) := by
  fun_induction seek cells stops close pos with
  | case1 pos hlt ih =>
    have hcell := List.getElem?_eq_getElem hlt
    have hfirst : firstChar (cells.drop pos) = some cells[pos].char := by
      rw [drop_of_getElem? hcell]
      rfl
    rw [read_of_getElem? hcell, Option.bind_eq_bind, Option.bind_some, drop_of_getElem? hcell,
      leading_cons]
    by_cases hstop : stops cells[pos].char = true
    · have hne : cells[pos].char ≠ close := fun heq => by simp [heq, hclose] at hstop
      simp [hstop, hfirst, hne]
    · by_cases hend : cells[pos].char = close
      · simp [hend, hfirst, hclose]
      · have hpass : (cells[pos].char != close && !stops cells[pos].char) = true := by
          simp [hstop, hend]
        simp only [if_neg hstop, if_neg hend, if_pos hpass, ih, List.length_cons, Nat.add_assoc,
          Nat.add_comm 1]
  | case2 pos hle =>
    have hnone : firstChar (cells.drop pos) = none := by
      rw [List.drop_eq_nil_of_le (Nat.le_of_not_lt hle)]
      rfl
    rw [List.drop_eq_nil_of_le (Nat.le_of_not_lt hle)]
    simp [leading, hnone]

/-- The cursor passes the rest of an element tag. -/
theorem attributesAt_eq (cells : List Cell) (quote : Option Char) (pos : Nat) :
    attributesAt cells quote pos =
      (pos + (attributes quote (cells.drop pos)).1, (attributes quote (cells.drop pos)).2) := by
  fun_induction attributesAt cells quote pos with
  | case1 quote pos hcell => rw [drop_of_getElem?_eq_none hcell]; rfl
  | case2 quote pos cell hcell c hend =>
    rw [drop_of_getElem? hcell, attributes, if_pos hend]
  | case3 quote pos cell hcell c hend hmark ih =>
    simp only [dite_eq_ite] at ih
    rw [ih, drop_of_getElem? hcell, attributes, if_neg hend, if_pos hmark]
    simp only [Nat.add_assoc, Nat.add_comm 1]
    rfl
  | case4 quote pos cell hcell c hend hmark hstop =>
    rw [drop_of_getElem? hcell, attributes, if_neg hend, if_neg hmark, if_pos hstop]
    rfl
  | case5 quote pos cell hcell c hend hmark hstop ih =>
    rw [ih, drop_of_getElem? hcell, attributes, if_neg hend, if_neg hmark, if_neg hstop]
    simp only [Nat.add_assoc, Nat.add_comm 1]

/-- A tag may start where nothing or a blank stands before the cursor. -/
theorem isFree_eq (hle : pos ≤ cells.length) :
    isFree cells pos = some (!((cells.take pos).getLast?.map Cell.char).any fun c => !isBlank c) := by
  cases pos with
  | zero => rfl
  | succ before =>
    have hcell := List.getElem?_eq_getElem (Nat.lt_of_succ_le hle)
    rw [isFree, if_neg (Nat.succ_ne_zero before), Nat.add_sub_cancel, read_of_getElem? hcell,
      List.take_add_one, hcell, Option.toList_some, List.getLast?_concat]
    simp

/-- A block tag starts with an at sign that may start one, in front of a letter. -/
theorem startsTagAt_eq {free : Bool} (hfree : isFree cells pos = some free) (c : Char) :
    startsTagAt cells pos c = some (decide
      (c = '@' ∧ free = true ∧ (firstChar (cells.drop (pos + 1))).any Char.isAlpha = true)) := by
  rw [startsTagAt, hfree, look_eq]
  by_cases hat : c = '@' <;> simp [hat]

/-- The cursor finds a message where there is one. -/
theorem hasMessageAt_eq {free : Bool} (hfree : isFree cells pos = some free) :
    hasMessageAt cells pos = some (hasMessage free (cells.drop pos)) := by
  fun_induction hasMessageAt cells pos generalizing free with
  | case1 pos hlt ih =>
    have hcell := List.getElem?_eq_getElem hlt
    have hnext : isFree cells (pos + 1) = some (isBlank cells[pos].char) := by
      rw [isFree, if_neg (Nat.succ_ne_zero pos), Nat.add_sub_cancel, read_of_getElem? hcell]
      rfl
    rw [read_of_getElem? hcell, Option.bind_eq_bind, Option.bind_some, startsTagAt_eq hfree,
      Option.bind_eq_bind, Option.bind_some, drop_of_getElem? hcell, hasMessage]
    simp only [decide_eq_true_eq]
    split
    · rfl
    · split
      · next hblank => exact ih (hblank ▸ hnext)
      · rfl
  | case2 pos hle =>
    rw [List.drop_eq_nil_of_le (Nat.le_of_not_lt hle)]
    rfl

end DocCoverage.DocComment
