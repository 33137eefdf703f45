import DocCoverage.Text.Blank
import DocCoverage.Text.Utf8

/-!
# Leading comments

Between two statements stand blanks, line breaks and comments. A comment before the first line
break belongs to the statement before it; the comments after a line break lead the next statement.
At the start of a text nothing stands before, so every comment leads, after a `#!` line.
-/

namespace DocCoverage.Text

/-- A range of byte offsets, from `start` up to but without `stop`. -/
structure ByteRange where
  start : Nat
  stop : Nat
  deriving DecidableEq, Repr

/-- A carriage return or a line feed, where the line of a line comment ends. -/
def endsLine (c : Char) : Bool := c == '\r' || c == '\n'

/-- A character that makes the comments after it lead. -/
def breaksLine (c : Char) : Bool := endsLine c || c == '\u2028' || c == '\u2029'

/-- A character that may stand between comments and is no line end. -/
def isGap (c : Char) : Bool :=
  c == ' ' || c == '\t' || c == '\x0b' || c == '\x0c' ||
    (0x80 ≤ c.toNat && (isBlank c || c == '\ufeff'))

/-- A text cut after its first `*/`; all of it when there is none. -/
def splitBlock : List Char → List Char × List Char
  | [] => ([], [])
  | '*' :: '/' :: rest => (['*', '/'], rest)
  | c :: rest =>
    let cut := splitBlock rest
    (c :: cut.1, cut.2)

/-- The part of a text after a block comment is no longer than the text. -/
theorem splitBlock_length_le (text : List Char) :
    (splitBlock text).2.length ≤ text.length := by
  fun_induction splitBlock text with
  | case1 => simp
  | case2 rest => simp; omega
  | case3 c rest _ cut ih =>
    show cut.2.length ≤ (c :: rest).length
    exact Nat.le_trans ih (Nat.le_succ _)

/-- The part of a text from the first character on that fails a test is no longer than the text. -/
theorem length_dropWhile_le_length (test : Char → Bool) (text : List Char) :
    (text.dropWhile test).length ≤ text.length :=
  (List.dropWhile_suffix test).length_le

/-- The ranges of the comments at the front of a text that starts at a byte offset. `leads` says
whether a comment found next leads the statement to come. -/
def commentsFrom (leads : Bool) (offset : Nat) : List Char → List ByteRange
  | '/' :: '/' :: rest =>
    let stop := offset + 2 + byteLength (rest.takeWhile fun c => !endsLine c)
    let later := commentsFrom leads stop (rest.dropWhile fun c => !endsLine c)
    if leads then ⟨offset, stop⟩ :: later else later
  | '/' :: '*' :: rest =>
    let stop := offset + 2 + byteLength (splitBlock rest).1
    let later := commentsFrom leads stop (splitBlock rest).2
    if leads then ⟨offset, stop⟩ :: later else later
  | c :: rest =>
    if endsLine c || isGap c then commentsFrom (leads || breaksLine c) (offset + c.utf8Size) rest
    else []
  | [] => []
termination_by text => text.length
decreasing_by
  · have := length_dropWhile_le_length (fun c => !endsLine c) rest
    simp only [List.length_cons]
    omega
  · have := splitBlock_length_le rest
    simp only [List.length_cons]
    omega
  · simp

/-- A text without the `#!` line it starts with, and the number of bytes taken away. -/
def skipInterpreterLine : List Char → Nat × List Char
  | '#' :: '!' :: rest =>
    (2 + byteLength (rest.takeWhile fun c => !endsLine c), rest.dropWhile fun c => !endsLine c)
  | text => (0, text)

/-- The ranges of the comments that lead a statement whose trivia start at a byte offset. There is
no answer for an offset inside a character. -/
def leadingComments? (text : List Char) (offset : Nat) : Option (List ByteRange) :=
  if offset = 0 then
    let body := skipInterpreterLine text
    some (commentsFrom true body.1 body.2)
  else if byteLength text ≤ offset then some []
  else (suffixAt? text offset).map (commentsFrom false offset)

/-- The text of the leading comment nearest to the statement. -/
def nearestComment (text : List Char) (comments : List ByteRange) : Option (List Char) :=
  comments.getLast?.map fun range => slice text range.start range.stop

end DocCoverage.Text
