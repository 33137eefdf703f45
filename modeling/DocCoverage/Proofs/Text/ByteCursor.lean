import DocCoverage.Proofs.Text.Encoding
import DocCoverage.Proofs.Text.FrontTrivia

/-!
# A finder of leading comments with a cursor

Leading comments can also be sought in the bytes of a text: a cursor moves over them by positions, and
searches for line ends and for the end of a block comment go from byte to byte. Where bytes are cut off
behind the last one, or where a character is read from a position inside of one, there is no answer, and
then there is none for the whole search.

The cursor starts at a boundary and every iteration leaves it at one: what is sought are bytes below 128,
and these stand for characters. So the search has an answer, the one of the finder that reads characters,
whenever it starts at a boundary. From any other position it reads a byte that continues a character and
has none.
-/

namespace DocCoverage.Text

/-- The bytes from a position on, which must not lie behind them. -/
def sliceFrom? (bytes : List UInt8) (pos : Nat) : Option (List UInt8) :=
  if pos ≤ bytes.length then some (bytes.drop pos) else none

/-- The bytes of a range, which must be cut out where bytes may be cut. -/
def sliceOf? (bytes : List UInt8) (range : ByteRange) : Option (List UInt8) :=
  if range.start ≤ range.stop ∧ isCutPoint bytes range.start = true ∧
      isCutPoint bytes range.stop = true then
    some ((bytes.drop range.start).take (range.stop - range.start))
  else none

/-- The first character from a position on, at which bytes must be cut. -/
def charAt? (bytes : List UInt8) (pos : Nat) : Option (Option Char) :=
  if isCutPoint bytes pos then some ((bytes.drop pos).toByteArray.utf8DecodeChar? 0) else none

/-- The byte of a carriage return or of a line feed. -/
def endsLineByte (byte : UInt8) : Bool := byte == '\n'.toUInt8 || byte == '\r'.toUInt8

/-- The position of the line end from a position on, or the end of the bytes. -/
def lineEnd? (bytes : List UInt8) (pos : Nat) : Option Nat :=
  (sliceFrom? bytes pos).map fun rest => (rest.findIdx? endsLineByte).elim bytes.length (pos + ·)

/-- The index of the first two bytes that close a block comment. -/
def closeIndex (bytes : List UInt8) : Option Nat :=
  (bytes.zip bytes.tail).findIdx? fun pair => pair == ('*'.toUInt8, '/'.toUInt8)

/-- The position after the end of a block comment from a position on, or the end of the bytes. -/
def blockEnd? (bytes : List UInt8) (pos : Nat) : Option Nat :=
  (sliceFrom? bytes pos).map fun rest => (closeIndex rest).elim bytes.length (pos + · + 2)

/-- What an iteration of the search does: it ends the search, or it moves the cursor. It may find a
comment and a line break on the way. -/
inductive Move where
  | stop
  | goOn (next : Nat) (leads : Bool) (found : List ByteRange)
  deriving DecidableEq, Repr

/-- The cursor moves over a comment, which is kept where it leads. -/
def Move.over (leads : Bool) (start stop : Nat) : Move :=
  .goOn stop leads (if leads then [⟨start, stop⟩] else [])

/-- What is found with a move: what is found on the way, and then what the search finds from where the
cursor stands. -/
def Move.finish (search : Bool → Nat → Option (List ByteRange)) : Move → Option (List ByteRange)
  | stop => some []
  | goOn next leads found => (search leads next).map (found ++ ·)

/-- One iteration of the search, with the cursor on a byte. -/
def move? (bytes : List UInt8) (leads : Bool) (pos : Nat) (byte : UInt8) : Option Move :=
  if byte = '\r'.toUInt8 ∨ byte = '\n'.toUInt8 then some (.goOn (pos + 1) true [])
  else if byte ∈ [' ', '\t', '\x0b', '\x0c'].map Char.toUInt8 then some (.goOn (pos + 1) leads [])
  else if byte = '/'.toUInt8 ∧ bytes[pos + 1]? = some '/'.toUInt8 then
    (lineEnd? bytes (pos + 2)).map (Move.over leads pos)
  else if byte = '/'.toUInt8 ∧ bytes[pos + 1]? = some '*'.toUInt8 then
    (blockEnd? bytes (pos + 2)).map (Move.over leads pos)
  else if 0x80 ≤ byte then do
    match ← charAt? bytes pos with
    | some c =>
      if isBlank c || c == '\ufeff' then
        return .goOn (pos + c.utf8Size) (leads || c == '\u2028' || c == '\u2029') []
      else return .stop
    | none => return .stop
  else some .stop

/-- A line end is not before the position from which it is sought. -/
theorem le_of_lineEnd? {bytes : List UInt8} {pos stop : Nat} (hstop : lineEnd? bytes pos = some stop) :
    pos ≤ stop := by
  obtain ⟨rest, hrest, rfl⟩ := Option.map_eq_some_iff.mp hstop
  have hle : pos ≤ bytes.length := (Option.ite_none_right_eq_some.mp hrest).1
  cases rest.findIdx? endsLineByte with
  | none => exact hle
  | some index => exact Nat.le_add_right _ _

/-- The end of a block comment is not before the position from which it is sought. -/
theorem le_of_blockEnd? {bytes : List UInt8} {pos stop : Nat}
    (hstop : blockEnd? bytes pos = some stop) : pos ≤ stop := by
  obtain ⟨rest, hrest, rfl⟩ := Option.map_eq_some_iff.mp hstop
  have hle : pos ≤ bytes.length := (Option.ite_none_right_eq_some.mp hrest).1
  cases closeIndex rest with
  | none => exact hle
  | some index => exact Nat.le_add_right_of_le (Nat.le_add_right _ _)

/-- An iteration that does not end the search moves the cursor on. -/
theorem lt_of_move? {bytes : List UInt8} {leads leads' : Bool} {pos next : Nat} {byte : UInt8}
    {found : List ByteRange} (hmove : move? bytes leads pos byte = some (.goOn next leads' found)) :
    pos < next := by
  have hover {stop : Nat} (hle : pos + 2 ≤ stop)
      (heq : Move.over leads pos stop = .goOn next leads' found) : pos < next := by
    rw [Move.over, Move.goOn.injEq] at heq
    omega
  rw [move?] at hmove
  split at hmove
  · rw [Option.some.injEq, Move.goOn.injEq] at hmove
    omega
  split at hmove
  · rw [Option.some.injEq, Move.goOn.injEq] at hmove
    omega
  split at hmove
  · obtain ⟨stop, hstop, heq⟩ := Option.map_eq_some_iff.mp hmove
    exact hover (le_of_lineEnd? hstop) heq
  split at hmove
  · obtain ⟨stop, hstop, heq⟩ := Option.map_eq_some_iff.mp hmove
    exact hover (le_of_blockEnd? hstop) heq
  split at hmove
  · obtain ⟨read, -, hmove⟩ := Option.bind_eq_some_iff.mp hmove
    cases read with
    | none => cases hmove
    | some c =>
      simp only at hmove
      split at hmove
      · have hsize := c.utf8Size_pos
        rw [Option.pure_def, Option.some.injEq, Move.goOn.injEq] at hmove
        omega
      · cases hmove
  · cases hmove

/-- The ranges of the comments from a position on. -/
def rangesFrom? (bytes : List UInt8) (leads : Bool) (pos : Nat) : Option (List ByteRange) :=
  if hlt : pos < bytes.length then
    match hmove : move? bytes leads pos bytes[pos] with
    | none => none
    | some .stop => some []
    | some (.goOn next leads' found) => (rangesFrom? bytes leads' next).map (found ++ ·)
  else some []
termination_by bytes.length - pos
decreasing_by
  have hnext := lt_of_move? hmove
  omega

/-- The ranges of the comments that lead a statement whose trivia start at a position, sought in the
bytes of a text. -/
def commentRanges? (text : List Char) (offset : Nat) : Option (List ByteRange) :=
  let bytes := encoded text
  let pos := min offset bytes.length
  let start :=
    if pos = 0 ∧ (['#', '!'].map Char.toUInt8).isPrefixOf bytes = true then lineEnd? bytes 0
    else some pos
  start.bind (rangesFrom? bytes (pos == 0))

/-- The bytes of the leading comment nearest to a statement. -/
def nearestBytes? (text : List Char) (offset : Nat) : Option (Option (List UInt8)) := do
  let ranges ← commentRanges? text offset
  match ranges.getLast? with
  | none => return none
  | some range => return some (← sliceOf? (encoded text) range)

/-! ## Searches among the bytes -/

/-- A byte of a character ends a line exactly when the character does. -/
theorem endsLineByte_eq {c : Char} {byte : UInt8} (hbyte : byte ∈ String.utf8EncodeChar c) :
    endsLineByte byte = endsLine c := by
  rw [Bool.eq_iff_iff, endsLineByte, endsLine, Bool.or_eq_true, Bool.or_eq_true, beq_iff_eq,
    beq_iff_eq, beq_iff_eq, beq_iff_eq, eq_toUInt8_iff_of_mem (by decide) hbyte,
    eq_toUInt8_iff_of_mem (by decide) hbyte, or_comm]

/-- The bytes after some characters can be cut off. -/
theorem sliceFrom?_encoded (front after : List Char) :
    sliceFrom? (encoded (front ++ after)) (byteLength front) = some (encoded after) := by
  rw [sliceFrom?, if_pos, drop_encoded_append]
  rw [length_encoded, byteLength_append]
  exact Nat.le_add_right _ _

/-- A line ends after the characters that do not end it. -/
theorem lineEnd?_encoded (front : List Char) {body rest : List Char}
    (hcut : Cut (fun c => !endsLine c) body rest) :
    lineEnd? (encoded (front ++ (body ++ rest))) (byteLength front) =
      some (byteLength front + byteLength body) := by
  have hbody : (encoded body).findIdx? endsLineByte = none := by
    rw [List.findIdx?_eq_none_iff]
    intro byte hbyte
    rw [encoded_eq_flatMap, List.mem_flatMap] at hbyte
    obtain ⟨c, hc, hbyte⟩ := hbyte
    have hpasses := hcut.passes c hc
    rw [endsLineByte_eq hbyte]
    simpa using hpasses
  rw [lineEnd?, sliceFrom?_encoded, Option.map_some, encoded_append body, List.findIdx?_append, hbody]
  cases rest with
  | nil => simp
  | cons c rest =>
    obtain ⟨first, later, hbytes, hmem⟩ := exists_encoded_cons c rest
    have hfirst : endsLineByte first = true := by
      rw [endsLineByte_eq hmem]
      simpa using hcut.stops c rfl
    rw [hbytes, List.findIdx?_cons, hfirst]
    simp

/-- A comment is closed by the first two bytes or after the first one. -/
theorem closeIndex_cons (byte : UInt8) (rest : List UInt8) :
    closeIndex (byte :: rest) =
      if byte = '*'.toUInt8 ∧ rest.head? = some '/'.toUInt8 then some 0
      else (closeIndex rest).map (· + 1) := by
  cases rest with
  | nil => simp [closeIndex]
  | cons next rest =>
    simp only [closeIndex, List.tail_cons, List.zip_cons_cons, List.findIdx?_cons]
    simp [Prod.ext_iff]

/-- Bytes from 128 on do not close a comment. -/
theorem closeIndex_append_of_le {front : List UInt8} (hfront : ∀ byte ∈ front, 0x80 ≤ byte)
    (rest : List UInt8) : closeIndex (front ++ rest) = (closeIndex rest).map (· + front.length) := by
  induction front with
  | nil => simp
  | cons byte front ih =>
    have hstar : byte ≠ '*'.toUInt8 := by
      rintro rfl
      exact absurd (hfront _ List.mem_cons_self) (by decide)
    rw [List.cons_append, closeIndex_cons, if_neg (fun h => hstar h.1),
      ih fun other hother => hfront other (List.mem_cons_of_mem _ hother), Option.map_map]
    rfl

/-- A comment that is not closed by the first two characters is closed after the first one. -/
theorem closeIndex_encoded_cons {c : Char} {rest : List Char} (hopen : ¬ ['*', '/'] <+: c :: rest) :
    closeIndex (encoded (c :: rest)) = (closeIndex (encoded rest)).map (· + c.utf8Size) := by
  by_cases hc : c.toNat < 128
  · have hsize : c.utf8Size = 1 := by
      rw [← String.length_utf8EncodeChar, utf8EncodeChar_of_lt hc, List.length_singleton]
    rw [encoded_cons_of_lt hc, closeIndex_cons, if_neg, hsize]
    rintro ⟨hstar, hslash⟩
    obtain rfl := (toUInt8_inj_of_lt hc (by decide)).mp hstar
    obtain ⟨after, rfl⟩ := List.head?_eq_some_iff.mp ((head?_encoded_eq_iff (by decide) rest).mp hslash)
    exact hopen ⟨after, rfl⟩
  · have hbytes := closeIndex_append_of_le
      (fun byte hbyte => le_of_mem_utf8EncodeChar (Nat.le_of_not_lt hc) hbyte) (encoded rest)
    rw [encoded_cons, hbytes, String.length_utf8EncodeChar]

/-- The bytes of a block comment are those up to where its characters first close it. -/
theorem elim_closeIndex_encoded (text : List Char) :
    (closeIndex (encoded text)).elim (byteLength text) (· + 2) = byteLength (splitBlock text).1 := by
  fun_induction splitBlock text with
  | case1 => rfl
  | case2 rest =>
    have hclose : closeIndex (encoded ('*' :: '/' :: rest)) = some 0 := by
      rw [encoded_cons_of_lt (by decide), encoded_cons_of_lt (by decide)]
      exact (closeIndex_cons _ _).trans (if_pos ⟨rfl, rfl⟩)
    rw [hclose]
    rfl
  | case3 c rest hopen cut ih =>
    have hnot : ¬ ['*', '/'] <+: c :: rest := by
      rintro ⟨after, hafter⟩
      obtain ⟨rfl, rfl⟩ := List.cons.inj hafter
      exact hopen after rfl rfl
    rw [closeIndex_encoded_cons hnot, byteLength_cons, byteLength_cons, ← ih]
    cases closeIndex (encoded rest) with
    | none => rfl
    | some index =>
      change index + c.utf8Size + 2 = c.utf8Size + (index + 2)
      omega

/-- A block comment ends where its characters first close it. -/
theorem blockEnd?_encoded (front rest : List Char) :
    blockEnd? (encoded (front ++ rest)) (byteLength front) =
      some (byteLength front + byteLength (splitBlock rest).1) := by
  rw [blockEnd?, sliceFrom?_encoded, Option.map_some, ← elim_closeIndex_encoded]
  cases closeIndex (encoded rest) with
  | none => simp
  | some index => simp [Nat.add_assoc]

/-- At a boundary the next character can be read. -/
theorem charAt?_encoded (front : List Char) (c : Char) (rest : List Char) :
    charAt? (encoded (front ++ c :: rest)) (byteLength front) = some (some c) := by
  have hcut := (isCutPoint_encoded_iff (front ++ c :: rest) (byteLength front)).mpr ⟨_, _, rfl, rfl⟩
  rw [charAt?, if_pos hcut, drop_encoded_append, encoded_cons, List.toByteArray_append,
    ByteArray.utf8DecodeChar?_utf8EncodeChar_append]

/-! ## The iterations of the search -/

/-- The byte after some characters is one of the next character. -/
theorem exists_getElem?_encoded (front : List Char) (c : Char) (rest : List Char) :
    ∃ byte ∈ String.utf8EncodeChar c, (encoded (front ++ c :: rest))[byteLength front]? = some byte := by
  obtain ⟨first, later, hbytes, hfirst⟩ := exists_encoded_cons c rest
  have hbyte := getElem?_encoded_append front (c :: rest) 0
  rw [Nat.add_zero, hbytes, List.getElem?_cons_zero] at hbyte
  exact ⟨first, hfirst, hbyte⟩

/-- The byte after a character below 128 is the first of the text after it. -/
theorem getElem?_encoded_succ (front : List Char) {c : Char} (hc : c.toNat < 128) (rest : List Char) :
    (encoded (front ++ c :: rest))[byteLength front + 1]? = (encoded rest).head? := by
  rw [getElem?_encoded_append, encoded_cons_of_lt hc, List.getElem?_cons_succ, List.head?_eq_getElem?]

/-- The characters of a comment take two bytes more than those after its first two. -/
theorem byteLength_comment (body : List Char) {d : Char} (hd : d.utf8Size = 1) :
    byteLength ('/' :: d :: body) = 2 + byteLength body := by
  have hslash : '/'.utf8Size = 1 := rfl
  rw [byteLength_cons, byteLength_cons, hslash, hd]
  omega

section Comments

variable (front : List Char) (leads : Bool)

/-- The position after the first two characters of a comment. -/
theorem byteLength_append_pair {d : Char} (hd : d.utf8Size = 1) :
    byteLength (front ++ ['/', d]) = byteLength front + 2 := by
  rw [byteLength_append, byteLength_comment [] hd]
  rfl

/-- The cursor moves over a line comment up to the end of its line. -/
theorem move?_line {body rest : List Char} (hcut : Cut (fun c => !endsLine c) body rest) :
    move? (encoded (front ++ '/' :: '/' :: (body ++ rest))) leads (byteLength front) '/'.toUInt8 =
      some (.over leads (byteLength front) (byteLength front + 2 + byteLength body)) := by
  have hnext := getElem?_encoded_succ front (c := '/') (by decide) ('/' :: (body ++ rest))
  rw [(head?_encoded_eq_iff (d := '/') (by decide) _).mpr rfl] at hnext
  have hend := lineEnd?_encoded (front ++ ['/', '/']) hcut
  rw [byteLength_append_pair front rfl, List.append_assoc] at hend
  rw [move?, if_neg (by decide), if_neg (by decide), if_pos ⟨rfl, hnext⟩]
  exact congrArg (Option.map (Move.over leads (byteLength front))) hend

/-- The cursor moves over a block comment up to where its characters first close it. -/
theorem move?_block (body : List Char) :
    move? (encoded (front ++ '/' :: '*' :: body)) leads (byteLength front) '/'.toUInt8 =
      some (.over leads (byteLength front)
        (byteLength front + 2 + byteLength (splitBlock body).1)) := by
  have hnext := getElem?_encoded_succ front (c := '/') (by decide) ('*' :: body)
  rw [(head?_encoded_eq_iff (d := '*') (by decide) _).mpr rfl] at hnext
  have hother : ¬ some '*'.toUInt8 = some '/'.toUInt8 := by decide
  have hend := blockEnd?_encoded (front ++ ['/', '*']) body
  rw [byteLength_append_pair front rfl, List.append_assoc] at hend
  rw [move?, if_neg (by decide), if_neg (by decide), hnext, if_neg (fun h => hother h.2),
    if_pos ⟨rfl, rfl⟩]
  exact congrArg (Option.map (Move.over leads (byteLength front))) hend

/-- The cursor moves over a comment. -/
theorem move?_comment {comment rest : List Char} (hcomment : FrontComment comment rest) :
    move? (encoded (front ++ (comment ++ rest))) leads (byteLength front) '/'.toUInt8 =
      some (.over leads (byteLength front) (byteLength front + byteLength comment)) := by
  cases hcomment with
  | @line body rest hcut =>
    rw [byteLength_comment body rfl, ← Nat.add_assoc]
    exact move?_line front leads hcut
  | @closed body rest hbody =>
    have hmove := move?_block front leads (body ++ '*' :: '/' :: rest)
    rw [splitBlock_append_of_not_closes hbody] at hmove
    rw [byteLength_comment _ rfl, ← Nat.add_assoc, ← hmove]
    simp
  | @unclosed body hbody =>
    have hmove := move?_block front leads body
    rw [splitBlock_of_not_closes hbody] at hmove
    rw [byteLength_comment body rfl, ← Nat.add_assoc, ← hmove, List.append_nil]

end Comments

/-- On a byte from 128 on the cursor reads the character there. -/
theorem move?_of_le_byte (bytes : List UInt8) (leads : Bool) (pos : Nat) {byte : UInt8}
    (hbyte : 0x80 ≤ byte) :
    move? bytes leads pos byte = (charAt? bytes pos).map fun read => read.elim .stop fun c =>
      if isBlank c || c == '\ufeff' then
        .goOn (pos + c.utf8Size) (leads || c == '\u2028' || c == '\u2029') []
      else .stop := by
  have hne {d : Char} (hd : d.toUInt8 < 0x80) : byte ≠ d.toUInt8 := by
    rintro rfl
    exact absurd hbyte (UInt8.not_le.mpr hd)
  have hends : ¬ (byte = '\r'.toUInt8 ∨ byte = '\n'.toUInt8) :=
    not_or.mpr ⟨hne (by decide), hne (by decide)⟩
  have hblank : byte ∉ [' ', '\t', '\x0b', '\x0c'].map Char.toUInt8 := by
    simp only [List.map_cons, List.map_nil, List.mem_cons, List.not_mem_nil, or_false, not_or]
    exact ⟨hne (by decide), hne (by decide), hne (by decide), hne (by decide)⟩
  have hslash : byte ≠ '/'.toUInt8 := hne (by decide)
  rw [move?, if_neg hends, if_neg hblank, if_neg fun h => hslash h.1, if_neg fun h => hslash h.1,
    if_pos hbyte]
  cases charAt? bytes pos with
  | none => rfl
  | some read =>
    cases read with
    | none => rfl
    | some c => exact (apply_ite some _ _ _).symm

/-- A character from 128 on is read and passed where it separates comments. -/
theorem move?_of_le (front : List Char) {c : Char} (hc : 128 ≤ c.toNat) (rest : List Char)
    (leads : Bool) {byte : UInt8} (hbyte : byte ∈ String.utf8EncodeChar c) :
    move? (encoded (front ++ c :: rest)) leads (byteLength front) byte =
      some (if separates c then .goOn (byteLength front + c.utf8Size) (leads || breaksLine c) []
        else .stop) := by
  have hne {d : Char} (hd : d.toNat < 128) : c ≠ d := by
    rintro rfl
    exact Nat.not_le_of_lt hd hc
  have hends : endsLine c = false := by
    rw [endsLine, beq_eq_false_iff_ne.mpr (hne (by decide)),
      beq_eq_false_iff_ne.mpr (hne (by decide)), Bool.or_self]
  rw [move?_of_le_byte _ leads _ (le_of_mem_utf8EncodeChar hc hbyte), charAt?_encoded, Option.map_some,
    Option.elim_some, separates, breaksLine, hends, Bool.false_or, Bool.or_assoc leads]

/-- A character below 128 that separates comments is passed. -/
theorem move?_of_separates {c : Char} (hc : c.toNat < 128) (hseparates : separates c = true)
    (bytes : List UInt8) (leads : Bool) (pos : Nat) :
    move? bytes leads pos c.toUInt8 = some (.goOn (pos + c.utf8Size) (leads || breaksLine c) []) := by
  rw [← endsLine_or_isGap, Bool.or_eq_true] at hseparates
  rcases hseparates with hends | hgap
  · rw [breaksLine, hends, Bool.true_or, Bool.true_or, Bool.or_true]
    rw [endsLine, Bool.or_eq_true, beq_iff_eq, beq_iff_eq] at hends
    rcases hends with rfl | rfl
    · rw [move?, if_pos (.inl rfl)]
      rfl
    · rw [move?, if_pos (.inr rfl)]
      rfl
  · have hmem : c ∈ [' ', '\t', '\x0b', '\x0c'] := by
      have hsmall : decide (0x80 ≤ c.toNat) = false := decide_eq_false (Nat.not_le_of_lt hc)
      simpa [isGap, hsmall, or_assoc] using hgap
    have hplain : breaksLine c = false ∧ c.utf8Size = 1 ∧
        ¬ (c.toUInt8 = '\r'.toUInt8 ∨ c.toUInt8 = '\n'.toUInt8) := by
      simp only [List.mem_cons, List.not_mem_nil, or_false] at hmem
      rcases hmem with rfl | rfl | rfl | rfl <;> decide
    rw [move?, if_neg hplain.2.2, if_pos (List.mem_map_of_mem hmem), hplain.1, hplain.2.1, Bool.or_false]

/-- The search ends at a character below 128 that neither separates comments nor starts one. -/
theorem move?_of_not_startsTrivia (front : List Char) {c : Char} (hc : c.toNat < 128)
    {rest : List Char} (hstop : ¬ StartsTrivia (c :: rest)) (leads : Bool) :
    move? (encoded (front ++ c :: rest)) leads (byteLength front) c.toUInt8 = some .stop := by
  rw [StartsTrivia, not_or, not_or] at hstop
  obtain ⟨hline, hblock, hother⟩ := hstop
  have hother : ¬ separates c = true := hother
  have hne {d : Char} (hd : d.toNat < 128) (hseparates : separates d = true) :
      c.toUInt8 ≠ d.toUInt8 := by
    rw [Ne, toUInt8_inj_of_lt hc hd]
    rintro rfl
    exact hother hseparates
  have hblank : c.toUInt8 ∉ [' ', '\t', '\x0b', '\x0c'].map Char.toUInt8 := by
    simp only [List.map_cons, List.map_nil, List.mem_cons, List.not_mem_nil, or_false, not_or]
    exact ⟨hne (by decide) (by decide), hne (by decide) (by decide), hne (by decide) (by decide),
      hne (by decide) (by decide)⟩
  have hpair {d : Char} (hd : d.toNat < 128) (hfront : ¬ ['/', d] <+: c :: rest) :
      ¬ (c.toUInt8 = '/'.toUInt8 ∧
        (encoded (front ++ c :: rest))[byteLength front + 1]? = some d.toUInt8) := by
    rintro ⟨hslash, hnext⟩
    rw [toUInt8_inj_of_lt hc (by decide)] at hslash
    rw [getElem?_encoded_succ front hc, head?_encoded_eq_iff hd] at hnext
    obtain ⟨after, rfl⟩ := List.head?_eq_some_iff.mp hnext
    exact hfront ⟨after, by rw [hslash]; rfl⟩
  have hsmall : ¬ 0x80 ≤ c.toUInt8 := by
    rw [UInt8.le_iff_toNat_le, toNat_toUInt8_of_lt hc]
    exact Nat.not_le_of_lt hc
  rw [move?, if_neg (not_or.mpr ⟨hne (by decide) (by decide), hne (by decide) (by decide)⟩),
    if_neg hblank, if_neg (hpair (by decide) hline), if_neg (hpair (by decide) hblock), if_neg hsmall]

/-- The cursor moves over a character that separates comments, and the comments after a line break
lead. -/
theorem move?_separator (front : List Char) {c : Char} (hseparates : separates c = true)
    (rest : List Char) (leads : Bool) {byte : UInt8} (hbyte : byte ∈ String.utf8EncodeChar c) :
    move? (encoded (front ++ c :: rest)) leads (byteLength front) byte =
      some (.goOn (byteLength front + c.utf8Size) (leads || breaksLine c) []) := by
  by_cases hc : c.toNat < 128
  · rw [utf8EncodeChar_of_lt hc, List.mem_singleton] at hbyte
    rw [hbyte, move?_of_separates hc hseparates]
  · rw [move?_of_le front (Nat.le_of_not_lt hc) rest leads hbyte, if_pos hseparates]

/-- The search ends at a character that neither separates comments nor starts one. -/
theorem move?_stop (front : List Char) {c : Char} {rest : List Char}
    (hstop : ¬ StartsTrivia (c :: rest)) (leads : Bool) {byte : UInt8}
    (hbyte : byte ∈ String.utf8EncodeChar c) :
    move? (encoded (front ++ c :: rest)) leads (byteLength front) byte = some .stop := by
  by_cases hc : c.toNat < 128
  · rw [utf8EncodeChar_of_lt hc, List.mem_singleton] at hbyte
    rw [hbyte, move?_of_not_startsTrivia front hc hstop]
  · have hother : ¬ separates c = true := fun hseparates => hstop (.inr (.inr hseparates))
    rw [move?_of_le front (Nat.le_of_not_lt hc) rest leads hbyte, if_neg hother]

/-- From inside of a character no character can be read. -/
theorem move?_of_isContinuation {bytes : List UInt8} {pos : Nat} (hpos : isCutPoint bytes pos = false)
    {byte : UInt8} (hbyte : isContinuation byte = true) (leads : Bool) :
    move? bytes leads pos byte = none := by
  rw [isContinuation, Bool.and_eq_true, decide_eq_true_eq] at hbyte
  rw [move?_of_le_byte bytes leads pos hbyte.1, charAt?, hpos]
  rfl

/-! ## The search -/

/-- Behind the last byte the search is over. -/
theorem rangesFrom?_of_length_le {bytes : List UInt8} {pos : Nat} (hend : bytes.length ≤ pos)
    (leads : Bool) : rangesFrom? bytes leads pos = some [] := by
  rw [rangesFrom?, dif_neg (Nat.not_lt.mpr hend)]

/-- The search goes on with an iteration. -/
theorem rangesFrom?_of_getElem? {bytes : List UInt8} {pos : Nat} {byte : UInt8}
    (hbyte : bytes[pos]? = some byte) (leads : Bool) :
    rangesFrom? bytes leads pos =
      (move? bytes leads pos byte).bind (Move.finish (rangesFrom? bytes)) := by
  obtain ⟨hlt, rfl⟩ := List.getElem?_eq_some_iff.mp hbyte
  rw [rangesFrom?, dif_pos hlt]
  split
  · rename_i hmove
    rw [hmove]
    rfl
  · rename_i hmove
    rw [hmove]
    rfl
  · rename_i hmove
    rw [hmove]
    rfl

/-- From a boundary the search finds the ranges that the finder finds in the characters. -/
theorem rangesFrom?_encoded (front text : List Char) (leads : Bool) :
    rangesFrom? (encoded (front ++ text)) leads (byteLength front) =
      some (commentsFrom leads (byteLength front) text) := by
  -- on what stands in front: after a comment or a separating character the cursor is at a boundary again
  induction text using frontTrivia_induction generalizing front leads with
  | hcomment comment rest hcomment ih =>
    have hbyte : (encoded (front ++ (comment ++ rest)))[byteLength front]? = some '/'.toUInt8 := by
      obtain ⟨after, rfl⟩ := hcomment.exists_cons
      obtain ⟨byte, hmem, hbyte⟩ := exists_getElem?_encoded front '/' (after ++ rest)
      rw [(eq_toUInt8_iff_of_mem (by decide) hmem).mpr rfl] at hbyte
      exact hbyte
    have hlater := ih (front ++ comment) leads
    rw [byteLength_append, List.append_assoc] at hlater
    rw [rangesFrom?_of_getElem? hbyte, move?_comment front leads hcomment, Option.bind_some, Move.over,
      Move.finish, hlater, Option.map_some, commentsFrom_comment hcomment]
  | hseparator c rest hc ih =>
    obtain ⟨byte, hmem, hbyte⟩ := exists_getElem?_encoded front c rest
    have hlater := ih (front ++ [c]) (leads || breaksLine c)
    rw [byteLength_append, List.append_assoc, List.singleton_append, byteLength_cons, byteLength_nil,
      Nat.add_zero] at hlater
    rw [rangesFrom?_of_getElem? hbyte, move?_separator front hc rest leads hmem, Option.bind_some,
      Move.finish, hlater, Option.map_some, List.nil_append, commentsFrom_separator hc]
  | hstop text hstop =>
    rw [commentsFrom_stop hstop]
    cases text with
    | nil => rw [List.append_nil, rangesFrom?_of_length_le (Nat.le_of_eq (length_encoded front))]
    | cons c rest =>
      obtain ⟨byte, hmem, hbyte⟩ := exists_getElem?_encoded front c rest
      rw [rangesFrom?_of_getElem? hbyte, move?_stop front hstop leads hmem, Option.bind_some,
        Move.finish]

/-- From inside of a character the search has no answer. -/
theorem rangesFrom?_of_not_isBoundary {text : List Char} {pos : Nat} (hlt : pos < byteLength text)
    (hinside : ¬ IsBoundary text pos) (leads : Bool) : rangesFrom? (encoded text) leads pos = none := by
  have hbyte := List.getElem?_eq_getElem (Nat.lt_of_lt_of_eq hlt (length_encoded text).symm)
  have hcut : isCutPoint (encoded text) pos = false := by
    rw [← Bool.not_eq_true, isCutPoint_encoded_iff]
    exact hinside
  rw [rangesFrom?_of_getElem? hbyte,
    move?_of_isContinuation hcut (isContinuation_of_not_isBoundary hbyte hinside), Option.bind_none]

/-- The bytes of a text start with those of an interpreter line where its characters do. -/
theorem isPrefixOf_encoded_iff (text : List Char) :
    (['#', '!'].map Char.toUInt8).isPrefixOf (encoded text) = true ↔ ['#', '!'] <+: text := by
  rw [List.isPrefixOf_iff_prefix]
  constructor
  · intro hbytes
    obtain ⟨after, hafter⟩ := hbytes
    have hhash : (encoded text).head? = some '#'.toUInt8 := by rw [← hafter]; rfl
    obtain ⟨rest, rfl⟩ := List.head?_eq_some_iff.mp ((head?_encoded_eq_iff (by decide) text).mp hhash)
    rw [encoded_cons_of_lt (by decide)] at hafter
    have hbang : (encoded rest).head? = some '!'.toUInt8 := by rw [← (List.cons.inj hafter).2]; rfl
    obtain ⟨later, rfl⟩ := List.head?_eq_some_iff.mp ((head?_encoded_eq_iff (by decide) rest).mp hbang)
    exact ⟨later, rfl⟩
  · intro hchars
    obtain ⟨after, rfl⟩ := hchars
    rw [encoded_append]
    exact List.prefix_append _ _

/-- At the start of a text comments are sought after its interpreter line. -/
theorem commentRanges?_zero {front rest : List Char} (hline : InterpreterLine front rest) :
    commentRanges? (front ++ rest) 0 = some (commentsFrom true (byteLength front) rest) := by
  have hsearch := rangesFrom?_encoded front rest true
  simp only [commentRanges?, Nat.zero_min, true_and, isPrefixOf_encoded_iff]
  cases hline with
  | @present body rest hcut =>
    have hwhole : Cut (fun c => !endsLine c) ('#' :: '!' :: body) rest := by
      refine ⟨?_, hcut.stops⟩
      simp only [List.forall_mem_cons]
      exact ⟨rfl, rfl, hcut.passes⟩
    have hend := lineEnd?_encoded [] hwhole
    rw [byteLength_nil, Nat.zero_add] at hend
    rw [List.nil_append] at hend
    rw [if_pos ⟨body ++ rest, rfl⟩, hend]
    exact hsearch
  | absent hother =>
    rw [List.nil_append] at hsearch ⊢
    rw [if_neg hother]
    exact hsearch

/-- After the start of a text comments are sought from the position on, which is taken back to the end
of the text. -/
theorem commentRanges?_of_ne_zero {text : List Char} {offset : Nat}
    (hpos : min offset (byteLength text) ≠ 0) :
    commentRanges? text offset = rangesFrom? (encoded text) false (min offset (byteLength text)) := by
  simp only [commentRanges?, length_encoded]
  rw [if_neg fun h => hpos h.1, beq_eq_false_iff_ne.mpr hpos]
  rfl

/-- The search for leading comments in the bytes of a text has the answer of the finder that reads
characters, and none where that has none. -/
theorem commentRanges?_eq (text : List Char) (offset : Nat) :
    commentRanges? text offset = leadingComments? text offset := by
  by_cases hboundary : IsBoundary text offset
  · obtain ⟨before, after, rfl, rfl⟩ := hboundary
    by_cases hbefore : before = []
    · subst hbefore
      obtain ⟨front, rest, rfl, hline⟩ := exists_interpreterLine after
      exact (commentRanges?_zero hline).trans (leadingComments?_zero hline).symm
    · have hmin : min (byteLength before) (byteLength (before ++ after)) = byteLength before := by
        rw [byteLength_append]
        exact Nat.min_eq_left (Nat.le_add_right _ _)
      have hpos : byteLength before ≠ 0 := mt eq_nil_of_byteLength_eq_zero hbefore
      rw [commentRanges?_of_ne_zero (by rwa [hmin]), hmin, rangesFrom?_encoded,
        leadingComments?_append hbefore]
  · have hzero : offset ≠ 0 := by
      rintro rfl
      exact hboundary (isBoundary_zero text)
    rw [leadingComments?, if_neg hzero]
    by_cases hpast : byteLength text ≤ offset
    · rw [if_pos hpast]
      by_cases hempty : text = []
      · subst hempty
        simp [commentRanges?, rangesFrom?_of_length_le]
      · have hmin : min offset (byteLength text) = byteLength text := Nat.min_eq_right hpast
        have hpos : byteLength text ≠ 0 := mt eq_nil_of_byteLength_eq_zero hempty
        rw [commentRanges?_of_ne_zero (by rwa [hmin]), hmin,
          rangesFrom?_of_length_le (Nat.le_of_eq (length_encoded text))]
    · have hlt : offset < byteLength text := Nat.lt_of_not_le hpast
      have hmin : min offset (byteLength text) = offset := Nat.min_eq_left (Nat.le_of_lt hlt)
      have hnone : suffixAt? text offset = none := by
        rw [isBoundary_iff_isSome] at hboundary
        simpa using hboundary
      rw [if_neg hpast, hnone, commentRanges?_of_ne_zero (by rwa [hmin]), hmin,
        rangesFrom?_of_not_isBoundary hlt hboundary, Option.map_none]

/-- The bytes of a range between boundaries are those of the characters in it. -/
theorem sliceOf?_encoded {text : List Char} {range : ByteRange} (hle : range.start ≤ range.stop)
    (hstart : IsBoundary text range.start) (hstop : IsBoundary text range.stop) :
    sliceOf? (encoded text) range = some (encoded (slice text range.start range.stop)) := by
  have hcuts : isCutPoint (encoded text) range.start = true ∧
      isCutPoint (encoded text) range.stop = true :=
    ⟨(isCutPoint_encoded_iff _ _).mpr hstart, (isCutPoint_encoded_iff _ _).mpr hstop⟩
  rw [sliceOf?, if_pos ⟨hle, hcuts⟩]
  obtain ⟨before, middle, after, rfl, hbefore, hsize, hslice, -⟩ := exists_slice hstart hstop hle
  rw [hslice, ← hbefore, drop_encoded_append, encoded_append middle, ← hsize, ← hbefore,
    Nat.add_sub_cancel_left, List.take_left' (length_encoded middle)]

end DocCoverage.Text
