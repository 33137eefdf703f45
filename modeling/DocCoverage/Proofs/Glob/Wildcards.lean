import DocCoverage.Glob.Match
import DocCoverage.Proofs.Text.Cuts

/-!
# What wildcards match

The search of the matcher through all lengths of a wildcard finds a division of the path where there is
one: the wildcard takes a front of the path, and what follows the wildcard takes the rest. Wildcards
take no dot at the start of a component, so a front that they take is visible: none of its components
starts with a dot. After a wildcard for components and one for characters, a text that stands for itself
is a suffix of the path, and all before it is visible.
-/

namespace DocCoverage.Glob

open Text

/-- No dot of a stretch stands at the start of a component. -/
def Visible : Bool → List Char → Prop
  | _, [] => True
  | atStart, c :: rest => isHiddenDot atStart c = false ∧ Visible (c == '/') rest

/-- Whether a component starts after a stretch. -/
def startsAfter : Bool → List Char → Bool
  | atStart, [] => atStart
  | _, c :: rest => startsAfter (c == '/') rest

/-- A stretch is visible when its parts are. -/
theorem visible_append_iff (atStart : Bool) (front rest : List Char) :
    Visible atStart (front ++ rest) ↔
      Visible atStart front ∧ Visible (startsAfter atStart front) rest := by
  induction front generalizing atStart with
  | nil => simp [Visible, startsAfter]
  | cons c others ih => simp only [List.cons_append, Visible, startsAfter, ih, and_assoc]

/-- A stretch is visible when its components after the first one do not start with a dot, nor the first
one where a component starts in front of the stretch. -/
theorem visible_iff_of_pieces {atStart : Bool} {path first : List Char} {others : List (List Char)}
    (hpieces : pieces '/' path = first :: others) :
    Visible atStart path ↔
      (atStart = true → first.head? ≠ some '.') ∧ ∀ other ∈ others, other.head? ≠ some '.' := by
  induction path generalizing atStart first others with
  | nil =>
    obtain ⟨rfl, rfl⟩ := List.cons.inj hpieces
    simp [Visible]
  | cons c rest ih =>
    by_cases hslash : c = '/'
    · subst hslash
      obtain ⟨next, more, hrest⟩ := List.exists_cons_of_ne_nil (pieces_ne_nil '/' rest)
      rw [pieces_cons_self, hrest] at hpieces
      obtain ⟨rfl, rfl⟩ := List.cons.inj hpieces
      rw [Visible, ih hrest]
      simp [isHiddenDot]
    · obtain ⟨next, more, hrest, hcons⟩ := pieces_cons_of_ne hslash rest
      obtain ⟨rfl, rfl⟩ := List.cons.inj (hcons.symm.trans hpieces)
      rw [Visible, ih hrest, isHiddenDot]
      cases atStart <;> simp [hslash]

/-- A path is visible when no component of it starts with a dot. -/
theorem visible_true_iff (path : List Char) :
    Visible true path ↔ ∀ component ∈ pieces '/' path, component.head? ≠ some '.' := by
  obtain ⟨first, others, hpieces⟩ := List.exists_cons_of_ne_nil (pieces_ne_nil '/' path)
  rw [visible_iff_of_pieces hpieces, hpieces, List.forall_mem_cons]
  simp

section Wildcards

variable (continuation : Continuation) (atStart : Bool) (path : List Char)

/-- A wildcard for characters takes a visible front. -/
theorem anySequence_iff :
    anySequence continuation atStart path = true ↔
      ∃ front rest, path = front ++ rest ∧ Visible atStart front ∧
        continuation (startsAfter atStart front) rest = true := by
  induction path generalizing atStart with
  | nil =>
    constructor
    · intro h
      exact ⟨[], [], rfl, trivial, h⟩
    · intro h
      obtain ⟨front, rest, hpath, -, hrest⟩ := h
      obtain ⟨rfl, rfl⟩ := List.append_eq_nil_iff.mp hpath.symm
      exact hrest
  | cons c others ih =>
    rw [anySequence, Bool.or_eq_true, Bool.and_eq_true, Bool.not_eq_true', ih]
    constructor
    · intro h
      rcases h with h | ⟨hdot, front, rest, rfl, hvisible, hrest⟩
      · exact ⟨[], c :: others, rfl, trivial, h⟩
      · exact ⟨c :: front, rest, rfl, ⟨hdot, hvisible⟩, hrest⟩
    · intro h
      obtain ⟨front, rest, hpath, hvisible, hrest⟩ := h
      cases front with
      | nil =>
        obtain rfl : c :: others = rest := hpath
        exact .inl hrest
      | cons d front =>
        obtain ⟨rfl, rfl⟩ := List.cons.inj hpath
        exact .inr ⟨hvisible.1, front, rest, rfl, hvisible.2, hrest⟩

/-- A wildcard for components takes a visible front that ends where the path ends or a component
starts. -/
theorem anyComponents_iff :
    anyComponents continuation atStart path = true ↔
      ∃ front rest, path = front ++ rest ∧ Visible atStart front ∧
        (rest ≠ [] → startsAfter atStart front = true) ∧
        continuation (startsAfter atStart front) rest = true := by
  induction path generalizing atStart with
  | nil =>
    constructor
    · intro h
      exact ⟨[], [], rfl, trivial, fun hne => absurd rfl hne, h⟩
    · intro h
      obtain ⟨front, rest, hpath, -, -, hrest⟩ := h
      obtain ⟨rfl, rfl⟩ := List.append_eq_nil_iff.mp hpath.symm
      exact hrest
  | cons c others ih =>
    rw [anyComponents, Bool.or_eq_true, Bool.and_eq_true, Bool.and_eq_true, Bool.not_eq_true', ih]
    constructor
    · intro h
      rcases h with ⟨hstart, h⟩ | ⟨hdot, front, rest, rfl, hvisible, hends, hrest⟩
      · exact ⟨[], c :: others, rfl, trivial, fun _ => hstart, h⟩
      · exact ⟨c :: front, rest, rfl, ⟨hdot, hvisible⟩, hends, hrest⟩
    · intro h
      obtain ⟨front, rest, hpath, hvisible, hends, hrest⟩ := h
      cases front with
      | nil =>
        obtain rfl : c :: others = rest := hpath
        exact .inl ⟨hends (List.cons_ne_nil c others), hrest⟩
      | cons d front =>
        obtain ⟨rfl, rfl⟩ := List.cons.inj hpath
        exact .inr ⟨hvisible.1, front, rest, rfl, hvisible.2, hends, hrest⟩

end Wildcards

/-- Characters that stand for themselves match nothing else. -/
theorem matchPieces_literals_iff (text : List Char) (atStart : Bool) (path : List Char) :
    matchPieces (text.map .literal) atStart path = true ↔ path = text := by
  induction text generalizing atStart path with
  | nil => rw [List.map_nil, matchPieces, List.isEmpty_iff]
  | cons c rest ih =>
    rw [List.map_cons, matchPieces, Piece.before]
    cases path with
    | nil => simp [oneChar]
    | cons d others => rw [oneChar, Bool.and_eq_true, ih, beq_iff_eq, List.cons.injEq]

/-- Any components, any characters and a text that stands for itself match the paths that end with the
text and are visible before it. -/
theorem matchPieces_anywhere_iff (text path : List Char) :
    matchPieces ([.anyComponents, .anySequence] ++ text.map .literal) true path = true ↔
      ∃ front, path = front ++ text ∧ Visible true front := by
  rw [List.cons_append, List.cons_append, List.nil_append, matchPieces, Piece.before,
    anyComponents_iff]
  simp only [matchPieces, Piece.before, anySequence_iff, matchPieces_literals_iff]
  constructor
  · intro h
    obtain ⟨components, rest, rfl, hcomponents, -, stem, after, rfl, hstem, rfl⟩ := h
    exact ⟨components ++ stem, (List.append_assoc _ _ _).symm,
      (visible_append_iff _ _ _).mpr ⟨hcomponents, hstem⟩⟩
  · intro h
    -- the wildcard for characters can take all of the front
    obtain ⟨front, rfl, hvisible⟩ := h
    exact ⟨[], front ++ text, rfl, trivial, fun _ => rfl, front, text, rfl, hvisible, rfl⟩

end DocCoverage.Glob
