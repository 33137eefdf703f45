import DocCoverage.Proofs.Selection.SelectedFiles

/-!
# What is read of a file that was met

A file that a scan meets is opened by the path of the root and its own path behind it. Where that path
can be followed, it leads to the file itself: the steps of the root lead to the resolved root, and from
there on the names of the path lead downwards, through no link.
-/

namespace DocCoverage.FileTree

/-- The components of two paths with a slash between them. -/
theorem stepsOf_append_slash (first second : String) :
    stepsOf (first ++ "/" ++ second) = stepsOf first ++ stepsOf second := by
  have hslash : (first ++ "/" ++ second).toList = first.toList ++ '/' :: second.toList := by
    rw [String.toList_append, String.toList_append, List.append_assoc]
    rfl
  rw [stepsOf, components, hslash, Text.pieces_append_separator, List.map_append, List.map_append]
  rfl

end DocCoverage.FileTree

namespace DocCoverage.Selection

open FileTree

/-- The steps of a shown path are those to its names. -/
theorem stepsOf_displayPath {path : List String} (hpath : path ≠ [])
    (hnames : ∀ name ∈ path, IsFileName name) : stepsOf (displayPath path) = path.map .down := by
  rw [stepsOf, components_displayPath hpath hnames]
  refine List.map_congr_left fun name hname => ?_
  obtain ⟨hnonempty, -, hstay, hup⟩ := hnames name hname
  simp [Step.ofComponent, hnonempty, hstay, hup]

/-- A text that ends with a slash. -/
theorem exists_append_slash {root : String} (hslash : root.toList.getLast? = some '/') :
    ∃ front, root = front ++ "/" := by
  obtain ⟨chars, hchars⟩ := List.getLast?_eq_some_iff.mp hslash
  refine ⟨String.ofList chars, ?_⟩
  rw [← String.toList_inj, String.toList_append, hchars, String.toList_ofList]
  rfl

/-- The steps of an opened path are those of the root, without a pause at its end, and those to the
names of the path. -/
theorem exists_stepsOf_openedPath (root : String) {path : List String} (hpath : path ≠ [])
    (hnames : ∀ name ∈ path, IsFileName name) :
    ∃ front, stepsOf (openedPath root path) = front ++ path.map .down ∧
      (stepsOf root = front ∨ stepsOf root = front ++ [.pause]) := by
  rw [openedPath, if_neg (by simpa using hpath), withSlash]
  by_cases hslash : root.toList.getLast? = some '/'
  · obtain ⟨front, rfl⟩ := exists_append_slash hslash
    rw [if_pos (by simp), stepsOf_append_slash, stepsOf_displayPath hpath hnames]
    refine ⟨stepsOf front, rfl, .inr ?_⟩
    have hend : front ++ "/" = front ++ "/" ++ "" := by simp
    rw [hend, stepsOf_append_slash]
    rfl
  · rw [if_neg (by simpa using hslash), stepsOf_append_slash, stepsOf_displayPath hpath hnames]
    exact ⟨stepsOf root, rfl, .inl rfl⟩

/-- An opened path starts where its root starts. -/
theorem isAbsolute_openedPath {root : String} (hroot : root ≠ "") (path : List String) :
    isAbsolute (openedPath root path) = isAbsolute root := by
  have hchars : root.toList ≠ [] := by simpa using hroot
  obtain ⟨c, rest, hcons⟩ := List.exists_cons_of_ne_nil hchars
  rw [openedPath, withSlash]
  split
  · rfl
  · split <;> simp [isAbsolute, hcons]

section Opened

variable {skips : String → Bool} {tree : Node} {working resolved path : List String} {root : String}

/-- What a scan meets a file through is no link. -/
theorem Meets.not_link (hmeets : Meets skips tree working root resolved path)
    {front : List String} (hfront : front <+: path) (target : String) :
    tree.kindAt (resolved ++ front) ≠ some (.link target) := by
  obtain ⟨⟨content, readable, hfile⟩, hdirectories⟩ := hmeets.reaches.kinds
  obtain ⟨rest, rfl⟩ := hfront
  intro hlink
  cases rest with
  | nil =>
    rw [List.append_nil] at hfile
    cases hlink.symm.trans hfile
  | cons name rest =>
    obtain ⟨access, hdirectory⟩ := hdirectories front name rest rfl
    cases hlink.symm.trans hdirectory

/-- The opened path of a file that a scan meets leads to that file. -/
theorem resolve_openedPath (hnamed : WellNamed tree)
    (hroot : resolve { entryCheck := .names } tree working root = .ok resolved)
    (hmeets : Meets skips tree working root resolved path) {names : List String}
    (hopened : resolve {} tree working (openedPath root path) = .ok names) :
    names = resolved ++ path := by
  by_cases hpath : path = []
  · subst hpath
    obtain ⟨-, hsame | ⟨-, target, hlink⟩⟩ :=
      resolve_compare hopened rfl (fun _ _ hkind => hkind) (hmeets.direct rfl)
    · rw [hsame, List.append_nil]
    · rw [← List.append_nil resolved] at hlink
      exact absurd hlink (hmeets.not_link List.prefix_rfl target)
  · obtain ⟨⟨content, readable, hfile⟩, -⟩ := hmeets.reaches.kinds
    have hnames : ∀ name ∈ path, IsFileName name := fun name hname =>
      hnamed.isFileName hfile name (List.mem_append_right _ hname)
    obtain ⟨front, hsteps, hfront⟩ := exists_stepsOf_openedPath root hpath hnames
    obtain ⟨hnonempty, hleads⟩ := resolve_eq_ok_iff.mp hroot
    obtain ⟨-, hleads'⟩ := resolve_eq_ok_iff.mp hopened
    rw [hsteps, isAbsolute_openedPath hnonempty] at hleads'
    obtain ⟨links, between, hbetween, hdown⟩ := hleads'.split rfl
    -- the front leads to the resolved root
    have hresolved : Leads { entryCheck := .names } tree.kindAt linkLimit
        (if isAbsolute root then [] else working) front resolved := by
      rcases hfront with hfront | hfront <;> rw [hfront] at hleads
      · exact hleads
      · obtain ⟨links', end', hend, hpause⟩ := hleads.split rfl
        cases hpause with
        | remain _ _ _ hrest =>
          cases hrest
          exact hend
    obtain ⟨name, rest, rfl⟩ := List.exists_cons_of_ne_nil hpath
    obtain ⟨access, hdirectory⟩ := hdown.exists_directory
    obtain ⟨-, rfl | ⟨-, target, hlink⟩⟩ := hresolved.compare rfl (fun _ _ hkind => hkind) hbetween
    · exact hdown.eq_append_of_down fun front target hprefix hlink =>
        absurd hlink (hmeets.not_link hprefix target)
    · cases hlink.symm.trans hdirectory

end Opened

/-- What is read of a file that a scan meets are its bytes. -/
theorem kindAt_of_fileContent_openedPath {skips : String → Bool} {tree : Node}
    {working resolved path : List String} {root : String} {content : List UInt8}
    (hnamed : WellNamed tree)
    (hroot : resolve { entryCheck := .names } tree working root = .ok resolved)
    (hmeets : Meets skips tree working root resolved path)
    (hread : fileContent tree working (openedPath root path) = .ok content) :
    tree.kindAt (resolved ++ path) = some (.file content true) := by
  obtain ⟨names, hnames, hkind⟩ := fileContent_eq_ok_iff.mp hread
  rwa [resolve_openedPath hnamed hroot hmeets hnames] at hkind

end DocCoverage.Selection
