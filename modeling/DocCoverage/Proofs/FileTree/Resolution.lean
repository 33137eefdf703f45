import DocCoverage.Proofs.FileTree.View

/-!
# Where paths lead

The resolution of a path asks a tree only for the kinds of nodes at the places it comes by, so it is
a relation between the kinds of a tree, where the path starts, its steps, and where it ends. A path
that leads somewhere leads there in every tree that keeps these kinds. Two ways to resolve one path
that both succeed end at the same place, except for a link at the end that is not followed.
-/

namespace DocCoverage.FileTree

/-- The kinds at the paths of a tree. -/
abbrev View := List String → Option Kind

/-- Steps lead from a place to another, through at most so many links. -/
inductive Leads (resolution : Resolution) (view : View) :
    Nat → List String → List Step → List String → Prop where
  | arrive (links : Nat) (here : List String) : Leads resolution view links here [] here
  | remain {links : Nat} {here names : List String} {step : Step} {rest : List Step}
      {access : Access} (hstep : step = .pause ∨ step = .stay)
      (hhere : view here = some (.directory access))
      (henter : resolution.entryCheck.stops step = true → access.enter = true)
      (hrest : Leads resolution view links here rest names) :
      Leads resolution view links here (step :: rest) names
  | ascend {links : Nat} {here names : List String} {rest : List Step} {access : Access}
      (hhere : view here = some (.directory access))
      (henter : resolution.entryCheck.stops .up = true → access.enter = true)
      (hrest : Leads resolution view links here.dropLast rest names) :
      Leads resolution view links here (.up :: rest) names
  | descend {links : Nat} {here names : List String} {name : String} {rest : List Step}
      {access : Access} {kind : Kind} (hhere : view here = some (.directory access))
      (henter : resolution.entryCheck.stops (.down name) = true → access.enter = true)
      (hkind : view (here ++ [name]) = some kind) (hnot : ∀ target, kind ≠ .link target)
      (hrest : Leads resolution view links (here ++ [name]) rest names) :
      Leads resolution view links here (.down name :: rest) names
  | stop {links : Nat} {here : List String} {name target : String} {access : Access}
      (hhere : view here = some (.directory access))
      (henter : resolution.entryCheck.stops (.down name) = true → access.enter = true)
      (hlink : view (here ++ [name]) = some (.link target))
      (hlast : resolution.followsLast = false) :
      Leads resolution view links here [.down name] (here ++ [name])
  | follow {links : Nat} {here names : List String} {name target : String} {rest : List Step}
      {access : Access} (hhere : view here = some (.directory access))
      (henter : resolution.entryCheck.stops (.down name) = true → access.enter = true)
      (hlink : view (here ++ [name]) = some (.link target))
      (hlast : rest = [] → resolution.followsLast = true)
      (hrest : Leads resolution view links (if isAbsolute target then [] else here)
        (stepsOf target ++ rest) names) :
      Leads resolution view (links + 1) here (.down name :: rest) names

/-- A directory at a place is seen there. -/
theorem kindAt_of_find? {tree node : Node} {here : List String} (hhere : tree.find? here = some node) :
    tree.kindAt here = some node.kind := by
  rw [Node.kindAt, hhere, Option.map_some]

/-- The node in a directory at a place, by its kind. -/
theorem kindAt_entry {tree : Node} {here : List String} {access : Access}
    {entries : List (String × Node)} (hhere : tree.find? here = some (.directory access entries))
    (name : String) :
    tree.kindAt (here ++ [name]) = (entries.lookup name).map Node.kind := by
  rw [Node.kindAt_append hhere, Node.kindAt_directory_cons]
  cases entries.lookup name <;> simp

/-- A directory that is seen at a place, with its entries. -/
theorem exists_entries_of_kindAt {tree : Node} {here : List String} {access : Access}
    (hhere : tree.kindAt here = some (.directory access)) :
    ∃ entries, tree.find? here = some (.directory access entries) := by
  obtain ⟨node, hfind, hkind⟩ := Node.exists_find?_of_kindAt hhere
  cases node with
  | directory found entries =>
    obtain rfl : found = access := by simpa [Node.kind] using hkind
    exact ⟨entries, hfind⟩
  | file content readable => simp [Node.kind] at hkind
  | link target => simp [Node.kind] at hkind

/-- A link that is seen in a directory. -/
theorem lookup_of_kindAt_link {tree : Node} {here : List String} {access : Access}
    {entries : List (String × Node)} {name target : String}
    (hfind : tree.find? here = some (.directory access entries))
    (hlink : tree.kindAt (here ++ [name]) = some (.link target)) :
    entries.lookup name = some (.link target) := by
  rw [kindAt_entry hfind] at hlink
  obtain ⟨node, hlookup, hnode⟩ := Option.map_eq_some_iff.mp hlink
  cases node with
  | link found =>
    obtain rfl : found = target := by simpa [Node.kind] using hnode
    exact hlookup
  | file content readable => cases hnode
  | directory access entries => cases hnode

/-- A step that is not stopped. -/
theorem not_stopped_iff (resolution : Resolution) (step : Step) (access : Access) :
    ¬ (resolution.entryCheck.stops step && !access.enter) = true ↔
      (resolution.entryCheck.stops step = true → access.enter = true) := by
  cases resolution.entryCheck.stops step <;> cases access.enter <;> decide

/-- Where resolution ends, there the steps lead. -/
theorem leads_of_resolveSteps {resolution : Resolution} {tree : Node} {links : Nat}
    {here names : List String} {steps : List Step}
    (h : resolveSteps resolution tree links here steps = .ok names) :
    Leads resolution tree.kindAt links here steps names := by
  fun_induction resolveSteps resolution tree links here steps with
  | case1 links here =>
    obtain rfl := Except.ok.inj h
    exact .arrive links here
  | case2 => cases h
  | case3 links here rest access entries hfind hstop ih =>
    exact .remain (.inl rfl) (kindAt_of_find? hfind) ((not_stopped_iff _ _ _).mp hstop) (ih h)
  | case4 links here rest access entries hfind hstop ih =>
    exact .remain (.inr rfl) (kindAt_of_find? hfind) ((not_stopped_iff _ _ _).mp hstop) (ih h)
  | case5 links here rest access entries hfind hstop ih =>
    exact .ascend (kindAt_of_find? hfind) ((not_stopped_iff _ _ _).mp hstop) (ih h)
  | case6 => cases h
  | case7 links here rest access entries hfind name target hlookup hlast hstop =>
    obtain ⟨hrest, hfollows⟩ : rest = [] ∧ resolution.followsLast = false := by simpa using hlast
    subst hrest
    obtain rfl := Except.ok.inj h
    exact .stop (kindAt_of_find? hfind) ((not_stopped_iff _ _ _).mp hstop)
      (by rw [kindAt_entry hfind, hlookup]; rfl) hfollows
  | case8 => cases h
  | case9 here rest access entries hfind name target hlookup hlast links hstop ih =>
    refine .follow (kindAt_of_find? hfind) ((not_stopped_iff _ _ _).mp hstop)
      (by rw [kindAt_entry hfind, hlookup]; rfl) ?_ (ih h)
    rintro rfl
    simpa using hlast
  | case10 links here rest access entries hfind name node hnot hlookup hstop ih =>
    have hkind : tree.kindAt (here ++ [name]) = some node.kind := by
      rw [kindAt_entry hfind, hlookup, Option.map_some]
    refine .descend (kindAt_of_find? hfind) ((not_stopped_iff _ _ _).mp hstop) hkind ?_ (ih h)
    intro target hkind
    cases node with
    | link found => exact hnot found rfl
    | file content readable => cases hkind
    | directory access entries => cases hkind
  | case11 => cases h

/-- Where steps lead, there resolution ends. -/
theorem resolveSteps_of_leads {resolution : Resolution} {tree : Node} {links : Nat}
    {here names : List String} {steps : List Step}
    (h : Leads resolution tree.kindAt links here steps names) :
    resolveSteps resolution tree links here steps = .ok names := by
  induction h with
  | arrive links here => rw [resolveSteps]
  | remain hstep hhere henter hrest ih =>
    obtain ⟨entries, hfind⟩ := exists_entries_of_kindAt hhere
    rw [resolveSteps, hfind]
    simp only [if_neg ((not_stopped_iff _ _ _).mpr henter)]
    rcases hstep with rfl | rfl <;> exact ih
  | ascend hhere henter hrest ih =>
    obtain ⟨entries, hfind⟩ := exists_entries_of_kindAt hhere
    rw [resolveSteps, hfind]
    simp only [if_neg ((not_stopped_iff _ _ _).mpr henter)]
    exact ih
  | descend hhere henter hkind hnot hrest ih =>
    obtain ⟨entries, hfind⟩ := exists_entries_of_kindAt hhere
    rw [kindAt_entry hfind] at hkind
    obtain ⟨node, hlookup, rfl⟩ := Option.map_eq_some_iff.mp hkind
    rw [resolveSteps, hfind]
    simp only [if_neg ((not_stopped_iff _ _ _).mpr henter), hlookup]
    cases node with
    | link target => exact absurd rfl (hnot target)
    | file content readable => exact ih
    | directory access entries => exact ih
  | stop hhere henter hlink hlast =>
    obtain ⟨entries, hfind⟩ := exists_entries_of_kindAt hhere
    rw [resolveSteps, hfind]
    simp only [if_neg ((not_stopped_iff _ _ _).mpr henter), lookup_of_kindAt_link hfind hlink]
    simp [hlast]
  | follow hhere henter hlink hlast hrest ih =>
    rename_i rest _
    obtain ⟨entries, hfind⟩ := exists_entries_of_kindAt hhere
    have hgoes : ¬ (rest.isEmpty && !resolution.followsLast) = true := by
      cases rest with
      | nil => simp [hlast rfl]
      | cons step others => simp
    rw [resolveSteps, hfind]
    simp only [if_neg ((not_stopped_iff _ _ _).mpr henter), lookup_of_kindAt_link hfind hlink,
      if_neg hgoes]
    exact ih

/-- The views of two trees: what is seen in the first is seen in the second. -/
def Extends (view larger : View) : Prop := ∀ path kind, view path = some kind → larger path = some kind

namespace Leads

variable {resolution other : Resolution} {view larger : View} {links : Nat}
  {here names names' : List String} {steps : List Step}

/-- Steps lead to the same place where more is seen. -/
theorem mono (h : Leads resolution view links here steps names) (hextends : Extends view larger) :
    Leads resolution larger links here steps names := by
  induction h with
  | arrive links here => exact .arrive links here
  | remain hstep hhere henter hrest ih => exact .remain hstep (hextends _ _ hhere) henter ih
  | ascend hhere henter hrest ih => exact .ascend (hextends _ _ hhere) henter ih
  | descend hhere henter hkind hnot hrest ih =>
    exact .descend (hextends _ _ hhere) henter (hextends _ _ hkind) hnot ih
  | stop hhere henter hlink hlast => exact .stop (hextends _ _ hhere) henter (hextends _ _ hlink) hlast
  | follow hhere henter hlink hlast hrest ih =>
    exact .follow (hextends _ _ hhere) henter (hextends _ _ hlink) hlast ih

/-- Another way to resolve the same steps, where more is seen, goes through the same places when the
first follows all links. So it leads there in the smaller view too, and to the same place, or to a
link at the end that it does not follow. -/
theorem compare (h : Leads resolution view links here steps names)
    (hfollows : resolution.followsLast = true) (hextends : Extends view larger)
    (h' : Leads other larger links here steps names') :
    Leads other view links here steps names' ∧
      (names' = names ∨
        other.followsLast = false ∧ ∃ target, view names' = some (.link target)) := by
  induction h with
  | arrive =>
    cases h'
    exact ⟨.arrive _ _, .inl rfl⟩
  | remain hstep hhere henter hrest ih =>
    have hlarger := hextends _ _ hhere
    cases h' with
    | remain hstep' hhere' henter' hrest' =>
      obtain rfl := Kind.directory.inj (Option.some.inj (hlarger.symm.trans hhere'))
      obtain ⟨hleads, hend⟩ := ih hrest'
      exact ⟨.remain hstep hhere henter' hleads, hend⟩
    | ascend | descend | stop | follow => simp at hstep
  | ascend hhere henter hrest ih =>
    have hlarger := hextends _ _ hhere
    cases h' with
    | ascend hhere' henter' hrest' =>
      obtain rfl := Kind.directory.inj (Option.some.inj (hlarger.symm.trans hhere'))
      obtain ⟨hleads, hend⟩ := ih hrest'
      exact ⟨.ascend hhere henter' hleads, hend⟩
    | remain hstep' => simp at hstep'
  | descend hhere henter hkind hnot hrest ih =>
    have hlarger := hextends _ _ hhere
    have hlargerKind := hextends _ _ hkind
    cases h' with
    | remain hstep' => simp at hstep'
    | descend hhere' henter' hkind' hnot' hrest' =>
      obtain rfl := Kind.directory.inj (Option.some.inj (hlarger.symm.trans hhere'))
      obtain ⟨hleads, hend⟩ := ih hrest'
      exact ⟨.descend hhere henter' hkind hnot hleads, hend⟩
    | stop hhere' henter' hlink' hlast' =>
      exact absurd (Option.some.inj (hlargerKind.symm.trans hlink')) (hnot _)
    | follow hhere' henter' hlink' hlast' hrest' =>
      exact absurd (Option.some.inj (hlargerKind.symm.trans hlink')) (hnot _)
  | stop hhere henter hlink hlast =>
    rw [hfollows] at hlast
    cases hlast
  | follow hhere henter hlink hlast hrest ih =>
    have hlarger := hextends _ _ hhere
    have hlargerLink := hextends _ _ hlink
    cases h' with
    | remain hstep' => simp at hstep'
    | descend hhere' henter' hkind' hnot' hrest' =>
      exact absurd (Option.some.inj (hlargerLink.symm.trans hkind')).symm (hnot' _)
    | stop hhere' henter' hlink' hlast' =>
      obtain rfl := Kind.directory.inj (Option.some.inj (hlarger.symm.trans hhere'))
      exact ⟨.stop hhere henter' hlink hlast', .inr ⟨hlast', _, hlink⟩⟩
    | follow hhere' henter' hlink' hlast' hrest' =>
      obtain rfl := Kind.directory.inj (Option.some.inj (hlarger.symm.trans hhere'))
      obtain rfl := Kind.link.inj (Option.some.inj (hlargerLink.symm.trans hlink'))
      obtain ⟨hleads, hend⟩ := ih hrest'
      exact ⟨.follow hhere henter' hlink hlast' hleads, hend⟩

/-- Where no check stops another way to resolve steps, it leads somewhere when one does that follows all
links. -/
theorem exists_of_enter (h : Leads resolution view links here steps names)
    (hfollows : resolution.followsLast = true)
    (henters : ∀ path access step, view path = some (.directory access) →
      (resolution.entryCheck.stops step = true → access.enter = true) →
      other.entryCheck.stops step = true → access.enter = true) :
    ∃ names', Leads other view links here steps names' := by
  induction h with
  | arrive links here => exact ⟨here, .arrive links here⟩
  | remain hstep hhere henter hrest ih =>
    obtain ⟨names', hleads⟩ := ih
    exact ⟨names', .remain hstep hhere (henters _ _ _ hhere henter) hleads⟩
  | ascend hhere henter hrest ih =>
    obtain ⟨names', hleads⟩ := ih
    exact ⟨names', .ascend hhere (henters _ _ _ hhere henter) hleads⟩
  | descend hhere henter hkind hnot hrest ih =>
    obtain ⟨names', hleads⟩ := ih
    exact ⟨names', .descend hhere (henters _ _ _ hhere henter) hkind hnot hleads⟩
  | stop hhere henter hlink hlast =>
    rw [hfollows] at hlast
    cases hlast
  | follow hhere henter hlink hlast hrest ih =>
    rename_i rest access
    obtain ⟨names', hleads⟩ := ih
    by_cases hends : rest = [] ∧ other.followsLast = false
    · obtain ⟨rfl, hstops⟩ := hends
      exact ⟨_, .stop hhere (henters _ _ _ hhere henter) hlink hstops⟩
    · refine ⟨names', .follow hhere (henters _ _ _ hhere henter) hlink ?_ hleads⟩
      intro hrest
      simpa [hrest] using hends

/-- Steps that do not end at a link lead to the same place where all links are followed. -/
theorem follows_of_not_link (h : Leads resolution view links here steps names)
    (hnot : ∀ target, view names ≠ some (.link target)) :
    Leads { resolution with followsLast := true } view links here steps names := by
  induction h with
  | arrive links here => exact .arrive links here
  | remain hstep hhere henter hrest ih => exact .remain hstep hhere henter (ih hnot)
  | ascend hhere henter hrest ih => exact .ascend hhere henter (ih hnot)
  | descend hhere henter hkind hnolink hrest ih =>
    exact .descend hhere henter hkind hnolink (ih hnot)
  | stop hhere henter hlink hlast => exact absurd hlink (hnot _)
  | follow hhere henter hlink hlast hrest ih => exact .follow hhere henter hlink (fun _ => rfl) (ih hnot)

/-- Steps lead on from where their front leads. -/
theorem split (h : Leads resolution view links here (front ++ rest) names)
    (hfollows : resolution.followsLast = true) :
    ∃ links' between, Leads resolution view links here front between ∧
      Leads resolution view links' between rest names := by
  generalize hsteps : front ++ rest = steps at h
  induction h generalizing front with
  | arrive links here =>
    obtain ⟨rfl, rfl⟩ := List.append_eq_nil_iff.mp hsteps
    exact ⟨links, here, .arrive _ _, .arrive _ _⟩
  | @remain links here names step more access hstep hhere henter hrest ih =>
    obtain ⟨rfl, rfl⟩ | ⟨front, rfl, rfl⟩ := List.append_eq_cons_iff.mp hsteps
    · exact ⟨links, here, .arrive _ _, .remain hstep hhere henter hrest⟩
    · obtain ⟨links', between, hfront, hend⟩ := ih rfl
      exact ⟨links', between, .remain hstep hhere henter hfront, hend⟩
  | @ascend links here names more access hhere henter hrest ih =>
    obtain ⟨rfl, rfl⟩ | ⟨front, rfl, rfl⟩ := List.append_eq_cons_iff.mp hsteps
    · exact ⟨links, here, .arrive _ _, .ascend hhere henter hrest⟩
    · obtain ⟨links', between, hfront, hend⟩ := ih rfl
      exact ⟨links', between, .ascend hhere henter hfront, hend⟩
  | @descend links here names name more access kind hhere henter hkind hnot hrest ih =>
    obtain ⟨rfl, rfl⟩ | ⟨front, rfl, rfl⟩ := List.append_eq_cons_iff.mp hsteps
    · exact ⟨links, here, .arrive _ _, .descend hhere henter hkind hnot hrest⟩
    · obtain ⟨links', between, hfront, hend⟩ := ih rfl
      exact ⟨links', between, .descend hhere henter hkind hnot hfront, hend⟩
  | stop hhere henter hlink hlast =>
    rw [hfollows] at hlast
    cases hlast
  | @follow links here names name target more access hhere henter hlink hlast hrest ih =>
    obtain ⟨rfl, rfl⟩ | ⟨front, rfl, rfl⟩ := List.append_eq_cons_iff.mp hsteps
    · exact ⟨links + 1, here, .arrive _ _, .follow hhere henter hlink hlast hrest⟩
    · -- the steps of the target belong to the front
      obtain ⟨links', between, hfront, hend⟩ := ih (List.append_assoc _ _ _)
      exact ⟨links', between, .follow hhere henter hlink (fun _ => hfollows) hfront, hend⟩

/-- Names lead downwards where none of them is the name of a link. -/
theorem eq_append_of_down {path : List String}
    (h : Leads resolution view links here (path.map .down) names)
    (hnot : ∀ front target, front <+: path → view (here ++ front) = some (.link target) → front = []) :
    names = here ++ path := by
  induction path generalizing here with
  | nil =>
    cases h
    exact (List.append_nil _).symm
  | cons name rest ih =>
    have hfirst : [name] <+: name :: rest := List.cons_prefix_cons.mpr ⟨rfl, List.nil_prefix⟩
    rw [List.map_cons] at h
    generalize hsteps : rest.map Step.down = steps at h
    cases h with
    | remain hstep => simp at hstep
    | descend hhere henter hkind hnolink hrest =>
      subst hsteps
      rw [ih hrest fun front target hfront hlink => ?_, List.append_assoc, List.singleton_append]
      have hdeeper : name :: front <+: name :: rest := List.cons_prefix_cons.mpr ⟨rfl, hfront⟩
      rw [List.append_assoc, List.singleton_append] at hlink
      cases hnot _ target hdeeper hlink
    | stop hhere henter hlink => cases hnot _ _ hfirst hlink
    | follow hhere henter hlink => cases hnot _ _ hfirst hlink

end Leads

/-- What stands at a path stands in something. -/
theorem exists_kindAt_dropLast {tree : Node} {path : List String} {kind : Kind}
    (hkind : tree.kindAt path = some kind) : ∃ kind, tree.kindAt path.dropLast = some kind := by
  rcases List.eq_nil_or_concat' path with rfl | ⟨front, name, rfl⟩
  · exact ⟨kind, hkind⟩
  · obtain ⟨access, haccess⟩ := Node.exists_directory_of_kindAt_append hkind
    rw [List.dropLast_concat]
    exact ⟨_, haccess⟩

/-- Steps in a tree lead from something to something. -/
theorem Leads.exists_kindAt {resolution : Resolution} {tree : Node} {links : Nat}
    {here names : List String} {steps : List Step}
    (h : Leads resolution tree.kindAt links here steps names)
    (hhere : ∃ kind, tree.kindAt here = some kind) : ∃ kind, tree.kindAt names = some kind := by
  induction h with
  | arrive => exact hhere
  | remain _ _ _ _ ih => exact ih hhere
  | ascend hdirectory _ _ ih => exact ih (exists_kindAt_dropLast hdirectory)
  | descend _ _ hkind _ _ ih => exact ih ⟨_, hkind⟩
  | stop _ _ hlink => exact ⟨_, hlink⟩
  | follow _ _ _ _ _ ih =>
    refine ih ?_
    split
    · exact ⟨_, Node.kindAt_nil tree⟩
    · exact hhere

/-- Steps that are taken start in a directory. -/
theorem Leads.exists_directory {resolution : Resolution} {view : View} {links : Nat}
    {here names : List String} {step : Step} {rest : List Step}
    (h : Leads resolution view links here (step :: rest) names) :
    ∃ access, view here = some (.directory access) := by
  cases h with
  | remain _ hhere | ascend hhere | descend hhere | stop hhere | follow hhere => exact ⟨_, hhere⟩

/-- A path has at least one step. -/
theorem stepsOf_ne_nil (path : String) : stepsOf path ≠ [] := by
  simp [stepsOf, components, Text.pieces_ne_nil]

section Resolve

variable {resolution other : Resolution} {tree larger : Node} {working names names' : List String}
  {path : String}

/-- A path that is not empty is resolved to where its steps lead. -/
theorem resolve_eq_ok_iff :
    resolve resolution tree working path = .ok names ↔
      path ≠ "" ∧ Leads resolution tree.kindAt linkLimit (if isAbsolute path then [] else working)
        (stepsOf path) names := by
  rw [resolve]
  by_cases hempty : path = ""
  · subst hempty
    simp
  · rw [if_neg (by simpa using hempty)]
    exact ⟨fun h => ⟨hempty, leads_of_resolveSteps h⟩, fun h => resolveSteps_of_leads h.2⟩

/-- A path is resolved to the same place where more is seen. -/
theorem resolve_mono (hextends : Extends tree.kindAt larger.kindAt)
    (h : resolve resolution tree working path = .ok names) :
    resolve resolution larger working path = .ok names := by
  obtain ⟨hpath, hleads⟩ := resolve_eq_ok_iff.mp h
  exact resolve_eq_ok_iff.mpr ⟨hpath, hleads.mono hextends⟩

/-- Another way to resolve a path, where more is seen, succeeds in the smaller tree too, and leads to
the same place, or to a link that it does not follow. -/
theorem resolve_compare (h : resolve resolution tree working path = .ok names)
    (hfollows : resolution.followsLast = true) (hextends : Extends tree.kindAt larger.kindAt)
    (h' : resolve other larger working path = .ok names') :
    resolve other tree working path = .ok names' ∧
      (names' = names ∨
        other.followsLast = false ∧ ∃ target, tree.kindAt names' = some (.link target)) := by
  obtain ⟨hpath, hleads⟩ := resolve_eq_ok_iff.mp h
  obtain ⟨-, hleads'⟩ := resolve_eq_ok_iff.mp h'
  obtain ⟨hsmaller, hend⟩ := hleads.compare hfollows hextends hleads'
  exact ⟨resolve_eq_ok_iff.mpr ⟨hpath, hsmaller⟩, hend⟩

/-- All ways to resolve a path that follow all links lead to the same place. -/
theorem resolve_unique (h : resolve resolution tree working path = .ok names)
    (hfollows : resolution.followsLast = true)
    (h' : resolve other tree working path = .ok names') (hfollows' : other.followsLast = true) :
    names' = names := by
  obtain ⟨-, hsame | ⟨hstops, -⟩⟩ := resolve_compare h hfollows (fun _ _ hkind => hkind) h'
  · exact hsame
  · rw [hfollows'] at hstops
    cases hstops

/-- A path that is resolved with all links followed is resolved with weaker checks too. -/
theorem exists_resolve_of_weaker (h : resolve resolution tree working path = .ok names)
    (hfollows : resolution.followsLast = true)
    (hweaker : ∀ step, other.entryCheck.stops step = true → resolution.entryCheck.stops step = true) :
    ∃ names', resolve other tree working path = .ok names' := by
  obtain ⟨hpath, hleads⟩ := resolve_eq_ok_iff.mp h
  obtain ⟨names', hleads'⟩ :=
    hleads.exists_of_enter hfollows fun _ _ step _ henter hstops => henter (hweaker step hstops)
  exact ⟨names', resolve_eq_ok_iff.mpr ⟨hpath, hleads'⟩⟩

/-- A path that does not end at a link leads to the same place where all links are followed. -/
theorem resolve_follows_of_not_link (h : resolve resolution tree working path = .ok names)
    (hnot : ∀ target, tree.kindAt names ≠ some (.link target)) :
    resolve { resolution with followsLast := true } tree working path = .ok names := by
  obtain ⟨hpath, hleads⟩ := resolve_eq_ok_iff.mp h
  exact resolve_eq_ok_iff.mpr ⟨hpath, hleads.follows_of_not_link hnot⟩

/-- A resolved path leads to something. -/
theorem exists_kindAt_of_resolve (h : resolve resolution tree working path = .ok names) :
    ∃ kind, tree.kindAt names = some kind := by
  obtain ⟨-, hleads⟩ := resolve_eq_ok_iff.mp h
  obtain ⟨step, rest, hsteps⟩ := List.exists_cons_of_ne_nil (stepsOf_ne_nil path)
  obtain ⟨access, hstart⟩ := Leads.exists_directory (hsteps ▸ hleads)
  exact hleads.exists_kindAt ⟨_, hstart⟩

end Resolve

/-- The bytes that a path leads to are those of a file that may be read. -/
theorem fileContent_eq_ok_iff {tree : Node} {working : List String} {path : String}
    {content : List UInt8} :
    fileContent tree working path = .ok content ↔
      ∃ names, resolve {} tree working path = .ok names ∧
        tree.kindAt names = some (.file content true) := by
  rw [fileContent]
  cases resolve {} tree working path with
  | error error => simp [bind, Except.bind]
  | ok names =>
    simp only [bind, Except.bind, Except.ok.injEq, exists_eq_left']
    cases hfind : tree.find? names with
    | none => simp [Node.kindAt, hfind]
    | some node =>
      rw [kindAt_of_find? hfind]
      cases node with
      | file found readable => cases readable <;> simp [Node.kind]
      | directory access entries => simp [Node.kind]
      | link target => simp [Node.kind]

/-- A path leads to the same bytes where more is seen. -/
theorem fileContent_mono {tree larger : Node} {working : List String} {path : String}
    {content : List UInt8} (hextends : Extends tree.kindAt larger.kindAt)
    (h : fileContent tree working path = .ok content) :
    fileContent larger working path = .ok content := by
  obtain ⟨names, hnames, hkind⟩ := fileContent_eq_ok_iff.mp h
  exact fileContent_eq_ok_iff.mpr ⟨names, resolve_mono hextends hnames, hextends _ _ hkind⟩

end DocCoverage.FileTree
