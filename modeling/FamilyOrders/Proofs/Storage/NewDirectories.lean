import FamilyOrders.Proofs.Storage.Walks

/-!
# New directories

Making the directories of a path changes nothing that is there.  All it adds are
directories, each at a place that the path passes, and a walk that fails has not
made the last of them.
-/

namespace FamilyOrders.Storage

theorem prefix_foldl_follow
    {names : List Name} (hdots : [dot, dot] ∉ names) (here : Location) :
    here <+: names.foldl follow here := by
  induction names generalizing here with
  | nil => exact List.prefix_rfl
  | cons name names ih =>
      have hstep : here <+: follow here name := by
        unfold follow
        split
        · exact List.prefix_rfl
        · rw [if_neg (List.ne_of_not_mem_cons hdots).symm]
          exact List.prefix_append here [name]
      exact hstep.trans (ih (List.not_mem_of_not_mem_cons hdots) _)

/-- A walk along the names from a location comes by this place. -/
def Passes (here : Location) (names : List Name) (place : Location) : Prop :=
  ∃ passed, passed <+: names ∧ passed.foldl follow here = place

namespace Passes

variable {here place : Location} {name : Name} {names : List Name}

theorem first
    (here : Location) (name : Name) (names : List Name) :
    Passes here (name :: names) (follow here name) :=
  ⟨[name], List.prefix_append [name] names, rfl⟩

theorem later
    (hpasses : Passes (follow here name) names place) :
    Passes here (name :: names) place := by
  obtain ⟨passed, hinit, hplace⟩ := hpasses
  exact ⟨name :: passed, List.cons_prefix_cons.mpr ⟨rfl, hinit⟩, hplace⟩

/-- A walk without steps back passes only what its end lies in. -/
theorem isPrefix
    (hdots : [dot, dot] ∉ names) (hpasses : Passes here names place) :
    place <+: names.foldl follow here := by
  obtain ⟨passed, ⟨rest, rfl⟩, rfl⟩ := hpasses
  rw [List.foldl_append]
  exact prefix_foldl_follow
    (fun hmem => hdots (List.mem_append_right passed hmem)) _

end Passes

namespace Tree

variable {tree before middle after : Tree} {places wider : Location →
  Prop} {here : Location}
  {name : Name} {names : List Name}

/-- Every entry is as before, except that there are new directories at some of
the places. -/
def Founds (places : Location → Prop) (before after : Tree) : Prop :=
  ∀ location, after.entry? location = before.entry? location ∨
    before.entry? location = none ∧ after.entry? location = some .directory ∧
    places location

theorem chains_founds (places : Location → Prop) : Chains (Founds places) where
  refl _ _ := .inl rfl
  trans := by
    intro before middle after hfirst hsecond location
    rcases hfirst location with hkept | ⟨hnothing, hmade, hplace⟩
    · rw [← hkept]
      exact hsecond location
    · rcases hsecond location with hkept | ⟨hgone, -, -⟩
      · exact .inr ⟨hnothing, hkept.trans hmade, hplace⟩
      · rw [hmade] at hgone
        contradiction

namespace Founds

theorem widen
    (hfounds : before.Founds places after)
    (hwider : ∀ place, places place → wider place) :
    before.Founds wider after := by
  intro location
  exact (hfounds location).imp id fun ⟨hnothing, hmade, hplace⟩ =>
    ⟨hnothing, hmade, hwider location hplace⟩

theorem entry?_eq
    {place : Location} (hfounds : before.Founds places after)
    (hplace : ¬ places place) : after.entry? place = before.entry? place :=
  (hfounds place).resolve_right fun ⟨_, _, hfounded⟩ => hplace hfounded

theorem entry?_kept
    {place : Location} {entry : Entry} (hfounds : before.Founds places after)
    (hentry : before.entry? place = some entry) :
    after.entry? place = some entry := by
  rcases hfounds place with hkept | ⟨hnothing, -, -⟩
  · rw [hkept, hentry]
  · rw [hnothing] at hentry
    cases hentry

theorem file_iff
    {place : Location} {bytes : Bytes} (hfounds : before.Founds places after) :
    after.entry? place = some (.file bytes) ↔
      before.entry? place = some (.file bytes) := by
  rcases hfounds place with hkept | ⟨hnothing, hmade, -⟩
  · rw [hkept]
  · simp [hnothing, hmade]

end Founds

theorem Walkable.append_left
    {more : List Name} (hwalk : tree.Walkable here (names ++ more)) :
    tree.Walkable here names := by
  induction names generalizing here with
  | nil => exact hwalk.start
  | cons name names ih =>
      obtain ⟨hhere, hname, hrest⟩ := hwalk
      exact ⟨hhere, hname, ih hrest⟩

theorem step_of_fresh
    (hhere : tree.isDirectory here = true) (hname : ProperName name)
    (hfits : name.length ≤ longestName)
    (hnothing : tree.entry? (here ++ [name]) = none) :
    tree.step here name = .error .noSuchEntry := by
  simp [step, hhere, hname.ne_nil, hname.ne_dot, hname.ne_dots,
    Nat.not_lt.mpr hfits, hnothing]

end Tree

/-- Everything is as before, except that there may be new directories. -/
abbrev Tree.AddsDirectories (before after : Tree) : Prop :=
  before.Founds (fun _ => True) after

theorem Tree.Founds.addsDirectories
    {before after : Tree} {places : Location → Prop}
    (hfounds : before.Founds places after) :
    before.AddsDirectories after :=
  hfounds.widen fun _ _ => trivial

variable {medium : Medium} {tree after : Tree} {here : Location} {name : Name}
variable {names : List Name}

theorem founds_makeStep
    (medium : Medium) (here : Location) (name : Name) :
    Moves (Tree.Founds (· = follow here name)) (makeStep medium here name) := by
  intro tree
  rw [run_makeStep]
  split
  · exact (Tree.chains_founds _).refl tree
  · rename_i hstep
    obtain ⟨hfollow, -, -, hnothing⟩ := Tree.step_eq_noSuchEntry hstep
    split
    · exact (Tree.chains_founds _).refl tree
    intro location
    by_cases hlocation : location = here ++ [name]
    · subst hlocation
      exact .inr ⟨hnothing, Tree.entry?_put_self (child_ne_nil here name) _,
        hfollow.symm⟩
    · exact .inl (Tree.entry?_put_of_ne hlocation _)
  · exact (Tree.chains_founds _).refl tree

/-- A step that fails has made nothing. -/
theorem makeStep_eq_error
    {fault : Fault} (hrun :
      (makeStep medium here name).run.run tree = (.error fault, after)) :
    after = tree ∧ ∀ next, tree.step here name ≠ .ok next := by
  rw [run_makeStep] at hrun
  split at hrun
  · cases hrun
  · rename_i hstep
    rw [hstep]
    split at hrun
    · exact ⟨(Prod.mk.inj hrun).2.symm, nofun⟩
    · cases hrun
  · rename_i hstep
    rw [hstep]
    exact ⟨(Prod.mk.inj hrun).2.symm, nofun⟩

theorem founds_foldlM_makeStep
    (medium : Medium) (names : List Name) (here : Location) :
    Moves (Tree.Founds (Passes here names))
      (names.foldlM (makeStep medium) here) := by
  induction names generalizing here with
  | nil => exact (Tree.chains_founds _).refl
  | cons name names ih =>
      intro tree
      rw [List.foldlM_cons, run_bind]
      have hfirst := founds_makeStep medium here name tree
      have hpassed : Tree.Founds (Passes here (name :: names)) tree
          ((makeStep medium here name).run.run tree).2 := by
        apply hfirst.widen
        rintro place rfl
        exact .first here name names
      rcases hrun :
        (makeStep medium here name).run.run tree with ⟨outcome, middle⟩
      rw [hrun] at hpassed
      cases outcome with
      | error fault => exact hpassed
      | ok next =>
          obtain ⟨rfl, -, -⟩ := makeStep_eq_ok hrun
          have hrest := (ih (follow here name) middle).widen fun _ =>
              Passes.later
          exact (Tree.chains_founds _).trans hpassed hrest

/-- Each step of a walk is made before the next, so one that fails has not come
to its end. -/
theorem founds_of_foldlM_makeStep_error
    {fault : Fault}
    (hrun :
      (names.foldlM (makeStep medium) here).run.run tree =
        (.error fault, after)) :
    tree.Founds (Passes here names.dropLast) after := by
  induction names generalizing tree here with
  | nil => cases hrun
  | cons name names ih =>
      rw [List.foldlM_cons, run_bind] at hrun
      rcases hfirst :
        (makeStep medium here name).run.run tree with ⟨outcome, middle⟩
      rw [hfirst] at hrun
      cases outcome with
      | error fault =>
          obtain ⟨-, rfl⟩ := Prod.mk.inj hrun
          rw [(makeStep_eq_error hfirst).1]
          exact (Tree.chains_founds _).refl tree
      | ok next =>
          obtain ⟨rfl, -, -⟩ := makeStep_eq_ok hfirst
          cases names with
          | nil => cases hrun
          | cons second names =>
              have hmade := (founds_makeStep medium here name).of_run hfirst
              have hrest := (ih hrun).widen fun _ => Passes.later
              refine (Tree.chains_founds _).trans (hmade.widen ?_) hrest
              rintro place rfl
              exact .first here name _

theorem not_walkable_of_foldlM_makeStep_error
    {fault : Fault}
    (hrun :
      (names.foldlM (makeStep medium) here).run.run tree =
        (.error fault, after)) :
    ¬ after.Walkable here names := by
  induction names generalizing tree here with
  | nil => cases hrun
  | cons name names ih =>
      intro hwalk
      rw [List.foldlM_cons, run_bind] at hrun
      rcases hfirst :
        (makeStep medium here name).run.run tree with ⟨outcome, middle⟩
      rw [hfirst] at hrun
      cases outcome with
      | error fault =>
          obtain ⟨-, rfl⟩ := Prod.mk.inj hrun
          obtain ⟨rfl, hstuck⟩ := makeStep_eq_error hfirst
          exact hstuck _ hwalk.step
      | ok next =>
          obtain ⟨rfl, -, -⟩ := makeStep_eq_ok hfirst
          exact ih hrun hwalk.2.2

variable {workingDirectory : Location} {path : Bytes}
  {outcome : Except Fault Unit}

/-- A path leads by this place. -/
def PathPasses (workingDirectory : Location) (path : Bytes) (place : Location) :
    Prop :=
  Passes (origin workingDirectory path) ((splitPath path).filter (· ≠ [])) place

theorem PathPasses.isPrefix
    {place : Location} (hdots : [dot, dot] ∉ splitPath path)
    (hpasses : PathPasses workingDirectory path place) :
    place <+: destination workingDirectory path := by
  have hfiltered : [dot, dot] ∉ (splitPath path).filter (· ≠ []) :=
    fun hmem => hdots (List.mem_filter.mp hmem).1
  have hinit := Passes.isPrefix hfiltered hpasses
  rw [foldl_follow_filter] at hinit
  exact hinit

theorem founds_makeDirectories
    (medium : Medium) (workingDirectory : Location) (path : Bytes) :
    Moves (Tree.Founds (PathPasses workingDirectory path))
      (makeDirectories medium workingDirectory path) :=
  moves_makeDirectories (Tree.chains_founds _)
    (founds_foldlM_makeStep medium _ _)

/-- The directories of a path are made exactly when they are all there
afterwards. -/
theorem makeDirectories_eq_ok_iff
    (hpath : path ≠ [])
    (hrun :
      (makeDirectories medium workingDirectory path).run.run tree =
        (outcome, after)) :
    outcome = .ok () ↔ after.Reaches workingDirectory path := by
  constructor
  · rintro rfl
    exact reaches_of_makeDirectories hpath hrun
  intro hreaches
  rw [run_makeDirectories medium tree workingDirectory hreaches.noNul
    hreaches.fits hpath]
    at hrun
  rcases hwalk : (((splitPath path).filter (· ≠ [])).foldlM (makeStep medium)
    (origin workingDirectory path)).run.run tree with ⟨walked, made⟩
  rw [hwalk] at hrun
  cases walked with
  | error fault =>
      obtain ⟨-, rfl⟩ := Prod.mk.inj hrun
      exact absurd hreaches.walkable.filter
        (not_walkable_of_foldlM_makeStep_error hwalk)
  | ok finish =>
      obtain ⟨houtcome, rfl⟩ := Prod.mk.inj hrun
      have hfinish := (foldlM_makeStep_eq_ok hwalk).1
      rw [foldl_follow_filter] at hfinish
      have hdirectory : made.isDirectory finish = true :=
        hfinish ▸ hreaches.isDirectory
      rw [← houtcome, if_pos hdirectory]

/-! ### Directories of locations -/

theorem filter_splitPath_path
    {location : Location} (hlocation : location ≠ [])
    (hnames : ∀ name ∈ location, ProperName name) :
    (splitPath location.path).filter (· ≠ []) = location := by
  rw [splitPath_path hlocation hnames, List.filter_cons_of_neg (by simp),
    List.filter_eq_self]
  intro name hname
  simpa using (hnames name hname).ne_nil

theorem Passes.isPrefix_of_proper
    {place location : Location} (hnames : ∀ name ∈ location, ProperName name)
    (hpasses : Passes [] location place) :
    place <+: location := by
  have hdots : [dot, dot] ∉ location := fun hmem => (hnames _ hmem).ne_dots rfl
  have hinit := hpasses.isPrefix hdots
  rwa [foldl_follow_of_proper hnames, List.nil_append] at hinit

theorem pathPasses_path_isPrefix
    {place location : Location} (hlocation : location ≠ [])
    (hnames : ∀ name ∈ location, ProperName name)
    (hpasses : PathPasses workingDirectory location.path place) :
    place <+: location := by
  rw [PathPasses, filter_splitPath_path hlocation hnames,
    origin_path hlocation] at hpasses
  exact hpasses.isPrefix_of_proper hnames

/-- What is made newly is a directory, so a walk to a file has made only what
leads there. -/
theorem founds_of_foldlM_makeStep_to_file
    {directory finish : Location} {made : Tree}
    (hnames : ∀ other ∈ directory ++ [name], ProperName other)
    (hwalk : ((directory ++ [name]).foldlM (makeStep medium) []).run.run tree =
      (.ok finish, made))
    (hfile : made.isDirectory finish = false) :
    tree.Founds (· <+: directory) made := by
  have hfinish := (foldlM_makeStep_eq_ok hwalk).1
  rw [foldl_follow_of_proper hnames, List.nil_append] at hfinish
  intro place
  refine ((founds_foldlM_makeStep medium _ _).of_run hwalk place).imp id ?_
  rintro ⟨hnothing, hmade, hpasses⟩
  refine ⟨hnothing, hmade, ?_⟩
  have hinit := hpasses.isPrefix_of_proper hnames
  rcases List.prefix_concat_iff.mp hinit with rfl | hinit
  · rw [hfinish, Tree.isDirectory, hmade] at hfile
    simp at hfile
  · exact hinit

/-- The directory of a location that cannot be made is not there newly either.
-/
theorem founds_of_makeDirectories_error
    {directory : Location} {fault : Fault}
    (hnames : ∀ other ∈ directory ++ [name], ProperName other)
    (hrun :
      (makeDirectories medium workingDirectory
        (directory ++ [name]).path).run.run tree =
      (.error fault, after)) :
    tree.Founds (· <+: directory) after := by
  have hchild := child_ne_nil directory name
  by_cases hnul : 0 ∈ (directory ++ [name]).path
  · rw [run_makeDirectories_of_nul medium tree workingDirectory hnul] at hrun
    obtain ⟨-, rfl⟩ := Prod.mk.inj hrun
    exact (Tree.chains_founds _).refl tree
  by_cases hlong : longestPath < (directory ++ [name]).path.length
  · rw [run_makeDirectories_of_long medium tree workingDirectory hnul
      hlong] at hrun
    obtain ⟨-, rfl⟩ := Prod.mk.inj hrun
    exact (Tree.chains_founds _).refl tree
  rw [run_makeDirectories medium tree workingDirectory hnul
    (Nat.not_lt.mp hlong)
    (path_ne_nil _), filter_splitPath_path hchild hnames,
    origin_path hchild] at hrun
  rcases hwalk :
    ((directory ++ [name]).foldlM (makeStep medium) []).run.run tree with
    ⟨walked, made⟩
  rw [hwalk] at hrun
  cases walked with
  | error fault =>
      obtain ⟨-, rfl⟩ := Prod.mk.inj hrun
      have hfounds := founds_of_foldlM_makeStep_error hwalk
      rw [List.dropLast_concat] at hfounds
      have hproper : ∀ other ∈ directory, ProperName other :=
        fun other hother => hnames other (List.mem_append_left _ hother)
      exact hfounds.widen fun place => Passes.isPrefix_of_proper hproper
  | ok finish =>
      obtain ⟨houtcome, rfl⟩ := Prod.mk.inj hrun
      refine founds_of_foldlM_makeStep_to_file hnames hwalk ?_
      rw [Bool.eq_false_iff]
      intro hdirectory
      rw [if_pos hdirectory] at houtcome
      cases houtcome

/-- Beside a directory that is reached, another one is made under a fresh name.
-/
theorem run_makeDirectories_fresh
    {directory : Location} {other : Name}
    (hnames : ∀ found ∈ directory, ProperName found) (hother : ProperName other)
    (hreaches : tree.Reaches [] (directory ++ [other]).path)
    (hname : ProperName name) (hnul : 0 ∉ name)
    (hshort : name.length ≤ longestName)
    (hfits : (directory ++ [name]).path.length ≤ longestPath)
    (hnothing : tree.entry? (directory ++ [name]) = none)
    (htaken : medium.refusal tree (directory ++ [name]) = none) :
    (makeDirectories medium [] (directory ++ [name]).path).run.run tree =
      (.ok (), tree.put (directory ++ [name]) .directory) := by
  have hnoNul : 0 ∉ (directory ++ [name]).path := by
    have hothers := hreaches.noNul
    rw [path_child, List.mem_append, List.mem_cons, not_or, not_or] at hothers ⊢
    exact ⟨hothers.1, by decide, hnul⟩
  have hwalk : tree.Walkable [] directory := by
    have hwhole := hreaches.walkable.filter
    rw [filter_splitPath_path (child_ne_nil _ _)
      (properName_of_mem_child hnames hother), origin_path
      (child_ne_nil _ _)] at hwhole
    exact hwhole.append_left
  have hhere : tree.isDirectory directory = true := by
    have harrives := hwalk.arrives
    rwa [foldl_follow_of_proper hnames, List.nil_append] at harrives
  have hmade : Tree.isDirectory (tree.put (directory ++ [name]) .directory)
      (directory ++ [name]) = true := by
    simp [Tree.isDirectory, Tree.entry?_put_self (child_ne_nil directory name)]
  rw [run_makeDirectories medium tree [] hnoNul hfits (path_ne_nil _),
    filter_splitPath_path (child_ne_nil _ _)
      (properName_of_mem_child hnames hname),
    origin_path (child_ne_nil _ _), List.foldlM_append, run_bind,
    foldlM_makeStep_of_walkable medium hwalk, foldl_follow_of_proper hnames,
      List.nil_append]
  simp only [List.foldlM_cons, List.foldlM_nil, run_bind, run_makeStep,
    Tree.step_of_fresh hhere hname hshort hnothing, htaken]
  have hlast : (pure (directory ++ [name]) : TreeAction Location).run.run
      (tree.put (directory ++ [name]) .directory) =
        (.ok (directory ++ [name]),
          tree.put (directory ++ [name]) .directory) :=
    rfl
  simp only [hlast, hmade, if_true]

end FamilyOrders.Storage
