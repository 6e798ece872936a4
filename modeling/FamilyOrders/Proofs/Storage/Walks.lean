import FamilyOrders.Proofs.Actions
import FamilyOrders.Proofs.Storage.FileUrls
import FamilyOrders.Storage.Tree

/-!
# Walks through a tree

Without links a path leads where its names say, whatever the tree holds, and the
tree only decides whether the walk can be made.  A walk that can be made stays
possible while directories stay, and making the directories of a path makes its
walk possible without changing anything that was there.
-/

namespace FamilyOrders.Storage

open FamilyOrders.Text

def origin (workingDirectory : Location) (path : Bytes) : Location :=
  if isAbsolute path then [] else workingDirectory

def destination (workingDirectory : Location) (path : Bytes) : Location :=
  (splitPath path).foldl follow (origin workingDirectory path)

theorem follow_of_proper
    {name : Name} (hname : ProperName name) (here : Location) :
    follow here name = here ++ [name] := by
  rw [follow, if_neg (not_or.mpr ⟨hname.ne_nil, hname.ne_dot⟩),
    if_neg hname.ne_dots]

theorem foldl_follow_of_proper
    {names : List Name} (hnames : ∀ name ∈ names, ProperName name)
    (here : Location) : names.foldl follow here = here ++ names := by
  induction names generalizing here with
  | nil => rw [List.foldl_nil, List.append_nil]
  | cons name names ih =>
      rw [List.foldl_cons, follow_of_proper (hnames name List.mem_cons_self),
        ih fun name hname => hnames name (List.mem_cons_of_mem _ hname),
          List.append_assoc]
      rfl

theorem foldl_follow_filter
    (names : List Name) (here : Location) :
    (names.filter (· ≠ [])).foldl follow here = names.foldl follow here := by
  induction names generalizing here with
  | nil => rfl
  | cons name names ih =>
      by_cases hempty : name = []
      · subst hempty
        exact ih here
      · rw [List.filter_cons_of_pos (by simpa using hempty), List.foldl_cons,
          List.foldl_cons, ih]

theorem properName_of_mem_follow
    {here : Location} {name : Name} (hhere : ∀ other ∈ here, ProperName other)
    (hname : slash ∉ name) :
    ∀ other ∈ follow here name, ProperName other := by
  intro other hother
  unfold follow at hother
  split at hother
  · exact hhere other hother
  rename_i hstay
  split at hother
  · exact hhere other (List.dropLast_subset here hother)
  rename_i hup
  rcases List.mem_append.mp hother with hbefore | hlast
  · exact hhere other hbefore
  · obtain rfl := List.mem_singleton.mp hlast
    exact ⟨(not_or.mp hstay).1, hname, (not_or.mp hstay).2, hup⟩

theorem properName_of_mem_foldl_follow
    {here : Location} {names : List Name}
    (hhere : ∀ other ∈ here, ProperName other)
    (hnames : ∀ name ∈ names, slash ∉ name) :
    ∀ other ∈ names.foldl follow here, ProperName other := by
  induction names generalizing here with
  | nil => exact hhere
  | cons name names ih =>
      exact ih (properName_of_mem_follow hhere (hnames name List.mem_cons_self))
        fun other hother => hnames other (List.mem_cons_of_mem _ hother)

theorem splitPath_eq_splitOnP (path : Bytes) :
    splitPath path = path.splitOnP (· == slash) := by
  induction path with
  | nil => rfl
  | cons b path ih =>
      obtain ⟨name, names, hsplit⟩ :=
        List.exists_cons_of_ne_nil (List.splitOnP_ne_nil (· == slash) path)
      rw [splitPath, ih, List.splitOnP_cons_eq_if_modifyHead, hsplit]
      simp only [beq_iff_eq]
      rfl

theorem slash_notMem_of_mem_splitPath
    {path : Bytes} {name : Name} (hname : name ∈ splitPath path) :
    slash ∉ name := by
  intro hslash
  rw [splitPath_eq_splitOnP] at hname
  exact beq_eq_false_iff_ne.mp (of_mem_splitOnP hname hslash).2 rfl

theorem properName_of_mem_destination
    {workingDirectory : Location} {path : Bytes}
    (hworking : ∀ name ∈ workingDirectory, ProperName name) :
    ∀ name ∈ destination workingDirectory path, ProperName name := by
  apply properName_of_mem_foldl_follow
  · intro name hname
    unfold origin at hname
    split at hname
    · contradiction
    · exact hworking name hname
  · intro name hname
    exact slash_notMem_of_mem_splitPath hname

/-! ### Paths of locations -/

theorem splitPath_joined
    {first : Name} {more : List Name}
    (hnames : ∀ name ∈ first :: more, slash ∉ name) :
    splitPath (first ++ more.flatMap (slash :: ·)) = first :: more := by
  rw [splitPath_eq_splitOnP]
  apply splitOnP_joined
  · exact beq_self_eq_true slash
  · intro name hname b hb
    exact beq_eq_false_iff_ne.mpr (ne_of_mem_of_not_mem hb (hnames name hname))

theorem splitPath_of_notMem
    {name : Name} (hname : slash ∉ name) :
    splitPath name = [name] := by
  have hjoined := splitPath_joined (List.forall_mem_singleton.mpr hname)
  rwa [List.flatMap_nil, List.append_nil] at hjoined

theorem splitPath_path
    {location : Location} (hlocation : location ≠ [])
    (hnames : ∀ name ∈ location, ProperName name) :
    splitPath location.path = [] :: location := by
  obtain ⟨first, more, rfl⟩ := List.exists_cons_of_ne_nil hlocation
  have hsplit := splitPath_joined fun name hname =>
      (hnames name hname).slash_notMem
  rw [path_of_ne_nil hlocation, List.flatMap_cons, List.cons_append, splitPath,
    if_pos rfl, hsplit]

theorem origin_path
    {location : Location} (hlocation : location ≠ [])
    (workingDirectory : Location) :
    origin workingDirectory location.path = [] := by
  obtain ⟨first, more, rfl⟩ := List.exists_cons_of_ne_nil hlocation
  rfl

theorem destination_path
    {location : Location} (hlocation : location ≠ [])
    (hnames : ∀ name ∈ location, ProperName name)
    (workingDirectory : Location) :
    destination workingDirectory location.path = location := by
  rw [destination, splitPath_path hlocation hnames, origin_path hlocation,
    List.foldl_cons]
  exact foldl_follow_of_proper hnames []

theorem length_path_le_of_isPrefix
    {above location : Location} (hinit : above <+: location) :
    above.path.length ≤ location.path.length := by
  by_cases hroot : above = []
  · rw [hroot]
    exact List.length_pos_iff.mpr (path_ne_nil location)
  · obtain ⟨names, rfl⟩ := hinit
    rw [path_of_ne_nil hroot,
      path_of_ne_nil (List.append_ne_nil_of_left_ne_nil hroot names),
        List.flatMap_append, List.length_append]
    exact Nat.le_add_right _ _

theorem path_append_name
    {directory : Location} (hdirectory : directory ≠ []) (name : Name) :
    (directory ++ [name]).path = directory.path ++ slash :: name := by
  rw [path_child, path_of_ne_nil hdirectory]

/-- No path on the way along the names is too long to be asked for. -/
def WayFits : Location → List Name → Prop
  | _, [] => True
  | here, name :: names =>
    (follow here name).path.length ≤ longestPath ∧ WayFits
    (follow here name) names

theorem wayFits_of_proper
    {here : Location} {names : List Name}
    (hnames : ∀ name ∈ names, ProperName name)
    (hfits : (here ++ names).path.length ≤ longestPath) :
    WayFits here names := by
  induction names generalizing here with
  | nil => trivial
  | cons name names ih =>
      obtain ⟨hname, hmore⟩ := List.forall_mem_cons.mp hnames
      have hnext : here ++ [name] <+: here ++ name :: names :=
        List.append_cons here name names ▸ List.prefix_append _ _
      rw [WayFits, follow_of_proper hname]
      refine ⟨(length_path_le_of_isPrefix hnext).trans hfits, ih hmore ?_⟩
      rwa [← List.append_cons]

/-- The way of a location's own path is no longer than that path. -/
theorem wayFits_path
    {location : Location} (hlocation : location ≠ [])
    (hnames : ∀ name ∈ location, ProperName name)
    (hfits : location.path.length ≤ longestPath) :
    WayFits [] (splitPath location.path) := by
  rw [splitPath_path hlocation hnames]
  exact ⟨by decide, wayFits_of_proper hnames hfits⟩

namespace Tree

/-! ### Entries -/

variable {tree before middle after : Tree} {here location : Location}

@[simp] theorem entry?_put_self
    (hlocation : location ≠ []) (entry : Entry) :
    Tree.entry? (tree.put location entry) location = some entry := by
  have hothers : (tree.entries.filter fun old => old.1 ≠ location).find?
      (fun old => old.1 = location) = none := by
    rw [List.find?_eq_none]
    intro old hold
    simpa using (List.mem_filter.mp hold).2
  unfold entry?
  rw [if_neg hlocation, put, List.find?_append, hothers]
  simp

theorem entry?_put_of_ne
    {other : Location} (hother : other ≠ location) (entry : Entry) :
    Tree.entry? (tree.put location entry) other = tree.entry? other := by
  have hlast : [(location, entry)].find? (fun old => old.1 = other) = none := by
    simpa using hother.symm
  have hkept : (fun old : Location × Entry =>
      decide (decide (old.1 ≠ location) = true ∧
        decide (old.1 = other) = true)) =
      fun old => decide (old.1 = other) := by
    funext old
    by_cases hold : old.1 = other
    · simp [hold, hother]
    · simp [hold]
  unfold entry?
  rw [put, List.find?_append, hlast, List.find?_filter, hkept, Option.or_none]

@[simp] theorem put_put
    (tree : Tree) (location : Location) (first second : Entry) :
    (tree.put location first).put location second =
      tree.put location second := by
  simp [put, List.filter_append]

/-- What was there stays, except that files at the places touched may get new
content. -/
structure Grows (before after : Tree) (touched : Location → Prop) : Prop where
  directory :
    ∀ {location}, before.isDirectory location = true →
      after.isDirectory location = true
  file :
    ∀ {location bytes}, before.entry? location = some (.file bytes) →
      ¬ touched location →
    after.entry? location = some (.file bytes)

namespace Grows

variable {touched wider : Location → Prop}

theorem refl (tree : Tree) (touched : Location → Prop) :
    tree.Grows tree touched where
  directory := id
  file hfile _ := hfile

theorem trans (hfirst : before.Grows middle touched)
    (hsecond : middle.Grows after touched) : before.Grows after touched where
  directory hdirectory := hsecond.directory (hfirst.directory hdirectory)
  file hfile huntouched :=
    hsecond.file (hfirst.file hfile huntouched) huntouched

theorem widen (hgrows : before.Grows after touched)
    (hwider : ∀ location, touched location → wider location) :
    before.Grows after wider where
  directory := hgrows.directory
  file hfile huntouched := hgrows.file hfile fun htouched =>
    huntouched (hwider _ htouched)

theorem put
    (hkept : before.isDirectory location = false)
    (htouched : before.entry? location = none ∨ touched location)
    (entry : Entry) : before.Grows (before.put location entry) touched where
  directory := by
    intro other hother
    have hne : other ≠ location := by
      rintro rfl
      rw [hkept] at hother
      contradiction
    rw [isDirectory, entry?_put_of_ne hne]
    exact hother
  file := by
    intro other bytes hother huntouched
    have hne : other ≠ location := by
      rintro rfl
      rcases htouched with hnothing | htouched
      · rw [hnothing] at hother
        contradiction
      · exact huntouched htouched
    rw [entry?_put_of_ne hne]
    exact hother

end Grows

theorem chains_grows (touched : Location → Prop) :
    Chains (Grows · · touched) where
  refl tree := .refl tree touched
  trans := .trans

/-- Nothing that was there is changed. -/
def Adds (before after : Tree) : Prop :=
  before.Grows after fun _ => False

theorem chains_adds : Chains Adds :=
  chains_grows fun _ => False

/-! ### Steps -/

theorem step_eq_ok
    {name : Name} {next : Location} (hstep : tree.step here name = .ok next) :
    next = follow here name ∧ tree.isDirectory here = true ∧
    name.length ≤ longestName := by
  unfold step at hstep
  split at hstep
  · contradiction
  rename_i hhere
  have hdirectory : tree.isDirectory here = true := by simpa using hhere
  split at hstep
  · rename_i hstay
    refine ⟨?_, hdirectory, ?_⟩
    · rw [follow, if_pos hstay]
      exact (Except.ok.inj hstep).symm
    · rcases hstay with rfl | rfl <;> decide
  rename_i hstay
  split at hstep
  · rename_i hup
    refine ⟨?_, hdirectory, ?_⟩
    · rw [follow, if_neg hstay, if_pos hup]
      exact (Except.ok.inj hstep).symm
    · rw [hup]
      decide
  rename_i hup
  split at hstep
  · contradiction
  rename_i hlong
  split at hstep
  · contradiction
  refine ⟨?_, hdirectory, Nat.not_lt.mp hlong⟩
  rw [follow, if_neg hstay, if_neg hup]
  exact (Except.ok.inj hstep).symm

theorem resolveStep_of_fits
    {name : Name} (tree : Tree)
    (hfits : (follow here name).path.length ≤ longestPath) :
    tree.resolveStep here name = tree.step here name :=
  if_neg (Nat.not_lt.mpr hfits)

theorem step_eq_noSuchEntry
    {name : Name} (hstep : tree.step here name = .error .noSuchEntry) :
    follow here name = here ++ [name] ∧ tree.isDirectory here = true ∧
      name.length ≤ longestName ∧ tree.entry? (here ++ [name]) = none := by
  unfold step at hstep
  split at hstep
  · contradiction
  rename_i hhere
  split at hstep
  · contradiction
  rename_i hstay
  split at hstep
  · contradiction
  rename_i hup
  split at hstep
  · contradiction
  rename_i hlong
  split at hstep
  · rename_i hnothing
    refine ⟨?_, by simpa using hhere, Nat.not_lt.mp hlong,
      Option.isNone_iff_eq_none.mp hnothing⟩
    rw [follow, if_neg hstay, if_neg hup]
  · contradiction

theorem step_of_entry
    {name : Name} (hhere : tree.isDirectory here = true)
    (hname : name.length ≤ longestName)
    (hentry : tree.entry? (follow here name) ≠ none) :
    tree.step here name = .ok (follow here name) := by
  unfold step
  rw [if_neg (by simp [hhere])]
  unfold follow at hentry ⊢
  split
  · rfl
  rename_i hstay
  rw [if_neg hstay] at hentry
  split
  · rfl
  rename_i hup
  rw [if_neg hup] at hentry
  rw [if_neg (Nat.not_lt.mpr hname), if_neg (by simpa using hentry)]

/-- All the steps of a walk can be made, and each of them from a directory to a
directory. -/
def Walkable (tree : Tree) : Location → List Name → Prop
  | here, [] => tree.isDirectory here = true
  | here, name :: names =>
    tree.isDirectory here = true ∧ name.length ≤ longestName ∧
      tree.Walkable (follow here name) names

theorem entry?_of_isDirectory
    (hdirectory : tree.isDirectory location = true) :
    tree.entry? location = some .directory := by
  simpa [isDirectory] using hdirectory

namespace Walkable

variable {name : Name} {names : List Name}

theorem start (hwalk : tree.Walkable here names) :
    tree.isDirectory here = true := by
  cases names with
  | nil => exact hwalk
  | cons name names => exact hwalk.1

theorem grows {touched : Location → Prop}
    (hwalk : before.Walkable here names) (hgrows : before.Grows after touched) :
    after.Walkable here names := by
  induction names generalizing here with
  | nil => exact hgrows.directory hwalk
  | cons name names ih =>
      obtain ⟨hhere, hname, hrest⟩ := hwalk
      exact ⟨hgrows.directory hhere, hname, ih hrest⟩

theorem of_filter
    (hwalk : tree.Walkable here (names.filter (· ≠ []))) :
    tree.Walkable here names := by
  induction names generalizing here with
  | nil => exact hwalk
  | cons name names ih =>
      by_cases hempty : name = []
      · subst hempty
        have hrest : tree.Walkable here names := ih hwalk
        exact ⟨hrest.start, Nat.zero_le _, hrest⟩
      · rw [List.filter_cons_of_pos (by simpa using hempty)] at hwalk
        obtain ⟨hhere, hname, hrest⟩ := hwalk
        exact ⟨hhere, hname, ih hrest⟩

theorem filter
    (hwalk : tree.Walkable here names) :
    tree.Walkable here (names.filter (· ≠ [])) := by
  induction names generalizing here with
  | nil => exact hwalk
  | cons name names ih =>
      obtain ⟨hhere, hname, hrest⟩ := hwalk
      by_cases hempty : name = []
      · subst hempty
        exact ih hrest
      · rw [List.filter_cons_of_pos (by simpa using hempty)]
        exact ⟨hhere, hname, ih hrest⟩

theorem step
    (hwalk : tree.Walkable here (name :: names)) :
    tree.step here name = .ok (follow here name) := by
  obtain ⟨hhere, hname, hrest⟩ := hwalk
  apply step_of_entry hhere hname
  rw [entry?_of_isDirectory hrest.start]
  exact Option.some_ne_none _

theorem foldlM_resolveStep
    (hwalk : tree.Walkable here names) (hway : WayFits here names) :
    names.foldlM tree.resolveStep here = .ok (names.foldl follow here) := by
  induction names generalizing here with
  | nil => rfl
  | cons name names ih =>
      obtain ⟨hfits, hmore⟩ := hway
      rw [List.foldlM_cons, resolveStep_of_fits tree hfits, hwalk.step,
        List.foldl_cons]
      exact ih hwalk.2.2 hmore

theorem arrives
    (hwalk : tree.Walkable here names) :
    tree.isDirectory (names.foldl follow here) = true := by
  induction names generalizing here with
  | nil => exact hwalk
  | cons name names ih => exact ih hwalk.2.2

end Walkable

/-- The way of a path and its end are there, all of them directories. -/
structure Reaches (tree : Tree) (workingDirectory : Location) (path : Bytes) :
    Prop where
  noNul : 0 ∉ path
  ne_nil : path ≠ []
  fits : path.length ≤ longestPath
  walkable : tree.Walkable (origin workingDirectory path) (splitPath path)

namespace Reaches

variable {workingDirectory : Location} {path : Bytes}

theorem grows {touched : Location → Prop}
    (hreaches : before.Reaches workingDirectory path)
    (hgrows : before.Grows after touched) :
    after.Reaches workingDirectory path where
  noNul := hreaches.noNul
  ne_nil := hreaches.ne_nil
  fits := hreaches.fits
  walkable := hreaches.walkable.grows hgrows

theorem resolve
    (hreaches : tree.Reaches workingDirectory path)
    (hway : WayFits (origin workingDirectory path) (splitPath path)) :
    tree.resolve workingDirectory path =
      .ok (destination workingDirectory path) := by
  rw [Tree.resolve, if_neg hreaches.noNul, if_neg hreaches.ne_nil]
  exact hreaches.walkable.foldlM_resolveStep hway

theorem isDirectory
    (hreaches : tree.Reaches workingDirectory path) :
    tree.isDirectory (destination workingDirectory path) = true :=
  hreaches.walkable.arrives

end Reaches

theorem foldlM_resolveStep_eq_ok
    {names : List Name}
    (hwalk : names.foldlM tree.resolveStep here = .ok location) :
    location = names.foldl follow here ∧ WayFits here names := by
  induction names generalizing here with
  | nil => exact ⟨(Except.ok.inj hwalk).symm, trivial⟩
  | cons name names ih =>
      rw [List.foldlM_cons] at hwalk
      obtain ⟨next, hstep, hrest⟩ := bind_eq_ok_iff.mp hwalk
      unfold resolveStep at hstep
      split at hstep
      · cases hstep
      rename_i hfits
      obtain ⟨rfl, -, -⟩ := step_eq_ok hstep
      obtain ⟨hlocation, hway⟩ := ih hrest
      exact ⟨hlocation, Nat.not_lt.mp hfits, hway⟩

/-- A path leads where its names say, if it leads anywhere. -/
theorem resolve_eq_ok
    {workingDirectory : Location} {path : Bytes}
    (hresolve : tree.resolve workingDirectory path = .ok location) :
    location = destination workingDirectory path ∧
      WayFits (origin workingDirectory path) (splitPath path) := by
  unfold resolve at hresolve
  split at hresolve
  · cases hresolve
  split at hresolve
  · cases hresolve
  exact foldlM_resolveStep_eq_ok hresolve

/-- The file with a name in a directory that is reached. -/
theorem resolve_file
    {directory : Location} {name : Name} (workingDirectory : Location)
    (hdirectory : directory ≠ [])
    (hnames : ∀ other ∈ directory, ProperName other)
    (hname : ProperName name) (hnul : 0 ∉ name)
    (hshort : name.length ≤ longestName)
    (hfits : (directory ++ [name]).path.length ≤ longestPath)
    (hreaches : tree.Reaches [] directory.path)
    (hentry : tree.entry? (directory ++ [name]) ≠ none) :
    tree.resolve workingDirectory (directory ++ [name]).path =
      .ok (directory ++ [name]) := by
  have hwhole := child_ne_nil directory name
  have hproper := properName_of_mem_child hnames hname
  have hnoNul : 0 ∉ (directory ++ [name]).path := by
    rw [path_append_name hdirectory, List.mem_append, List.mem_cons, not_or,
      not_or]
    exact ⟨hreaches.noNul, by decide, hnul⟩
  have habove : directory.path.length ≤ longestPath :=
    (length_path_le_of_isPrefix (List.prefix_append directory [name])).trans
    hfits
  have hway := wayFits_path hdirectory hnames habove
  have hwalk := hreaches.walkable
  have harrives := hreaches.isDirectory
  rw [destination_path hdirectory hnames] at harrives
  rw [origin_path hdirectory, splitPath_path hdirectory hnames] at hwalk
  rw [splitPath_path hdirectory hnames] at hway
  have hfollow : ([] :: directory).foldl follow [] = directory :=
    foldl_follow_of_proper hnames []
  have hresolved := hwalk.foldlM_resolveStep hway
  rw [hfollow] at hresolved
  have hnext := follow_of_proper hname directory
  have hstep : tree.resolveStep directory name = .ok (directory ++ [name]) := by
    rw [resolveStep_of_fits tree (hnext ▸ hfits), ← hnext]
    exact step_of_entry harrives hshort (hnext ▸ hentry)
  have hstart := origin_path hwhole workingDirectory
  rw [origin] at hstart
  rw [resolve, if_neg hnoNul, if_neg (path_ne_nil _), hstart,
    splitPath_path hwhole hproper, ← List.cons_append, List.foldlM_append,
      hresolved]
  simp [List.foldlM_cons, hstep, bind, Except.bind, pure, Except.pure]

end Tree

/-! ### Making directories -/

variable {tree after : Tree} {here : Location} {name : Name} {names : List Name}

theorem run_makeEntry
    (medium : Medium) (tree : Tree) (place : Location) (entry : Entry) :
    (makeEntry medium place entry).run.run tree =
      match medium.refusal tree place with
      | some fault => (.error fault, tree)
      | none => (.ok (), tree.put place entry) := by
  have hrun : (makeEntry medium place entry).run.run tree =
      ExceptT.run (m := StateM Tree) (match medium.refusal tree place with
        | some fault => throw fault
        | none => set (tree.put place entry)) tree := rfl
  rw [hrun]
  cases medium.refusal tree place with
  | some fault => rfl
  | none => rfl

section Steps

variable {medium : Medium}

theorem run_makeStep
    (medium : Medium) (tree : Tree) (here : Location) (name : Name) :
    (makeStep medium here name).run.run tree =
      match tree.step here name with
      | .ok next => (.ok next, tree)
      | .error .noSuchEntry =>
        match medium.refusal tree (here ++ [name]) with
        | some fault => (.error fault, tree)
        | none => (.ok (here ++ [name]), tree.put (here ++ [name]) .directory)
      | .error fault => (.error fault, tree) := by
  have hrun : (makeStep medium here name).run.run tree =
      ExceptT.run (m := StateM Tree) (match tree.step here name with
        | .ok next => pure next
        | .error .noSuchEntry => do
          makeEntry medium (here ++ [name]) .directory
          pure (here ++ [name])
        | .error fault => throw fault) tree := rfl
  rw [hrun]
  cases tree.step here name with
  | ok next => rfl
  | error fault =>
      by_cases hmissing : fault = .noSuchEntry
      · rw [hmissing]
        change ((makeEntry medium (here ++ [name]) .directory >>= _).run.run
          tree) = _
        rw [run_bind, run_makeEntry]
        cases medium.refusal tree (here ++ [name]) with
        | some fault => rfl
        | none => rfl
      · cases fault with
        | noSuchEntry => contradiction
        | _ => rfl

theorem makeStep_eq_ok
    {next : Location} (hrun :
      (makeStep medium here name).run.run tree = (.ok next, after)) :
    next = follow here name ∧ tree.isDirectory here = true ∧
    name.length ≤ longestName := by
  rw [run_makeStep] at hrun
  split at hrun
  · rename_i hstep
    cases hrun
    exact Tree.step_eq_ok hstep
  · rename_i hstep
    obtain ⟨hnext, hhere, hname, -⟩ := Tree.step_eq_noSuchEntry hstep
    split at hrun
    · cases hrun
    · cases hrun
      exact ⟨hnext.symm, hhere, hname⟩
  · cases hrun

theorem adds_makeStep
    (medium : Medium) (here : Location) (name : Name) :
    Moves Tree.Adds (makeStep medium here name) := by
  intro tree
  rw [run_makeStep]
  split
  · exact .refl tree _
  · rename_i hstep
    obtain ⟨-, -, -, hnothing⟩ := Tree.step_eq_noSuchEntry hstep
    split
    · exact .refl tree _
    · apply Tree.Grows.put _ (.inl hnothing)
      simp [Tree.isDirectory, hnothing]
  · exact .refl tree _

theorem makeStep_of_step
    {next : Location} (medium : Medium)
    (hstep : tree.step here name = .ok next) :
    (makeStep medium here name).run.run tree = (.ok next, tree) := by
  rw [run_makeStep, hstep]

theorem foldlM_makeStep_eq_ok
    {finish : Location}
    (hrun :
      (names.foldlM (makeStep medium) here).run.run tree =
        (.ok finish, after)) :
    finish = names.foldl follow here ∧
      (after.isDirectory finish = true → after.Walkable here names) := by
  induction names generalizing tree here with
  | nil =>
      cases hrun
      exact ⟨rfl, id⟩
  | cons name names ih =>
      rw [List.foldlM_cons, run_bind_eq_ok_iff] at hrun
      obtain ⟨next, middle, hfirst, hrest⟩ := hrun
      obtain ⟨rfl, hhere, hname⟩ := makeStep_eq_ok hfirst
      obtain ⟨hfinish, hwalk⟩ := ih hrest
      -- The start was a directory before the later steps, and these only add.
      refine ⟨hfinish, fun hdirectory => ⟨?_, hname, hwalk hdirectory⟩⟩
      have hstep := (adds_makeStep medium here name).of_run hfirst
      have hsteps := Moves.foldlM Tree.chains_adds (adds_makeStep medium) names
        (follow here name)
      exact (hstep.trans (hsteps.of_run hrest)).directory hhere

theorem foldlM_makeStep_of_walkable
    (medium : Medium) (hwalk : tree.Walkable here names) :
    (names.foldlM (makeStep medium) here).run.run tree =
      (.ok (names.foldl follow here), tree) := by
  induction names generalizing here with
  | nil => rfl
  | cons name names ih =>
      rw [List.foldlM_cons, run_bind, makeStep_of_step medium hwalk.step]
      exact ih hwalk.2.2

end Steps

section Directories

variable {medium : Medium} {workingDirectory : Location} {path : Bytes}

theorem run_makeDirectories
    (medium : Medium) (tree : Tree) (workingDirectory : Location)
    (hnul : 0 ∉ path) (hfits : path.length ≤ longestPath) (hpath : path ≠ []) :
    (makeDirectories medium workingDirectory path).run.run tree =
      match (((splitPath path).filter (· ≠ [])).foldlM (makeStep medium)
        (origin workingDirectory path)).run.run tree with
      | (.ok finish, after) =>
        (if after.isDirectory finish then .ok () else .error .alreadyExists,
          after)
      | (.error fault, after) => (.error fault, after) := by
  have hrun : (makeDirectories medium workingDirectory path).run.run tree =
      ExceptT.run (m := StateM Tree) (do
        let finish ← ((splitPath path).filter (· ≠ [])).foldlM (makeStep medium)
          (origin workingDirectory path)
        if !(← get).isDirectory finish then throw Fault.alreadyExists)
          tree := by
    unfold makeDirectories
    rw [if_neg hnul, if_neg (Nat.not_lt.mpr hfits), if_pos hpath]
    rfl
  rw [hrun]
  change StateT.run (ExceptT.run _) tree = _
  rw [run_bind]
  rcases (((splitPath path).filter (· ≠ [])).foldlM (makeStep medium)
    (origin workingDirectory path)).run.run tree with ⟨outcome, after⟩
  cases outcome with
  | error fault => rfl
  | ok finish =>
      change ExceptT.run (m := StateM Tree)
        (if !after.isDirectory finish then throw Fault.alreadyExists else pure
          ()) after = _
      cases hdirectory : after.isDirectory finish with
      | false =>
          simp only [hdirectory]
          rfl
      | true =>
          simp only [hdirectory]
          rfl

theorem run_makeDirectories_of_nul
    (medium : Medium) (tree : Tree) (workingDirectory : Location)
    (hnul : 0 ∈ path) :
    (makeDirectories medium workingDirectory path).run.run tree =
      (.error .nulInPath, tree) := by
  unfold makeDirectories
  rw [if_pos hnul]
  rfl

theorem run_makeDirectories_of_long
    (medium : Medium) (tree : Tree) (workingDirectory : Location)
    (hnul : 0 ∉ path) (hlong : longestPath < path.length) :
    (makeDirectories medium workingDirectory path).run.run tree =
      (.error .nameTooLong, tree) := by
  unfold makeDirectories
  rw [if_neg hnul, if_pos hlong]
  rfl

/-- Nothing is done for the directories of a path beyond the steps along it. -/
theorem moves_makeDirectories
    {R : Tree → Tree → Prop} (hchains : Chains R)
    (hwalk :
      Moves R (((splitPath path).filter (· ≠ [])).foldlM (makeStep medium)
      (origin workingDirectory path))) :
    Moves R (makeDirectories medium workingDirectory path) := by
  intro tree
  by_cases hnul : 0 ∈ path
  · rw [run_makeDirectories_of_nul medium tree workingDirectory hnul]
    exact hchains.refl tree
  by_cases hlong : longestPath < path.length
  · rw [run_makeDirectories_of_long medium tree workingDirectory hnul hlong]
    exact hchains.refl tree
  by_cases hpath : path = []
  · subst hpath
    exact hchains.refl tree
  have hwalked := hwalk tree
  rw [run_makeDirectories medium tree workingDirectory hnul
    (Nat.not_lt.mp hlong) hpath]
  rcases hrun : (((splitPath path).filter (· ≠ [])).foldlM (makeStep medium)
    (origin workingDirectory path)).run.run tree with ⟨outcome, after⟩
  rw [hrun] at hwalked
  cases outcome with
  | error fault => exact hwalked
  | ok finish => exact hwalked

theorem adds_makeDirectories
    (medium : Medium) (workingDirectory : Location) (path : Bytes) :
    Moves Tree.Adds (makeDirectories medium workingDirectory path) :=
  moves_makeDirectories Tree.chains_adds
    (Moves.foldlM Tree.chains_adds (adds_makeStep medium) _ _)

/-- The directories made are there. -/
theorem reaches_of_makeDirectories
    (hpath : path ≠ [])
    (hrun :
      (makeDirectories medium workingDirectory path).run.run tree =
        (.ok (), after)) :
    after.Reaches workingDirectory path := by
  have hnul : 0 ∉ path := by
    intro hnul
    rw [run_makeDirectories_of_nul medium tree workingDirectory hnul] at hrun
    cases hrun
  have hfits : path.length ≤ longestPath := by
    by_contra hlong
    rw [run_makeDirectories_of_long medium tree workingDirectory hnul
      (Nat.not_le.mp hlong)]
      at hrun
    cases hrun
  rw [run_makeDirectories medium tree workingDirectory hnul hfits hpath] at hrun
  rcases hwalk : (((splitPath path).filter (· ≠ [])).foldlM (makeStep medium)
    (origin workingDirectory path)).run.run tree with ⟨outcome, made⟩
  rw [hwalk] at hrun
  cases outcome with
  | error fault => cases hrun
  | ok finish =>
      obtain ⟨houtcome, rfl⟩ := Prod.mk.inj hrun
      cases hdirectory : made.isDirectory finish with
      | false =>
          rw [hdirectory] at houtcome
          cases houtcome
      | true =>
          have hwalkable := (foldlM_makeStep_eq_ok hwalk).2 hdirectory
          exact ⟨hnul, hpath, hfits, .of_filter hwalkable⟩

/-- Where the directories are there already, nothing is made. -/
theorem makeDirectories_of_reaches
    (medium : Medium) (hreaches : tree.Reaches workingDirectory path) :
    (makeDirectories medium workingDirectory path).run.run tree =
      (.ok (), tree) := by
  have hwalk := foldlM_makeStep_of_walkable medium hreaches.walkable.filter
  rw [foldl_follow_filter] at hwalk
  have hdirectory : tree.isDirectory
      ((splitPath path).foldl follow (origin workingDirectory path)) = true :=
    hreaches.isDirectory
  rw [run_makeDirectories medium tree workingDirectory hreaches.noNul
    hreaches.fits hreaches.ne_nil, hwalk]
  simp only [hdirectory, if_true]

end Directories

end FamilyOrders.Storage
