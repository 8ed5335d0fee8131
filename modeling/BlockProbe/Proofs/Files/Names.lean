/-
Which file a path names.

`Leads` gives the rules by which components lead to a file or to a place where one can be created: empty components and
`.` stay, `..` goes up, a directory is entered, a link is replaced by its target, and the last component is a name under
which there is a file or nothing. `Names` adds what is asked of the path itself. There is one such place at most.

- `names_iff_create`, `names_iff_use`: resolving a path for either purpose finds the place it names.
- `Names.unique`: a path names one place.
- `names_sameButFiles`: files coming and changing do not change what paths name.
- `resolve_sameBut`: one file coming or changing does not change where the paths lead that do not name it.
-/
import BlockProbe.Proofs.Files.Resolve

namespace BlockProbe.Files

/-- a location that holds a file or nothing -/
def Tree.TakesFile (tree : Tree) (location : Location) : Prop :=
  tree.get? location = none ∨ ∃ mode content, tree.get? location = some (.file mode content)

/-- components that lead from a directory to a file, or to where one can be created, through so many links at most -/
inductive Leads (tree : Tree) : Nat → Location → List String → Location → Prop
  | stay {links : Nat} {here location : Location} {name : String} {rest : List String} (hname : Stays tree here name)
    (way : Leads tree links here rest location) : Leads tree links here (name :: rest) location
  | up {links : Nat} {here location : Location} {rest : List String} (hsearch : tree.caller.searches here = true)
    (way : Leads tree links here.dropLast rest location) : Leads tree links here (".." :: rest) location
  | enter {links : Nat} {here location : Location} {name : String} {rest : List String}
    (hname : IsLookedUp tree here name) (hnode : tree.get? (here ++ [name]) = some .directory)
    (way : Leads tree links (here ++ [name]) rest location) : Leads tree links here (name :: rest) location
  | follow {links : Nat} {here location : Location} {name target : String} {rest : List String}
    (hname : IsLookedUp tree here name) (hnode : tree.get? (here ++ [name]) = some (.link target))
    (way : Leads tree links (if isAbsolute target then [] else here) (components target ++ rest) location) :
    Leads tree (links + 1) here (name :: rest) location
  | last {links : Nat} {here : Location} {name : String} (hname : IsLookedUp tree here name)
    (hnode : tree.TakesFile (here ++ [name])) : Leads tree links here [name] (here ++ [name])

/-- the path names the file at a location, or the place where it would be created -/
structure Names (tree : Tree) (start : Location) (path : String) (location : Location) : Prop where
  noNul : path.toList.contains '\x00' = false
  notEmpty : path ≠ ""
  fits : ¬ path.utf8ByteSize ≥ pathLimit
  leads : Leads tree linkLimit (if isAbsolute path then [] else start) (components path) location

variable {tree first second : Tree} {purpose : Purpose} {links : Nat} {here location other start : Location}
  {names : List String} {path : String} {place : Place}

/-! ## One place -/

theorem IsLookedUp.ne_empty {name : String} (h : IsLookedUp tree here name) : name ≠ "" :=
  fun hname => h.stays (.inl hname)

theorem Leads.ne_nil (h : Leads tree links here names location) : names ≠ [] := by
  cases h <;> simp

theorem Leads.takesFile (h : Leads tree links here names location) : tree.TakesFile location := by
  induction h with
  | stay _ _ ih => exact ih
  | up _ _ ih => exact ih
  | enter _ _ _ ih => exact ih
  | follow _ _ _ ih => exact ih
  | last _ hnode => exact hnode

theorem Tree.TakesFile.not_directory (h : tree.TakesFile location) : tree.get? location ≠ some .directory := by
  rcases h with h | ⟨_, _, h⟩ <;> simp [h]

theorem Tree.TakesFile.not_link (h : tree.TakesFile location) (target : String) :
    tree.get? location ≠ some (.link target) := by
  rcases h with h | ⟨_, _, h⟩ <;> simp [h]

/-- to stay is not to go up -/
theorem not_stays_up : ¬ Stays tree here ".." := by simp [Stays]

theorem Leads.unique (h : Leads tree links here names location) (hother : Leads tree links here names other) :
    location = other := by
  induction h with
  | stay hname _ ih =>
    cases hother with
    | stay _ way => exact ih way
    | up _ _ => exact (not_stays_up hname).elim
    | enter hlooked _ _ => exact (hlooked.not_stays hname).elim
    | follow hlooked _ _ => exact (hlooked.not_stays hname).elim
    | last hlooked _ => exact (hlooked.not_stays hname).elim
  | up _ _ ih =>
    cases hother with
    | stay hname _ => exact (not_stays_up hname).elim
    | up _ way => exact ih way
    | enter hlooked _ _ => exact (hlooked.goesUp rfl).elim
    | follow hlooked _ _ => exact (hlooked.goesUp rfl).elim
    | last hlooked _ => exact (hlooked.goesUp rfl).elim
  | enter hlooked hnode _ ih =>
    cases hother with
    | stay hname _ => exact (hlooked.not_stays hname).elim
    | up _ _ => exact (hlooked.goesUp rfl).elim
    | enter _ _ way => exact ih way
    | follow _ hlink _ => rw [hnode] at hlink; cases hlink
    | last _ hfile => exact (hfile.not_directory hnode).elim
  | follow hlooked hnode _ ih =>
    cases hother with
    | stay hname _ => exact (hlooked.not_stays hname).elim
    | up _ _ => exact (hlooked.goesUp rfl).elim
    | enter _ hdirectory _ => rw [hnode] at hdirectory; cases hdirectory
    | follow _ hlink way => rw [hnode] at hlink; cases hlink; exact ih way
    | last _ hfile => exact (hfile.not_link _ hnode).elim
  | last hlooked hnode =>
    cases hother with
    | stay hname _ => exact (hlooked.not_stays hname).elim
    | up _ _ => exact (hlooked.goesUp rfl).elim
    | enter _ hdirectory _ => exact (hnode.not_directory hdirectory).elim
    | follow _ hlink _ => exact (hnode.not_link _ hlink).elim
    | last _ _ => rfl

/-- nothing is below what is missing -/
theorem not_leads_of_missing {name : String} {rest : List String} (hname : IsLookedUp tree here name)
    (hrest : rest ≠ []) (hnode : tree.get? (here ++ [name]) = none) :
    ¬ Leads tree links here (name :: rest) location := by
  intro h
  cases h with
  | stay hstays _ => exact hname.not_stays hstays
  | up _ _ => exact hname.goesUp rfl
  | enter _ hdirectory _ => rw [hnode] at hdirectory; cases hdirectory
  | follow _ hlink _ => rw [hnode] at hlink; cases hlink
  | last _ _ => exact hrest rfl

/-- **A path names one place.** -/
theorem Names.unique (h : Names tree start path location) (hother : Names tree start path other) :
    location = other := h.leads.unique hother.leads

/-- a path names nothing below a directory that is missing -/
theorem not_names_of_missing {name : String} {rest : List String} (hcomponents : components path = name :: rest)
    (hname : IsLookedUp tree (if isAbsolute path then [] else start) name) (hrest : rest ≠ [])
    (hnode : tree.get? ((if isAbsolute path then [] else start) ++ [name]) = none) :
    ¬ Names tree start path location := by
  intro h
  have hleads := h.leads
  rw [hcomponents] at hleads
  exact not_leads_of_missing hname hrest hnode hleads

theorem Names.takesFile (h : Names tree start path location) : tree.TakesFile location := h.leads.takesFile

/-! ## Resolving finds it -/

/-- nothing leads to a file behind a slash at the end -/
theorem Leads.getLast_ne (h : Leads tree links here names location) : names.getLast h.ne_nil ≠ "" := by
  induction h with
  | stay _ way ih => rw [List.getLast_cons way.ne_nil]; exact ih
  | up _ way ih => rw [List.getLast_cons way.ne_nil]; exact ih
  | enter _ _ way ih => rw [List.getLast_cons way.ne_nil]; exact ih
  | @follow links here location name target rest hname hnode way ih =>
    by_cases hrest : rest = []
    · subst hrest
      exact hname.ne_empty
    · rw [List.getLast_append_right hrest] at ih
      rwa [List.getLast_cons hrest]
  | last hname _ => exact hname.ne_empty

/-- so the components behind a name are not slashes alone -/
theorem Leads.mayEnd {name : String} {rest : List String} (h : Leads tree links here (name :: rest) location) :
    MayEnd .create rest := by
  rintro ⟨-, hall, hmore⟩
  have hrest : rest ≠ [] := by simpa using hmore
  have hlast := h.getLast_ne
  rw [List.getLast_cons hrest] at hlast
  exact hlast (by simpa using List.all_eq_true.1 hall _ (List.getLast_mem hrest))

/-- how a walk that may follow so many links goes on from a link -/
def followWithin (tree : Tree) (purpose : Purpose) : Nat → Follow
  | 0 => fun _ _ _ => .error .linkLoop
  | links + 1 => fun here target rest =>
    walkFollowing tree purpose links (if isAbsolute target then [] else here) (components target ++ rest)

theorem walkFollowing_iff_walked :
    walkFollowing tree purpose links here names = .ok place ↔
      Walked tree purpose (followWithin tree purpose links) here names place := by
  have hwalk : walkFollowing tree purpose links = walk tree purpose (followWithin tree purpose links) := by
    cases links <;> rfl
  rw [hwalk]
  exact ⟨walked_of_walk, walk_of_walked⟩

theorem Walked.leads
    (hfollow : ∀ here target rest place, followWithin tree .use links here target rest = .ok place →
      place.Takes location → ∃ fewer, links = fewer + 1 ∧
        Leads tree fewer (if isAbsolute target then [] else here) (components target ++ rest) location)
    (h : Walked tree .use (followWithin tree .use links) here names place) (htakes : place.Takes location) :
    Leads tree links here names location := by
  induction h with
  | here _ => rcases htakes with h | ⟨_, _, h⟩ <;> cases h
  | stay hname _ ih => exact .stay hname (ih htakes)
  | up hsearch _ ih => exact .up hsearch (ih htakes)
  | enter hname _ hnode _ ih => exact .enter hname hnode (ih htakes)
  | follow hname _ hnode _ h =>
    obtain ⟨fewer, rfl, way⟩ := hfollow _ _ _ _ h htakes
    exact .follow hname hnode way
  | link _ _ h => cases h
  | found hname hnode _ _ =>
    rcases htakes with h | ⟨mode, content, h⟩
    · cases h
    · cases h; exact .last hname (.inr ⟨mode, content, hnode⟩)
  | free hname hnode =>
    rcases htakes with h | ⟨_, _, h⟩
    · cases h; exact .last hname (.inl hnode)
    · cases h

theorem leads_of_walkFollowing (links : Nat) {here : Location} {names : List String} {place : Place}
    (h : walkFollowing tree .use links here names = .ok place) (htakes : place.Takes location) :
    Leads tree links here names location := by
  induction links generalizing here names place with
  | zero => exact (walkFollowing_iff_walked.1 h).leads (fun _ _ _ _ h _ => by cases h) htakes
  | succ links ih =>
    exact (walkFollowing_iff_walked.1 h).leads (fun _ _ _ _ h htakes => ⟨links, rfl, ih h htakes⟩) htakes

theorem walkFollowing_of_leads (h : Leads tree links here names location) :
    ∃ place, walkFollowing tree .create links here names = .ok place ∧ place.Takes location := by
  simp only [walkFollowing_iff_walked]
  induction h with
  | stay hname _ ih =>
    obtain ⟨place, way, htakes⟩ := ih
    exact ⟨place, .stay hname way, htakes⟩
  | up hsearch _ ih =>
    obtain ⟨place, way, htakes⟩ := ih
    exact ⟨place, .up hsearch way, htakes⟩
  | enter hname hnode leads ih =>
    obtain ⟨place, way, htakes⟩ := ih
    exact ⟨place, .enter hname (Leads.enter hname hnode leads).mayEnd hnode way, htakes⟩
  | follow hname hnode leads ih =>
    obtain ⟨place, way, htakes⟩ := ih
    have hmay := (Leads.follow hname hnode leads).mayEnd
    refine ⟨place, .follow hname hmay hnode ?_ (walkFollowing_iff_walked.2 way), htakes⟩
    rintro ⟨h, -⟩
    cases h
  | last hname hnode =>
    rcases hnode with hnone | ⟨mode, content, hfile⟩
    · exact ⟨_, .free hname hnone, .inl rfl⟩
    · exact ⟨_, .found hname hfile (by simp) (by simp), .inr ⟨mode, content, rfl⟩⟩

/-- **Resolving a path to write a file finds the place it names.** -/
theorem names_iff_create :
    Names tree start path location ↔ ∃ place, resolve tree .create start path = .ok place ∧ place.Takes location := by
  constructor
  · rintro ⟨hnul, hempty, hfits, hleads⟩
    obtain ⟨place, hwalk, htakes⟩ := walkFollowing_of_leads hleads
    exact ⟨place, resolve_eq_ok.2 ⟨⟨hnul, hempty, hfits⟩, hwalk⟩, htakes⟩
  · rintro ⟨place, hresolve, htakes⟩
    obtain ⟨⟨hnul, hempty, hfits⟩, hwalk⟩ := resolve_eq_ok.1 (resolve_use_of_create hresolve)
    exact ⟨hnul, hempty, hfits, leads_of_walkFollowing linkLimit hwalk htakes⟩

/-- **Resolving a path to read a file finds the place it names.** -/
theorem names_iff_use :
    Names tree start path location ↔ ∃ place, resolve tree .use start path = .ok place ∧ place.Takes location := by
  constructor
  · intro h
    obtain ⟨place, hresolve, htakes⟩ := names_iff_create.1 h
    exact ⟨place, resolve_use_of_create hresolve, htakes⟩
  · rintro ⟨place, hresolve, htakes⟩
    obtain ⟨⟨hnul, hempty, hfits⟩, hwalk⟩ := resolve_eq_ok.1 hresolve
    exact ⟨hnul, hempty, hfits, leads_of_walkFollowing linkLimit hwalk htakes⟩

/-! ## Files do not matter -/

/-- two trees with the same directories, links, pipes and devices, and the same process at work -/
structure Tree.SameButFiles (first second : Tree) : Prop where
  caller : first.caller = second.caller
  nodes (location : Location) :
    first.get? location = second.get? location ∨ first.TakesFile location ∧ second.TakesFile location

theorem Tree.SameButFiles.refl (tree : Tree) : tree.SameButFiles tree := ⟨rfl, fun _ => .inl rfl⟩

theorem Tree.SameButFiles.symm (h : first.SameButFiles second) : second.SameButFiles first := by
  refine ⟨h.caller.symm, fun location => ?_⟩
  rcases h.nodes location with heq | ⟨hfirst, hsecond⟩
  · exact .inl heq.symm
  · exact .inr ⟨hsecond, hfirst⟩

theorem Tree.SameButFiles.takesFile (h : first.SameButFiles second) (hfile : first.TakesFile location) :
    second.TakesFile location := by
  rcases h.nodes location with heq | ⟨-, hsecond⟩
  · unfold TakesFile
    rw [← heq]
    exact hfile
  · exact hsecond

theorem Tree.SameButFiles.trans {third : Tree} (h : first.SameButFiles second) (hthird : second.SameButFiles third) :
    first.SameButFiles third := by
  refine ⟨h.caller.trans hthird.caller, fun location => ?_⟩
  rcases h.nodes location with heq | ⟨hfirst, hsecond⟩
  · rcases hthird.nodes location with hnext | ⟨hsecond, hlast⟩
    · exact .inl (heq.trans hnext)
    · exact .inr ⟨by unfold TakesFile; rw [heq]; exact hsecond, hlast⟩
  · exact .inr ⟨hfirst, hthird.takesFile hsecond⟩

/-- what is no file is in both trees -/
theorem Tree.SameButFiles.get? (h : first.SameButFiles second) {node : Node} (hnode : first.get? location = some node)
    (hfile : ∀ mode content, node ≠ .file mode content) : second.get? location = some node := by
  rcases h.nodes location with heq | ⟨hnone | ⟨mode, content, hfirst⟩, -⟩
  · rw [← heq, hnode]
  · rw [hnode] at hnone; cases hnone
  · rw [hnode] at hfirst; cases hfirst; exact (hfile mode content rfl).elim

theorem Leads.sameButFiles (hsame : first.SameButFiles second) (h : Leads first links here names location) :
    Leads second links here names location := by
  have hcaller := hsame.caller
  induction h with
  | stay hname _ ih => exact .stay (hname.of_caller hcaller) ih
  | up hsearch _ ih => exact .up (hcaller ▸ hsearch) ih
  | enter hname hnode _ ih => exact .enter (hname.of_caller hcaller) (hsame.get? hnode (by simp)) ih
  | follow hname hnode _ ih => exact .follow (hname.of_caller hcaller) (hsame.get? hnode (by simp)) ih
  | last hname hnode => exact .last (hname.of_caller hcaller) (hsame.takesFile hnode)

/-- **Files coming and changing do not change what a path names.** -/
theorem names_sameButFiles (hsame : first.SameButFiles second) :
    Names first start path location ↔ Names second start path location :=
  ⟨fun h => ⟨h.noNul, h.notEmpty, h.fits, h.leads.sameButFiles hsame⟩,
    fun h => ⟨h.noNul, h.notEmpty, h.fits, h.leads.sameButFiles hsame.symm⟩⟩

/-! ## One file does not matter to other paths -/

/-- two trees with a file or nothing at a location, and the same everywhere else, and the same process at work -/
structure Tree.SameBut (location : Location) (first second : Tree) : Prop where
  caller : first.caller = second.caller
  before : first.TakesFile location
  after : second.TakesFile location
  elsewhere : ∀ other, other ≠ location → first.get? other = second.get? other

theorem Tree.SameBut.symm (h : first.SameBut location second) : second.SameBut location first :=
  ⟨h.caller.symm, h.after, h.before, fun other hother => (h.elsewhere other hother).symm⟩

theorem Tree.SameBut.sameButFiles (h : first.SameBut location second) : first.SameButFiles second := by
  refine ⟨h.caller, fun other => ?_⟩
  by_cases hother : other = location
  · subst hother
    exact .inr ⟨h.before, h.after⟩
  · exact .inl (h.elsewhere other hother)

theorem Walked.sameBut (hsame : first.SameBut location second) (hplace : ¬ place.Takes location)
    (hfollow : ∀ here target rest, followWithin first .use links here target rest = .ok place →
      followWithin second .use links here target rest = .ok place)
    (h : Walked first .use (followWithin first .use links) here names place) :
    Walked second .use (followWithin second .use links) here names place := by
  have hfiles := hsame.sameButFiles
  have hcaller := hsame.caller
  induction h with
  | here hpurpose => exact .here hpurpose
  | stay hname _ ih => exact .stay (hname.of_caller hcaller) (ih hplace hfollow)
  | up hsearch _ ih => exact .up (hcaller ▸ hsearch) (ih hplace hfollow)
  | enter hname hrest hnode _ ih =>
    exact .enter (hname.of_caller hcaller) hrest (hfiles.get? hnode (by simp)) (ih hplace hfollow)
  | follow hname hrest hnode hinspect h =>
    exact .follow (hname.of_caller hcaller) hrest (hfiles.get? hnode (by simp)) hinspect (hfollow _ _ _ h)
  | link _ _ h => cases h
  | @found here name node hname hnode hdirectory hlink =>
    refine .found (hname.of_caller hcaller) ?_ hdirectory hlink
    rw [← hsame.elsewhere _ ?_, hnode]
    intro hlocation
    subst hlocation
    rcases hsame.before with hnone | ⟨mode, content, hfile⟩
    · rw [hnode] at hnone; cases hnone
    · rw [hnode] at hfile; cases hfile; exact hplace (.inr ⟨mode, content, rfl⟩)
  | free hname hnode =>
    refine .free (hname.of_caller hcaller) ?_
    rw [← hsame.elsewhere _ ?_, hnode]
    intro hlocation
    subst hlocation
    exact hplace (.inl rfl)

theorem walkFollowing_sameBut (hsame : first.SameBut location second) (hplace : ¬ place.Takes location) (links : Nat)
    {here : Location} {names : List String} (h : walkFollowing first .use links here names = .ok place) :
    walkFollowing second .use links here names = .ok place := by
  induction links generalizing here names with
  | zero =>
    exact walkFollowing_iff_walked.2 ((walkFollowing_iff_walked.1 h).sameBut hsame hplace fun _ _ _ h => by cases h)
  | succ links ih =>
    exact walkFollowing_iff_walked.2 ((walkFollowing_iff_walked.1 h).sameBut hsame hplace fun _ _ _ h => ih h)

/-- **Another file does not matter.** Where one file comes or changes, a path that does not name it leads to what it led
to. -/
theorem resolve_sameBut (hsame : first.SameBut location second) (hnames : ¬ Names first start path location) :
    resolve first .use start path = .ok place ↔ resolve second .use start path = .ok place := by
  have hnamesSecond : ¬ Names second start path location := by
    rwa [← names_sameButFiles hsame.sameButFiles]
  constructor
  · intro h
    have hplace : ¬ place.Takes location := fun htakes => hnames (names_iff_use.2 ⟨place, h, htakes⟩)
    obtain ⟨hpath, hwalk⟩ := resolve_eq_ok.1 h
    exact resolve_eq_ok.2 ⟨hpath, walkFollowing_sameBut hsame hplace linkLimit hwalk⟩
  · intro h
    have hplace : ¬ place.Takes location := fun htakes => hnamesSecond (names_iff_use.2 ⟨place, h, htakes⟩)
    obtain ⟨hpath, hwalk⟩ := resolve_eq_ok.1 h
    exact resolve_eq_ok.2 ⟨hpath, walkFollowing_sameBut hsame.symm hplace linkLimit hwalk⟩

end BlockProbe.Files
