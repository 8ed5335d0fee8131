/-
What resolving a path depends on.

- `resolve_sameButContents`: never on what files hold.
- `resolve_at`: what a path leads to is what the tree has there.
- `resolve_use_of_create`: where a file can be created, it can be used.
- `resolve_set`: once a file is where a path leads to, the path leads to that file.
- `resolve_error`: where a path leads nowhere, something is wrong with the path.

Each is shown for one walk along components, `follow` standing for what comes of a link, and then for any number of
links. `component_cases` says what a component can mean, and `Walked` is the way of a walk that finds a place.
-/
import BlockProbe.Files.Resolve
import BlockProbe.Proofs.Files.Tree

namespace BlockProbe.Files

variable {tree first second : Tree} {purpose : Purpose}

/-- how a walk goes on from a link -/
abbrev Follow := Location → String → List String → Except Fault Place

/-! ## One component -/

/-- a component that stays where the walk stands; a dot is looked for in the directory, nothing is not -/
def Stays (tree : Tree) (here : Location) (name : String) : Prop :=
  name = "" ∨ name = "." ∧ tree.caller.searches here = true

/-- a name that is looked up where the walk stands -/
structure IsLookedUp (tree : Tree) (here : Location) (name : String) : Prop where
  stays : ¬ (name = "" ∨ name = ".")
  goesUp : name ≠ ".."
  fits : ¬ name.utf8ByteSize > nameLimit
  searched : tree.caller.searches here = true

/-- these components may come behind a name: when a file is to be created they must not be slashes alone -/
def MayEnd (purpose : Purpose) (rest : List String) : Prop := ¬ (purpose = .create ∧ rest.all (· == "") ∧ !rest.isEmpty)

/-- what can be wrong with a path: something on it is missing, is no directory or is one, its links do not end, it is
too long, it holds a NUL, or the process may not look it up or write there -/
def lookUpFaults : List Fault :=
  [.noEntry, .notDirectory, .isDirectory, .linkLoop, .nameTooLong, .nulInPath, .accessDenied]

section Component

variable {follow : Follow} {here : Location} {name : String} {rest : List String}

theorem IsLookedUp.not_stays (h : IsLookedUp tree here name) : ¬ Stays tree here name := fun hstays =>
  h.stays (hstays.imp_right And.left)

/-- looking up depends on the process, not on what there is in the tree -/
theorem IsLookedUp.of_caller (h : IsLookedUp first here name) (hcaller : first.caller = second.caller) :
    IsLookedUp second here name := ⟨h.stays, h.goesUp, h.fits, hcaller ▸ h.searched⟩

theorem Stays.of_caller (h : Stays first here name) (hcaller : first.caller = second.caller) :
    Stays second here name := by
  unfold Stays
  rw [← hcaller]
  exact h

theorem walk_stay (hname : Stays tree here name) :
    walk tree purpose follow here (name :: rest) = walk tree purpose follow here rest := by
  rcases hname with rfl | ⟨rfl, hsearch⟩
  · rw [walk, if_pos rfl]
  · rw [walk, if_neg (by decide), hsearch]
    rfl

theorem walk_up (hsearch : tree.caller.searches here = true) :
    walk tree purpose follow here (".." :: rest) = walk tree purpose follow here.dropLast rest := by
  rw [walk, if_neg (by decide), hsearch]
  rfl

/-- a name that is looked up is entered, followed, found or free -/
theorem walk_lookedUp (hname : IsLookedUp tree here name) (hrest : MayEnd purpose rest) :
    walk tree purpose follow here (name :: rest) =
      match tree.get? (here ++ [name]) with
      | none => if !rest.isEmpty then .error .noEntry else .ok (.free (here ++ [name]))
      | some .directory => walk tree purpose follow (here ++ [name]) rest
      | some (.link target) =>
        if purpose = .inspect ∧ !!rest.isEmpty then .ok (.existing (here ++ [name]) (.link target))
        else follow here target rest
      | some node => if !rest.isEmpty then .error .notDirectory else .ok (.existing (here ++ [name]) node) := by
  rw [walk, if_neg fun hempty => hname.stays (.inl hempty), if_neg (by simp [hname.searched]),
    if_neg fun hdot => hname.stays (.inr hdot), if_neg hname.goesUp]
  exact (if_neg hrest).trans (if_neg hname.fits)

/-- what a component can mean: to stay, to go up, to be refused whatever there is in the tree, or to be looked up -/
theorem component_cases (tree : Tree) (purpose : Purpose) (here : Location) (name : String) (rest : List String) :
    Stays tree here name ∨ (name = ".." ∧ tree.caller.searches here = true) ∨
    (∃ fault ∈ lookUpFaults, ∀ other : Tree, tree.caller = other.caller → ∀ follow,
      walk other purpose follow here (name :: rest) = .error fault) ∨
    (IsLookedUp tree here name ∧ MayEnd purpose rest) := by
  by_cases hempty : name = ""
  · exact .inl (.inl hempty)
  by_cases hsearch : tree.caller.searches here = true
  swap
  · refine .inr (.inr (.inl ⟨.accessDenied, by decide, fun other hcaller follow => ?_⟩))
    rw [walk, if_neg hempty, ← hcaller, if_pos (by simpa using hsearch)]
  by_cases hdot : name = "."
  · exact .inl (.inr ⟨hdot, hsearch⟩)
  by_cases hup : name = ".."
  · exact .inr (.inl ⟨hup, hsearch⟩)
  have hopen : ¬ (!tree.caller.searches here) = true := by simp [hsearch]
  by_cases hrest : MayEnd purpose rest
  · by_cases hlong : name.utf8ByteSize > nameLimit
    · refine .inr (.inr (.inl ⟨.nameTooLong, by decide, fun other hcaller follow => ?_⟩))
      rw [walk, if_neg hempty, ← hcaller, if_neg hopen, if_neg hdot, if_neg hup]
      exact (if_neg hrest).trans (if_pos hlong)
    · exact .inr (.inr (.inr ⟨⟨by simp [hempty, hdot], hup, hlong, hsearch⟩, hrest⟩))
  · refine .inr (.inr (.inl ⟨.isDirectory, by decide, fun other hcaller follow => ?_⟩))
    rw [walk, if_neg hempty, ← hcaller, if_neg hopen, if_neg hdot, if_neg hup]
    exact if_pos (not_not.1 hrest)

end Component

/-! ## Contents do not matter -/

/-- two results that are the same, except that the file found may hold something else -/
def SamePlace (found other : Except Fault Place) : Prop :=
  found = other ∨ ∃ location mode content otherContent, found = .ok (.existing location (.file mode content)) ∧
    other = .ok (.existing location (.file mode otherContent))

theorem walk_sameButContents (h : first.SameButContents second) {follow otherFollow : Follow}
    (hfollow : ∀ here target rest, SamePlace (follow here target rest) (otherFollow here target rest))
    (here : Location) (names : List String) :
    SamePlace (walk first purpose follow here names) (walk second purpose otherFollow here names) := by
  induction names generalizing here with
  | nil => exact .inl rfl
  | cons name rest ih =>
    rcases component_cases first purpose here name rest with
      hstay | ⟨rfl, hsearch⟩ | ⟨fault, -, hrefused⟩ | ⟨hname, hrest⟩
    · rw [walk_stay hstay, walk_stay (hstay.of_caller h.caller)]; exact ih here
    · rw [walk_up hsearch, walk_up (h.caller ▸ hsearch)]; exact ih here.dropLast
    · rw [hrefused first rfl, hrefused second h.caller]; exact .inl rfl
    rw [walk_lookedUp hname hrest, walk_lookedUp (hname.of_caller h.caller) hrest]
    rcases h.nodes (here ++ [name]) with heq | ⟨mode, content, other, hfirst, hsecond⟩
    · rw [heq]
      cases second.get? (here ++ [name]) with
      | none => exact .inl rfl
      | some node =>
        cases node with
        | directory => exact ih _
        | link target =>
          dsimp only
          split_ifs
          · exact .inl rfl
          · exact hfollow here target rest
        | _ => exact .inl rfl
    · rw [hfirst, hsecond]
      dsimp only
      split_ifs
      · exact .inl rfl
      · exact .inr ⟨_, mode, content, other, rfl, rfl⟩

theorem walkFollowing_sameButContents (h : first.SameButContents second) (links : Nat) (here : Location)
    (names : List String) :
    SamePlace (walkFollowing first purpose links here names) (walkFollowing second purpose links here names) := by
  induction links generalizing here names with
  | zero => exact walk_sameButContents h (fun _ _ _ => .inl rfl) here names
  | succ links ih => exact walk_sameButContents h (fun _ _ _ => ih _ _) here names

/-- **Where a path leads does not depend on what files hold.** -/
theorem resolve_sameButContents (h : first.SameButContents second) (purpose : Purpose) (start : Location)
    (path : String) : SamePlace (resolve first purpose start path) (resolve second purpose start path) := by
  unfold resolve
  split_ifs
  · exact .inl rfl
  · exact .inl rfl
  · exact .inl rfl
  · exact walkFollowing_sameButContents h _ _ _
  · exact walkFollowing_sameButContents h _ _ _

/-! ## The way to a place -/

/-- the way a walk takes to the place it finds -/
inductive Walked (tree : Tree) (purpose : Purpose) (follow : Follow) : Location → List String → Place → Prop
  | here {here : Location} (hpurpose : purpose ≠ .create) :
    Walked tree purpose follow here [] (.existing here .directory)
  | stay {here : Location} {name : String} {rest : List String} {place : Place} (hname : Stays tree here name)
    (way : Walked tree purpose follow here rest place) : Walked tree purpose follow here (name :: rest) place
  | up {here : Location} {rest : List String} {place : Place} (hsearch : tree.caller.searches here = true)
    (way : Walked tree purpose follow here.dropLast rest place) : Walked tree purpose follow here (".." :: rest) place
  | enter {here : Location} {name : String} {rest : List String} {place : Place} (hname : IsLookedUp tree here name)
    (hrest : MayEnd purpose rest) (hnode : tree.get? (here ++ [name]) = some .directory)
    (way : Walked tree purpose follow (here ++ [name]) rest place) :
    Walked tree purpose follow here (name :: rest) place
  | follow {here : Location} {name target : String} {rest : List String} {place : Place}
    (hname : IsLookedUp tree here name) (hrest : MayEnd purpose rest)
    (hnode : tree.get? (here ++ [name]) = some (.link target))
    (hinspect : ¬ (purpose = .inspect ∧ !!rest.isEmpty)) (hfollow : follow here target rest = .ok place) :
    Walked tree purpose follow here (name :: rest) place
  | link {here : Location} {name target : String} (hname : IsLookedUp tree here name)
    (hnode : tree.get? (here ++ [name]) = some (.link target)) (hinspect : purpose = .inspect) :
    Walked tree purpose follow here [name] (.existing (here ++ [name]) (.link target))
  | found {here : Location} {name : String} {node : Node} (hname : IsLookedUp tree here name)
    (hnode : tree.get? (here ++ [name]) = some node) (hdirectory : node ≠ .directory)
    (hlink : ∀ target, node ≠ .link target) : Walked tree purpose follow here [name] (.existing (here ++ [name]) node)
  | free {here : Location} {name : String} (hname : IsLookedUp tree here name)
    (hnode : tree.get? (here ++ [name]) = none) : Walked tree purpose follow here [name] (.free (here ++ [name]))

variable {follow : Follow} {here : Location} {names : List String} {place : Place}

theorem walked_of_walk (h : walk tree purpose follow here names = .ok place) :
    Walked tree purpose follow here names place := by
  induction names generalizing here with
  | nil =>
    unfold walk at h
    split_ifs at h with hpurpose
    cases h
    exact .here hpurpose
  | cons name rest ih =>
    rcases component_cases tree purpose here name rest with
      hstay | ⟨rfl, hsearch⟩ | ⟨fault, -, hrefused⟩ | ⟨hname, hrest⟩
    · rw [walk_stay hstay] at h; exact .stay hstay (ih h)
    · rw [walk_up hsearch] at h; exact .up hsearch (ih h)
    · rw [hrefused tree rfl] at h; cases h
    rw [walk_lookedUp hname hrest] at h
    have hlast : ¬ (!rest.isEmpty) = true → rest = [] := by cases rest <;> simp
    cases hnode : tree.get? (here ++ [name]) with
    | none =>
      simp only [hnode] at h
      split_ifs at h with hmore
      cases h
      cases hlast hmore
      exact .free hname hnode
    | some node =>
      cases node with
      | directory => simp only [hnode] at h; exact .enter hname hrest hnode (ih h)
      | link target =>
        simp only [hnode] at h
        split_ifs at h with hinspect
        · cases h
          cases hlast (by simpa using hinspect.2)
          exact .link hname hnode hinspect.1
        · exact .follow hname hrest hnode hinspect h
      | _ =>
        simp only [hnode] at h
        split_ifs at h with hmore
        cases h
        cases hlast hmore
        exact .found hname hnode (by simp) (by simp)

/-- nothing stands behind the last name -/
theorem mayEnd_nil (purpose : Purpose) : MayEnd purpose [] := by simp [MayEnd]

theorem walk_of_walked (h : Walked tree purpose follow here names place) :
    walk tree purpose follow here names = .ok place := by
  induction h with
  | here hpurpose => rw [walk, if_neg hpurpose]
  | stay hname _ ih => rw [walk_stay hname, ih]
  | up hsearch _ ih => rw [walk_up hsearch, ih]
  | enter hname hrest hnode _ ih => rw [walk_lookedUp hname hrest, hnode]; exact ih
  | follow hname hrest hnode hinspect hfollow =>
    rw [walk_lookedUp hname hrest, hnode]
    exact (if_neg hinspect).trans hfollow
  | link hname hnode hinspect =>
    rw [walk_lookedUp hname (mayEnd_nil _), hnode]
    exact if_pos ⟨hinspect, rfl⟩
  | @found here name node hname hnode hdirectory hlink =>
    rw [walk_lookedUp hname (mayEnd_nil _), hnode]
    cases node with
    | directory => exact (hdirectory rfl).elim
    | link target => exact (hlink target rfl).elim
    | _ => rfl
  | free hname hnode =>
    rw [walk_lookedUp hname (mayEnd_nil _), hnode]
    rfl

/-! ## The place that is found -/

/-- a place that is as the tree says -/
def Place.At (tree : Tree) : Place → Prop
  | .free location => location ≠ [] ∧ tree.get? location = none
  | .existing location node => node = .directory ∨ location ≠ [] ∧ tree.get? location = some node

theorem Walked.at (hfollow : ∀ here target rest place, follow here target rest = .ok place → place.At tree)
    (h : Walked tree purpose follow here names place) : place.At tree := by
  induction h with
  | here _ => exact .inl rfl
  | stay _ _ ih => exact ih
  | up _ _ ih => exact ih
  | enter _ _ _ _ ih => exact ih
  | follow _ _ _ _ h => exact hfollow _ _ _ _ h
  | link _ hnode _ => exact .inr ⟨by simp, hnode⟩
  | found _ hnode _ _ => exact .inr ⟨by simp, hnode⟩
  | free _ hnode => exact ⟨by simp, hnode⟩

theorem walkFollowing_at (links : Nat) {here : Location} {names : List String} {place : Place}
    (h : walkFollowing tree purpose links here names = .ok place) : place.At tree := by
  induction links generalizing here names place with
  | zero => exact (walked_of_walk h).at fun _ _ _ _ h => by cases h
  | succ links ih => exact (walked_of_walk h).at fun _ _ _ _ h => ih h

/-- a path that is resolved is neither empty nor too long, and is walked along its components -/
theorem resolve_eq_ok {start : Location} {path : String} :
    resolve tree purpose start path = .ok place ↔
      (path.toList.contains '\x00' = false ∧ path ≠ "" ∧ ¬ path.utf8ByteSize ≥ pathLimit) ∧
        walkFollowing tree purpose linkLimit (if isAbsolute path then [] else start) (components path) = .ok place := by
  unfold resolve
  by_cases hnul : path.toList.contains '\x00' = true
  · rw [if_pos hnul]
    constructor
    · intro h; cases h
    · rintro ⟨⟨h, -⟩, -⟩; rw [hnul] at h; cases h
  by_cases hempty : path = ""
  · rw [if_neg hnul, if_pos hempty]; simp [hempty]
  by_cases hlong : path.utf8ByteSize ≥ pathLimit
  · rw [if_neg hnul, if_neg hempty, if_pos hlong]
    constructor
    · intro h; cases h
    · rintro ⟨⟨-, -, h⟩, -⟩; exact (h hlong).elim
  · rw [if_neg hnul, if_neg hempty, if_neg hlong]
    constructor
    · intro h; exact ⟨⟨by simpa using hnul, hempty, hlong⟩, h⟩
    · rintro ⟨-, h⟩; exact h

/-- **What a path leads to is there.** -/
theorem resolve_at {start : Location} {path : String} (h : resolve tree purpose start path = .ok place) :
    place.At tree := walkFollowing_at linkLimit (resolve_eq_ok.1 h).2

/-! ## Creating and using -/

/-- components that may end a path for creating may end it for any purpose but creating -/
theorem mayEnd_use (rest : List String) : MayEnd .use rest := by
  rintro ⟨h, -⟩
  cases h

theorem Walked.use {other : Follow}
    (hfollow : ∀ here target rest place, follow here target rest = .ok place → other here target rest = .ok place)
    (h : Walked tree .create follow here names place) : Walked tree .use other here names place := by
  induction h with
  | here h => exact (h rfl).elim
  | stay hname _ ih => exact .stay hname ih
  | up hsearch _ ih => exact .up hsearch ih
  | enter hname _ hnode _ ih => exact .enter hname (mayEnd_use _) hnode ih
  | follow hname _ hnode _ h => exact .follow hname (mayEnd_use _) hnode (by rintro ⟨h, -⟩; cases h) (hfollow _ _ _ _ h)
  | link _ _ h => cases h
  | found hname hnode hdirectory hlink => exact .found hname hnode hdirectory hlink
  | free hname hnode => exact .free hname hnode

theorem walkFollowing_use (links : Nat) {here : Location} {names : List String} {place : Place}
    (h : walkFollowing tree .create links here names = .ok place) :
    walkFollowing tree .use links here names = .ok place := by
  induction links generalizing here names place with
  | zero => exact walk_of_walked ((walked_of_walk h).use fun _ _ _ _ h => by cases h)
  | succ links ih => exact walk_of_walked ((walked_of_walk h).use fun _ _ _ _ h => ih h)

/-- **Where a file can be created it can be used.** -/
theorem resolve_use_of_create {start : Location} {path : String} (h : resolve tree .create start path = .ok place) :
    resolve tree .use start path = .ok place := by
  obtain ⟨hpath, hwalk⟩ := resolve_eq_ok.1 h
  exact resolve_eq_ok.2 ⟨hpath, walkFollowing_use linkLimit hwalk⟩

/-! ## A file put where a path leads to -/

/-- a place where a file can be put: it is free, or holds a file -/
def Place.Takes (location : Location) (place : Place) : Prop :=
  place = .free location ∨ ∃ mode content, place = .existing location (.file mode content)

theorem Walked.set {location : Location} (hroot : location ≠ []) {mode : UInt32} {content : List UInt8}
    {other : Follow} (hfree : ∀ node, tree.get? location = some node → ∃ mode content, node = .file mode content)
    (hfollow : ∀ here target rest place, follow here target rest = .ok place → place.Takes location →
      other here target rest = .ok (.existing location (.file mode content)))
    (h : Walked tree .use follow here names place) (htakes : place.Takes location) :
    Walked (tree.set location (.file mode content)) .use other here names
      (.existing location (.file mode content)) := by
  -- on the way there is nothing but directories and links, so no look-up meets the new file before the end
  have hway : ∀ next node, tree.get? next = some node → (∀ mode content, node ≠ .file mode content) →
      (tree.set location (.file mode content)).get? next = some node := by
    intro next node hnode hfile
    rw [Tree.get?_set_of_ne tree hroot _ ?_, hnode]
    rintro rfl
    obtain ⟨mode, content, hheld⟩ := hfree node hnode
    exact hfile mode content hheld
  have hself := Tree.get?_set_self tree hroot (.file mode content)
  induction h with
  | here _ => rcases htakes with h | ⟨_, _, h⟩ <;> cases h
  | stay hname _ ih => exact .stay hname (ih htakes)
  | up hsearch _ ih => exact .up hsearch (ih htakes)
  | enter hname hrest hnode _ ih => exact .enter (hname.of_caller rfl) hrest (hway _ _ hnode (by simp)) (ih htakes)
  | follow hname hrest hnode hinspect h =>
    exact .follow (hname.of_caller rfl) hrest (hway _ _ hnode (by simp)) hinspect (hfollow _ _ _ _ h htakes)
  | link _ _ h => cases h
  | found hname _ _ _ =>
    rcases htakes with h | ⟨_, _, h⟩
    · cases h
    · cases h; exact .found (hname.of_caller rfl) hself (by simp) (by simp)
  | free hname _ =>
    rcases htakes with h | ⟨_, _, h⟩
    · cases h; exact .found (hname.of_caller rfl) hself (by simp) (by simp)
    · cases h

theorem walkFollowing_set {location : Location} (hroot : location ≠ []) {mode : UInt32} {content : List UInt8}
    (hfree : ∀ node, tree.get? location = some node → ∃ mode content, node = .file mode content) (links : Nat)
    {here : Location} {names : List String} {place : Place}
    (h : walkFollowing tree .use links here names = .ok place) (htakes : place.Takes location) :
    walkFollowing (tree.set location (.file mode content)) .use links here names =
      .ok (.existing location (.file mode content)) := by
  induction links generalizing here names place with
  | zero => exact walk_of_walked ((walked_of_walk h).set hroot hfree (fun _ _ _ _ h _ => by cases h) htakes)
  | succ links ih =>
    exact walk_of_walked ((walked_of_walk h).set hroot hfree (fun _ _ _ _ h htakes => ih h htakes) htakes)

/-- **A path leads to the file that is put where it leads.** -/
theorem resolve_set {start location : Location} {path : String} (h : resolve tree .use start path = .ok place)
    (htakes : place.Takes location) (mode : UInt32) (content : List UInt8) :
    resolve (tree.set location (.file mode content)) .use start path =
      .ok (.existing location (.file mode content)) := by
  obtain ⟨hpath, hwalk⟩ := resolve_eq_ok.1 h
  have hplace := resolve_at h
  refine resolve_eq_ok.2 ⟨hpath, ?_⟩
  rcases htakes with rfl | ⟨oldMode, oldContent, rfl⟩
  · obtain ⟨hroot, hnone⟩ := hplace
    refine walkFollowing_set hroot ?_ linkLimit hwalk (.inl rfl)
    intro node hnode
    rw [hnone] at hnode
    cases hnode
  · rcases hplace with hdirectory | ⟨hroot, hsome⟩
    · cases hdirectory
    · refine walkFollowing_set hroot ?_ linkLimit hwalk (.inr ⟨oldMode, oldContent, rfl⟩)
      intro node hnode
      rw [hsome] at hnode
      cases hnode
      exact ⟨oldMode, oldContent, rfl⟩

/-! ## Why a path leads nowhere -/

theorem walk_error {fault : Fault}
    (hfollow : ∀ here target rest, follow here target rest = .error fault → fault ∈ lookUpFaults)
    (h : walk tree purpose follow here names = .error fault) : fault ∈ lookUpFaults := by
  induction names generalizing here with
  | nil =>
    unfold walk at h
    split_ifs at h
    cases h
    decide
  | cons name rest ih =>
    rcases component_cases tree purpose here name rest with
      hstay | ⟨rfl, hsearch⟩ | ⟨_, hfault, hrefused⟩ | ⟨hname, hrest⟩
    · rw [walk_stay hstay] at h; exact ih h
    · rw [walk_up hsearch] at h; exact ih h
    · rw [hrefused tree rfl] at h; cases h; exact hfault
    rw [walk_lookedUp hname hrest] at h
    cases hnode : tree.get? (here ++ [name]) with
    | none =>
      simp only [hnode] at h
      split_ifs at h
      cases h
      decide
    | some node =>
      cases node with
      | directory => simp only [hnode] at h; exact ih h
      | link target =>
        simp only [hnode] at h
        split_ifs at h
        exact hfollow _ _ _ h
      | _ =>
        simp only [hnode] at h
        split_ifs at h
        cases h
        decide

theorem walkFollowing_error {fault : Fault} (links : Nat) {here : Location} {names : List String}
    (h : walkFollowing tree purpose links here names = .error fault) : fault ∈ lookUpFaults := by
  induction links generalizing here names with
  | zero => exact walk_error (fun _ _ _ h => by cases h; decide) h
  | succ links ih => exact walk_error (fun _ _ _ h => ih h) h

/-- **A path that leads nowhere** is at fault itself. -/
theorem resolve_error {start : Location} {path : String} {fault : Fault}
    (h : resolve tree purpose start path = .error fault) : fault ∈ lookUpFaults := by
  unfold resolve at h
  split_ifs at h
  · cases h; decide
  · cases h; decide
  · cases h; decide
  · exact walkFollowing_error linkLimit h
  · exact walkFollowing_error linkLimit h

end BlockProbe.Files
