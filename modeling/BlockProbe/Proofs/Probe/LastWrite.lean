/-
The last write wins.

However many calls are made on a tree, through whatever paths and links, what a path names never changes, and a file
holds what was written to it last or, if nothing was, what it held at first. That is so whatever the process may do: a
call that may not write a file does not touch it. A round trip that may write a file and not read it fails although it
has written; where no round trip is in that case, the calls that wrote are the calls that succeeded.

- `Puts`, `LastPut`: a call that gets past its write to a file, and the last of many that did.
- `Writes`, `LastWrote`: a call that writes a file and succeeds, and the last of many that did.
- `perform_of_puts`, `perform_of_not_puts`: what one call does to one file.
- `performAll_of_nonePut`: a file that no call writes stays.
- `puts_iff_writes`: to get past the write is to succeed, for a process that may read back what it writes.
- `last_write_wins`: the tree as a map from files to their contents, and what reading finds in it.
-/
import BlockProbe.Probe.Operation
import BlockProbe.Proofs.Probe.OnTree
import BlockProbe.Proofs.Probe.Verify
import Mathlib

namespace BlockProbe.Probe

open BlockProbe.Files

variable {start location : Location} {tree : Tree} {operation : Operation} {operations : List Operation}
  {bytes : List UInt8}

/-- the path that a call writes, and the bytes -/
def Operation.written? : Operation → Option (String × List UInt8)
  | .write path bytes _ => some (path, bytes)
  | .roundTrip path bytes _ => some (path, bytes)
  | .read _ _ => none
  | .verify _ _ _ => none

/-- a call that gets past writing these bytes to the file at this location -/
def Puts (start : Location) (tree : Tree) (operation : Operation) (location : Location) (bytes : List UInt8) : Prop :=
  ∃ path, operation.written? = some (path, bytes) ∧ Names tree start path location ∧ tree.mayFill location = true

/-- a call that succeeds in writing these bytes to the file at this location -/
def Writes (start : Location) (tree : Tree) (operation : Operation) (location : Location) (bytes : List UInt8) : Prop :=
  ∃ path, operation.written? = some (path, bytes) ∧ (perform start tree operation).1.succeeded = true ∧
    Names tree start path location

/-- the last of these calls that does something did it with these bytes -/
def LastOf (does : Tree → Operation → List UInt8 → Prop) (start : Location) (tree : Tree)
    (operations : List Operation) (bytes : List UInt8) : Prop :=
  ∃ before operation after, operations = before ++ operation :: after ∧
    does (performAll start tree before) operation bytes ∧
    ∀ middle later rest other, after = middle ++ later :: rest →
      ¬ does (performAll start tree (before ++ operation :: middle)) later other

/-- none of these calls does it -/
def NoneOf (does : Tree → Operation → List UInt8 → Prop) (start : Location) (tree : Tree)
    (operations : List Operation) : Prop :=
  ∀ before operation after bytes, operations = before ++ operation :: after →
    ¬ does (performAll start tree before) operation bytes

/-- the last of these calls that got past writing to the file at this location wrote these bytes -/
def LastPut (start : Location) (tree : Tree) (operations : List Operation) (location : Location)
    (bytes : List UInt8) : Prop :=
  LastOf (fun tree operation => Puts start tree operation location) start tree operations bytes

/-- the last of these calls that succeeded in writing to the file at this location wrote these bytes -/
def LastWrote (start : Location) (tree : Tree) (operations : List Operation) (location : Location)
    (bytes : List UInt8) : Prop :=
  LastOf (fun tree operation => Writes start tree operation location) start tree operations bytes

/-- what the round trips among these calls write, the process may read back -/
def ReadsBack (start : Location) (tree : Tree) (operations : List Operation) : Prop :=
  ∀ before path bytes options after location, operations = before ++ .roundTrip path bytes options :: after →
    Names (performAll start tree before) start path location →
    (performAll start tree before).mayFill location = true →
    (performAll start tree before).mayReadBack location options.mode = true

/-! ## One call -/

/-- a call changes the tree as writing does, or not at all -/
theorem perform_tree (start : Location) (tree : Tree) (operation : Operation) :
    (∃ path bytes mode, operation.written? = some (path, bytes) ∧
      (perform start tree operation).2 = tree.afterWriting start path mode bytes) ∨
    operation.written? = none ∧ (perform start tree operation).2 = tree := by
  cases operation with
  | write path bytes options => exact .inl ⟨path, bytes, options.mode, rfl, rfl⟩
  | roundTrip path bytes options => exact .inl ⟨path, bytes, options.mode, rfl, rfl⟩
  | read path count => exact .inr ⟨rfl, rfl⟩
  | verify path expected read => exact .inr ⟨rfl, rfl⟩

theorem perform_of_written {path : String} (h : operation.written? = some (path, bytes)) :
    ∃ mode, (perform start tree operation).2 = tree.afterWriting start path mode bytes := by
  rcases perform_tree start tree operation with ⟨_, _, mode, hsame, hafter⟩ | ⟨hnone, -⟩
  · cases h.symm.trans hsame
    exact ⟨mode, hafter⟩
  · cases h.symm.trans hnone

theorem perform_of_puts (h : Puts start tree operation location bytes) :
    ∃ mode, (perform start tree operation).2.get? location = some (.file mode bytes) := by
  obtain ⟨path, hwritten, hnames, hfill⟩ := h
  obtain ⟨mode, hafter⟩ := perform_of_written hwritten
  exact ⟨_, by rw [hafter, Tree.afterWriting_of_names hnames hfill, if_pos rfl]⟩

theorem perform_of_not_puts (h : ∀ bytes, ¬ Puts start tree operation location bytes) :
    (perform start tree operation).2.get? location = tree.get? location := by
  rcases perform_tree start tree operation with ⟨path, bytes, mode, hwritten, hafter⟩ | ⟨-, hafter⟩
  · rw [hafter]
    by_cases hsome : ∃ other, Names tree start path other
    · obtain ⟨other, hnames⟩ := hsome
      cases hfill : tree.mayFill other with
      | false => rw [Tree.afterWriting_of_closed hnames hfill]
      | true =>
        rw [Tree.afterWriting_of_names hnames hfill, if_neg]
        rintro rfl
        exact h bytes ⟨path, hwritten, hnames, hfill⟩
    · rw [Tree.afterWriting_of_not_names fun other hnames => hsome ⟨other, hnames⟩]
  · rw [hafter]

theorem perform_sameButFiles (start : Location) (tree : Tree) (operation : Operation) :
    tree.SameButFiles (perform start tree operation).2 := by
  rcases perform_tree start tree operation with ⟨path, bytes, mode, -, hafter⟩ | ⟨-, hafter⟩
  · rw [hafter]
    exact Tree.sameButFiles_afterWriting tree start path mode bytes
  · rw [hafter]
    exact .refl tree

/-- a file that is there stays, and so does who may read, write and execute it -/
theorem perform_permissions {old : UInt32} {content : List UInt8} (h : tree.get? location = some (.file old content))
    (start : Location) (operation : Operation) :
    ∃ mode held, (perform start tree operation).2.get? location = some (.file mode held) ∧
      mode &&& 0o1777 = old &&& 0o1777 := by
  by_cases hputs : ∃ bytes, Puts start tree operation location bytes
  · obtain ⟨bytes, path, hwritten, hnames, hfill⟩ := hputs
    obtain ⟨mode, hafter⟩ := perform_of_written hwritten
    rw [hafter, Tree.replaced_of_names hnames h hfill]
    exact ⟨_, _, rfl, (Caller.modeAfterChange_keeps tree.caller location old).permissions⟩
  · rw [perform_of_not_puts fun bytes h => hputs ⟨bytes, h⟩]
    exact ⟨old, content, h, rfl⟩

/-- a round trip to a file succeeds where the process may write and read it, with its own bytes, and nowhere else -/
theorem perform_roundTrip {path : String} (hnames : Names tree start path location) (bytes : List UInt8)
    (options : Options) :
    (perform start tree (.roundTrip path bytes options)).1 = .gave
      (if tree.mayFill location then
        if tree.mayReadBack location options.mode then .done { requested := bytes.length, data := bytes }
        else .failed { path, failure := .call .opening .accessDenied }
      else .failed { path, failure := .call .write .accessDenied }) := by
  simp only [perform, roundTripOn]
  cases hfill : tree.mayFill location with
  | false => rw [roundTrip_of_closed hnames hfill]; rfl
  | true =>
    cases hread : tree.mayReadBack location options.mode with
    | false => rw [roundTrip_of_unreadable hnames hfill hread]; rfl
    | true => rw [roundTrip_of_names hnames hfill hread]; rfl

/-- a write to a file succeeds where the process may write it -/
theorem perform_write {path : String} (hnames : Names tree start path location) (bytes : List UInt8)
    (options : Options) :
    (perform start tree (.write path bytes options)).1 = .wrote
      (if tree.mayFill location then .done () else .failed { path, failure := .call .write .accessDenied }) := by
  simp only [perform, writeTo]
  cases hfill : tree.mayFill location with
  | false => rw [writePayload_of_refused (Tree.opening_of_closed hnames hfill options.mode) rfl]; rfl
  | true => rw [writePayload_of_names hnames hfill]; rfl

/-- **To get past the write is to succeed**, unless a round trip may not read what it wrote. -/
theorem puts_iff_writes
    (hback : ∀ path bytes options, operation = .roundTrip path bytes options → Names tree start path location →
      tree.mayFill location = true → tree.mayReadBack location options.mode = true) :
    Puts start tree operation location bytes ↔ Writes start tree operation location bytes := by
  constructor
  · rintro ⟨path, hwritten, hnames, hfill⟩
    refine ⟨path, hwritten, ?_, hnames⟩
    cases operation with
    | write path' bytes' options =>
      cases hwritten
      simp [perform_write hnames, hfill, Answer.succeeded]
    | roundTrip path' bytes' options =>
      cases hwritten
      simp [perform_roundTrip hnames, hfill, hback _ _ _ rfl hnames hfill, Answer.succeeded]
    | read path' count => cases hwritten
    | verify path' expected read => cases hwritten
  · rintro ⟨path, hwritten, hsucceeded, hnames⟩
    refine ⟨path, hwritten, hnames, ?_⟩
    by_contra hclosed
    cases operation with
    | write path' bytes' options =>
      cases hwritten
      simp [perform_write hnames, hclosed, Answer.succeeded] at hsucceeded
    | roundTrip path' bytes' options =>
      cases hwritten
      simp [perform_roundTrip hnames, hclosed, Answer.succeeded] at hsucceeded
    | read path' count => cases hwritten
    | verify path' expected read => cases hwritten

/-! ## Many calls -/

theorem performAll_append (start : Location) (tree : Tree) (first second : List Operation) :
    performAll start tree (first ++ second) = performAll start (performAll start tree first) second :=
  List.foldl_append

theorem performAll_sameButFiles (start : Location) (tree : Tree) (operations : List Operation) :
    tree.SameButFiles (performAll start tree operations) := by
  induction operations generalizing tree with
  | nil => exact .refl tree
  | cons operation rest ih => exact (perform_sameButFiles start tree operation).trans (ih _)

/-- **A file that no call writes stays as it was.** -/
theorem performAll_of_nonePut
    (h : NoneOf (fun tree operation => Puts start tree operation location) start tree operations) :
    (performAll start tree operations).get? location = tree.get? location := by
  induction operations generalizing tree with
  | nil => rfl
  | cons operation rest ih =>
    have hfirst : (perform start tree operation).2.get? location = tree.get? location :=
      perform_of_not_puts fun bytes => h [] operation rest bytes rfl
    have hrest : NoneOf (fun tree operation => Puts start tree operation location) start
        (perform start tree operation).2 rest := by
      intro before later after bytes heq
      exact h (operation :: before) later after bytes (by rw [heq]; rfl)
    exact (ih hrest).trans hfirst

theorem performAll_permissions {old : UInt32} {content : List UInt8}
    (h : tree.get? location = some (.file old content)) (start : Location) (operations : List Operation) :
    ∃ mode held, (performAll start tree operations).get? location = some (.file mode held) ∧
      mode &&& 0o1777 = old &&& 0o1777 := by
  induction operations generalizing tree old content with
  | nil => exact ⟨old, content, h, rfl⟩
  | cons operation rest ih =>
    obtain ⟨mode, held, hfile, hkept⟩ := perform_permissions h start operation
    obtain ⟨last, final, hlast, hlastKept⟩ := ih hfile
    exact ⟨last, final, hlast, hlastKept.trans hkept⟩

/-- what the process may do with a file that is there does not change -/
theorem performAll_mayOpen {old : UInt32} {content : List UInt8} (h : tree.get? location = some (.file old content))
    (start : Location) (operations : List Operation) (access : Access) :
    ∃ mode held, (performAll start tree operations).get? location = some (.file mode held) ∧
      (performAll start tree operations).caller.mayOpen access location (.file mode held) =
        tree.caller.mayOpen access location (.file old content) := by
  obtain ⟨mode, held, hfile, hkept⟩ := performAll_permissions h start operations
  refine ⟨mode, held, hfile, ?_⟩
  rw [← (performAll_sameButFiles start tree operations).caller]
  exact Caller.mayOpen_congr hkept held content

theorem performAll_mayFill {old : UInt32} {content : List UInt8} (h : tree.get? location = some (.file old content))
    (start : Location) (operations : List Operation) :
    (performAll start tree operations).mayFill location = tree.mayFill location := by
  obtain ⟨mode, held, hfile, hopen⟩ := performAll_mayOpen h start operations .write
  rw [Tree.mayFill_of_file hfile, hopen, Tree.mayFill_of_file h]

theorem performAll_mayReadBack {old : UInt32} {content : List UInt8}
    (h : tree.get? location = some (.file old content)) (start : Location) (operations : List Operation)
    (requested : UInt32) :
    (performAll start tree operations).mayReadBack location requested =
      tree.caller.mayOpen .read location (.file old content) := by
  obtain ⟨mode, held, hfile, hopen⟩ := performAll_mayOpen h start operations .read
  unfold Tree.mayReadBack
  rw [Tree.openedMode_of_file hfile, ← hopen]
  exact Caller.mayOpen_congr (Caller.modeAfterChange_keeps _ _ _).permissions [] held

/-- the last of some calls and one more: it is the one more, or it was among the others -/
theorem eq_snoc {middle rest : List Operation} {last later : Operation}
    (h : operations ++ [last] = middle ++ later :: rest) :
    rest = [] ∧ later = last ∧ middle = operations ∨
      ∃ shorter, rest = shorter ++ [last] ∧ operations = middle ++ later :: shorter := by
  rcases List.eq_nil_or_concat rest with rfl | ⟨shorter, final, hrest⟩
  · obtain ⟨hmiddle, hlast⟩ := List.append_inj' h rfl
    cases hlast
    exact .inl ⟨rfl, rfl, hmiddle.symm⟩
  · rw [List.concat_eq_append] at hrest
    subst hrest
    have happend : operations ++ [last] = (middle ++ later :: shorter) ++ [final] := by simpa using h
    obtain ⟨hothers, hlast⟩ := List.append_inj' happend rfl
    cases hlast
    exact .inr ⟨shorter, rfl, hothers⟩

section

variable {does others : Tree → Operation → List UInt8 → Prop}

/-- either some call was the last to do it, or none did -/
theorem noneOf_or_lastOf (does : Tree → Operation → List UInt8 → Prop) (start : Location) (tree : Tree)
    (operations : List Operation) :
    NoneOf does start tree operations ∨ ∃ bytes, LastOf does start tree operations bytes := by
  induction operations using List.reverseRecOn with
  | nil =>
    refine .inl fun before operation after bytes heq => ?_
    simp at heq
  | append_singleton operations last ih =>
    by_cases hlast : ∃ bytes, does (performAll start tree operations) last bytes
    · obtain ⟨bytes, hdoes⟩ := hlast
      refine .inr ⟨bytes, operations, last, [], rfl, hdoes, ?_⟩
      intro middle later rest other heq
      simp at heq
    · rcases ih with hnone | ⟨bytes, before, operation, after, rfl, hdoes, hlater⟩
      · refine .inl fun before operation after bytes heq hdoes => ?_
        rcases eq_snoc heq with ⟨-, rfl, rfl⟩ | ⟨shorter, -, rfl⟩
        · exact hlast ⟨bytes, hdoes⟩
        · exact hnone before operation shorter bytes rfl hdoes
      · refine .inr ⟨bytes, before, operation, after ++ [last], by simp, hdoes, ?_⟩
        intro middle later rest other heq hother
        rcases eq_snoc heq with ⟨-, rfl, rfl⟩ | ⟨shorter, -, rfl⟩
        · exact hlast ⟨other, hother⟩
        · exact hlater middle later shorter other rfl hother

/-- what each of the calls does alike is last done alike -/
theorem LastOf.congr
    (hsame : ∀ before operation after bytes, operations = before ++ operation :: after →
      (does (performAll start tree before) operation bytes ↔ others (performAll start tree before) operation bytes))
    (h : LastOf does start tree operations bytes) : LastOf others start tree operations bytes := by
  obtain ⟨before, operation, after, rfl, hdoes, hlater⟩ := h
  refine ⟨before, operation, after, rfl, (hsame _ _ _ _ rfl).1 hdoes, ?_⟩
  rintro middle later rest other rfl
  rw [← hsame (before ++ operation :: middle) later rest other (by simp)]
  exact hlater middle later rest other rfl

end

/-- **A file holds what was written to it last.** -/
theorem performAll_of_lastPut (h : LastPut start tree operations location bytes) :
    ∃ mode, (performAll start tree operations).get? location = some (.file mode bytes) := by
  obtain ⟨before, operation, after, rfl, hputs, hlater⟩ := h
  obtain ⟨mode, hfile⟩ := perform_of_puts hputs
  have hnone : NoneOf (fun tree operation => Puts start tree operation location) start
      (perform start (performAll start tree before) operation).2 after := by
    intro middle later rest other heq
    have hnot := hlater middle later rest other heq
    rw [performAll_append] at hnot
    exact hnot
  refine ⟨mode, ?_⟩
  rw [performAll_append, ← hfile]
  exact performAll_of_nonePut hnone

theorem performAll_of_not_lastPut (h : ∀ bytes, ¬ LastPut start tree operations location bytes) :
    (performAll start tree operations).get? location = tree.get? location := by
  rcases noneOf_or_lastOf (fun tree operation => Puts start tree operation location) start tree operations with
    hnone | ⟨bytes, hlast⟩
  · exact performAll_of_nonePut hnone
  · exact (h bytes hlast).elim

/-- where the process may read back what it writes, the last call that wrote is the last that succeeded -/
theorem lastPut_iff_lastWrote (h : ReadsBack start tree operations) :
    LastPut start tree operations location bytes ↔ LastWrote start tree operations location bytes := by
  have hsame (before : List Operation) (operation : Operation) (after : List Operation) (bytes : List UInt8)
      (heq : operations = before ++ operation :: after) :
      Puts start (performAll start tree before) operation location bytes ↔
        Writes start (performAll start tree before) operation location bytes :=
    puts_iff_writes fun path bytes options hoperation => h before path bytes options after location (hoperation ▸ heq)
  exact ⟨LastOf.congr hsame, LastOf.congr fun before operation after bytes heq =>
    (hsame before operation after bytes heq).symm⟩

/-- what any calls on a tree have come to -/
structure LastWriteWins (start : Location) (tree : Tree) (operations : List Operation) : Prop where
  /-- a file to which some call succeeded in writing holds exactly the bytes that the last of them wrote -/
  written : ReadsBack start tree operations → ∀ location bytes, LastWrote start tree operations location bytes →
    ∃ mode, (performAll start tree operations).get? location = some (.file mode bytes)
  /-- and anything else is as it was at first -/
  untouched : ReadsBack start tree operations → ∀ location,
    (∀ bytes, ¬ LastWrote start tree operations location bytes) →
    (performAll start tree operations).get? location = tree.get? location
  /-- the same of the calls that got past their write, whatever the process may read -/
  put (location : Location) (bytes : List UInt8) : LastPut start tree operations location bytes →
    ∃ mode, (performAll start tree operations).get? location = some (.file mode bytes)
  notPut (location : Location) : (∀ bytes, ¬ LastPut start tree operations location bytes) →
    (performAll start tree operations).get? location = tree.get? location
  names (path : String) (location : Location) :
    Names (performAll start tree operations) start path location ↔ Names tree start path location
  /-- who may read, write and execute a file does not change -/
  permissions (location : Location) (old : UInt32) (content : List UInt8) :
    tree.get? location = some (.file old content) →
    ∃ mode held, (performAll start tree operations).get? location = some (.file mode held) ∧
      mode &&& 0o1777 = old &&& 0o1777
  /-- a file that the process may read is read from the beginning, as far as that goes -/
  read (path : String) (location : Location) (mode : UInt32) (content : List UInt8) (count : Nat) :
    Names (performAll start tree operations) start path location →
    (performAll start tree operations).get? location = some (.file mode content) →
    tree.caller.mayOpen .read location (.file mode content) = true →
    (perform start (performAll start tree operations) (.read path count)).1 =
      .gave (.done { requested := count, data := content.take count })
  /-- reading and verifying change nothing -/
  unchanged (operation : Operation) : operation.written? = none →
    (perform start (performAll start tree operations) operation).2 = performAll start tree operations
  /-- a round trip to a file that succeeds gives its own payload, complete and verified -/
  trip (path : String) (location : Location) (bytes : List UInt8) (options : Options) (read : ReadBack) :
    Names (performAll start tree operations) start path location →
    (perform start (performAll start tree operations) (.roundTrip path bytes options)).1 = .gave (.done read) →
    read.data = bytes ∧ read.isComplete = true ∧ verify path bytes read = .ok ()
  /-- and it does succeed, where the process may write the file and read it back -/
  succeeds (path : String) (location : Location) (bytes : List UInt8) (options : Options) :
    Names (performAll start tree operations) start path location →
    (performAll start tree operations).mayFill location = true →
    (performAll start tree operations).mayReadBack location options.mode = true →
    ∃ read, (perform start (performAll start tree operations) (.roundTrip path bytes options)).1 = .gave (.done read)

/-- **The last write wins.** After any calls on any tree, a location to which some call wrote holds a file with exactly
the bytes that the last of them wrote, and any other location is as it was at first; and paths name what they named at
first. The calls that wrote are those that succeeded, if the process may read back what its round trips write. A path
that names a file there is reads from the beginning of what it holds, as far as that goes and the process may read it;
reading and verifying change nothing; and a round trip to a file gives its own payload, complete and verified. -/
theorem last_write_wins (start : Location) (tree : Tree) (operations : List Operation) :
    LastWriteWins start tree operations where
  written hback location bytes hlast := performAll_of_lastPut ((lastPut_iff_lastWrote hback).2 hlast)
  untouched hback location hnone :=
    performAll_of_not_lastPut fun bytes hlast => hnone bytes ((lastPut_iff_lastWrote hback).1 hlast)
  put location bytes hlast := performAll_of_lastPut hlast
  notPut location hnone := performAll_of_not_lastPut hnone
  names path location := names_sameButFiles (performAll_sameButFiles start tree operations).symm
  permissions location old content hfile := performAll_permissions hfile start operations
  read path location mode content count hnames hfile hopen := by
    rw [(performAll_sameButFiles start tree operations).caller] at hopen
    have hread := readBack_of_names hnames hfile hopen path count
    simp only [perform, readFrom, hread]
  unchanged operation hread := by
    rcases perform_tree start (performAll start tree operations) operation with ⟨_, _, _, hwritten, -⟩ | ⟨-, hafter⟩
    · cases hread.symm.trans hwritten
    · exact hafter
  trip path location bytes options read hnames hanswer := by
    rw [perform_roundTrip hnames] at hanswer
    split_ifs at hanswer with hfill hread
    · cases hanswer
      exact ⟨rfl, by simp [ReadBack.isComplete], verify_eq_ok.2 rfl⟩
    · cases hanswer
    · cases hanswer
  succeeds path location bytes options hnames hfill hread := by
    rw [perform_roundTrip hnames, hfill, hread]
    exact ⟨_, rfl⟩

/-- a process that reads whatever it finds may read back what it writes -/
theorem readsBack_of_overrides (hoverrides : tree.caller.overrides .read = true)
    (hopens : ∀ location, tree.caller.opens .read location = true) (start : Location) (operations : List Operation) :
    ReadsBack start tree operations := by
  intro before path bytes options after location _ _ _
  unfold Tree.mayReadBack Caller.mayOpen Caller.isPermitted
  rw [← (performAll_sameButFiles start tree before).caller, hopens, hoverrides]
  rfl

/-! A file and a link to it: it is written through the link and shortened under its own name, and a third write goes to
a directory that is missing. The process owns the file and has no privilege. -/

def linkedTree : Tree where
  entries := [(["f"], .file 0o644 (Text.encode "at first something long")), (["a"], .link "f")]
  caller := { overrides _ := false }

def linkedCalls : List Operation :=
  [.write "a" (Text.encode "in between") {}, .roundTrip "f" (Text.encode "one") { sync := true },
    .write "missing/x" (Text.encode "two") {}]

theorem linkedTree_names : Names linkedTree [] "f" ["f"] ∧ Names linkedTree [] "a" ["f"] := by
  have hlast : ∀ links, Leads linkedTree links [] ["f"] ["f"] := fun links =>
    .last ⟨by decide, by decide, by cbv, rfl⟩ (.inr ⟨_, _, rfl⟩)
  refine ⟨⟨by decide, by decide, by cbv, hlast _⟩, ⟨by decide, by decide, by cbv, ?_⟩⟩
  exact .follow ⟨by decide, by decide, by cbv, rfl⟩ rfl (hlast _)

theorem linkedTree_missing (location : Location) : ¬ Names linkedTree [] "missing/x" location := by
  have hcomponents : components "missing/x" = ["missing", "x"] := by cbv
  refine not_names_of_missing hcomponents ⟨by decide, by decide, by cbv, by rw [ite_self]; rfl⟩ (by simp) ?_
  rw [ite_self]
  rfl

theorem linkedCalls_readsBack : ReadsBack [] linkedTree linkedCalls := by
  intro before path bytes options after location heq hnames _
  have hfirst := (names_sameButFiles (performAll_sameButFiles [] linkedTree before)).2 hnames
  match before with
  | [_] =>
    cases heq
    cases hfirst.unique linkedTree_names.1
    rw [performAll_mayReadBack rfl]
    decide
  | [] => cases heq
  | [_, _] => cases heq
  | _ :: _ :: _ :: _ => simp [linkedCalls] at heq

/-- the sample's file ends with the shorter content, read through the link as well -/
theorem linked_last_write_wins :
    ReadsBack [] linkedTree linkedCalls ∧
    LastWrote [] linkedTree linkedCalls ["f"] (Text.encode "one") ∧
    (∃ mode, (performAll [] linkedTree linkedCalls).get? ["f"] = some (.file mode (Text.encode "one"))) ∧
    (∀ bytes, ¬ LastWrote [] linkedTree linkedCalls ["a"] bytes) ∧
    (performAll [] linkedTree linkedCalls).get? ["a"] = some (.link "f") ∧
    Names (performAll [] linkedTree linkedCalls) [] "a" ["f"] ∧
    (perform [] (performAll [] linkedTree linkedCalls) (.read "a" 2)).1 =
      .gave (.done { requested := 2, data := Text.encode "on" }) ∧
    Operation.written? (.read "a" 2) = none ∧
    (perform [] (performAll [] linkedTree linkedCalls) (.read "a" 2)).2 = performAll [] linkedTree linkedCalls ∧
    ∃ read, (perform [] (performAll [] linkedTree linkedCalls) (.roundTrip "a" [] {})).1 = .gave (.done read) ∧
      read.data = [] ∧ read.isComplete = true ∧ verify "a" [] read = .ok () := by
  have hwins := last_write_wins [] linkedTree linkedCalls
  have hputs : Puts [] (performAll [] linkedTree [.write "a" (Text.encode "in between") {}])
      (.roundTrip "f" (Text.encode "one") { sync := true }) ["f"] (Text.encode "one") := by
    refine ⟨"f", rfl, (names_sameButFiles (performAll_sameButFiles [] linkedTree _)).1 linkedTree_names.1, ?_⟩
    rw [performAll_mayFill rfl]
    decide
  have hput : LastPut [] linkedTree linkedCalls ["f"] (Text.encode "one") := by
    refine ⟨[.write "a" (Text.encode "in between") {}], .roundTrip "f" (Text.encode "one") { sync := true },
      [.write "missing/x" (Text.encode "two") {}], rfl, hputs, ?_⟩
    rintro middle later rest other heq ⟨path, hwritten, hother, -⟩
    obtain ⟨rfl, rfl, rfl⟩ : middle = [] ∧ later = .write "missing/x" (Text.encode "two") {} ∧ rest = [] := by
      cases middle with
      | nil => cases heq; exact ⟨rfl, rfl, rfl⟩
      | cons _ _ => simp at heq
    cases hwritten
    exact linkedTree_missing _ ((names_sameButFiles (performAll_sameButFiles [] linkedTree _)).2 hother)
  have hlast := (lastPut_iff_lastWrote linkedCalls_readsBack).1 hput
  have hnone : ∀ bytes, ¬ LastWrote [] linkedTree linkedCalls ["a"] bytes := by
    rintro bytes ⟨before, operation, after, -, ⟨path, -, -, hother⟩, -⟩
    have hfirst := (names_sameButFiles (performAll_sameButFiles [] linkedTree before)).2 hother
    exact hfirst.takesFile.not_link "f" rfl
  obtain ⟨mode, hfile⟩ := hwins.written linkedCalls_readsBack _ _ hlast
  have hlinked := (hwins.names "a" ["f"]).2 linkedTree_names.2
  have hopen : linkedTree.caller.mayOpen .read ["f"] (.file mode (Text.encode "one")) = true := by
    obtain ⟨_, _, hsame, hkept⟩ := hwins.permissions ["f"] 0o644 _ rfl
    rw [hfile] at hsame
    cases hsame
    exact (Caller.mayOpen_congr hkept _ []).trans (by decide)
  have hfill : (performAll [] linkedTree linkedCalls).mayFill ["f"] = true := by
    rw [performAll_mayFill rfl]
    decide
  have hback : (performAll [] linkedTree linkedCalls).mayReadBack ["f"] 0o644 = true := by
    rw [performAll_mayReadBack rfl]
    decide
  obtain ⟨read, htrip⟩ := hwins.succeeds "a" ["f"] [] {} hlinked hfill hback
  exact ⟨linkedCalls_readsBack, hlast, ⟨mode, hfile⟩, hnone, hwins.untouched linkedCalls_readsBack _ hnone, hlinked,
    hwins.read "a" ["f"] mode _ 2 hlinked hfile hopen, rfl, hwins.unchanged _ rfl, read, htrip,
    hwins.trip "a" ["f"] [] {} read hlinked htrip⟩

end BlockProbe.Probe
