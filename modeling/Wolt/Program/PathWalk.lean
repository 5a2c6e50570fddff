/-
# Paths with symbolic links

A file system by its physical locations, some of which are symbolic links, and two ways through it.
`walk` is how the system looks up a path: it follows a limited number of links, and stops where
something is missing. `realPath` is how a program computes the location of a path without relying on
its existence: what is missing is passed by name, and so is all that is left of the path when a link
turns up while it is being resolved.

Wherever the system gets, resolving gets too. Where no link turns up again, what is returned has no
links left in it, so that the system finds at this path what is stored at this location.
-/

import Mathlib.Data.List.DropRight
import Mathlib.Data.List.Infix
import Mathlib.Logic.Function.Basic
import Mathlib.Tactic.Common

namespace PathWalk

/-- A component of a path. -/
inductive Step (N : Type) where
  /-- `.`. -/
  | here
  /-- `..`. -/
  | up
  | down (name : N)
  deriving DecidableEq

/-- A path, as it is written. It has no empty components. -/
structure Route (N : Type) where
  absolute : Bool
  steps : List (Step N)
  deriving DecidableEq

/-- What is found at a location. -/
inductive Entry (N C : Type) where
  | absent
  /-- The system reports another error than a missing file. -/
  | refused
  | file (content : C)
  | directory
  | link (target : Route N)
  deriving DecidableEq

/-- Something is stored there. -/
def Entry.IsStored {N C : Type} : Entry N C → Prop
  | absent | refused => False
  | file _ | directory | link _ => True

/-- A file system. -/
structure FileSystem (N C : Type) where
  entry : List N → Entry N C
  /-- The names that system calls can represent. -/
  valid : N → Bool
  entry_root : entry [] = .directory
  /-- Only directories contain something. -/
  entry_parent : ∀ location name, (entry (location ++ [name])).IsStored →
    entry location = .directory
  entry_valid : ∀ location name, (entry (location ++ [name])).IsStored → valid name = true

variable {N C : Type}

/-- Where a path begins, for a process in a directory. -/
def Route.start (route : Route N) (directory : List N) : List N :=
  if route.absolute then [] else directory

/-- The path of a location. -/
def routeTo (location : List N) : Route N := ⟨true, location.map .down⟩

/-! ## Lookup -/

/-- Why the system does not find a path. -/
inductive LookupError
  | noEntry
  | notDirectory
  | loop
  | refused
  deriving DecidableEq

section Lookup

variable (fs : FileSystem N C)

/-- Looking up the components one by one, where `links` goes on after a link. -/
def walkWith (links : List N → List (Step N) → Except LookupError (List N)) :
    List N → List (Step N) → Except LookupError (List N)
  | location, [] => .ok location
  | location, .here :: steps => walkWith links location steps
  | location, .up :: steps => walkWith links location.dropLast steps
  | location, .down name :: steps =>
      match fs.entry (location ++ [name]) with
      | .directory => walkWith links (location ++ [name]) steps
      | .file _ => if steps.isEmpty then .ok (location ++ [name]) else .error .notDirectory
      | .link target => links (target.start location) (target.steps ++ steps)
      | .absent => .error .noEntry
      | .refused => .error .refused

/-- Looking up a path from a directory, through at most so many links. -/
def walk : ℕ → List N → List (Step N) → Except LookupError (List N)
  | 0 => walkWith fs fun _ _ => .error .loop
  | limit + 1 => walkWith fs (walk limit)

end Lookup

/-! ## Resolving -/

/-- Where the part of a path that is resolved begins. -/
inductive Anchor
  | root
  /-- So many `..` above the directory of the process. -/
  | above (levels : ℕ)
  deriving DecidableEq

/-- The resolved part of a path, as it is written. -/
structure Spot (N : Type) where
  anchor : Anchor
  names : List N
  deriving DecidableEq

namespace Spot

/-- The location that is meant, for a process in a directory. -/
def location (directory : List N) (spot : Spot N) : List N :=
  match spot.anchor with
  | .root => spot.names
  | .above levels => directory.rdrop levels ++ spot.names

/-- One component further. -/
def down (spot : Spot N) (name : N) : Spot N := { spot with names := spot.names ++ [name] }

/-- The end of the path is dropped; when nothing is left to drop, `..` is written. -/
def up (spot : Spot N) : Spot N :=
  if spot.names ≠ [] then { spot with names := spot.names.dropLast }
  else match spot.anchor with
    | .root => spot
    | .above levels => ⟨.above (levels + 1), []⟩

/-- Where a path goes on. -/
def start (spot : Spot N) (route : Route N) : Spot N :=
  if route.absolute then ⟨.root, []⟩ else spot

end Spot

/-- What a link stands for, once it has been seen: nothing as long as it is being resolved. -/
abbrev Seen (N : Type) : Type := Spot N → Option (Option (Spot N))

/-- The outcome of resolving a path. -/
inductive Joined (N : Type) where
  | resolved (spot : Spot N)
  /-- At a link that is being resolved already, with the rest of the path unchanged. -/
  | looping (spot : Spot N) (rest : List (Step N))
  deriving DecidableEq

/-- Why a path is not resolved. -/
inductive ResolveError
  /-- The links are nested too deeply. -/
  | recursion
  /-- A name that the system calls cannot represent. -/
  | invalidName
  deriving DecidableEq

/-- Where one component leads, by name only. -/
def Step.go (location : List N) : Step N → List N
  | .here => location
  | .up => location.dropLast
  | .down name => location ++ [name]

/-- The location of the outcome: what is not resolved is passed by name. -/
def Joined.location (directory : List N) : Joined N → List N
  | .resolved spot => spot.location directory
  | .looping spot rest => rest.foldl Step.go (spot.location directory)

section Resolve

variable [DecidableEq N] (fs : FileSystem N C) (directory : List N)

/-- Resolving the components one by one, where `links` resolves the target of a link. -/
def joinWith
    (links : Spot N → Route N → Seen N → Except ResolveError (Joined N × Seen N)) :
    Spot N → List (Step N) → Seen N → Except ResolveError (Joined N × Seen N)
  | spot, [], seen => .ok (.resolved spot, seen)
  | spot, .here :: rest, seen => joinWith links spot rest seen
  | spot, .up :: rest, seen => joinWith links spot.up rest seen
  | spot, .down name :: rest, seen =>
      if fs.valid name then
        match fs.entry ((spot.down name).location directory) with
        | .link target =>
            match seen (spot.down name) with
            | some (some spot) => joinWith links spot rest seen
            | some none => .ok (.looping (spot.down name) rest, seen)
            | none =>
                match links spot target (Function.update seen (spot.down name) (some none)) with
                | .ok (.resolved reached, seen) =>
                    joinWith links reached rest
                      (Function.update seen (spot.down name) (some (some reached)))
                | .ok (.looping reached unread, seen) =>
                    .ok (.looping reached (unread ++ rest), seen)
                | .error error => .error error
        | .directory | .file _ | .absent | .refused => joinWith links (spot.down name) rest seen
      else .error .invalidName

/-- Resolving a path, with so many links inside of each other. -/
def joinRealPath :
    ℕ → Spot N → Route N → Seen N → Except ResolveError (Joined N × Seen N)
  | 0 => fun spot route =>
      joinWith fs directory (fun _ _ _ => .error .recursion) (spot.start route) route.steps
  | depth + 1 => fun spot route =>
      joinWith fs directory (joinRealPath depth) (spot.start route) route.steps

/-- Resolving a path from the directory of the process. -/
def realPath (depth : ℕ) (route : Route N) : Except ResolveError (Joined N) :=
  (joinRealPath fs directory depth ⟨.above 0, []⟩ route fun _ => none).map Prod.fst

end Resolve

/-! ## Physical locations -/

/-- No link lies on the way to the location, or at it. -/
def IsPhysical (fs : FileSystem N C) (location : List N) : Prop :=
  ∀ before, before <+: location → ∀ target, fs.entry before ≠ .link target

section Physical

variable {fs : FileSystem N C} {location : List N} {name : N}

theorem isPhysical_nil : IsPhysical fs [] := by
  intro before hbefore target
  rw [List.prefix_nil.1 hbefore, fs.entry_root]
  exact fun h => (by cases h)

theorem IsPhysical.dropLast (h : IsPhysical fs location) : IsPhysical fs location.dropLast :=
  fun before hbefore => h before (hbefore.trans (List.dropLast_prefix location))

theorem IsPhysical.append (h : IsPhysical fs location)
    (hname : ∀ target, fs.entry (location ++ [name]) ≠ .link target) :
    IsPhysical fs (location ++ [name]) := by
  intro before hbefore
  rcases List.prefix_concat_iff.1 hbefore with rfl | hbefore
  · exact hname
  · exact h before hbefore

/-- What contains something is a directory, and so is what contains that. -/
theorem entry_of_prefix {before : List N} (hbefore : before <+: location)
    (hstored : (fs.entry location).IsStored) :
    before = location ∨ fs.entry before = .directory := by
  induction location using List.reverseRecOn with
  | nil => exact .inl (List.prefix_nil.1 hbefore)
  | append_singleton location name ih =>
      have hparent := fs.entry_parent location name hstored
      rcases List.prefix_concat_iff.1 hbefore with rfl | hbefore
      · exact .inl rfl
      · rcases ih hbefore (by rw [hparent]; trivial) with rfl | hdirectory
        · exact .inr hparent
        · exact .inr hdirectory

/-- A location where something is stored is physical as soon as it is not a link itself. -/
theorem isPhysical_of_isStored (hstored : (fs.entry location).IsStored)
    (hlink : ∀ target, fs.entry location ≠ .link target) : IsPhysical fs location := by
  intro before hbefore target
  rcases entry_of_prefix hbefore hstored with rfl | hdirectory
  · exact hlink target
  · rw [hdirectory]
    exact fun h => (by cases h)

/-! ### Spots -/

theorem Spot.location_down (directory : List N) (spot : Spot N) (name : N) :
    (spot.down name).location directory = spot.location directory ++ [name] := by
  obtain ⟨anchor, names⟩ := spot
  cases anchor <;> simp [Spot.location, Spot.down]

theorem Spot.location_up (directory : List N) (spot : Spot N) :
    spot.up.location directory = (spot.location directory).dropLast := by
  obtain ⟨anchor, names⟩ := spot
  by_cases hnames : names = []
  · subst hnames
    cases anchor with
    | root => rfl
    | above levels =>
        have hle : directory.length - (levels + 1) ≤ directory.length - levels :=
          Nat.sub_le_sub_left (Nat.le_succ levels) _
        simp [Spot.location, Spot.up, List.rdrop, List.dropLast_eq_take, List.take_take,
          Nat.sub_sub, Nat.min_eq_left hle]
  · cases anchor with
    | root => simp [Spot.location, Spot.up, hnames]
    | above levels => simp [Spot.location, Spot.up, hnames, List.dropLast_append_of_ne_nil]

theorem Spot.location_start (directory : List N) (spot : Spot N) (route : Route N) :
    (spot.start route).location directory = route.start (spot.location directory) := by
  unfold Spot.start Route.start
  split <;> rfl

theorem Spot.location_here (directory : List N) :
    (⟨.above 0, []⟩ : Spot N).location directory = directory := by
  simp [Spot.location]

/-! ### Resolving -/

/-- No link on the way, and every name can be passed to the system. -/
structure IsClear (fs : FileSystem N C) (location : List N) : Prop where
  isPhysical : IsPhysical fs location
  valid : ∀ name ∈ location, fs.valid name = true

theorem isClear_nil : IsClear fs [] := ⟨isPhysical_nil, fun _ hmem => (by cases hmem)⟩

theorem IsClear.dropLast (h : IsClear fs location) : IsClear fs location.dropLast :=
  ⟨h.isPhysical.dropLast, fun name hname => h.valid name (List.mem_of_mem_dropLast hname)⟩

theorem IsClear.append (h : IsClear fs location)
    (hname : ∀ target, fs.entry (location ++ [name]) ≠ .link target)
    (hvalid : fs.valid name = true) : IsClear fs (location ++ [name]) := by
  refine ⟨h.isPhysical.append hname, fun other hother => ?_⟩
  rcases List.mem_append.1 hother with hmem | hmem
  · exact h.valid other hmem
  · rw [List.mem_singleton.1 hmem]
    exact hvalid

theorem IsClear.start (h : IsClear fs location) (route : Route N) :
    IsClear fs (route.start location) := by
  unfold Route.start
  split
  · exact isClear_nil
  · exact h

/-- Where something is stored that is not a link, the way is clear. -/
theorem isClear_of_isStored (hstored : (fs.entry location).IsStored)
    (hlink : ∀ target, fs.entry location ≠ .link target) : IsClear fs location := by
  refine ⟨isPhysical_of_isStored hstored hlink, ?_⟩
  clear hlink
  induction location using List.reverseRecOn with
  | nil => exact fun _ hmem => (by cases hmem)
  | append_singleton location name ih =>
      have hparent := fs.entry_parent location name hstored
      intro other hother
      rcases List.mem_append.1 hother with hmem | hmem
      · exact ih (by rw [hparent]; trivial) other hmem
      · rw [List.mem_singleton.1 hmem]
        exact fs.entry_valid location name hstored

section Outcomes

variable [DecidableEq N] {directory : List N}

/-- What has been resolved is clear. -/
def SeesClear (fs : FileSystem N C) (directory : List N) (seen : Seen N) : Prop :=
  ∀ spot found, seen spot = some (some found) → IsClear fs (found.location directory)

theorem SeesClear.update {seen : Seen N} (h : SeesClear fs directory seen) (spot : Spot N)
    (entry : Option (Spot N))
    (hentry : ∀ found, entry = some found → IsClear fs (found.location directory)) :
    SeesClear fs directory (Function.update seen spot (some entry)) := by
  intro other found hfound
  by_cases hother : other = spot
  · subst hother
    rw [Function.update_self] at hfound
    exact hentry found (Option.some.inj hfound)
  · rw [Function.update_of_ne hother] at hfound
    exact h other found hfound

/-- From a clear spot, such a call ends at one. -/
def EndsClear (fs : FileSystem N C) (directory : List N)
    (outcome : Except ResolveError (Joined N × Seen N)) : Prop :=
  ∀ found seen, outcome = .ok (.resolved found, seen) →
    IsClear fs (found.location directory) ∧ SeesClear fs directory seen

theorem endsClear_joinWith
    {links : Spot N → Route N → Seen N → Except ResolveError (Joined N × Seen N)}
    (hlinks : ∀ spot route seen, IsClear fs (spot.location directory) →
      SeesClear fs directory seen → EndsClear fs directory (links spot route seen))
    {steps : List (Step N)} {spot : Spot N} {seen : Seen N}
    (h : IsClear fs (spot.location directory)) (hseen : SeesClear fs directory seen) :
    EndsClear fs directory (joinWith fs directory links spot steps seen) := by
  induction steps generalizing spot seen with
  | nil =>
      intro found seen' houtcome
      obtain ⟨hfound, rfl⟩ := Prod.mk.inj (Except.ok.inj houtcome)
      obtain rfl := Joined.resolved.inj hfound
      exact ⟨h, hseen⟩
  | cons step steps ih =>
      cases step with
      | here => exact ih h hseen
      | up => exact ih (by rw [Spot.location_up]; exact h.dropLast) hseen
      | down name =>
          rw [joinWith]
          split
          case isFalse => exact fun _ _ houtcome => (by cases houtcome)
          case isTrue hvalid =>
            have hlocation := Spot.location_down directory spot name
            cases hentry : fs.entry ((spot.down name).location directory) with
            | link target =>
                cases hspot : seen (spot.down name) with
                | some found =>
                    cases found with
                    | some found => exact ih (hseen _ _ hspot) hseen
                    | none => exact fun _ _ houtcome => (by cases houtcome)
                | none =>
                    have hnext := hlinks spot target _ h
                      (hseen.update (spot.down name) none fun _ hnone => (by cases hnone))
                    dsimp only
                    cases houtcome : links spot target
                      (Function.update seen (spot.down name) (some none)) with
                    | error error => exact fun _ _ hfailed => (by cases hfailed)
                    | ok outcome =>
                        obtain ⟨joined, seen'⟩ := outcome
                        cases joined with
                        | looping spot' rest => exact fun _ _ hlooping => (by cases hlooping)
                        | resolved found =>
                            obtain ⟨hfound, hseen'⟩ := hnext _ _ houtcome
                            refine ih hfound (hseen'.update _ _ fun other hother => ?_)
                            rwa [← Option.some.inj hother]
            | _ =>
                refine ih ?_ hseen
                rw [hlocation] at hentry ⊢
                refine h.append (fun target => ?_) hvalid
                rw [hentry]
                exact fun h => (by cases h)

theorem endsClear_joinRealPath (depth : ℕ) {spot : Spot N} {route : Route N} {seen : Seen N}
    (h : IsClear fs (spot.location directory)) (hseen : SeesClear fs directory seen) :
    EndsClear fs directory (joinRealPath fs directory depth spot route seen) := by
  induction depth generalizing spot route seen with
  | zero =>
      refine endsClear_joinWith (fun _ _ _ _ _ _ _ houtcome => (by cases houtcome)) ?_ hseen
      rw [Spot.location_start]
      exact h.start route
  | succ depth ih =>
      refine endsClear_joinWith (fun _ _ _ hspot hseen => ih hspot hseen) ?_ hseen
      rw [Spot.location_start]
      exact h.start route

/-- **What is resolved has no links left.** -/
theorem isClear_of_realPath {depth : ℕ} {route : Route N} {found : Spot N}
    (h : IsClear fs directory) (hfound : realPath fs directory depth route = .ok (.resolved found)) :
    IsClear fs (found.location directory) := by
  unfold realPath at hfound
  cases houtcome : joinRealPath fs directory depth ⟨.above 0, []⟩ route fun _ => none with
  | error error =>
      rw [houtcome] at hfound
      cases hfound
  | ok outcome =>
      rw [houtcome] at hfound
      obtain ⟨joined, seen⟩ := outcome
      obtain rfl : joined = .resolved found := Except.ok.inj hfound
      refine (endsClear_joinRealPath depth ?_ ?_ _ _ houtcome).1
      · rw [Spot.location_here]
        exact h
      · exact fun _ _ hnone => (by cases hnone)

end Outcomes

/-! ### Following the system -/

/-- A step that needs no link. -/
inductive Passes (fs : FileSystem N C) (location : List N) : Step N → List N → Prop
  | here : Passes fs location .here location
  | up : Passes fs location .up location.dropLast
  | directory {name : N} : fs.entry (location ++ [name]) = .directory →
      Passes fs location (.down name) (location ++ [name])

/-- The system finds this location, through exactly so many links. -/
inductive Walks (fs : FileSystem N C) : ℕ → List N → List (Step N) → List N → Prop
  | done {location : List N} : Walks fs 0 location [] location
  | pass {n : ℕ} {location next found : List N} {step : Step N} {steps : List (Step N)} :
      Passes fs location step next → Walks fs n next steps found →
      Walks fs n location (step :: steps) found
  | file {location : List N} {name : N} {content : C} :
      fs.entry (location ++ [name]) = .file content →
      Walks fs 0 location [.down name] (location ++ [name])
  | link {n : ℕ} {location found : List N} {name : N} {target : Route N} {steps : List (Step N)} :
      fs.entry (location ++ [name]) = .link target →
      Walks fs n (target.start location) (target.steps ++ steps) found →
      Walks fs (n + 1) location (.down name :: steps) found

section Walking

variable {n n' : ℕ} {found found' : List N} {steps : List (Step N)}

theorem walks_of_walkWith {limit : ℕ}
    {links : List N → List (Step N) → Except LookupError (List N)}
    (hlinks : ∀ location steps found, links location steps = .ok found →
      ∃ n, n + 1 ≤ limit ∧ Walks fs n location steps found)
    (hwalk : walkWith fs links location steps = .ok found) :
    ∃ n ≤ limit, Walks fs n location steps found := by
  induction steps generalizing location with
  | nil =>
      obtain rfl := Except.ok.inj hwalk
      exact ⟨0, Nat.zero_le _, .done⟩
  | cons step steps ih =>
      cases step with
      | here =>
          obtain ⟨n, hle, hwalks⟩ := ih hwalk
          exact ⟨n, hle, .pass .here hwalks⟩
      | up =>
          obtain ⟨n, hle, hwalks⟩ := ih hwalk
          exact ⟨n, hle, .pass .up hwalks⟩
      | down name =>
          rw [walkWith] at hwalk
          cases hentry : fs.entry (location ++ [name]) with
          | absent =>
              rw [hentry] at hwalk
              cases hwalk
          | refused =>
              rw [hentry] at hwalk
              cases hwalk
          | directory =>
              rw [hentry] at hwalk
              obtain ⟨n, hle, hwalks⟩ := ih hwalk
              exact ⟨n, hle, .pass (.directory hentry) hwalks⟩
          | link target =>
              rw [hentry] at hwalk
              obtain ⟨n, hle, hwalks⟩ := hlinks _ _ _ hwalk
              exact ⟨n + 1, hle, .link hentry hwalks⟩
          | file content =>
              rw [hentry] at hwalk
              cases steps with
              | nil =>
                  obtain rfl := Except.ok.inj hwalk
                  exact ⟨0, Nat.zero_le _, .file hentry⟩
              | cons step steps => cases hwalk

theorem walks_of_walk {limit : ℕ} (hwalk : walk fs limit location steps = .ok found) :
    ∃ n ≤ limit, Walks fs n location steps found := by
  induction limit generalizing location steps found with
  | zero => exact walks_of_walkWith (fun _ _ _ hok => (by cases hok)) hwalk
  | succ limit ih =>
      refine walks_of_walkWith (fun _ _ _ hok => ?_) hwalk
      obtain ⟨n, hle, hwalks⟩ := ih hok
      exact ⟨n, Nat.succ_le_succ hle, hwalks⟩

theorem Passes.unique {step : Step N} {next next' : List N} (h : Passes fs location step next)
    (h' : Passes fs location step next') : next = next' := by
  cases h <;> cases h' <;> rfl

theorem Passes.entry {next : List N} (h : Passes fs location (.down name) next) :
    fs.entry (location ++ [name]) = .directory := by
  cases h with
  | directory hentry => exact hentry

/-- There is one way, and it has one end. -/
theorem Walks.unique (h : Walks fs n location steps found)
    (h' : Walks fs n' location steps found') : n = n' ∧ found = found' := by
  induction h generalizing n' found' with
  | done =>
      cases h'
      exact ⟨rfl, rfl⟩
  | pass hpasses _ ih =>
      cases h' with
      | pass hpasses' h' =>
          obtain rfl := hpasses.unique hpasses'
          exact ih h'
      | file hentry => cases hpasses.entry.symm.trans hentry
      | link hentry _ => cases hpasses.entry.symm.trans hentry
  | file hentry =>
      cases h' with
      | pass hpasses _ => cases hpasses.entry.symm.trans hentry
      | file _ => exact ⟨rfl, rfl⟩
      | link hentry' _ => cases hentry.symm.trans hentry'
  | link hentry _ ih =>
      cases h' with
      | pass hpasses _ => cases hpasses.entry.symm.trans hentry
      | file hentry' => cases hentry.symm.trans hentry'
      | link hentry' h' =>
          cases hentry.symm.trans hentry'
          obtain ⟨hn, hfound⟩ := ih h'
          exact ⟨congrArg (· + 1) hn, hfound⟩

/-- Between two parts of a path there is a place. -/
theorem Walks.split {first second : List (Step N)}
    (h : Walks fs n location (first ++ second) found) :
    ∃ m m' middle, n = m + m' ∧ Walks fs m location first middle ∧
      Walks fs m' middle second found := by
  generalize hsteps : first ++ second = steps at h
  induction h generalizing first with
  | done =>
      obtain ⟨rfl, rfl⟩ := List.append_eq_nil_iff.1 hsteps
      exact ⟨0, 0, _, rfl, .done, .done⟩
  | @pass n location next found step steps hpasses h ih =>
      cases first with
      | nil =>
          obtain rfl := hsteps
          exact ⟨0, n, location, (Nat.zero_add n).symm, .done, .pass hpasses h⟩
      | cons step' first =>
          obtain ⟨rfl, htail⟩ := List.cons.inj hsteps
          obtain ⟨m, m', middle, hn, hfirst, hsecond⟩ := ih htail
          exact ⟨m, m', middle, hn, .pass hpasses hfirst, hsecond⟩
  | @file location name content hentry =>
      cases first with
      | nil =>
          obtain rfl := hsteps
          exact ⟨0, 0, location, rfl, .done, .file hentry⟩
      | cons step' first =>
          obtain ⟨rfl, htail⟩ := List.cons.inj hsteps
          obtain ⟨rfl, rfl⟩ := List.append_eq_nil_iff.1 htail
          exact ⟨0, 0, location ++ [name], rfl, .file hentry, .done⟩
  | @link n location found name target steps hentry h ih =>
      cases first with
      | nil =>
          obtain rfl := hsteps
          exact ⟨0, n + 1, location, (Nat.zero_add _).symm, .done, .link hentry h⟩
      | cons step' first =>
          obtain ⟨rfl, rfl⟩ := List.cons.inj hsteps
          obtain ⟨m, m', middle, rfl, hfirst, hsecond⟩ :=
            ih (List.append_assoc target.steps first second)
          exact ⟨m + 1, m', middle, Nat.add_right_comm m m' 1, .link hentry hfirst, hsecond⟩

end Walking

/-! ### Resolving what the system finds -/

section Complete

variable [DecidableEq N] {directory : List N} {n : ℕ} {found : List N} {steps : List (Step N)}
  {seen : Seen N} {spot : Spot N}

/-- The system gets from the link to this location, through so many more links. -/
def Leads (fs : FileSystem N C) (n : ℕ) (spot : List N) (found : List N) : Prop :=
  ∃ location name target, spot = location ++ [name] ∧ fs.entry spot = .link target ∧
    Walks fs n (target.start location) target.steps found

omit [DecidableEq N] in
theorem Leads.unique {link found' : List N} {n' : ℕ} (h : Leads fs n link found)
    (h' : Leads fs n' link found') : n = n' ∧ found = found' := by
  obtain ⟨location, name, target, rfl, hentry, hwalks⟩ := h
  obtain ⟨location', name', target', hlink, hentry', hwalks'⟩ := h'
  obtain ⟨rfl, _⟩ := List.append_inj' hlink rfl
  cases hentry.symm.trans hentry'
  exact hwalks.unique hwalks'

/-- What has been resolved is where the system gets, and what is being resolved needs at least as
many links as are left. -/
structure SeesRight (fs : FileSystem N C) (directory : List N) (n : ℕ) (seen : Seen N) : Prop where
  resolved : ∀ spot reached m found, seen spot = some (some reached) →
    Leads fs m (spot.location directory) found → reached.location directory = found
  pending : ∀ spot m found, seen spot = some none → Leads fs m (spot.location directory) found →
    n ≤ m

/-- The call resolves to this location, and leaves nothing new unresolved. -/
def Gives (fs : FileSystem N C) (directory : List N) (n : ℕ) (seen : Seen N) (found : List N)
    (outcome : Except ResolveError (Joined N × Seen N)) : Prop :=
  ∃ reached seen', outcome = .ok (.resolved reached, seen') ∧ reached.location directory = found ∧
    SeesRight fs directory n seen' ∧ ∀ spot, seen' spot = some none → seen spot = some none

omit [DecidableEq N] in
theorem SeesRight.mono {m : ℕ} (h : SeesRight fs directory n seen) (hle : m ≤ n) :
    SeesRight fs directory m seen :=
  ⟨h.resolved, fun spot k found hspot hleads => hle.trans (h.pending spot k found hspot hleads)⟩

/-- A link whose resolution begins. -/
theorem SeesRight.begin {m : ℕ} (h : SeesRight fs directory n seen) (hle : m ≤ n)
    (hleads : Leads fs m (spot.location directory) found) :
    SeesRight fs directory m (Function.update seen spot (some none)) := by
  refine ⟨fun other reached k found' hother hleads' => ?_, fun other k found' hother hleads' => ?_⟩
  · by_cases heq : other = spot
    · rw [heq, Function.update_self] at hother
      cases hother
    · rw [Function.update_of_ne heq] at hother
      exact h.resolved other reached k found' hother hleads'
  · by_cases heq : other = spot
    · rw [heq] at hleads'
      exact (hleads.unique hleads').1.le
    · rw [Function.update_of_ne heq] at hother
      exact hle.trans (h.pending other k found' hother hleads')

/-- What is unresolved after a link was unresolved before it. -/
theorem pending_of_finish {seen' : Seen N} {reached other : Spot N}
    (hkept : ∀ other, seen' other = some none →
      Function.update seen spot (some none) other = some none)
    (hother : Function.update seen' spot (some (some reached)) other = some none) :
    seen other = some none := by
  by_cases heq : other = spot
  · rw [heq, Function.update_self] at hother
    cases hother
  · rw [Function.update_of_ne heq] at hother
    have hpending := hkept other hother
    rwa [Function.update_of_ne heq] at hpending

/-- A link whose resolution has ended. -/
theorem SeesRight.finish {m k : ℕ} {seen' : Seen N} {reached : Spot N}
    (h : SeesRight fs directory n seen) (h' : SeesRight fs directory m seen') (hle : k ≤ n)
    (hkept : ∀ other, seen' other = some none →
      Function.update seen spot (some none) other = some none)
    (hleads : Leads fs m (spot.location directory) (reached.location directory)) :
    SeesRight fs directory k (Function.update seen' spot (some (some reached))) := by
  refine ⟨fun other found k found' hother hleads' => ?_, fun other k found' hother hleads' => ?_⟩
  · by_cases heq : other = spot
    · rw [heq, Function.update_self] at hother
      obtain rfl := Option.some.inj (Option.some.inj hother)
      rw [heq] at hleads'
      exact (hleads.unique hleads').2
    · rw [Function.update_of_ne heq] at hother
      exact h'.resolved other found k found' hother hleads'
  · exact hle.trans (h.pending other k found' (pending_of_finish hkept hother) hleads')

omit [DecidableEq N] in
/-- Nothing has become unresolved since then. -/
theorem Gives.since {m : ℕ} {seen' : Seen N} {outcome : Except ResolveError (Joined N × Seen N)}
    (h : Gives fs directory m seen' found outcome) (hseen : SeesRight fs directory n seen)
    (hkept : ∀ other, seen' other = some none → seen other = some none) :
    Gives fs directory n seen found outcome := by
  obtain ⟨reached, seen'', houtcome, hend, hright, hkept'⟩ := h
  exact ⟨reached, seen'', houtcome, hend,
    ⟨hright.resolved, fun other k found' hother =>
      hseen.pending other k found' (hkept other (hkept' other hother))⟩,
    fun other hother => hkept other (hkept' other hother)⟩

/-- By induction on the path: a link is resolved by `links`, unless it has been before. -/
theorem gives_joinWith {depth : ℕ}
    {links : Spot N → Route N → Seen N → Except ResolveError (Joined N × Seen N)}
    (hlinks : ∀ m spot target seen found, m + 1 ≤ depth → SeesRight fs directory m seen →
      Walks fs m (target.start (spot.location directory)) target.steps found →
      Gives fs directory m seen found (links spot target seen))
    (hwalks : Walks fs n (spot.location directory) steps found) (hle : n ≤ depth)
    (hseen : SeesRight fs directory n seen) :
    Gives fs directory n seen found (joinWith fs directory links spot steps seen) := by
  induction steps generalizing n spot seen with
  | nil =>
      cases hwalks
      exact ⟨spot, seen, rfl, rfl, hseen, fun _ => id⟩
  | cons step rest ih =>
      cases step with
      | here =>
          cases hwalks with
          | pass hpasses hwalks =>
              cases hpasses
              exact ih hwalks hle hseen
      | up =>
          cases hwalks with
          | pass hpasses hwalks =>
              cases hpasses
              exact ih (by rw [Spot.location_up]; exact hwalks) hle hseen
      | down name =>
          have hlocation := Spot.location_down directory spot name
          have hvalid := fs.entry_valid (spot.location directory) name
          rw [joinWith, hlocation]
          cases hwalks with
          | pass hpasses hwalks =>
              have hentry := hpasses.entry
              cases hpasses
              rw [hentry] at hvalid ⊢
              rw [if_pos (hvalid trivial)]
              exact ih (by rw [hlocation]; exact hwalks) hle hseen
          | file hentry =>
              rw [hentry] at hvalid ⊢
              rw [if_pos (hvalid trivial)]
              exact ⟨spot.down name, seen, rfl, hlocation, hseen, fun _ => id⟩
          | @link k _ _ _ target _ hentry hwalks =>
              rw [hentry] at hvalid ⊢
              rw [if_pos (hvalid trivial)]
              obtain ⟨m, m', middle, rfl, hfirst, hsecond⟩ := hwalks.split
              have hleads : Leads fs m ((spot.down name).location directory) middle :=
                ⟨_, name, target, hlocation, by rw [hlocation]; exact hentry, hfirst⟩
              cases hspot : seen (spot.down name) with
              | some found' =>
                  cases found' with
                  | some reached =>
                      have hend := hseen.resolved _ _ _ _ hspot hleads
                      exact (ih (by rw [hend]; exact hsecond) (by omega)
                        (hseen.mono (by omega))).since hseen fun _ => id
                  | none =>
                      have hpending := hseen.pending _ _ _ hspot hleads
                      omega
              | none =>
                  obtain ⟨reached, seen', houtcome, rfl, hright, hkept⟩ := hlinks m spot target _ middle
                    (by omega) (hseen.begin (by omega) hleads) hfirst
                  dsimp only
                  rw [houtcome]
                  exact (ih hsecond (by omega)
                    (hseen.finish hright (by omega) hkept hleads)).since hseen fun _ =>
                      pending_of_finish hkept

theorem gives_joinRealPath {depth : ℕ} {route : Route N}
    (hwalks : Walks fs n (route.start (spot.location directory)) route.steps found)
    (hle : n ≤ depth) (hseen : SeesRight fs directory n seen) :
    Gives fs directory n seen found (joinRealPath fs directory depth spot route seen) := by
  rw [← Spot.location_start] at hwalks
  induction depth generalizing n spot route found seen with
  | zero => exact gives_joinWith (fun m _ _ _ _ hm => by omega) hwalks hle hseen
  | succ depth ih =>
      refine gives_joinWith (fun m spot target seen found hm hseen hwalks => ?_) hwalks hle hseen
      exact ih (by rw [Spot.location_start]; exact hwalks) (by omega) hseen

/-- **Resolving follows the system.** Wherever the system finds something, resolving the path gives
its location. -/
theorem realPath_of_walk {limit depth : ℕ} {route : Route N} (hle : limit ≤ depth)
    (hwalk : walk fs limit (route.start directory) route.steps = .ok found) :
    ∃ reached, realPath fs directory depth route = .ok (.resolved reached) ∧
      reached.location directory = found := by
  obtain ⟨n, hn, hwalks⟩ := walks_of_walk hwalk
  rw [← Spot.location_here directory] at hwalks
  have hseen : SeesRight fs directory n fun _ => none :=
    ⟨fun _ _ _ _ h => (by cases h), fun _ _ _ h => (by cases h)⟩
  obtain ⟨reached, seen, houtcome, hend, -⟩ := gives_joinRealPath hwalks (hn.trans hle) hseen
  exact ⟨reached, by rw [realPath, houtcome]; rfl, hend⟩

end Complete

/-! ### Looking up a physical path -/

theorem eq_of_walkWith {links : List N → List (Step N) → Except LookupError (List N)}
    {rest found : List N} (h : IsPhysical fs (location ++ rest))
    (hwalk : walkWith fs links location (rest.map .down) = .ok found) :
    found = location ++ rest := by
  induction rest generalizing location with
  | nil => simpa [walkWith, eq_comm] using hwalk
  | cons name rest ih =>
      rw [List.append_cons] at h ⊢
      have hlink := h (location ++ [name]) (List.prefix_append _ _)
      rw [List.map_cons, walkWith] at hwalk
      cases hentry : fs.entry (location ++ [name]) with
      | absent =>
          rw [hentry] at hwalk
          cases hwalk
      | refused =>
          rw [hentry] at hwalk
          cases hwalk
      | directory =>
          rw [hentry] at hwalk
          exact ih h hwalk
      | link target => exact absurd hentry (hlink target)
      | file content =>
          rw [hentry] at hwalk
          cases rest with
          | nil => simpa [eq_comm] using hwalk
          | cons name rest => cases hwalk

/-- **A resolved path is where it says.** What the system finds at the path that resolving has
returned is what is stored at this location. -/
theorem eq_of_walk_routeTo {limit : ℕ} {found : List N} (h : IsPhysical fs location)
    (hwalk : walk fs limit [] (location.map .down) = .ok found) : found = location := by
  cases limit with
  | zero => exact eq_of_walkWith h hwalk
  | succ limit => exact eq_of_walkWith h hwalk

/-- No links, no loop of links. -/
theorem walkWith_ne_loop {links : List N → List (Step N) → Except LookupError (List N)}
    {rest : List N} (h : IsPhysical fs (location ++ rest)) :
    walkWith fs links location (rest.map .down) ≠ .error .loop := by
  induction rest generalizing location with
  | nil => exact fun hloop => (by cases hloop)
  | cons name rest ih =>
      rw [List.append_cons] at h
      have hlink := h (location ++ [name]) (List.prefix_append _ _)
      rw [List.map_cons, walkWith]
      cases hentry : fs.entry (location ++ [name]) with
      | absent => exact fun hloop => (by cases hloop)
      | refused => exact fun hloop => (by cases hloop)
      | directory => exact ih h
      | link target => exact absurd hentry (hlink target)
      | file content =>
          dsimp only
          split <;> exact fun hloop => (by cases hloop)

theorem walk_routeTo_ne_loop {limit : ℕ} (h : IsPhysical fs location) :
    walk fs limit [] (location.map .down) ≠ .error .loop := by
  cases limit with
  | zero => exact walkWith_ne_loop h
  | succ limit => exact walkWith_ne_loop h

theorem walkWith_of_isStored {links : List N → List (Step N) → Except LookupError (List N)}
    {rest : List N} (hstored : (fs.entry (location ++ rest)).IsStored)
    (hlink : ∀ target, fs.entry (location ++ rest) ≠ .link target) :
    walkWith fs links location (rest.map .down) = .ok (location ++ rest) := by
  induction rest generalizing location with
  | nil => simp [walkWith]
  | cons name rest ih =>
      rw [List.append_cons] at hstored hlink ⊢
      rw [List.map_cons, walkWith]
      rcases entry_of_prefix (List.prefix_append (location ++ [name]) rest) hstored with
        hlast | hdirectory
      · obtain rfl : rest = [] := List.self_eq_append_right.1 hlast
        rw [List.append_nil] at hstored hlink ⊢
        cases hentry : fs.entry (location ++ [name]) with
        | absent =>
            rw [hentry] at hstored
            exact absurd hstored id
        | refused =>
            rw [hentry] at hstored
            exact absurd hstored id
        | link target => exact absurd hentry (hlink target)
        | directory => rfl
        | file content => rfl
      · rw [hdirectory]
        exact ih hstored hlink

/-- What is stored at a location is found there. -/
theorem walk_routeTo (limit : ℕ) (hstored : (fs.entry location).IsStored)
    (hlink : ∀ target, fs.entry location ≠ .link target) :
    walk fs limit [] (location.map .down) = .ok location := by
  cases limit with
  | zero => exact walkWith_of_isStored hstored hlink
  | succ limit => exact walkWith_of_isStored hstored hlink

theorem walkWith_append {links : List N → List (Step N) → Except LookupError (List N)}
    {rest middle : List N} (hstored : (fs.entry (middle ++ rest)).IsStored)
    (hlink : ∀ target, fs.entry (middle ++ rest) ≠ .link target)
    (hlinks : ∀ location steps, links location steps = .ok middle →
      links location (steps ++ rest.map .down) = .ok (middle ++ rest))
    {steps : List (Step N)} (hwalk : walkWith fs links location steps = .ok middle) :
    walkWith fs links location (steps ++ rest.map .down) = .ok (middle ++ rest) := by
  induction steps generalizing location with
  | nil =>
      obtain rfl := Except.ok.inj hwalk
      exact walkWith_of_isStored hstored hlink
  | cons step steps ih =>
      cases step with
      | here => exact ih hwalk
      | up => exact ih hwalk
      | down name =>
          rw [walkWith] at hwalk
          rw [List.cons_append, walkWith]
          cases hentry : fs.entry (location ++ [name]) with
          | absent =>
              rw [hentry] at hwalk
              cases hwalk
          | refused =>
              rw [hentry] at hwalk
              cases hwalk
          | directory =>
              rw [hentry] at hwalk
              exact ih hwalk
          | link target =>
              rw [hentry] at hwalk
              dsimp only at hwalk ⊢
              rw [← List.append_assoc]
              exact hlinks _ _ hwalk
          | file content =>
              rw [hentry] at hwalk
              cases steps with
              | cons step steps => cases hwalk
              | nil =>
                  -- nothing is stored below a file
                  obtain rfl : location ++ [name] = middle := Except.ok.inj hwalk
                  rcases entry_of_prefix (List.prefix_append (location ++ [name]) rest) hstored
                    with hlast | hdirectory
                  · obtain rfl : rest = [] := List.self_eq_append_right.1 hlast
                    simp
                  · rw [hentry] at hdirectory
                    cases hdirectory

/-- Below what is found at a path, what is stored is found. -/
theorem walk_append {limit : ℕ} {steps : List (Step N)} {rest middle : List N}
    (hwalk : walk fs limit location steps = .ok middle)
    (hstored : (fs.entry (middle ++ rest)).IsStored)
    (hlink : ∀ target, fs.entry (middle ++ rest) ≠ .link target) :
    walk fs limit location (steps ++ rest.map .down) = .ok (middle ++ rest) := by
  induction limit generalizing location steps with
  | zero => exact walkWith_append hstored hlink (fun _ _ hok => (by cases hok)) hwalk
  | succ limit ih => exact walkWith_append hstored hlink (fun _ _ => ih) hwalk

end Physical

/-! ## File systems by their entries -/

section Listed

variable [DecidableEq N] (entries : List (List N × Entry N C))

/-- What is listed at a location, below a root that is a directory. -/
def listedEntry (location : List N) : Entry N C :=
  if location = [] then .directory
  else ((entries.find? fun entry => entry.1 = location).map Prod.snd).getD .absent

/-- Each listed entry has valid names, and stands in a listed directory. -/
def IsListing [DecidableEq C] (valid : N → Bool) : Prop :=
  ∀ entry ∈ entries, listedEntry entries entry.1.dropLast = .directory ∧
    ∀ name ∈ entry.1, valid name = true

instance [DecidableEq C] (valid : N → Bool) : Decidable (IsListing entries valid) :=
  inferInstanceAs (Decidable (∀ _ ∈ _, _))

variable {entries}

theorem exists_mem_of_isStored {location : List N} (hne : location ≠ [])
    (hstored : (listedEntry entries location).IsStored) :
    ∃ entry ∈ entries, entry.1 = location := by
  rw [listedEntry, if_neg hne] at hstored
  cases hfound : entries.find? fun entry => entry.1 = location with
  | none =>
      rw [hfound] at hstored
      exact absurd hstored id
  | some entry =>
      exact ⟨entry, List.mem_of_find?_eq_some hfound, by simpa using List.find?_some hfound⟩

/-- The file system with these entries. -/
def FileSystem.ofEntries [DecidableEq C] {valid : N → Bool} (h : IsListing entries valid) :
    FileSystem N C where
  entry := listedEntry entries
  valid := valid
  entry_root := if_pos rfl
  entry_parent location name hstored := by
    obtain ⟨entry, hentry, hlocation⟩ := exists_mem_of_isStored (by simp) hstored
    have hparent := (h entry hentry).1
    rwa [hlocation, List.dropLast_concat] at hparent
  entry_valid location name hstored := by
    obtain ⟨entry, hentry, hlocation⟩ := exists_mem_of_isStored (by simp) hstored
    exact (h entry hentry).2 name (by simp [hlocation])

end Listed

end PathWalk
